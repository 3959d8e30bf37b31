import RemoteFiles.Disk.Basic

/-!
# What can go wrong with a request or a response

`Error` lists the causes, and `Error.message` holds the words for each. `isProtocol` tells the
errors that malformed or truncated data of the other side brings about from those that lie with the
caller or the disk.
-/

namespace RemoteFiles

/-- Why a request cannot be built or sent, or a response not be used. -/
inductive Error where
  /-- A field is too long for its length prefix. -/
  | noRoom
  /-- The input ends before the value does. -/
  | ranOut
  /-- Bytes that should be text are not. -/
  | badString
  | wrongPacketLength
  | bigPacket (size : UInt64)
  | unknownAction (number : UInt8)
  | unknownCommand (name : String)
  | multipleActions
  | noAction
  /-- A command lacks something that it needs. -/
  | missingField (command needs : String)
  | badPermission (name : String)
  | notDirectory (path : Path)
  | fileExists (path : Path)
  | noFileName (path : String)
  /-- The library is used in a way that it does not provide for. -/
  | badUsage (text : String)
  | disk (fault : Disk.Fault)
  /-- A state that earlier checks rule out. -/
  | bug
  deriving DecidableEq, Repr

namespace Error

/-- A command name in the spelling of its flag. -/
def flagSpelling (command : String) : String :=
  String.ofList (command.toList.map fun c => if c = '_' then '-' else c)

/-- The words for an error. -/
def message : Error → String
  | noRoom => "A field is too long to be framed"
  | ranOut => "Input buffer ran out"
  | badString => "Not a UTF-8 string"
  | wrongPacketLength => "Response contents don't match the advertised length"
  | bigPacket size => "Payload size " ++ size.toNat.repr ++ " too large"
  | unknownAction number => "Unknown action code " ++ number.toNat.repr
  | unknownCommand name => "Unknown command \"" ++ name ++ "\""
  | multipleActions => "Only one command flag may be set"
  | noAction => "No command flag set"
  | missingField command needs =>
    "Command \"--" ++ flagSpelling command ++ "\" requires " ++ needs ++ " argument"
  | badPermission name =>
    "Invalid permission \"" ++ name ++ "\", expected read, read_write or admin"
  | notDirectory path => "Path provided must be a directory: " ++ path.display
  | fileExists path => "File " ++ path.display ++ " already exists"
  | noFileName path => "Path \"" ++ path ++ "\" has no file name"
  | badUsage text => "Bad usage: " ++ text
  | disk fault => fault.message
  | bug => "Program bug"

/-- The error comes from malformed or truncated data of the other side. -/
def isProtocol : Error → Bool
  | ranOut | badString | wrongPacketLength | bigPacket _ | unknownAction _ => true
  | _ => false

end Error

end RemoteFiles
