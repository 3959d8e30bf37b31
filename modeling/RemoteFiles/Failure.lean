import RemoteFiles.Error
import RemoteFiles.Listing.Basic

/-!
# What the user is told about a failure

A command may fail for more reasons than a request: a listing that cannot be read, a local action
that the disk refuses, a connection that breaks off, a command line that lacks something. `Failure`
lists them all, and `Failure.message` holds the words, the cause after what it was the cause of.
-/

namespace RemoteFiles

/-- Why a command failed. -/
inductive Failure where
  | request (cause : Error)
  | disk (cause : Disk.Fault)
  | listing (cause : Listing.Fault)
  /-- A local directory cannot be listed. -/
  | cannotList (directory : Path) (cause : Disk.Fault)
  /-- A directory cannot be created where there is none to hold it. -/
  | missingParents
  | directoryExists
  /-- There is nothing to delete. -/
  | notFound
  /-- The stream ends inside the header of a response. -/
  | headerCutShort
  | truncated (received expected : Nat)
  /-- The server could not be reached, in the words of the transport. -/
  | transport (reason : String)
  /-- Input from the user that is no text. -/
  | inputNotText
  | missingArguments (command : String)
  | notInShell (command : String)
  deriving DecidableEq, Repr

namespace Failure

/-- The words for a failure. -/
def message : Failure → String
  | request (.disk fault) => fault.message ++ ": " ++ fault.message
  | request cause => cause.message
  | disk cause => cause.message
  | listing cause => cause.message
  | cannotList directory cause => "Can't list " ++ directory.display ++ ": " ++ cause.message
  | missingParents => "Path is missing parent directories. Make those directories first"
  | directoryExists => "The directory you are attempting to create already exists"
  | notFound => "File not found"
  | headerCutShort => "Reading response header: failed to fill whole buffer"
  | truncated received expected =>
    "Response truncated, " ++ received.repr ++ " of " ++ expected.repr ++ " bytes"
  | transport reason => reason
  | inputNotText => "stream did not contain valid UTF-8"
  | missingArguments command => "\"" ++ command ++ "\" is missing arguments, try \"help\""
  | notInShell command => "\"" ++ command ++ "\" can't be used in the shell"

end Failure

end RemoteFiles
