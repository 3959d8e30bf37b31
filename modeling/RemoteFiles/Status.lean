import RemoteFiles.Text.Inspect

/-!
# Return codes

A response starts with a code that says how the action went. Codes that the client does not know
are kept as they are.

* `Status.ofCode` -- what a code means. The code can be had back from it (`code_ofCode`).
-/

namespace RemoteFiles

/-- What a return code means. -/
inductive Status where
  | success
  | sessionError
  | permissionError
  | userExists
  | fileExists
  | credentialRules
  | badCredentials
  | dirNotEmpty
  | resolveError
  | notDirectory
  | notFile
  | dirExists
  | socketClosed
  | userMissing
  | fileEmpty
  | dirEmpty
  | ioError
  | failure
  | unknown (code : UInt8)
  deriving DecidableEq, Repr

namespace Status

/-- The code of a successful action. -/
def successCode : UInt8 := 1

/-- The code of a status. -/
def code : Status → UInt8
  | success => 1
  | sessionError => 2
  | permissionError => 3
  | userExists => 4
  | fileExists => 5
  | credentialRules => 6
  | badCredentials => 7
  | dirNotEmpty => 8
  | resolveError => 9
  | notDirectory => 10
  | notFile => 11
  | dirExists => 12
  | socketClosed => 13
  | userMissing => 14
  | fileEmpty => 15
  | dirEmpty => 16
  | ioError => 254
  | failure => 255
  | unknown code => code

/-- Every code that the client knows. -/
def known : List Status :=
  [success, sessionError, permissionError, userExists, fileExists, credentialRules,
    badCredentials, dirNotEmpty, resolveError, notDirectory, notFile, dirExists, socketClosed,
    userMissing, fileEmpty, dirEmpty, ioError, failure]

/-- What a code means. -/
def ofCode (code : UInt8) : Status :=
  (known.find? fun status => status.code == code).getD (unknown code)

/-- What a status means, in words. -/
def description : Status → String
  | success => "Action completed successfully"
  | sessionError => "Session is invalid or has expired"
  | permissionError => "User does not have the required permissions for this action"
  | userExists => "User already exists"
  | fileExists => "File already exists"
  | credentialRules =>
    "Username must be between 3 and 20 characters and password must be between 6 and 32 characters"
  | badCredentials => "Either username or password is incorrect"
  | dirNotEmpty => "Directory is not empty"
  | resolveError => "Path could not be resolved"
  | notDirectory => "Path is not a directory"
  | notFile => "Path is not a regular file"
  | dirExists => "Directory already exists"
  | socketClosed => "Socket was closed"
  | userMissing => "User does not exist"
  | fileEmpty => "File is empty"
  | dirEmpty => "Directory is empty"
  | ioError => "Server I/O error"
  | failure | unknown _ => "Server action failed"

instance : Inspect Status where
  inspect
    | success => "Success"
    | sessionError => "SessionError"
    | permissionError => "PermissionError"
    | userExists => "UserExists"
    | fileExists => "FileExists"
    | credentialRules => "CredentialRules"
    | badCredentials => "BadCredentials"
    | dirNotEmpty => "DirNotEmpty"
    | resolveError => "ResolveError"
    | notDirectory => "NotDirectory"
    | notFile => "NotFile"
    | dirExists => "DirExists"
    | socketClosed => "SocketClosed"
    | userMissing => "UserMissing"
    | fileEmpty => "FileEmpty"
    | dirEmpty => "DirEmpty"
    | ioError => "IoError"
    | failure => "Failure"
    | unknown code => Inspect.tuple "Unknown" [inspect code]

/-- The action was carried out. -/
def isSuccess (status : Status) : Bool := status.code == successCode

/-- The server no longer accepts the session. -/
def endsSession (status : Status) : Bool := status == sessionError

/-- The description, with the code behind it. -/
def display (status : Status) : String :=
  status.description ++ " (" ++ status.code.toNat.repr ++ ")"

/-- **A code is kept**, known or not. -/
theorem code_ofCode (code : UInt8) : (ofCode code).code = code := by
  unfold ofCode
  cases h : known.find? fun status => status.code == code with
  | none => rfl
  | some status => simpa using List.find?_some h

end Status

end RemoteFiles
