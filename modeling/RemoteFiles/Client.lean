import RemoteFiles.Disk.Change
import RemoteFiles.Wire.Decode

/-!
# The client

What a client works on is its disk, its console and its log. A `ClientM` step reads and changes
them and may fail; what it has changed, shown and recorded before a failure stays.

Everything that needs none of the three is a plain function elsewhere in the library. The steps
below lift such functions: they fail with the plain function's error, after writing into the log
what there is to say about it.
-/

namespace RemoteFiles

/-- What a client works on. -/
structure Client where
  disk : Disk
  /-- The text that has been shown to the user. -/
  console : String
  log : Log
  deriving DecidableEq, Repr

/-- A step of a client that may fail with an `ε`. -/
abbrev ClientM (ε : Type) := EStateM ε Client

namespace ClientM

variable {ε α : Type}

/-- Writes records into the log. -/
def tell (records : Log) : ClientM ε Unit :=
  modify fun client => { client with log := client.log ++ records }

/-- Writes one record into the log. -/
def say (level : Log.Level) (text : String) : ClientM ε Unit :=
  tell [⟨level, text⟩]

/-- Shows a text to the user. -/
def print (text : String) : ClientM ε Unit :=
  modify fun client => { client with console := client.console ++ text }

/-- The value, or the failure. -/
def require : Except ε α → ClientM ε α
  | .ok a => pure a
  | .error e => throw e

/-- A question to the disk, which it may answer by a failure. -/
def ask (question : Disk → Except ε α) : ClientM ε α := do
  require (question (← get).disk)

/-- A change of the disk. -/
def change (x : Disk.Change α) : ClientM Disk.Fault α := fun client =>
  match x client.disk with
  | .ok a disk => .ok a { client with disk := disk }
  | .error fault disk => .error fault { client with disk := disk }

/-- The result of an encoder. -/
def encoded (result : Except Wire.Oversize α) : ClientM Error α :=
  match result with
  | .ok a => pure a
  | .error oversize => do
    tell oversize.notice
    throw oversize.toError

/-- The result of a decoder. -/
def decoded (result : Except Wire.Malformed α) : ClientM Error α :=
  match result with
  | .ok a => pure a
  | .error malformed => do
    tell malformed.notice
    throw malformed.toError

/-- A failure that earlier checks rule out, with a word on why it is ruled out. -/
def bugBecause (reason : String) : ClientM Error α := do
  say .debug ("Hit a bug: " ++ reason)
  throw .bug

/-- A value that earlier checks promise, `reason` saying why if there is something to say. -/
def promised (value : Option α) (reason : Option String) : ClientM Error α :=
  match value, reason with
  | some a, _ => pure a
  | none, none => throw .bug
  | none, some reason => bugBecause reason

/-- The same step, failing with another error. -/
def mapError {ε' : Type} (f : ε → ε') (x : ClientM ε α) : ClientM ε' α :=
  EStateM.adaptExcept f x

end ClientM

end RemoteFiles
