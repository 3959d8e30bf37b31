import RemoteFiles.Response.Basic

/-!
# Saving a download

The answer to a download carries a file and its digest. The file is saved at the target of the
request, once the digest has been found right, and only where nothing is yet.
-/

namespace RemoteFiles

/-- What has become of a download. -/
inductive SaveOutcome where
  | written (count : Nat) (path : Path)
  /-- The digest is not that of the payload; nothing was written. -/
  | hashMismatch
  /-- There was no file to save. -/
  | noFile
  deriving DecidableEq, Repr

namespace SaveOutcome

/-- A file was written. -/
def isWritten : SaveOutcome → Bool
  | written _ _ => true
  | _ => false

/-- The outcome in words. -/
def display : SaveOutcome → String
  | written count path => "Wrote " ++ count.repr ++ " bytes to " ++ path.display
  | hashMismatch =>
    "Files hash from server does not match the local hash. Will not save the file to disk."
  | noFile => "Server did not send a file"

end SaveOutcome

namespace Disk

/-- Adds pieces to the end of the file at a place, one write for each. -/
def appendAll (place : Place) : List Bytes → Change Unit
  | [] => pure ()
  | piece :: later => do
    append place piece
    appendAll place later

/-- A new file with contents that are written `size` bytes at a time. -/
def createWith (size : Nat) (path : Path) (content : Bytes) : Change Unit := do
  let place ← createFile path
  appendAll place (Bytes.chunks size content)

end Disk

namespace Response

/-- How many bytes one write of a download stores. -/
def writeSize : Nat := 1024

/-- The file that has come, provided that its digest has come with it. -/
def file? (response : Response) : Option Bytes :=
  if response.digest.isSome then response.payload else none

/-- Saves the file of a download. -/
def save (response : Response) : ClientM Error SaveOutcome := do
  match response.request.target? with
  | none => throw (.badUsage "save_file() on a response that isn't for GET")
  | some target =>
    match response.file? with
    | none => return .noFile
    | some content =>
      if response.validHash then
        ClientM.mapError .disk (ClientM.change (Disk.createWith writeSize target content))
        ClientM.say .info ("wrote " ++ content.length.repr ++ " bytes to " ++ target.display)
        return .written content.length target
      else return .hashMismatch

end Response

end RemoteFiles
