import RemoteFiles.Action.Basic
import RemoteFiles.Client
import RemoteFiles.Failure

/-!
# Actions on the local disk

Three actions work on the local disk, once the server has accepted the login: listing a directory,
creating one, and deleting a file or an empty directory. A local listing is made of the records
that a server would send, and read back from them.

* `Listing.ofDirectory` -- the records of a local directory;
* `LocalAction.run` -- an action, with the text to show for it.
-/

namespace RemoteFiles

/-! ## 1. Listing -/

namespace Listing

/-- How an entry of the disk is listed. Only directories and files are. -/
def itemOf (listed : Disk.Listed) : Option Item :=
  match listed.entry with
  | .directory => some ⟨.directory, listed.size, Utf8.decodeLossy listed.name⟩
  | .file _ => some ⟨.file, listed.size, Utf8.decodeLossy listed.name⟩
  | .link _ => none

/-- The records of entries, one in each line. -/
def records (entries : List Disk.Listed) : String :=
  String.join ((entries.filterMap itemOf).map fun item => item.render ++ "\n")

/-- What the log says about the entries that are not listed. -/
def skipped (directory : Path) (entries : List Disk.Listed) : Log :=
  entries.filterMap fun listed =>
    match itemOf listed with
    | some _ => none
    | none => some ⟨.trace, "skipping " ++ inspect (directory.join ⟨listed.name⟩)⟩

/-- The records of a local directory. -/
def ofDirectory (directory : Path) : ClientM Failure String := do
  let entries ← ClientM.ask fun disk =>
    (disk.list directory).mapError (Failure.cannotList directory)
  ClientM.tell (skipped directory entries)
  return records entries

end Listing

namespace LocalAction

/-- Lists a local directory. -/
def list (directory : Path) : ClientM Failure String := do
  let records ← Listing.ofDirectory directory
  let items ← ClientM.require ((Listing.parse records).mapError .listing)
  return Listing.format items

/-! ## 2. Creating and deleting -/

/-- Why a directory was not created. -/
def mkdirFailure : Disk.Fault → Failure
  | .notFound => .missingParents
  | .alreadyExists => .directoryExists
  | fault => .disk fault

/-- Creates one directory; those above it must exist. -/
def makeDirectory (path : Path) : ClientM Failure String := do
  ClientM.mapError mkdirFailure (ClientM.change (Disk.makeDirectory path))
  return "Created directory"

/-- Why nothing was deleted. -/
def deleteFailure : Disk.Fault → Failure
  | .notFound => .notFound
  | fault => .disk fault

/-- Deletes a file or an empty directory. -/
def remove (path : Path) : ClientM Failure String := do
  if (← get).disk.isFile path then
    ClientM.mapError deleteFailure (ClientM.change (Disk.removeFile path))
    return "Deleted file"
  else
    ClientM.mapError deleteFailure (ClientM.change (Disk.removeDirectory path))
    return "Deleted directory"

/-- Does an action on the disk. Answers the text to show. -/
def run (action : LocalAction) (path : Path) : ClientM Failure String := do
  ClientM.say .debug ("local " ++ inspect action ++ " " ++ path.display)
  match action with
  | ls => list path
  | mkdir => makeDirectory path
  | delete => remove path

end LocalAction

end RemoteFiles
