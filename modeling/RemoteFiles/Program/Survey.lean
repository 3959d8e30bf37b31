import RemoteFiles.LocalDisk
import RemoteFiles.Request
import RemoteFiles.Shell.Command

/-!
# Surveying the disk of the machine

The library decides about a `Disk`, which is a value. Before a step, the part of the machine's disk
that the step asks about is surveyed into such a value; after it, what the step has changed in the
value is carried out on the machine.

* `Wanted` -- what a step asks about;
* `survey` -- a disk that answers it as the machine would;
* `carryOut` -- the changes between two disks, done on the machine.
-/

namespace RemoteFiles.Program

/-! ## 1. What a step asks about -/

/-- How much has to be known of what a path stands for. -/
inductive Detail where
  /-- What kind of entry it is. -/
  | kind
  /-- The contents of a file. -/
  | content
  /-- The entries of a directory, with their sizes. -/
  | children
  deriving DecidableEq, Repr

/-- What has to be known of the disk. -/
abbrev Wanted := List (Path × Detail)

namespace Wanted

/-- A download needs its directory and a free place in it. -/
def ofDownload (path : String) (directory : Path) : Wanted :=
  match Operation.downloadTarget path directory with
  | .ok target => [(directory, .kind), (target, .kind)]
  | .error _ => [(directory, .kind)]

/-- A local action needs what its path stands for. -/
def ofLocal (path : Path) : Wanted := [(path, .children)]

/-- What is asked to build the request of a command line. -/
def ofFields (fields : Fields) : Wanted :=
  match fields.source, fields.destination with
  | some directory, some path => ofDownload path directory
  | _, _ => []

/-- What is asked to send a request, and to use its answer. -/
def ofOperation : Operation → Wanted
  | .get _ target => [(target, .kind)]
  | .put source _ => [(source, .content)]
  | .onDisk _ path => ofLocal path
  | _ => []

/-- What is asked to begin a line of the shell. -/
def ofLine (line : String) : Wanted :=
  match Command.parse line with
  | .ok (.onDisk _ path) => ofLocal path
  | .ok (.remote (.get path directory)) => ofDownload path directory
  | _ => []

end Wanted

/-! ## 2. The survey -/

/-- The name that the machine knows a place by. -/
def fileAt (place : Place) : String :=
  "/" ++ "/".intercalate (place.map Utf8.decodeLossy)

/-- What lies at a place, a file with the contents that `content` makes of its size, and the size.
    What is neither a directory nor a file nor a link counts as a link to nowhere. -/
def lookAt (content : Nat → Bytes) (place : Place) : IO (Option (Entry × UInt64)) := do
  let file := (← IO.currentDir) / fileAt place
  try
    let metadata ← file.symlinkMetadata
    let entry : Entry ← match metadata.type with
      | .dir => pure .directory
      | .file => pure (.file (content metadata.byteSize.toNat))
      | .symlink => do
        let target ← try some <$> IO.FS.realPath file catch _ => pure none
        pure (.link (.ofString ((target.map toString).getD "")))
      | .other => pure (.link ⟨[]⟩)
    return some (entry, metadata.byteSize)
  catch
    | .permissionDenied file code details => throw (.permissionDenied file code details)
    | _ => return none

/-- Adds the details of what lies at a place. -/
def lookInto (disk : Disk) (place : Place) (detail : Detail) : IO Disk := do
  let file := (← IO.currentDir) / fileAt place
  match detail, disk.peek place with
  | .content, some (.file _) =>
    return disk.insert place (.file (← IO.FS.readBinFile file).toList)
  | .children, some .directory => do
    let names := (← file.readDir).toList.map fun found => Utf8.encode found.fileName
    names.foldlM (fun disk name => do
      match ← lookAt (List.replicate · 0) (place ++ [name]) with
      | some (entry, size) =>
        let sizes := (place ++ [name], size) :: disk.sizes.reported
        return { disk.insert (place ++ [name]) entry with sizes := ⟨sizes⟩ }
      | none => return disk) disk
  | _, _ => return disk

/-- Adds the entries on the way of a walk, and the details of what lies at its end. -/
def explore (disk : Disk) (links : Nat) (place : Place) (names : List Name) (detail : Detail) :
    IO Disk :=
  match names with
  | [] => lookInto disk place detail
  | name :: rest =>
    if name = Path.dot then explore disk links place rest detail
    else if name = Path.dotDot then explore disk links place.dropLast rest detail
    else do
      let next := place ++ [name]
      match ← lookAt (fun _ => []) next with
      | none => return disk
      | some (.link target, _) =>
        match links with
        | 0 => return disk.insert next (.link target)
        | links + 1 =>
          explore (disk.insert next (.link target)) links []
            (if target.bytes = [] then [] else Disk.stepsOf target ++ rest)
            (if target.bytes = [] then .kind else detail)
      | some (entry, _) => explore (disk.insert next entry) links next rest detail
  termination_by (links, names.length)

/-- A disk of which nothing is known but the way to the working directory. -/
def unexplored : IO Disk := do
  let here := Disk.namesOf (.ofString (← IO.currentDir).toString)
  return ⟨(List.range here.length).map fun n => (here.take (n + 1), .directory), here, []⟩

/-- A disk that answers what is wanted as the machine would. -/
def survey (wanted : Wanted) : IO Disk := do
  wanted.foldlM (fun disk (path, detail) =>
    match disk.startOf path with
    | .ok start => explore disk Disk.maxLinks start (Disk.stepsOf path) detail
    | .error _ => return disk) (← unexplored)

/-! ## 3. Changes -/

/-- What has been done at a place. -/
inductive Deed where
  | made (entry : Entry)
  | removed (entry : Entry)
  deriving DecidableEq, Repr

/-- What leads from one disk to another. -/
def deeds (old new : Disk) : List (Place × Deed) :=
  (old.entries.filterMap fun (place, entry) =>
    if (new.peek place).isNone then some (place, .removed entry) else none) ++
  new.entries.filterMap fun (place, entry) =>
    if (old.peek place).isNone then some (place, .made entry) else none

/-- Does on the machine what has been done at a place. -/
def redo (place : Place) : Deed → IO Unit
  | .made .directory => IO.FS.createDir (fileAt place)
  | .made (.file content) => do
    let handle ← IO.FS.Handle.mk (fileAt place) .writeNew
    handle.write content.toByteArray
  | .made (.link _) => pure ()
  | .removed .directory => IO.FS.removeDir (fileAt place)
  | .removed _ => IO.FS.removeFile (fileAt place)

/-- Does on the machine what leads from one disk to another. -/
def carryOut (old new : Disk) : IO Unit :=
  (deeds old new).forM fun (place, deed) => redo place deed

end RemoteFiles.Program
