import RemoteFiles.Disk.Walk

/-!
# Changing the local disk

Four changes, each refused rather than done halfway: a new file where nothing is, a new directory
where nothing is, the removal of a file or link, the removal of an empty directory. Bytes are added
to a file by `append`, which asks the medium first and may store only a part of them.

None of them follows a link at the end of its path.
-/

namespace RemoteFiles

namespace Disk

/-- A change of the disk that may be refused. What has been changed before a refusal stays. -/
abbrev Change := EStateM Fault Disk

/-- A fact about the disk as it is. -/
def asks {α : Type} (question : Disk → Except Fault α) : Change α := fun disk =>
  match question disk with
  | .ok a => .ok a disk
  | .error fault => .error fault disk

/-- The place for a new entry that the path names; refused if something is there. -/
def freePlace (path : Path) (disk : Disk) : Except Fault Place := do
  match ← disk.resolveParent path with
  | (parent, .name name) =>
    if maxName < name.length then .error .nameTooLong
    else if (disk.peek (parent ++ [name])).isSome then .error .alreadyExists
    else .ok (parent ++ [name])
  | _ => .error .alreadyExists

/-- What the medium does with the next write. -/
def nextOutage : Change (Option Outage) := fun disk =>
  match disk.outages with
  | [] => .ok none disk
  | outage :: later => .ok outage { disk with outages := later }

/-- A new empty file, where nothing was before. Answers its place. -/
def createFile (path : Path) : Change Place := do
  let place ← asks (freePlace path)
  if ← asks fun _ => .ok (endsWithSlash path) then throw .isDirectory
  match ← nextOutage with
  | some outage => throw outage.cause
  | none =>
    modify fun disk => disk.insert place (.file [])
    return place

/-- Adds bytes to the end of the file at a place. -/
def append (place : Place) (bytes : Bytes) : Change Unit := do
  let add (more : Bytes) : Change Unit := modify fun disk =>
    match disk.peek place with
    | some (.file content) => disk.insert place (.file (content ++ more))
    | _ => disk
  match ← nextOutage with
  | some outage => do
    add (bytes.take outage.stored)
    throw outage.cause
  | none => add bytes

/-- A new directory, where nothing was before. -/
def makeDirectory (path : Path) : Change Unit := do
  let place ← asks (freePlace path)
  modify fun disk => disk.insert place .directory

/-- The place of the entry that the path names, and the entry; a link at the end is not
    followed. -/
def named (path : Path) (disk : Disk) : Except Fault (Place × Entry) := do
  match ← disk.resolveParent path with
  | (parent, .name name) =>
    if maxName < name.length then .error .nameTooLong
    else
      match disk.peek (parent ++ [name]) with
      | some entry => .ok (parent ++ [name], entry)
      | none => .error .notFound
  | (_, .root) => .error .busy
  | (_, .dot) => .error .invalid
  | (_, .dotDot) => .error .notEmpty

/-- Takes away a file or a link. -/
def removeFile (path : Path) : Change Unit := do
  match ← asks (named path) with
  | (_, .directory) => throw .isDirectory
  | (place, _) => modify fun disk => disk.erase place

/-- Takes away an empty directory. -/
def removeDirectory (path : Path) : Change Unit := do
  match ← asks (named path) with
  | (place, .directory) =>
    if (← get).children place != [] then throw .notEmpty
    modify fun disk => disk.erase place
  | _ => throw .notDirectory

end Disk

end RemoteFiles
