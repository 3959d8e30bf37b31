import RemoteFiles.Disk.Basic

/-!
# From a path to a place

A path is walked name by name. A dot stays, two dots go up, a symbolic link goes on with the path
it stands for, and a name longer than the disk allows is refused where it is looked up. A walk
follows at most `maxLinks` links.

* `walk` -- the walk itself;
* `resolve` -- the place of the entry that a path stands for, links followed to the end;
* `resolveParent` -- the directory in which the last name of a path is looked up, and that name,
  not looked up; this is what creating and removing start from.
-/

namespace RemoteFiles

namespace Disk

/-- The longest name that a directory can hold, in bytes. -/
def maxName : Nat := 255

/-- A path of this many bytes is too long for any purpose. -/
def pathLimit : Nat := 4096

/-- How many symbolic links a walk follows. -/
def maxLinks : Nat := 40

/-- The names of a path, a slash at the end left aside. -/
def namesOf (path : Path) : List Name :=
  path.parts.filter fun part => part != []

/-- The path ends with a slash. -/
def endsWithSlash (path : Path) : Bool :=
  path.bytes.getLast? == some Path.slash

/-- The names to walk to what the path stands for: with a slash at the end, that must be a
    directory, which a dot after it makes sure of. -/
def stepsOf (path : Path) : List Name :=
  namesOf path ++ if endsWithSlash path then [Path.dot] else []

/-- Walks the names from a place that has been reached, following at most `links` links. -/
def walk (disk : Disk) (links : Nat) (place : Place) (names : List Name) : Except Fault Place :=
  match names with
  | [] => .ok place
  | name :: rest =>
    if disk.peek place ≠ some .directory then .error .notDirectory
    else if name = Path.dot then walk disk links place rest
    else if name = Path.dotDot then walk disk links place.dropLast rest
    else if maxName < name.length then .error .nameTooLong
    else
      match disk.peek (place ++ [name]) with
      | none => .error .notFound
      | some (.link target) =>
        match links with
        | 0 => .error .tooManyLinks
        | links + 1 =>
          if target.bytes = [] then .error .notFound
          else
            walk disk links (if target.isAbsolute then [] else place) (stepsOf target ++ rest)
      | some _ => walk disk links (place ++ [name]) rest
  termination_by (links, names.length)

/-- The place that the walk of a path starts from. Refuses what is no path at all. -/
def startOf (disk : Disk) (path : Path) : Except Fault Place :=
  if path.bytes.contains 0 then .error .zeroByte
  else if path.bytes = [] then .error .notFound
  else if pathLimit ≤ path.bytes.length then .error .nameTooLong
  else .ok (if path.isAbsolute then [] else disk.here)

/-- The place of what the path stands for. -/
def resolve (disk : Disk) (path : Path) : Except Fault Place := do
  let start ← disk.startOf path
  disk.walk maxLinks start (stepsOf path)

/-- What stands at the end of a path. -/
inductive Last where
  /-- The path is the root. -/
  | root
  | dot
  | dotDot
  | name (bytes : Name)
  deriving DecidableEq, Repr

/-- The end of a list of names. -/
def lastOf (names : List Name) : Last :=
  match names.getLast? with
  | none => .root
  | some name =>
    if name = Path.dot then .dot else if name = Path.dotDot then .dotDot else .name name

/-- The directory that holds the end of the path, and that end. -/
def resolveParent (disk : Disk) (path : Path) : Except Fault (Place × Last) := do
  let start ← disk.startOf path
  let names := namesOf path
  let parent ← disk.walk maxLinks start (names.dropLast ++ [Path.dot])
  return (parent, lastOf names)

/-! ## 1. Questions -/

/-- What the path stands for; `none` if it stands for nothing that can be reached. -/
def find? (disk : Disk) (path : Path) : Option Entry :=
  match disk.resolve path with
  | .ok place => disk.peek place
  | .error _ => none

/-- The path stands for something that can be reached. -/
def reaches (disk : Disk) (path : Path) : Bool :=
  (disk.find? path).isSome

/-- The path stands for a directory. -/
def isDirectory (disk : Disk) (path : Path) : Bool :=
  disk.find? path == some .directory

/-- The path stands for a file. -/
def isFile (disk : Disk) (path : Path) : Bool :=
  match disk.find? path with
  | some (.file _) => true
  | _ => false

/-- The largest file that can be read at once, in bytes. -/
def maxFile : Nat := UInt64.size / 2 - 1

/-- The contents of the file that the path stands for. -/
def contents (disk : Disk) (path : Path) : Except Fault Bytes := do
  let place ← disk.resolve path
  match disk.peek place with
  | some (.file content) => if content.length ≤ maxFile then .ok content else .error .tooLarge
  | some .directory => .error .isDirectory
  | _ => .error .notFound

/-- What is reported of an entry in a directory. -/
structure Listed where
  name : Name
  entry : Entry
  size : UInt64
  deriving DecidableEq, Repr

/-- What is reported of the entries of the directory at a place. -/
def listedAt (disk : Disk) (place : Place) : List Listed :=
  (disk.children place).map fun (name, entry) =>
    ⟨name, entry, disk.sizeOf (place ++ [name]) entry⟩

/-- The entries of the directory that the path stands for; links among them are not followed. -/
def list (disk : Disk) (path : Path) : Except Fault (List Listed) := do
  let place ← disk.resolve path
  match disk.peek place with
  | some .directory => .ok (disk.listedAt place)
  | _ => .error .notDirectory

end Disk

end RemoteFiles
