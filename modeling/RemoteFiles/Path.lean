import RemoteFiles.Text.Inspect

/-!
# Local paths

A path is a string of bytes with slashes between its parts; the bytes need not be text. Its
`components` are what counts: repeated slashes, a slash at the end and dots in the middle say
nothing.

* `fileName?` -- the last component, if it is a name;
* `join` -- what is named by a path as seen from a directory;
* `parent?` -- the path without its last component.
-/

namespace RemoteFiles

/-- A path on the local disk. -/
structure Path where
  bytes : Bytes
  deriving DecidableEq, Repr

namespace Path

/-- The byte between the parts of a path. -/
def slash : UInt8 := 0x2F

/-- The part that stands for the directory itself. -/
def dot : Bytes := [0x2E]

/-- The part that stands for the directory above. -/
def dotDot : Bytes := [0x2E, 0x2E]

/-- The path that a text writes. -/
def ofString (text : String) : Path := ⟨Utf8.encode text⟩

/-- The path as text, broken parts replaced. -/
def display (path : Path) : String := Utf8.decodeLossy path.bytes

instance : Inspect Path := ⟨fun path => Text.quoteBytes path.bytes⟩

/-! ## 1. Components -/

/-- A step of a path. -/
inductive Component where
  /-- The slash that an absolute path starts with. -/
  | root
  /-- The dot that a relative path may start with. -/
  | current
  | parent
  | name (bytes : Bytes)
  deriving DecidableEq, Repr

/-- The step that a part between two slashes is; `none` if it says nothing. -/
def stepOf (part : Bytes) : Option Component :=
  if part = [] ∨ part = dot then none
  else if part = dotDot then some .parent
  else some (.name part)

/-- The parts between the slashes, empty ones included. -/
def parts (path : Path) : List Bytes := path.bytes.splitOn slash

/-- A path that starts at the root. -/
def isAbsolute (path : Path) : Bool := path.bytes.head? == some slash

/-- A relative path that starts with a dot of its own. -/
def startsAtDot (path : Path) : Bool := path.parts.head? == some dot

/-- The steps of a path, in order. -/
def components (path : Path) : List Component :=
  (if path.isAbsolute then [.root] else if path.startsAtDot then [.current] else []) ++
    path.parts.filterMap stepOf

/-- The last step, if it is a name. -/
def fileName? (path : Path) : Option Bytes :=
  match path.components.getLast? with
  | some (.name bytes) => some bytes
  | _ => none

/-! ## 2. Joining and taking apart -/

/-- What is named by `other` as seen from `path`. An absolute path stays what it is. -/
def join (path other : Path) : Path :=
  if other.isAbsolute then other
  else if path.bytes = [] ∨ path.bytes.getLast? = some slash then ⟨path.bytes ++ other.bytes⟩
  else ⟨path.bytes ++ slash :: other.bytes⟩

/-- The front of a path that belongs to no part: the slash of the root, or the leading dot. -/
def lead (path : Path) : Bytes :=
  if path.isAbsolute then [slash] else if path.startsAtDot then dot else []

/-- Takes off the parts at the end that say nothing. The parts are given last to first. -/
def dropSilent (parts : List Bytes) : List Bytes :=
  parts.dropWhile fun part => (stepOf part).isNone

/-- The path without its last step and without the silent parts before that. The root and the
    empty path have nothing above them. -/
def parent? (path : Path) : Option Path :=
  let body := path.bytes.drop path.lead.length
  match dropSilent (body.splitOn slash).reverse with
  | _ :: before =>
    some ⟨path.lead ++ List.intercalate [slash] (dropSilent before).reverse⟩
  | [] => if path.lead = dot then some ⟨[]⟩ else none

/-! Only names and two dots can be last; what says nothing is passed over. -/

example : (ofString "docs//notes/./").fileName? = some (Utf8.encode "notes") := by decide +kernel
example : (ofString "docs/..").fileName? = none := by decide +kernel
example : (ofString "docs//notes/./").parent? = some (ofString "docs") := by decide +kernel

end Path

end RemoteFiles
