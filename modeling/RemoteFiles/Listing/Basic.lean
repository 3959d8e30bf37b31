import RemoteFiles.Bytes
import RemoteFiles.Listing.Size
import RemoteFiles.Text.Decimal

/-!
# Listings of directories

A listing is text with one record for each entry: a tag for its type, its size and its name, with
colons between them. The name comes last, so it may hold colons. An empty line ends the listing.

* `Listing.parse` -- the entries of a listing, directories first and the largest first;
* `Listing.format` -- the entries as they are shown to the user;
* `Item.render` -- the record of an entry.
-/

namespace RemoteFiles

namespace Listing

/-- The types of entries that a listing knows. -/
inductive EntryType where
  | directory
  | file
  deriving DecidableEq, Repr

/-- The tag of a type. -/
def EntryType.tag : EntryType → String
  | directory => "[D]"
  | file => "[F]"

/-- The type of a tag. -/
def EntryType.ofTag? (tag : String) : Option EntryType :=
  if tag = "[D]" then some directory else if tag = "[F]" then some file else none

/-- One entry of a directory. -/
structure Item where
  type : EntryType
  size : UInt64
  name : String
  deriving DecidableEq, Repr

/-- Why a text is no listing. -/
inductive Fault where
  /-- A line with fewer than two colons. -/
  | malformed (line : String)
  | unknownType (tag : String)
  | notANumber (size : String)
  | tooLarge (size : String)
  deriving DecidableEq, Repr

/-- The words for a fault. -/
def Fault.message : Fault → String
  | malformed line => "Malformed listing record \"" ++ line ++ "\""
  | unknownType tag => "Unknown entry type \"" ++ tag ++ "\""
  | notANumber size => "File size is not a number: \"" ++ size ++ "\""
  | tooLarge size => "File size " ++ size ++ " too large: " ++ Decimal.Fault.tooLarge.message

/-! ## 1. Records -/

/-- The text before the first colon and the text after it; `none` without a colon. -/
def cut : List Char → Option (List Char × List Char)
  | [] => none
  | c :: rest =>
    if c = ':' then some ([], rest)
    else (cut rest).map fun (before, after) => (c :: before, after)

/-- The three fields of a line. -/
def fields? (line : List Char) : Option (List Char × List Char × List Char) := do
  let (tag, rest) ← cut line
  let (size, name) ← cut rest
  return (tag, size, name)

/-- The size that a text of digits writes. -/
def parseSize (size : List Char) : Except Fault UInt64 :=
  if size.isEmpty || !size.all Decimal.isDigit then .error (.notANumber (.ofList size))
  else
    match Decimal.readDigits UInt64.size 0 size with
    | .ok n => .ok (UInt64.ofNat n)
    | .error _ => .error (.tooLarge (.ofList size))

/-- The entry that a line records. -/
def parseRecord (line : List Char) : Except Fault Item :=
  match fields? line with
  | none => .error (.malformed (.ofList line))
  | some (tag, size, name) =>
    match EntryType.ofTag? (.ofList tag) with
    | none => .error (.unknownType (.ofList tag))
    | some type => do
      return ⟨type, ← parseSize size, .ofList name⟩

/-- The record of an entry, without a line end. -/
def Item.render (item : Item) : String :=
  item.type.tag ++ ":" ++ item.size.toNat.repr ++ ":" ++ item.name

/-! ## 2. Whole listings -/

/-- The order of a listing: directories before files, and then the larger before the smaller. -/
def before (a b : Item) : Bool :=
  match a.type, b.type with
  | .directory, .file => true
  | .file, .directory => false
  | _, _ => b.size ≤ a.size

/-- The lines of a listing: all up to the first empty one. -/
def linesOf (text : String) : List (List Char) :=
  (text.toList.splitOn '\n').takeWhile fun line => !line.isEmpty

/-- The entries of a listing in its order. Entries that the order does not tell apart stay as they
    came. -/
def parse (text : String) : Except Fault (List Item) := do
  return ((← (linesOf text).mapM parseRecord)).mergeSort before

/-- An entry as it is shown: its tag, its size in four columns, its name. -/
def Item.display (item : Item) : String :=
  let size := Size.display item.size
  item.type.tag ++ " " ++ "".pushn ' ' (4 - size.length) ++ size ++ " " ++ item.name

/-- The entries as they are shown, one in each line. -/
def format (items : List Item) : String :=
  String.join (items.map fun item => item.display ++ "\n")

end Listing

end RemoteFiles
