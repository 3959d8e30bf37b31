import RemoteFiles.Path

/-!
# The local disk

A disk is a finite tree of directories, files and symbolic links. An entry is known by its *place*,
the names on the way from the root down to it; the root is always a directory.

* `Entry`, `Disk.peek` -- what lies at a place;
* `Disk.insert`, `Disk.erase` -- the only two changes, with what they do to every place
  (`peek_insert`, `peek_erase`);
* `Fault` -- why the disk refuses something;
* `Outage` -- a write that the medium does not carry out in full. A disk carries the outages to
  come, one for each write; without any, every write succeeds;
* `DirectorySizes` -- what the file system reports as the size of a directory, which is up to it.
-/

namespace RemoteFiles

/-- The name of an entry in its directory. -/
abbrev Name := Bytes

/-- The names on the way from the root to an entry. -/
abbrev Place := List Name

/-- What may lie at a place. -/
inductive Entry where
  | directory
  | file (content : Bytes)
  /-- A symbolic link, with the path it stands for. -/
  | link (target : Path)
  deriving DecidableEq, Repr

namespace Disk

/-! ## 1. Refusals -/

/-- Why the disk refuses something. -/
inductive Fault where
  | notFound
  | alreadyExists
  | notDirectory
  | isDirectory
  | invalid
  | busy
  | nameTooLong
  | notEmpty
  | tooManyLinks
  | tooLarge
  | full
  /-- The path holds a byte of value zero, which no name can hold. -/
  | zeroByte
  /-- A refusal in other words. -/
  | other (text : String)
  deriving DecidableEq, Repr

/-- The words for a refusal. -/
def Fault.message : Fault → String
  | .notFound => "No such file or directory (os error 2)"
  | .alreadyExists => "File exists (os error 17)"
  | .notDirectory => "Not a directory (os error 20)"
  | .isDirectory => "Is a directory (os error 21)"
  | .invalid => "Invalid argument (os error 22)"
  | .busy => "Device or resource busy (os error 16)"
  | .nameTooLong => "File name too long (os error 36)"
  | .notEmpty => "Directory not empty (os error 39)"
  | .tooManyLinks => "Too many levels of symbolic links (os error 40)"
  | .tooLarge => "Value too large for defined data type (os error 75)"
  | .full => "No space left on device (os error 28)"
  | .zeroByte => "file name contained an unexpected NUL byte"
  | .other text => text

/-- A write that fails after some of its bytes have been stored. -/
structure Outage where
  stored : Nat
  cause : Fault
  deriving DecidableEq, Repr

end Disk

/-! ## 2. The tree -/

/-- The sizes that a file system reports of its directories, as far as they are not that of one
    block. -/
class DirectorySizes where
  reported : List (Place × UInt64)
  deriving DecidableEq, Repr

/-- A disk of which nothing else is said keeps each directory in one block. -/
instance : DirectorySizes := ⟨[]⟩

/-- A tree of entries, and where in it the client works. -/
structure Disk where
  /-- The entries below the root, each with its place. -/
  entries : List (Place × Entry)
  /-- The directory that relative paths start from. -/
  here : Place
  /-- What the medium does with the writes to come, the next one first: `none` carries a write
      out, and so does the end of the list. -/
  outages : List (Option Disk.Outage)
  [sizes : DirectorySizes]
  deriving DecidableEq, Repr

namespace Disk

/-- The size of one block of a file system. -/
def blockSize : UInt64 := 4096

/-- The size that is reported of an entry that lies at a place. -/
def sizeOf (disk : Disk) (place : Place) : Entry → UInt64
  | .directory => (disk.sizes.reported.lookup place).getD blockSize
  | .file content => UInt64.ofNat content.length
  | .link target => UInt64.ofNat target.bytes.length

/-- What lies at a place. -/
def peek (disk : Disk) (place : Place) : Option Entry :=
  if place = [] then some .directory else disk.entries.lookup place

/-- The entries of a directory, each under its name, in the order they were made. -/
def children (disk : Disk) (place : Place) : List (Name × Entry) :=
  disk.entries.filterMap fun (p, entry) =>
    match p.getLast? with
    | some name => if p.dropLast = place then some (name, entry) else none
    | none => none

/-- Puts an entry at a place, instead of what was there. -/
def insert (disk : Disk) (place : Place) (entry : Entry) : Disk :=
  if (disk.entries.lookup place).isSome then
    { disk with entries := disk.entries.map fun e => if e.1 = place then (place, entry) else e }
  else { disk with entries := disk.entries ++ [(place, entry)] }

/-- Takes away what lies at a place. -/
def erase (disk : Disk) (place : Place) : Disk :=
  { disk with entries := disk.entries.filter fun e => e.1 != place }

/-! ## 3. Changes seen from every place -/

theorem lookup_cons_eq_ite (p q : Place) (x : Entry) (entries : List (Place × Entry)) :
    ((q, x) :: entries).lookup p = if p = q then some x else entries.lookup p := by
  by_cases h : p = q
  · simp [h]
  · have hb : (p == q) = false := by simp [h]
    simp [List.lookup_cons, hb, h]

theorem lookup_map_update (entries : List (Place × Entry)) (place : Place) (entry : Entry)
    (p : Place) :
    (entries.map fun e => if e.1 = place then (place, entry) else e).lookup p =
      if p = place then (entries.lookup p).map fun _ => entry else entries.lookup p := by
  induction entries with
  | nil => simp
  | cons e entries ih =>
    obtain ⟨q, x⟩ := e
    by_cases hq : q = place
    · subst hq
      rw [List.map_cons, if_pos rfl, lookup_cons_eq_ite, lookup_cons_eq_ite, ih]
      split <;> simp
    · rw [List.map_cons, if_neg hq, lookup_cons_eq_ite, lookup_cons_eq_ite, ih]
      by_cases hp : p = place
      · simp [hp, Ne.symm hq]
      · simp [hp]

theorem lookup_filter_ne (entries : List (Place × Entry)) (place p : Place) :
    (entries.filter fun e => e.1 != place).lookup p =
      if p = place then none else entries.lookup p := by
  induction entries with
  | nil => simp
  | cons e entries ih =>
    obtain ⟨q, x⟩ := e
    rw [List.filter_cons, lookup_cons_eq_ite]
    by_cases hq : q = place
    · subst hq
      rw [if_neg (by simp), ih]
      split <;> simp_all
    · rw [if_pos (by simpa using hq), lookup_cons_eq_ite, ih]
      by_cases hp : p = place
      · simp [hp, Ne.symm hq]
      · simp [hp]

/-- **An insertion shows at its place only.** -/
theorem peek_insert (disk : Disk) {place : Place} (h : place ≠ []) (entry : Entry) (p : Place) :
    (disk.insert place entry).peek p = if p = place then some entry else disk.peek p := by
  unfold insert peek
  by_cases hp : p = []
  · subst hp
    simp [Ne.symm h]
  · simp only [if_neg hp]
    split
    · rename_i hsome
      rw [lookup_map_update]
      by_cases hpp : p = place
      · subst hpp
        obtain ⟨x, hx⟩ := Option.isSome_iff_exists.mp hsome
        simp [hx]
      · simp [hpp]
    · rename_i hnone
      rw [List.lookup_append]
      by_cases hpp : p = place
      · subst hpp
        simp only [Option.not_isSome_iff_eq_none] at hnone
        simp [hnone]
      · rw [lookup_cons_eq_ite, if_neg hpp, if_neg hpp]
        simp

/-- **An erasure shows at its place only.** -/
theorem peek_erase (disk : Disk) {place : Place} (h : place ≠ []) (p : Place) :
    (disk.erase place).peek p = if p = place then none else disk.peek p := by
  unfold erase peek
  by_cases hp : p = []
  · subst hp
    simp [Ne.symm h]
  · simp only [if_neg hp]
    exact lookup_filter_ne _ _ _

end Disk

end RemoteFiles
