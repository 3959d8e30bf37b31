import RemoteFiles.Error

/-!
# Permission tiers

An account may read, read and write, or administer; each tier includes the one before. A tier has a
code, which also orders the tiers, and a name.
-/

namespace RemoteFiles

/-- What an account may do. -/
inductive Permission where
  | read
  | readWrite
  | admin
  deriving DecidableEq, Repr

namespace Permission

/-- Every tier, the lowest first. -/
def all : List Permission := [read, readWrite, admin]

/-- The tier of an account for which none is named. -/
def default : Permission := read

instance : Inhabited Permission := ⟨default⟩

/-- The code of a tier. -/
def code : Permission → UInt8
  | read => 1
  | readWrite => 2
  | admin => 3

/-- The name of a tier. -/
def name : Permission → String
  | read => "READ"
  | readWrite => "READ_WRITE"
  | admin => "ADMIN"

instance : Inspect Permission where
  inspect
    | read => "Read"
    | readWrite => "ReadWrite"
    | admin => "Admin"

/-- Tiers compare as their codes do. -/
def compare (a b : Permission) : Ordering := Ord.compare a.code b.code

instance : Ord Permission := ⟨compare⟩

/-- The tier with a code. -/
def ofCode? (code : UInt8) : Option Permission :=
  all.find? fun tier => tier.code == code

/-- The tier with a code, or the error that there is none. -/
def ofCode (code : UInt8) : Except Error Permission :=
  match ofCode? code with
  | some tier => .ok tier
  | none => .error (.badPermission code.toNat.repr)

/-- The tier of a name. The case of ASCII letters does not matter, and `-` counts as `_`. -/
def parse (name : String) : Except Error Permission :=
  let canonical := name.toList.map fun c => if c = '-' then '_' else c.toUpper
  match all.find? fun tier => tier.name.toList == canonical with
  | some tier => .ok tier
  | none => .error (.badPermission name)

/-- **A code belongs to one tier at most**, and `ofCode?` finds it. -/
theorem ofCode?_eq_some_iff {code : UInt8} {tier : Permission} :
    ofCode? code = some tier ↔ tier.code = code := by
  constructor
  · intro h
    simpa using List.find?_some h
  · rintro rfl
    cases tier <;> rfl

end Permission

end RemoteFiles
