import RemoteFiles.Bytes
import RemoteFiles.Text.Quoted

/-!
# Diagnostic forms

The log shows values in a form meant for a reader who looks for a fault: records with the names of
their fields, texts quoted, bytes as a list of numbers. `Inspect` is the class of values that have
such a form. A record that leaves fields out says so by two dots.
-/

namespace RemoteFiles

/-- Values with a diagnostic form. -/
class Inspect (α : Type) where
  /-- The diagnostic form of a value. -/
  inspect : α → String

export Inspect (inspect)

namespace Inspect

instance : Inspect String := ⟨Text.quote⟩
instance : Inspect Nat := ⟨Nat.repr⟩
instance : Inspect UInt8 := ⟨fun n => n.toNat.repr⟩
instance : Inspect UInt16 := ⟨fun n => n.toNat.repr⟩
instance : Inspect UInt32 := ⟨fun n => n.toNat.repr⟩
instance : Inspect UInt64 := ⟨fun n => n.toNat.repr⟩
instance : Inspect Bool := ⟨fun b => if b then "true" else "false"⟩

/-- A constructor applied to parts: `Name(a, b)`. -/
def tuple (name : String) (parts : List String) : String :=
  name ++ "(" ++ ", ".intercalate parts ++ ")"

instance {α : Type} [Inspect α] : Inspect (Option α) where
  inspect
    | some a => tuple "Some" [inspect a]
    | none => "None"

instance {α : Type} [Inspect α] : Inspect (List α) where
  inspect items := "[" ++ ", ".intercalate (items.map inspect) ++ "]"

/-- The fields of a record, each with its name. -/
def fields (entries : List (String × String)) : String :=
  ", ".intercalate (entries.map fun (name, value) => name ++ ": " ++ value)

/-- A record with all its fields. -/
def record (name : String) (entries : List (String × String)) : String :=
  name ++ " \x7b " ++ fields entries ++ " \x7d"

/-- A record of which some fields are not shown. -/
def openRecord (name : String) (entries : List (String × String)) : String :=
  name ++ " \x7b " ++ fields entries ++ ", .. \x7d"

end Inspect

end RemoteFiles
