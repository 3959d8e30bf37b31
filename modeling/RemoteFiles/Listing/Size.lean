/-!
# Sizes for a reader

A listing shows a size as a whole number of a binary unit, the largest of which the size has at
least one. Two roundings are made: the size is taken to 53 significant bits, and what is left of it
in the unit to a whole number. Both go to the nearest value, and a tie goes to the even one.
-/

namespace RemoteFiles

namespace Size

/-- The quotient to the nearest whole number, a tie to the even one. -/
def roundDiv (n d : Nat) : Nat :=
  let q := n / d
  let r := n % d
  if 2 * r < d then q
  else if d < 2 * r then q + 1
  else if q % 2 = 0 then q else q + 1

/-- How many significant bits a size is taken to. -/
def precision : Nat := 53

/-- A number to the nearest one with 53 significant bits, a tie to the even one. -/
def toPrecision (n : Nat) : Nat :=
  let unit := 1 <<< (Nat.log2 n + 1 - precision)
  roundDiv n unit * unit

/-- The letters of the units, each 1024 times the one before. -/
def units : List String := ["", "Ki", "Mi", "Gi", "Ti", "Pi", "Ei", "Zi"]

/-- The size in the first unit of which there are fewer than 1024, the first unit being `unit`
    bytes. -/
def inUnits (size unit : Nat) : List String → String
  | [] => (roundDiv size unit).repr ++ "YiB"
  | letters :: larger =>
    if size < 1024 * unit then (roundDiv size unit).repr ++ letters ++ "B"
    else inUnits size (1024 * unit) larger

/-- A size as a listing shows it. -/
def display (size : UInt64) : String :=
  inUnits (toPrecision size.toNat) 1 units

/-! A tie goes to the even number, and the unit is chosen before rounding. -/

example : display 1536 = "2KiB" := by decide +kernel
example : display 2560 = "2KiB" := by decide +kernel
example : display 1048575 = "1024KiB" := by decide +kernel

end Size

end RemoteFiles
