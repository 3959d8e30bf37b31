/-!
# Decimal numbers of a bounded size

Ports, timeouts and sizes are decimal numbers that a fixed width must hold. A number is read from
its first digit to its last, so of a character that is no digit and a value that is too large the
one that comes first in the text is what is reported.
-/

namespace RemoteFiles

namespace Decimal

/-- Why a text is not a number below the bound. -/
inductive Fault where
  | empty
  | invalidDigit
  | tooLarge
  deriving DecidableEq, Repr

/-- The words for a fault. -/
def Fault.message : Fault → String
  | .empty => "cannot parse integer from empty string"
  | .invalidDigit => "invalid digit found in string"
  | .tooLarge => "number too large to fit in target type"

/-- An ASCII digit. -/
def isDigit (c : Char) : Bool :=
  '0' ≤ c && c ≤ '9'

/-- The value of an ASCII digit. -/
def digitValue (c : Char) : Nat :=
  c.toNat - '0'.toNat

/-- Reads on from the value of the digits before. -/
def readDigits (bound : Nat) (value : Nat) : List Char → Except Fault Nat
  | [] => .ok value
  | c :: rest =>
    if isDigit c then
      let value := value * 10 + digitValue c
      if value < bound then readDigits bound value rest else .error .tooLarge
    else .error .invalidDigit

/-- The number below `bound` that the text writes. One leading `+` is allowed, and any number of
    leading zeros. -/
def read (bound : Nat) (text : String) : Except Fault Nat :=
  match text.toList with
  | [] => .error .empty
  | ['+'] => .error .invalidDigit
  | '+' :: digits => readDigits bound 0 digits
  | digits => readDigits bound 0 digits

/-- What has been read is below the bound. -/
theorem readDigits_lt {bound value n : Nat} {digits : List Char} (h : value < bound)
    (hn : readDigits bound value digits = .ok n) : n < bound := by
  fun_induction readDigits bound value digits with
  | case1 => simp_all
  | case2 value c rest hc value' hv ih => exact ih hv hn
  | case3 => simp at hn
  | case4 => simp at hn

end Decimal

end RemoteFiles
