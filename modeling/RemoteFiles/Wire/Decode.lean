import RemoteFiles.Wire.Encode

/-!
# Reading the wire format

A decoder moves a cursor over the input. It takes bytes from the front, never more than there are,
and stops at the first thing that is wrong. Whether a digest stands before the rest of the input
depends on the request that is answered, so the cursor carries that too.

* `Decoder.takeExactly` -- the only thing that moves the cursor;
* `readPrefixed` -- a value from the front of the input, whatever follows;
* `readFrame` -- a value that must be the whole input.
-/

namespace RemoteFiles

namespace Wire

/-! ## 1. Failures -/

/-- What is wrong with an input. -/
inductive Malformed where
  | ranOut
  | badString
  | badNumber
  | unknownAction (number : UInt8)
  /-- Bytes are left over behind the value. -/
  | trailing (count : Nat)
  deriving DecidableEq, Repr

/-- The error that it counts as. -/
def Malformed.toError : Malformed → Error
  | ranOut => .ranOut
  | badString => .badString
  | badNumber => .wrongPacketLength
  | unknownAction number => .unknownAction number
  | trailing _ => .wrongPacketLength

/-- What the log says about it. -/
def Malformed.notice : Malformed → Log
  | trailing count => [⟨.trace, "frame has " ++ count.repr ++ " trailing bytes"⟩]
  | _ => []

/-! ## 2. The cursor -/

/-- Where a decoder stands. -/
structure Cursor where
  /-- The bytes that have not been taken. -/
  rest : Bytes
  /-- How many bytes have been taken. -/
  position : Nat
  /-- The answer to a download carries a digest. -/
  expectDigest : Bool
  deriving DecidableEq, Repr

/-- The cursor at the front of an input. -/
def Cursor.atFront (input : Bytes) (expectDigest : Bool) : Cursor :=
  ⟨input, 0, expectDigest⟩

/-- A step of a decoder. -/
abbrev Decoder := EStateM Malformed Cursor

namespace Decoder

/-- Takes the next `n` bytes. -/
def takeExactly (n : Nat) : Decoder { bytes : Bytes // bytes.length = n } := fun cursor =>
  if h : n ≤ cursor.rest.length then
    .ok ⟨cursor.rest.take n, by simp [h]⟩
      { cursor with rest := cursor.rest.drop n, position := cursor.position + n }
  else .error .ranOut cursor

/-- Takes the next `n` bytes. -/
def take (n : Nat) : Decoder Bytes := do
  let bytes ← takeExactly n
  return bytes.val

/-- How many bytes have not been taken. -/
def remaining : Decoder Nat := do
  return (← get).rest.length

/-- Takes all bytes that are left. -/
def takeRest : Decoder Bytes := do
  take (← remaining)

/-- Takes a number of `width` bytes. -/
def number (width : Nat) : Decoder Nat := do
  return Bytes.ofBigEndian (← take width)

end Decoder

/-- Values that can be read from the wire. -/
class Readable (α : Type) where
  /-- Reads a value. -/
  decode : Decoder α

export Readable (decode)

/-! ## 3. Whole inputs -/

/-- Reads a value from the front of the input. -/
def readPrefixed {α : Type} [Readable α] (input : Bytes) (expectDigest : Bool) :
    Except Malformed α :=
  match (decode : Decoder α) (.atFront input expectDigest) with
  | .ok value _ => .ok value
  | .error malformed _ => .error malformed

/-- Reads a value that is the whole input. -/
def readFrame {α : Type} [Readable α] (input : Bytes) (expectDigest : Bool) :
    Except Malformed α :=
  match (decode : Decoder α) (.atFront input expectDigest) with
  | .ok value cursor =>
    if cursor.position = input.length then .ok value
    else .error (.trailing (input.length - cursor.position))
  | .error malformed _ => .error malformed

/-! ## 4. Values -/

instance : Readable UInt8 := ⟨do return UInt8.ofNat (← Decoder.number 1)⟩
instance : Readable UInt16 := ⟨do return UInt16.ofNat (← Decoder.number 2)⟩
instance : Readable UInt32 := ⟨do return UInt32.ofNat (← Decoder.number 4)⟩
instance : Readable UInt64 := ⟨do return UInt64.ofNat (← Decoder.number 8)⟩

/-- Bytes whose length is fixed. -/
instance {n : Nat} : Readable { bytes : Bytes // bytes.length = n } := ⟨Decoder.takeExactly n⟩

instance : Readable ShortString where
  decode := do
    let length : UInt16 ← decode
    return ⟨← Decoder.take length.toNat⟩

end Wire

end RemoteFiles
