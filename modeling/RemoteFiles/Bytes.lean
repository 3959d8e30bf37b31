/-!
# Byte strings

What crosses the wire and what lies on the disk are strings of bytes. This file holds the three
things every other module does to them:

* numbers of a fixed width, most significant byte first -- `bigEndian` writes one and
  `ofBigEndian` reads it, and `ofBigEndian_bigEndian` says that reading undoes writing;
* cutting into pieces of a bounded size -- `chunks`, which loses nothing (`flatten_chunks`);
* hexadecimal text -- `hex`.
-/

namespace RemoteFiles

/-- A string of bytes. -/
abbrev Bytes := List UInt8

namespace Bytes

/-! ## 1. Numbers, most significant byte first -/

/-- The low `width` bytes of a number, most significant byte first. -/
def bigEndian : (width : Nat) → Nat → Bytes
  | 0, _ => []
  | width + 1, n => bigEndian width (n / 256) ++ [UInt8.ofNat n]

/-- How many numbers can be written in `width` bytes. -/
def capacity : (width : Nat) → Nat
  | 0 => 1
  | width + 1 => capacity width * 256

/-- The number that a string of bytes spells, most significant byte first. -/
def ofBigEndian (bytes : Bytes) : Nat :=
  bytes.foldl (fun n b => n * 256 + b.toNat) 0

@[simp] theorem length_bigEndian (width n : Nat) : (bigEndian width n).length = width := by
  induction width generalizing n with
  | zero => rfl
  | succ width ih => simp [bigEndian, ih]

theorem ofBigEndian_append_singleton (bytes : Bytes) (b : UInt8) :
    ofBigEndian (bytes ++ [b]) = ofBigEndian bytes * 256 + b.toNat := by
  simp [ofBigEndian]

/-- **Reading undoes writing**, up to what the width can hold. -/
theorem ofBigEndian_bigEndian (width n : Nat) :
    ofBigEndian (bigEndian width n) = n % capacity width := by
  induction width generalizing n with
  | zero => simp [bigEndian, ofBigEndian, capacity, Nat.mod_one]
  | succ width ih =>
    have hb : (UInt8.ofNat n).toNat = n % 256 := by simp
    rw [bigEndian, ofBigEndian_append_singleton, ih, hb, capacity, Nat.mul_comm (capacity width),
      Nat.mod_mul, Nat.mul_comm 256 (n / 256 % capacity width), Nat.add_comm]

/-- Induction that takes a string of bytes apart at its end. -/
theorem induction_from_end {motive : Bytes → Prop} (nil : motive [])
    (append : ∀ bytes b, motive bytes → motive (bytes ++ [b])) (bytes : Bytes) : motive bytes := by
  have reversed : ∀ l : Bytes, motive l.reverse := by
    intro l
    induction l with
    | nil => exact nil
    | cons b l ih => simpa using append l.reverse b ih
  simpa using reversed bytes.reverse

/-- What a string of bytes spells can be written in its length. -/
theorem ofBigEndian_lt (bytes : Bytes) : ofBigEndian bytes < capacity bytes.length := by
  induction bytes using induction_from_end with
  | nil => simp [ofBigEndian, capacity]
  | append bytes b ih =>
    have hb := b.toNat_lt
    rw [ofBigEndian_append_singleton, List.length_append, List.length_singleton, capacity]
    omega

/-- **Writing undoes reading** at the width that was read. -/
theorem bigEndian_ofBigEndian (bytes : Bytes) :
    bigEndian bytes.length (ofBigEndian bytes) = bytes := by
  induction bytes using induction_from_end with
  | nil => rfl
  | append bytes b ih =>
    have hb := b.toNat_lt
    have hdiv : (ofBigEndian bytes * 256 + b.toNat) / 256 = ofBigEndian bytes := by omega
    have hlow : UInt8.ofNat (ofBigEndian bytes * 256 + b.toNat) = b := by
      apply UInt8.toNat_inj.mp
      simp
    rw [List.length_append, List.length_singleton, ofBigEndian_append_singleton, bigEndian, hdiv,
      ih, hlow]

/-! ## 2. Pieces of a bounded size -/

/-- The bytes cut into pieces of `size` bytes, the last one holding what is left. A size of zero
    counts as one. -/
def chunks (size : Nat) (bytes : Bytes) : List Bytes :=
  match bytes with
  | [] => []
  | b :: rest => (b :: rest.take (size - 1)) :: chunks size (rest.drop (size - 1))
  termination_by bytes.length
  decreasing_by simp only [List.length_drop, List.length_cons]; omega

/-- **Cutting loses nothing**: the pieces joined are the bytes that were cut. -/
theorem flatten_chunks (size : Nat) (bytes : Bytes) : (chunks size bytes).flatten = bytes := by
  fun_induction chunks size bytes with
  | case1 => rfl
  | case2 b rest ih => simp [ih]

/-- The first piece is as long as pieces are, and the rest is cut in the same way. -/
theorem chunks_of_ne_nil {size : Nat} (hsize : 0 < size) {bytes : Bytes} (h : bytes ≠ []) :
    chunks size bytes = bytes.take size :: chunks size (bytes.drop size) := by
  obtain ⟨b, rest, rfl⟩ := List.exists_cons_of_ne_nil h
  obtain ⟨less, rfl⟩ : ∃ less, size = less + 1 := ⟨size - 1, by omega⟩
  rw [chunks, Nat.add_sub_cancel, List.take_succ_cons, List.drop_succ_cons]

/-! ## 3. Hexadecimal text -/

/-- The two lower-case hexadecimal digits of a byte. -/
def hexPair (b : UInt8) : List Char :=
  [Nat.digitChar (b.toNat / 16), Nat.digitChar (b.toNat % 16)]

/-- The bytes in lower-case hexadecimal, two digits each. -/
def hex (bytes : Bytes) : String :=
  String.ofList (bytes.flatMap hexPair)

end Bytes

end RemoteFiles
