import RemoteFiles.Bytes

/-!
# Text as UTF-8

Names, messages and listings arrive as bytes. Some must be text (`decode?`), the others are shown
as text whatever they hold (`decodeLossy`). Both read the same `pieces`:

* a piece is a character or a maximal broken part -- a byte that starts nothing, or the start of a
  character up to the first byte that does not continue it;
* `leadOf` is the whole table of what may start a character, and of the bounds of the bytes that
  follow;
* no byte is skipped: a piece takes at least the byte it starts with (`length_piece_le`).
-/

namespace RemoteFiles

namespace Utf8

/-! ## 1. Writing -/

/-- The UTF-8 form of a text. -/
def encode (text : String) : Bytes :=
  text.toList.flatMap String.utf8EncodeChar

/-! ## 2. One character or one broken part -/

/-- What stands at the front of a string of bytes. -/
inductive Piece where
  /-- A whole character. -/
  | scalar (c : Char)
  /-- Bytes that are no character, and that no longer part of the input belongs to. -/
  | broken (bytes : Bytes)
  deriving DecidableEq, Repr

/-- The bounds of the byte that comes next in a character. -/
structure Bounds where
  low : UInt8
  high : UInt8
  deriving DecidableEq, Repr

/-- A byte is within the bounds, ends included. -/
def Bounds.holds (bounds : Bounds) (b : UInt8) : Bool :=
  bounds.low ≤ b && b ≤ bounds.high

/-- The bounds of a continuation byte that the bytes before it do not narrow. -/
def anyTail : Bounds := ⟨0x80, 0xBF⟩

/-- What a first byte says: the bits it carries, and the bounds of each byte to follow. The bounds
    of the second byte shut out overlong forms, surrogates and what lies beyond the last plane. -/
structure Lead where
  bits : Nat
  tails : List Bounds
  deriving DecidableEq, Repr

/-- The first byte of a character; `none` if no character starts with it. -/
def leadOf (b : UInt8) : Option Lead :=
  if b < 0x80 then some ⟨b.toNat, []⟩
  else if b < 0xC2 then none
  else if b < 0xE0 then some ⟨b.toNat % 32, [anyTail]⟩
  else if b = 0xE0 then some ⟨0, [⟨0xA0, 0xBF⟩, anyTail]⟩
  else if b = 0xED then some ⟨13, [⟨0x80, 0x9F⟩, anyTail]⟩
  else if b < 0xF0 then some ⟨b.toNat % 16, [anyTail, anyTail]⟩
  else if b = 0xF0 then some ⟨0, [⟨0x90, 0xBF⟩, anyTail, anyTail]⟩
  else if b < 0xF4 then some ⟨b.toNat % 8, [anyTail, anyTail, anyTail]⟩
  else if b = 0xF4 then some ⟨4, [⟨0x80, 0x8F⟩, anyTail, anyTail]⟩
  else none

/-- Goes on with a character of which `seen` has been read, carrying `bits`. Answers the piece and
    what comes after it. -/
def continueWith (seen : Bytes) (bits : Nat) : List Bounds → Bytes → Piece × Bytes
  | [], rest => (.scalar (Char.ofNat bits), rest)
  | bounds :: tails, b :: rest =>
    if bounds.holds b then continueWith (seen ++ [b]) (bits * 64 + b.toNat % 64) tails rest
    else (.broken seen, b :: rest)
  | _ :: _, [] => (.broken seen, [])

/-- The piece that starts with byte `b`, and what comes after it. -/
def piece (b : UInt8) (rest : Bytes) : Piece × Bytes :=
  match leadOf b with
  | some lead => continueWith [b] lead.bits lead.tails rest
  | none => (.broken [b], rest)

theorem length_continueWith_le (seen : Bytes) (bits : Nat) (tails : List Bounds) (rest : Bytes) :
    (continueWith seen bits tails rest).2.length ≤ rest.length := by
  fun_induction continueWith seen bits tails rest with
  | case1 => simp
  | case2 seen bits bounds tails b rest hb ih => simp; omega
  | case3 => simp
  | case4 => simp

/-- **A piece takes at least the byte it starts with.** -/
theorem length_piece_le (b : UInt8) (rest : Bytes) : (piece b rest).2.length ≤ rest.length := by
  unfold piece
  split
  · exact length_continueWith_le _ _ _ _
  · simp

/-! ## 3. The whole input -/

/-- The input as characters and maximal broken parts, in order. -/
def pieces : Bytes → List Piece
  | [] => []
  | b :: rest => (piece b rest).1 :: pieces (piece b rest).2
  termination_by bytes => bytes.length
  decreasing_by
    have := length_piece_le b rest
    simp; omega

/-- The character a piece is, if it is one. -/
def Piece.scalar? : Piece → Option Char
  | .scalar c => some c
  | .broken _ => none

/-- The replacement character U+FFFD. -/
def replacement : Char := '\uFFFD'

/-- The character that stands for a piece when every input must give text. -/
def Piece.shown : Piece → Char
  | .scalar c => c
  | .broken _ => replacement

/-- The text that the bytes spell; `none` if a part of them is broken. -/
def decode? (bytes : Bytes) : Option String :=
  ((pieces bytes).mapM Piece.scalar?).map String.ofList

/-- The text that the bytes spell, each maximal broken part replaced by one U+FFFD. -/
def decodeLossy (bytes : Bytes) : String :=
  String.ofList ((pieces bytes).map Piece.shown)

end Utf8

end RemoteFiles
