import Mathlib.Data.List.Forall2
import RemoteFiles.Text.Utf8

/-!
# Reading UTF-8 undoes writing it

`Utf8.decode?` reads by a table of first bytes, `Utf8.encode` writes by arithmetic on the number of
a character. This file proves the two to be inverse to each other.

* `encodeChar_of_fits` and `fits_encodeChar` -- the bytes that the table admits after a first byte
  are the bytes of one character, and every character's bytes are admitted;
* `decode?_encode`, `encode_of_decode?` -- what is written is read back, and what can be read is
  what would be written;
* `decode?_isSome_iff` -- a string of bytes can be read if it is valid UTF-8 as the core library
  defines it.
-/

namespace RemoteFiles

namespace Utf8

/-! ## 1. The bytes after a first byte -/

/-- The bytes after a first byte are as many as it asks for, each within its bounds. -/
def Fits (tails : List Bounds) (bytes : Bytes) : Prop :=
  List.Forall₂ (fun bounds b => bounds.holds b = true) tails bytes

/-- The bits that have been carried so far, and those of the bytes that follow. -/
def assemble (bits : Nat) (bytes : Bytes) : Nat :=
  bytes.foldl (fun n b => n * 64 + b.toNat % 64) bits

theorem holds_iff {bounds : Bounds} {b : UInt8} :
    bounds.holds b = true ↔ bounds.low.toNat ≤ b.toNat ∧ b.toNat ≤ bounds.high.toNat := by
  simp [Bounds.holds, UInt8.le_iff_toNat_le]

/-- What fits is taken, whatever follows it. -/
theorem continueWith_append {tails : List Bounds} {bytes : Bytes} (h : Fits tails bytes)
    (seen : Bytes) (bits : Nat) (rest : Bytes) :
    continueWith seen bits tails (bytes ++ rest) =
      (.scalar (Char.ofNat (assemble bits bytes)), rest) := by
  induction h generalizing seen bits with
  | nil => simp [continueWith, assemble]
  | cons hb _ ih =>
    rw [List.cons_append, continueWith, if_pos hb, ih]
    rfl

/-- A character is only found where the bytes fit. -/
theorem fits_of_continueWith {seen : Bytes} {bits : Nat} {tails : List Bounds} {rest left : Bytes}
    {c : Char} (h : continueWith seen bits tails rest = (.scalar c, left)) :
    ∃ bytes, Fits tails bytes ∧ rest = bytes ++ left ∧ c = Char.ofNat (assemble bits bytes) := by
  induction tails generalizing seen bits rest with
  | nil =>
    simp only [continueWith, Prod.mk.injEq, Piece.scalar.injEq] at h
    exact ⟨[], .nil, h.2, h.1.symm⟩
  | cons bounds tails ih =>
    cases rest with
    | nil => simp [continueWith] at h
    | cons b rest =>
      rw [continueWith] at h
      split at h
      · rename_i hb
        obtain ⟨bytes, hfits, hrest, hc⟩ := ih h
        exact ⟨b :: bytes, .cons hb hfits, by rw [hrest, List.cons_append], hc⟩
      · simp at h

/-! ## 2. The table of first bytes against the arithmetic of characters -/

theorem ofNat_eq_of_mod_eq {n : Nat} {b : UInt8} (h : n % 256 = b.toNat) : UInt8.ofNat n = b := by
  apply UInt8.toNat_inj.mp
  simpa using h

theorem toNat_ofNat_of_valid {n : Nat} (h : n.isValidChar) : (Char.ofNat n).val.toNat = n := by
  rw [Char.ofNat, dif_pos h]
  rfl

theorem encodeChar_one {b : UInt8} (h : b.toNat < 0x80) :
    String.utf8EncodeChar (Char.ofNat b.toNat) = [b] := by
  have hval := toNat_ofNat_of_valid (n := b.toNat) (Or.inl (by omega))
  rw [String.utf8EncodeChar, hval, if_pos (by omega), UInt8.ofNat_toNat]

theorem encodeChar_two {b p : UInt8} (h : 0xC2 ≤ b.toNat ∧ b.toNat < 0xE0)
    (h₁ : 0x80 ≤ p.toNat ∧ p.toNat ≤ 0xBF) :
    String.utf8EncodeChar (Char.ofNat (b.toNat % 32 * 64 + p.toNat % 64)) = [b, p] := by
  have hval := toNat_ofNat_of_valid (n := b.toNat % 32 * 64 + p.toNat % 64) (Or.inl (by omega))
  rw [String.utf8EncodeChar, hval, if_neg (by omega), if_pos (by omega),
    ofNat_eq_of_mod_eq (b := b) (by omega), ofNat_eq_of_mod_eq (b := p) (by omega)]

theorem encodeChar_three {b p q : UInt8} (h : 0xE0 ≤ b.toNat ∧ b.toNat < 0xF0)
    (h₁ : 0x80 ≤ p.toNat ∧ p.toNat ≤ 0xBF) (h₂ : 0x80 ≤ q.toNat ∧ q.toNat ≤ 0xBF)
    (hlong : b.toNat = 0xE0 → 0xA0 ≤ p.toNat) (hsurrogate : b.toNat = 0xED → p.toNat ≤ 0x9F) :
    String.utf8EncodeChar
      (Char.ofNat ((b.toNat % 16 * 64 + p.toNat % 64) * 64 + q.toNat % 64)) = [b, p, q] := by
  have hvalid : Nat.isValidChar ((b.toNat % 16 * 64 + p.toNat % 64) * 64 + q.toNat % 64) := by
    unfold Nat.isValidChar
    omega
  rw [String.utf8EncodeChar, toNat_ofNat_of_valid hvalid, if_neg (by omega), if_neg (by omega),
    if_pos (by omega), ofNat_eq_of_mod_eq (b := b) (by omega),
    ofNat_eq_of_mod_eq (b := p) (by omega), ofNat_eq_of_mod_eq (b := q) (by omega)]

theorem encodeChar_four {b p q r : UInt8} (h : 0xF0 ≤ b.toNat ∧ b.toNat ≤ 0xF4)
    (h₁ : 0x80 ≤ p.toNat ∧ p.toNat ≤ 0xBF) (h₂ : 0x80 ≤ q.toNat ∧ q.toNat ≤ 0xBF)
    (h₃ : 0x80 ≤ r.toNat ∧ r.toNat ≤ 0xBF) (hlong : b.toNat = 0xF0 → 0x90 ≤ p.toNat)
    (hplane : b.toNat = 0xF4 → p.toNat ≤ 0x8F) :
    String.utf8EncodeChar (Char.ofNat
      (((b.toNat % 8 * 64 + p.toNat % 64) * 64 + q.toNat % 64) * 64 + r.toNat % 64)) =
      [b, p, q, r] := by
  have hvalid : Nat.isValidChar
      (((b.toNat % 8 * 64 + p.toNat % 64) * 64 + q.toNat % 64) * 64 + r.toNat % 64) := by
    unfold Nat.isValidChar
    omega
  rw [String.utf8EncodeChar, toNat_ofNat_of_valid hvalid, if_neg (by omega), if_neg (by omega),
    if_neg (by omega), ofNat_eq_of_mod_eq (b := b) (by omega),
    ofNat_eq_of_mod_eq (b := p) (by omega), ofNat_eq_of_mod_eq (b := q) (by omega),
    ofNat_eq_of_mod_eq (b := r) (by omega)]

theorem fits_nil_iff {bytes : Bytes} : Fits [] bytes ↔ bytes = [] := List.forall₂_nil_left_iff

theorem fits_cons_iff {bounds : Bounds} {tails : List Bounds} {bytes : Bytes} :
    Fits (bounds :: tails) bytes ↔
      ∃ b rest, (bounds.low.toNat ≤ b.toNat ∧ b.toNat ≤ bounds.high.toNat) ∧ Fits tails rest ∧
        bytes = b :: rest := by
  unfold Fits
  rw [List.forall₂_cons_left_iff]
  simp only [holds_iff]

/-- **What the table admits after a first byte is the rest of one character.** -/
theorem encodeChar_of_fits {b : UInt8} {lead : Lead} {bytes : Bytes} (h : leadOf b = some lead)
    (hfits : Fits lead.tails bytes) :
    String.utf8EncodeChar (Char.ofNat (assemble lead.bits bytes)) = b :: bytes := by
  simp only [leadOf, UInt8.lt_iff_toNat_lt, ← UInt8.toNat_inj, UInt8.reduceToNat] at h
  have hlt := b.toNat_lt
  split_ifs at h with h80 hC2 hE0 heE0 heED hF0 heF0 hF4 heF4 <;>
    simp only [Option.some.injEq] at h <;> subst h <;>
    simp only [fits_cons_iff, fits_nil_iff, anyTail, UInt8.reduceToNat] at hfits
  -- the rows of the table in order: one byte, two, three from 0xE0, three from 0xED, other threes,
  -- four from 0xF0, other fours, four from 0xF4
  · subst hfits
    exact encodeChar_one h80
  · obtain ⟨p, _, h₁, rfl, rfl⟩ := hfits
    exact encodeChar_two ⟨by omega, hE0⟩ h₁
  · obtain ⟨p, _, h₁, ⟨q, _, h₂, rfl, rfl⟩, rfl⟩ := hfits
    have hbits : b.toNat % 16 = 0 := by omega
    have := encodeChar_three (b := b) (p := p) (by omega) (by omega) h₂ (by omega) (by omega)
    rwa [hbits] at this
  · obtain ⟨p, _, h₁, ⟨q, _, h₂, rfl, rfl⟩, rfl⟩ := hfits
    have hbits : b.toNat % 16 = 13 := by omega
    have := encodeChar_three (b := b) (p := p) (by omega) (by omega) h₂ (by omega) (by omega)
    rwa [hbits] at this
  · obtain ⟨p, _, h₁, ⟨q, _, h₂, rfl, rfl⟩, rfl⟩ := hfits
    exact encodeChar_three (by omega) h₁ h₂ (by omega) (by omega)
  · obtain ⟨p, _, h₁, ⟨q, _, h₂, ⟨r, _, h₃, rfl, rfl⟩, rfl⟩, rfl⟩ := hfits
    have hbits : b.toNat % 8 = 0 := by omega
    have := encodeChar_four (b := b) (p := p) (by omega) (by omega) h₂ h₃ (by omega) (by omega)
    rwa [hbits] at this
  · obtain ⟨p, _, h₁, ⟨q, _, h₂, ⟨r, _, h₃, rfl, rfl⟩, rfl⟩, rfl⟩ := hfits
    exact encodeChar_four (by omega) h₁ h₂ h₃ (by omega) (by omega)
  · obtain ⟨p, _, h₁, ⟨q, _, h₂, ⟨r, _, h₃, rfl, rfl⟩, rfl⟩, rfl⟩ := hfits
    have hbits : b.toNat % 8 = 4 := by omega
    have := encodeChar_four (b := b) (p := p) (by omega) (by omega) h₂ h₃ (by omega) (by omega)
    rwa [hbits] at this

/-- The first byte of two. -/
theorem leadOf_two {b : UInt8} (h : 0xC2 ≤ b.toNat ∧ b.toNat < 0xE0) :
    leadOf b = some ⟨b.toNat % 32, [anyTail]⟩ := by
  simp only [leadOf, UInt8.lt_iff_toNat_lt, UInt8.reduceToNat]
  rw [if_neg (by omega), if_neg (by omega), if_pos (by omega)]

/-- The first byte of three: the second is narrowed for overlong forms and surrogates only. -/
theorem leadOf_three {b p : UInt8} (h : 0xE0 ≤ b.toNat ∧ b.toNat < 0xF0)
    (h₁ : 0x80 ≤ p.toNat ∧ p.toNat ≤ 0xBF) (hlong : b.toNat = 0xE0 → 0xA0 ≤ p.toNat)
    (hsurrogate : b.toNat = 0xED → p.toNat ≤ 0x9F) :
    ∃ second, leadOf b = some ⟨b.toNat % 16, [second, anyTail]⟩ ∧ second.holds p = true := by
  simp only [leadOf, UInt8.lt_iff_toNat_lt, ← UInt8.toNat_inj, UInt8.reduceToNat]
  rw [if_neg (by omega), if_neg (by omega), if_neg (by omega)]
  split_ifs with hE0 hED
  · exact ⟨⟨0xA0, 0xBF⟩, by rw [hE0], holds_iff.mpr ⟨hlong hE0, h₁.2⟩⟩
  · exact ⟨⟨0x80, 0x9F⟩, by rw [hED], holds_iff.mpr ⟨h₁.1, hsurrogate hED⟩⟩
  · exact ⟨_, rfl, holds_iff.mpr h₁⟩
  all_goals omega

/-- The first byte of four: the second is narrowed for overlong forms and the last plane only. -/
theorem leadOf_four {b p : UInt8} (h : 0xF0 ≤ b.toNat ∧ b.toNat ≤ 0xF4)
    (h₁ : 0x80 ≤ p.toNat ∧ p.toNat ≤ 0xBF) (hlong : b.toNat = 0xF0 → 0x90 ≤ p.toNat)
    (hplane : b.toNat = 0xF4 → p.toNat ≤ 0x8F) :
    ∃ second, leadOf b = some ⟨b.toNat % 8, [second, anyTail, anyTail]⟩ ∧
      second.holds p = true := by
  simp only [leadOf, UInt8.lt_iff_toNat_lt, ← UInt8.toNat_inj, UInt8.reduceToNat]
  rw [if_neg (by omega), if_neg (by omega), if_neg (by omega), if_neg (by omega),
    if_neg (by omega), if_neg (by omega)]
  split_ifs with hF0 hlow hF4
  · exact ⟨⟨0x90, 0xBF⟩, by rw [hF0], holds_iff.mpr ⟨hlong hF0, h₁.2⟩⟩
  · exact ⟨_, rfl, holds_iff.mpr h₁⟩
  · exact ⟨⟨0x80, 0x8F⟩, by rw [hF4], holds_iff.mpr ⟨h₁.1, hplane hF4⟩⟩
  · omega

theorem toNat_ofNat {n : Nat} (h : n < 256) : (UInt8.ofNat n).toNat = n :=
  UInt8.toNat_ofNat_of_lt' h

/-- A byte that carries six bits of a character. -/
theorem anyTail_holds (n : Nat) : anyTail.holds (UInt8.ofNat (n % 64 + 128)) = true := by
  rw [holds_iff, toNat_ofNat (by omega)]
  simp only [anyTail, UInt8.reduceToNat]
  omega

/-- **Every character's bytes are a first byte and what the table admits after it.** -/
theorem fits_encodeChar (c : Char) :
    ∃ b bytes lead, String.utf8EncodeChar c = b :: bytes ∧ leadOf b = some lead ∧
      Fits lead.tails bytes ∧ assemble lead.bits bytes = c.toNat := by
  have hvalid : Nat.isValidChar c.val.toNat := c.valid
  unfold Nat.isValidChar at hvalid
  show ∃ b bytes lead, _ ∧ _ ∧ _ ∧ _ = c.val.toNat
  rw [String.utf8EncodeChar]
  generalize c.val.toNat = n at hvalid ⊢
  split_ifs with h1 h2 h3
  · have hb := toNat_ofNat (n := n) (by omega)
    refine ⟨_, _, ⟨n, []⟩, rfl, ?_, .nil, rfl⟩
    rw [leadOf, if_pos (UInt8.lt_iff_toNat_lt.mpr (by rw [hb]; exact Nat.lt_succ_of_le h1)), hb]
  · have hb := toNat_ofNat (n := n / 64 % 0x20 + 0xc0) (by omega)
    have hb₁ := toNat_ofNat (n := n % 0x40 + 0x80) (by omega)
    refine ⟨_, _, _, rfl, leadOf_two (by rw [hb]; omega), .cons (anyTail_holds n) .nil, ?_⟩
    simp only [assemble, List.foldl_cons, List.foldl_nil, hb, hb₁]
    omega
  · have hb := toNat_ofNat (n := n / 4096 % 0x10 + 0xe0) (by omega)
    have hb₁ := toNat_ofNat (n := n / 64 % 0x40 + 0x80) (by omega)
    have hb₂ := toNat_ofNat (n := n % 0x40 + 0x80) (by omega)
    obtain ⟨second, hlead, hsecond⟩ := leadOf_three
      (b := UInt8.ofNat (n / 4096 % 0x10 + 0xe0)) (p := UInt8.ofNat (n / 64 % 0x40 + 0x80))
      (by rw [hb]; omega) (by rw [hb₁]; omega) (by rw [hb, hb₁]; omega) (by rw [hb, hb₁]; omega)
    refine ⟨_, _, _, rfl, hlead, .cons hsecond (.cons (anyTail_holds n) .nil), ?_⟩
    simp only [assemble, List.foldl_cons, List.foldl_nil, hb, hb₁, hb₂]
    omega
  · have hb := toNat_ofNat (n := n / 262144 % 0x08 + 0xf0) (by omega)
    have hb₁ := toNat_ofNat (n := n / 4096 % 0x40 + 0x80) (by omega)
    have hb₂ := toNat_ofNat (n := n / 64 % 0x40 + 0x80) (by omega)
    have hb₃ := toNat_ofNat (n := n % 0x40 + 0x80) (by omega)
    obtain ⟨second, hlead, hsecond⟩ := leadOf_four
      (b := UInt8.ofNat (n / 262144 % 0x08 + 0xf0)) (p := UInt8.ofNat (n / 4096 % 0x40 + 0x80))
      (by rw [hb]; omega) (by rw [hb₁]; omega) (by rw [hb, hb₁]; omega) (by rw [hb, hb₁]; omega)
    refine ⟨_, _, _, rfl, hlead,
      .cons hsecond (.cons (anyTail_holds (n / 64)) (.cons (anyTail_holds n) .nil)), ?_⟩
    simp only [assemble, List.foldl_cons, List.foldl_nil, hb, hb₁, hb₂, hb₃]
    omega

/-! ## 3. Characters and whole texts -/

/-- The piece at the front of a character's bytes is the character. -/
theorem pieces_encodeChar_append (c : Char) (rest : Bytes) :
    pieces (String.utf8EncodeChar c ++ rest) = .scalar c :: pieces rest := by
  obtain ⟨b, bytes, lead, henc, hlead, hfits, hvalue⟩ := fits_encodeChar c
  have hpiece : piece b (bytes ++ rest) = (.scalar c, rest) := by
    rw [piece, hlead]
    simp only
    rw [continueWith_append hfits, hvalue, Char.ofNat_toNat]
  rw [henc, List.cons_append, pieces, hpiece]

/-- A piece that is a character is read off that character's bytes. -/
theorem eq_append_of_piece {b : UInt8} {rest left : Bytes} {c : Char}
    (h : piece b rest = (.scalar c, left)) : b :: rest = String.utf8EncodeChar c ++ left := by
  unfold piece at h
  split at h
  · rename_i lead hlead
    obtain ⟨bytes, hfits, rfl, rfl⟩ := fits_of_continueWith h
    rw [encodeChar_of_fits hlead hfits, List.cons_append]
  · simp at h

/-- Texts in a row are written in a row. -/
theorem encode_append (front back : String) :
    encode (front ++ back) = encode front ++ encode back := by
  rw [encode, String.toList_append, List.flatMap_append]
  rfl

/-- The pieces of a text's bytes are its characters. -/
theorem pieces_encode (text : String) : pieces (encode text) = text.toList.map .scalar := by
  unfold encode
  induction text.toList with
  | nil => rw [List.flatMap_nil, pieces, List.map_nil]
  | cons c chars ih => rw [List.flatMap_cons, pieces_encodeChar_append, ih, List.map_cons]

/-- Pieces are a text if they are its characters. -/
theorem mapM_scalar?_eq_some_iff {found : List Piece} {chars : List Char} :
    found.mapM Piece.scalar? = some chars ↔ found = chars.map .scalar := by
  induction found generalizing chars with
  | nil => cases chars <;> simp
  | cons first found ih =>
    cases first with
    | broken bytes => cases chars <;> simp [Piece.scalar?]
    | scalar c =>
      rw [List.mapM_cons]
      cases chars with
      | nil => simp [Piece.scalar?, Option.bind_eq_some_iff]
      | cons d chars => simp [Piece.scalar?, Option.bind_eq_some_iff, ih, and_comm]

theorem decode?_eq_some_iff_pieces {bytes : Bytes} {text : String} :
    decode? bytes = some text ↔ pieces bytes = text.toList.map .scalar := by
  rw [decode?, Option.map_eq_some_iff]
  constructor
  · rintro ⟨chars, hchars, rfl⟩
    rw [String.toList_ofList]
    exact mapM_scalar?_eq_some_iff.mp hchars
  · intro h
    exact ⟨text.toList, mapM_scalar?_eq_some_iff.mpr h, String.ofList_toList⟩

/-- **What is written is read back.** -/
theorem decode?_encode (text : String) : decode? (encode text) = some text :=
  decode?_eq_some_iff_pieces.mpr (pieces_encode text)

/-- Bytes whose pieces are characters are the bytes of these characters. -/
theorem eq_flatMap_of_pieces (chars : List Char) (bytes : Bytes)
    (h : pieces bytes = chars.map .scalar) : bytes = chars.flatMap String.utf8EncodeChar := by
  induction chars generalizing bytes with
  | nil =>
    cases bytes with
    | nil => rfl
    | cons b rest => simp [pieces] at h
  | cons c chars ih =>
    cases bytes with
    | nil => simp [pieces] at h
    | cons b rest =>
      rw [pieces, List.map_cons, List.cons.injEq] at h
      rw [List.flatMap_cons, ← ih _ h.2]
      exact eq_append_of_piece (Prod.ext h.1 rfl)

/-- **What can be read is what would be written.** -/
theorem encode_of_decode? {bytes : Bytes} {text : String} (h : decode? bytes = some text) :
    encode text = bytes :=
  (eq_flatMap_of_pieces _ _ (decode?_eq_some_iff_pieces.mp h)).symm

theorem decode?_eq_some_iff {bytes : Bytes} {text : String} :
    decode? bytes = some text ↔ encode text = bytes :=
  ⟨encode_of_decode?, fun h => h ▸ decode?_encode text⟩

/-- **Bytes can be read exactly if they are valid UTF-8.** -/
theorem decode?_isSome_iff {bytes : Bytes} :
    (decode? bytes).isSome = true ↔ ByteArray.IsValidUTF8 bytes.toByteArray := by
  rw [Option.isSome_iff_exists]
  constructor
  · rintro ⟨text, h⟩
    exact ⟨text.toList, by rw [← encode_of_decode? h]; rfl⟩
  · rintro ⟨chars, h⟩
    refine ⟨.ofList chars, decode?_eq_some_iff.mpr ?_⟩
    rw [encode, String.toList_ofList]
    exact (List.toByteArray_inj.mp h).symm

end Utf8

end RemoteFiles
