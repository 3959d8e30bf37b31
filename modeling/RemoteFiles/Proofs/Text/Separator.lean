import RemoteFiles.Proofs.Text.Utf8

/-!
# Separators

A path is cut at slashes, a listing at line ends and colons. All of these are ASCII, and an ASCII
byte is a character of its own wherever it stands: it belongs to no longer character and to no broken
part. So the separators of a text are those of its bytes.

* `not_mem_of_mem_splitOn`, `splitOn_flatMap_concat`, `flatMap_splitOn_concat` -- between two
  separators there is none; parts that are ended by separators are cut out again, and what has been
  cut is put together again;
* `Utf8.pieces_append_ascii` -- the pieces before an ASCII byte and those behind it do not depend on
  each other;
* `Utf8.mem_decodeLossy_iff` -- a text shows an ASCII character exactly if its bytes hold it.
-/

namespace RemoteFiles

/-! ## 1. Cutting -/

/-- **What lies between separators holds none.** -/
theorem not_mem_of_mem_splitOn {α : Type} [BEq α] [LawfulBEq α] {separator : α}
    {whole part : List α} (h : part ∈ whole.splitOn separator) : separator ∉ part := by
  induction whole generalizing part with
  | nil =>
    rw [List.splitOn_nil, List.mem_singleton] at h
    rw [h]
    exact List.not_mem_nil
  | cons first whole ih =>
    rw [List.splitOn_cons_eq_if_modifyHead] at h
    by_cases hfirst : (first == separator) = true
    · rw [if_pos hfirst] at h
      rcases List.mem_cons.mp h with rfl | hlater
      · exact List.not_mem_nil
      · exact ih hlater
    · rw [if_neg hfirst] at h
      cases hparts : whole.splitOn separator with
      | nil => exact absurd hparts (List.splitOn_ne_nil separator whole)
      | cons head later =>
        rw [hparts] at h ih
        rcases List.mem_cons.mp h with rfl | hlater
        · rw [List.mem_cons, not_or]
          exact ⟨fun heq => hfirst (beq_iff_eq.mpr heq.symm), ih List.mem_cons_self⟩
        · exact ih (List.mem_cons_of_mem head hlater)

/-- **Parts that are ended by a separator each** are cut out again, and nothing is left behind the
    last one. -/
theorem splitOn_flatMap_concat {α : Type} [BEq α] [LawfulBEq α] {separator : α}
    {parts : List (List α)} (h : ∀ part ∈ parts, separator ∉ part) :
    (parts.flatMap fun part => part ++ [separator]).splitOn separator = parts ++ [[]] := by
  induction parts with
  | nil => exact List.splitOn_nil separator
  | cons part parts ih =>
    have hlater := ih fun other hmem => h other (List.mem_cons_of_mem part hmem)
    rw [List.flatMap_cons, List.append_assoc, List.singleton_append,
      List.splitOn_append_cons_self_of_not_mem (h part List.mem_cons_self), hlater,
      List.cons_append]

/-- **What is cut at separators is put together again**, one separator behind each part. -/
theorem flatMap_splitOn_concat {α : Type} [BEq α] [LawfulBEq α] (separator : α)
    (whole : List α) :
    ((whole.splitOn separator).flatMap fun part => part ++ [separator]) =
      whole ++ [separator] := by
  induction whole with
  | nil => rw [List.splitOn_nil]; rfl
  | cons first whole ih =>
    rw [List.splitOn_cons_eq_if_modifyHead]
    by_cases hfirst : (first == separator) = true
    · rw [if_pos hfirst, List.flatMap_cons, ih, beq_iff_eq.mp hfirst]
      rfl
    · rw [if_neg hfirst]
      cases hparts : whole.splitOn separator with
      | nil => exact absurd hparts (List.splitOn_ne_nil separator whole)
      | cons head later =>
        rw [hparts, List.flatMap_cons] at ih
        rw [List.modifyHead_cons, List.flatMap_cons, List.cons_append, List.cons_append, ih]
        rfl

/-! ## 2. ASCII bytes -/

namespace Utf8

variable {a : UInt8}

/-- No byte after a first byte is ASCII. -/
theorem low_of_leadOf {b : UInt8} {lead : Lead} {bounds : Bounds} (h : leadOf b = some lead)
    (hmem : bounds ∈ lead.tails) : 0x80 ≤ bounds.low.toNat := by
  unfold leadOf at h
  split_ifs at h <;> cases h <;> simp only [anyTail, List.mem_cons, List.not_mem_nil, or_false]
    at hmem <;> rcases hmem with rfl | rfl | rfl <;> decide

/-- A character is not gone on with beyond an ASCII byte. -/
theorem continueWith_append_ascii {tails : List Bounds}
    (htails : ∀ bounds ∈ tails, 0x80 ≤ bounds.low.toNat) (ha : a < 0x80) (seen : Bytes)
    (bits : Nat) (front back : Bytes) :
    continueWith seen bits tails (front ++ a :: back) =
      ((continueWith seen bits tails front).1,
        (continueWith seen bits tails front).2 ++ a :: back) := by
  fun_induction continueWith seen bits tails front with
  | case1 => rw [continueWith]
  | case2 seen bits bounds tails b rest hb ih =>
    rw [List.cons_append, continueWith, if_pos hb]
    exact ih fun bounds hmem => htails bounds (List.mem_cons_of_mem _ hmem)
  | case3 seen bits bounds tails b rest hb =>
    rw [List.cons_append, continueWith, if_neg hb]
  | case4 seen bits bounds tails =>
    have hlow := htails bounds List.mem_cons_self
    have hout : ¬ bounds.holds a = true := by
      rw [holds_iff]
      have hsmall : a.toNat < 0x80 := UInt8.lt_iff_toNat_lt.mp ha
      omega
    rw [List.nil_append, continueWith, if_neg hout]

theorem piece_append_ascii (ha : a < 0x80) (b : UInt8) (front back : Bytes) :
    piece b (front ++ a :: back) = ((piece b front).1, (piece b front).2 ++ a :: back) := by
  unfold piece
  cases hlead : leadOf b with
  | none => rfl
  | some lead =>
    exact continueWith_append_ascii (fun bounds hmem => low_of_leadOf hlead hmem) ha _ _ _ _

/-- **An ASCII byte is a character of its own**, whatever comes before it and after it. -/
theorem pieces_append_ascii (ha : a < 0x80) (front back : Bytes) :
    pieces (front ++ a :: back) =
      pieces front ++ .scalar (Char.ofNat a.toNat) :: pieces back := by
  fun_induction pieces front with
  | case1 =>
    have hpiece : piece a back = (.scalar (Char.ofNat a.toNat), back) := by
      rw [piece, leadOf, if_pos ha]
      simp only [continueWith]
    rw [List.nil_append, pieces, hpiece, List.nil_append]
  | case2 b rest ih =>
    rw [List.cons_append, pieces, piece_append_ascii ha, ih, List.cons_append]

theorem suffix_continueWith (seen : Bytes) (bits : Nat) (tails : List Bounds) (rest : Bytes) :
    (continueWith seen bits tails rest).2 <:+ rest := by
  fun_induction continueWith seen bits tails rest with
  | case1 => exact List.suffix_rfl
  | case2 seen bits bounds tails b rest hb ih => exact ih.trans (List.suffix_cons b rest)
  | case3 => exact List.suffix_rfl
  | case4 => exact List.suffix_rfl

theorem suffix_piece (b : UInt8) (rest : Bytes) : (piece b rest).2 <:+ rest := by
  unfold piece
  split
  · exact suffix_continueWith _ _ _ _
  · exact List.suffix_rfl

/-- An ASCII character is found only where its byte is. -/
theorem mem_of_scalar_mem_pieces (ha : a < 0x80) {bytes : Bytes}
    (h : .scalar (Char.ofNat a.toNat) ∈ pieces bytes) : a ∈ bytes := by
  fun_induction pieces bytes with
  | case1 => cases h
  | case2 b rest ih =>
    rcases List.mem_cons.mp h with hfirst | hlater
    · have hbytes := eq_append_of_piece (Prod.ext hfirst.symm rfl)
      rw [encodeChar_one (UInt8.lt_iff_toNat_lt.mp ha)] at hbytes
      rw [hbytes]
      exact List.mem_cons_self
    · exact List.mem_cons_of_mem b ((suffix_piece b rest).mem (ih hlater))

/-- **A text shows an ASCII character exactly if its bytes hold it**, broken parts or not. -/
theorem mem_decodeLossy_iff (ha : a < 0x80) {bytes : Bytes} :
    Char.ofNat a.toNat ∈ (decodeLossy bytes).toList ↔ a ∈ bytes := by
  rw [decodeLossy, String.toList_ofList, List.mem_map]
  constructor
  · rintro ⟨found, hfound, hshown⟩
    cases found with
    | scalar c =>
      obtain rfl : c = Char.ofNat a.toNat := hshown
      exact mem_of_scalar_mem_pieces ha hfound
    | broken bytes =>
      have hsmall : a.toNat < 0x80 := UInt8.lt_iff_toNat_lt.mp ha
      have hnumber : 0xFFFD = (Char.ofNat a.toNat).val.toNat :=
        congrArg (fun c : Char => c.val.toNat) hshown
      rw [toNat_ofNat_of_valid (Or.inl (by omega))] at hnumber
      omega
  · intro hmem
    obtain ⟨front, back, rfl⟩ := List.append_of_mem hmem
    refine ⟨.scalar (Char.ofNat a.toNat), ?_, rfl⟩
    rw [pieces_append_ascii ha]
    exact List.mem_append_right _ List.mem_cons_self

end Utf8

end RemoteFiles
