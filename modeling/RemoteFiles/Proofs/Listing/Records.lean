import RemoteFiles.Listing.Basic
import RemoteFiles.Proofs.Step
import RemoteFiles.Proofs.Text.Separator

/-!
# Records, written and read

A record has two colons of its own, and a tag and a size hold none; so a line is read as a record
in one way only. Its name is all that stands behind the second colon.

* `parseSize_eq_ok_iff`, `parseRecord_eq_ok_iff` -- the sizes and the records that are read: digits
  and what number they write, and lines that spell an entry;
* `parse_join_render` -- a listing is cut into lines before any record is looked at, so it is read
  back if no name holds a line end;
* `not_mem_name_of_parse` -- what is read from a listing never has a line end in its name.
-/

namespace RemoteFiles

namespace Decimal

/-! ## 1. Numbers -/

theorem isDigit_of_mem_repr {n : Nat} {c : Char} (h : c ∈ n.repr.toList) : isDigit c = true := by
  rw [Nat.toList_repr] at h
  exact Nat.isDigit_of_mem_toDigits (by decide) (by decide) h

theorem not_mem_repr {c : Char} (h : isDigit c = false) (n : Nat) : c ∉ n.repr.toList :=
  fun hmem => Bool.false_ne_true (h.symm.trans (isDigit_of_mem_repr hmem))

theorem le_ofDigitChars (value : Nat) (digits : List Char) :
    value ≤ Nat.ofDigitChars 10 digits value := by
  rw [Nat.ofDigitChars_eq_ofDigitChars_zero]
  have hpower : 0 < 10 ^ digits.length := Nat.pow_pos (by decide)
  calc value ≤ 10 ^ digits.length * value := Nat.le_mul_of_pos_left value hpower
    _ ≤ 10 ^ digits.length * value + Nat.ofDigitChars 10 digits 0 := Nat.le_add_right _ _

/-- Digits are read as the number they write, if that is below the bound: then so is what has been
    read after each of them. -/
theorem readDigits_of_digits {bound value : Nat} {digits : List Char}
    (hdigits : ∀ c ∈ digits, isDigit c = true) (h : Nat.ofDigitChars 10 digits value < bound) :
    readDigits bound value digits = .ok (Nat.ofDigitChars 10 digits value) := by
  induction digits generalizing value with
  | nil => rw [readDigits, Nat.ofDigitChars_nil]
  | cons c digits ih =>
    have hvalue : 10 * value + (c.toNat - '0'.toNat) = value * 10 + digitValue c := by
      rw [digitValue, Nat.mul_comm]
    rw [Nat.ofDigitChars_cons, hvalue] at h ⊢
    have hread := Nat.lt_of_le_of_lt (le_ofDigitChars _ digits) h
    rw [readDigits, if_pos (hdigits c List.mem_cons_self)]
    exact (if_pos hread).trans (ih (fun d hd => hdigits d (List.mem_cons_of_mem c hd)) h)

/-- What has been read is the number that the digits write. -/
theorem ofDigitChars_of_readDigits {bound value n : Nat} {digits : List Char}
    (h : readDigits bound value digits = .ok n) : Nat.ofDigitChars 10 digits value = n := by
  fun_induction readDigits bound value digits with
  | case1 value =>
    cases h
    exact Nat.ofDigitChars_nil
  | case2 value c rest hc number hnumber ih =>
    have hvalue : 10 * value + (c.toNat - '0'.toNat) = number := by
      rw [Nat.mul_comm]
      rfl
    rw [Nat.ofDigitChars_cons, hvalue]
    exact ih h
  | case3 => cases h
  | case4 => cases h

end Decimal

namespace Listing

/-- **A size is read exactly from the digits that write it**, zeros in front or not. So no digits
    are read as one that write a number too large for a size. -/
theorem parseSize_eq_ok_iff {digits : List Char} {size : UInt64} :
    parseSize digits = .ok size ↔
      digits ≠ [] ∧ (∀ c ∈ digits, Decimal.isDigit c = true) ∧
        Nat.ofDigitChars 10 digits 0 = size.toNat := by
  by_cases hbad : (digits.isEmpty || !digits.all Decimal.isDigit) = true
  · have hfails : parseSize digits = .error (.notANumber (.ofList digits)) := if_pos hbad
    rw [hfails]
    refine ⟨nofun, ?_⟩
    rintro ⟨hnonempty, hdigits, -⟩
    rw [List.isEmpty_eq_false_iff.mpr hnonempty, List.all_eq_true.mpr hdigits] at hbad
    cases hbad
  obtain ⟨hnonempty, hdigits⟩ : digits.isEmpty = false ∧ digits.all Decimal.isDigit = true := by
    simpa using hbad
  rw [parseSize, if_neg hbad]
  constructor
  · intro h
    refine ⟨List.isEmpty_eq_false_iff.mp hnonempty, List.all_eq_true.mp hdigits, ?_⟩
    cases hdecimal : Decimal.readDigits UInt64.size 0 digits with
    | error fault =>
      rw [hdecimal] at h
      cases h
    | ok n =>
      rw [hdecimal] at h
      cases h
      rw [Decimal.ofDigitChars_of_readDigits hdecimal]
      exact (UInt64.toNat_ofNat_of_lt' (Decimal.readDigits_lt (by decide) hdecimal)).symm
  · rintro ⟨-, -, hvalue⟩
    have hsmall : Nat.ofDigitChars 10 digits 0 < UInt64.size := by
      rw [hvalue]
      exact UInt64.toNat_lt_size size
    rw [Decimal.readDigits_of_digits (List.all_eq_true.mp hdigits) hsmall, hvalue]
    exact congrArg Except.ok UInt64.ofNat_toNat

/-! ## 2. One record -/

theorem cut_append {before : List Char} (h : ':' ∉ before) (after : List Char) :
    cut (before ++ ':' :: after) = some (before, after) := by
  induction before with
  | nil => exact if_pos rfl
  | cons c before ih =>
    rw [List.mem_cons, not_or] at h
    rw [List.cons_append, cut, if_neg (Ne.symm h.1), ih h.2]
    rfl

/-- **A text is cut at its first colon.** -/
theorem cut_eq_some_iff {line before after : List Char} :
    cut line = some (before, after) ↔ ':' ∉ before ∧ line = before ++ ':' :: after := by
  constructor
  · intro h
    induction line generalizing before with
    | nil => cases h
    | cons c line ih =>
      rw [cut] at h
      split_ifs at h with hcolon
      · cases h
        exact ⟨List.not_mem_nil, by rw [hcolon]; rfl⟩
      · obtain ⟨⟨front, back⟩, hcut, heq⟩ := Option.map_eq_some_iff.mp h
        cases heq
        obtain ⟨hfront, rfl⟩ := ih hcut
        exact ⟨List.not_mem_cons_of_ne_of_not_mem (Ne.symm hcolon) hfront, rfl⟩
  · rintro ⟨hbefore, rfl⟩
    exact cut_append hbefore after

theorem fields?_eq_some_iff {line tag size name : List Char} :
    fields? line = some (tag, size, name) ↔
      ':' ∉ tag ∧ ':' ∉ size ∧ line = tag ++ ':' :: (size ++ ':' :: name) := by
  constructor
  · intro h
    obtain ⟨⟨first, rest⟩, hfirst, h⟩ := Option.bind_eq_some_iff.mp h
    obtain ⟨⟨second, last⟩, hsecond, h⟩ := Option.bind_eq_some_iff.mp h
    cases h
    obtain ⟨htag, rfl⟩ := cut_eq_some_iff.mp hfirst
    obtain ⟨hsize, rfl⟩ := cut_eq_some_iff.mp hsecond
    exact ⟨htag, hsize, rfl⟩
  · rintro ⟨htag, hsize, rfl⟩
    rw [fields?, cut_append htag]
    simp only [Option.bind_eq_bind, Option.bind_some, cut_append hsize]
    rfl

theorem ofTag?_eq_some_iff {tag : String} {type : EntryType} :
    EntryType.ofTag? tag = some type ↔ tag = type.tag := by
  constructor
  · intro h
    unfold EntryType.ofTag? at h
    split_ifs at h with hdirectory hfile
    · cases h
      exact hdirectory
    · cases h
      exact hfile
  · rintro rfl
    cases type <;> rfl

/-- The line is the record of an entry: its tag, digits that write its size, and its name, with a
    colon behind each of the first two. The digits may start with zeros, and the name is all that is
    left of the line, be it empty or with colons in it. -/
def Spells (line : List Char) (item : Item) : Prop :=
  ∃ digits, digits ≠ [] ∧ (∀ c ∈ digits, Decimal.isDigit c = true) ∧
    Nat.ofDigitChars 10 digits 0 = item.size.toNat ∧
    line = item.type.tag.toList ++ ':' :: (digits ++ ':' :: item.name.toList)

/-- **The lines that are read are the records**, each as the entry that it is the record of. -/
theorem parseRecord_eq_ok_iff {line : List Char} {item : Item} :
    parseRecord line = .ok item ↔ Spells line item := by
  constructor
  · intro h
    unfold parseRecord at h
    cases hfields : fields? line with
    | none =>
      rw [hfields] at h
      cases h
    | some found =>
      obtain ⟨tag, digits, name⟩ := found
      rw [hfields] at h
      cases htype : EntryType.ofTag? (.ofList tag) with
      | none =>
        simp only [htype] at h
        cases h
      | some type =>
        simp only [htype] at h
        obtain ⟨size, hsize, h⟩ := Step.result_bind_eq_ok_iff.mp h
        cases h
        obtain ⟨hnonempty, hdigits, hvalue⟩ := parseSize_eq_ok_iff.mp hsize
        refine ⟨digits, hnonempty, hdigits, hvalue, ?_⟩
        rw [← ofTag?_eq_some_iff.mp htype, String.toList_ofList, String.toList_ofList]
        exact (fields?_eq_some_iff.mp hfields).2.2
  · rintro ⟨digits, hnonempty, hdigits, hvalue, rfl⟩
    have htag : ':' ∉ item.type.tag.toList := by cases item.type <;> decide
    have hcolon : ':' ∉ digits := fun hmem => Bool.false_ne_true (hdigits ':' hmem)
    rw [parseRecord, fields?_eq_some_iff.mpr ⟨htag, hcolon, rfl⟩]
    simp only [String.ofList_toList, ofTag?_eq_some_iff.mpr rfl,
      parseSize_eq_ok_iff.mpr ⟨hnonempty, hdigits, hvalue⟩]
    rfl

theorem toList_render (item : Item) :
    item.render.toList =
      item.type.tag.toList ++ ':' :: (item.size.toNat.repr.toList ++ ':' :: item.name.toList) := by
  simp [Item.render]

theorem spells_render (item : Item) : Spells item.render.toList item := by
  refine ⟨item.size.toNat.repr.toList, ?_, fun c hc => Decimal.isDigit_of_mem_repr hc, ?_,
    toList_render item⟩
  · rw [Nat.toList_repr]
    exact Nat.toDigits_ne_nil
  · rw [Nat.toList_repr, Nat.ofDigitChars_ten_toDigits]

/-- The name of a record stands at the end of its line. -/
theorem Spells.name_suffix {line : List Char} {item : Item} (h : Spells line item) :
    item.name.toList <:+ line := by
  obtain ⟨digits, -, -, -, rfl⟩ := h
  exact (List.suffix_cons ':' _).trans ((List.suffix_append digits _).trans
    ((List.suffix_cons ':' _).trans (List.suffix_append _ _)))

/-! ## 3. Whole listings -/

/-- **Lines are read one by one**, if all of them are. -/
theorem mapM_eq_ok_iff {ε α β : Type} {f : α → Except ε β} {xs : List α} {ys : List β} :
    xs.mapM f = .ok ys ↔ List.Forall₂ (fun x y => f x = .ok y) xs ys := by
  induction xs generalizing ys with
  | nil =>
    rw [List.mapM_nil, List.forall₂_nil_left_iff]
    exact ⟨fun h => by cases h; rfl, fun h => by rw [h]; rfl⟩
  | cons x xs ih =>
    rw [List.mapM_cons, List.forall₂_cons_left_iff]
    constructor
    · intro h
      obtain ⟨first, hfirst, h⟩ := Step.result_bind_eq_ok_iff.mp h
      obtain ⟨rest, hrest, h⟩ := Step.result_bind_eq_ok_iff.mp h
      cases h
      exact ⟨first, rest, hfirst, ih.mp hrest, rfl⟩
    · rintro ⟨first, rest, hfirst, hrest, rfl⟩
      rw [hfirst, ih.mpr hrest]
      rfl

theorem exists_of_forall₂ {α β : Type} {R : α → β → Prop} {xs : List α} {ys : List β}
    (h : List.Forall₂ R xs ys) {y : β} (hy : y ∈ ys) : ∃ x ∈ xs, R x y := by
  induction h with
  | nil => cases hy
  | cons hfirst _ ih =>
    rcases List.mem_cons.mp hy with rfl | hlater
    · exact ⟨_, List.mem_cons_self, hfirst⟩
    · obtain ⟨x, hx, hrelated⟩ := ih hlater
      exact ⟨x, List.mem_cons_of_mem _ hx, hrelated⟩

/-- **A text is a listing exactly if its lines are records**, whose entries are then sorted. -/
theorem parse_eq_ok_iff {text : String} {items : List Item} :
    parse text = .ok items ↔
      ∃ records, List.Forall₂ Spells (linesOf text) records ∧ records.mergeSort before = items := by
  rw [parse]
  constructor
  · intro h
    obtain ⟨records, hread, h⟩ := Step.result_bind_eq_ok_iff.mp h
    cases h
    exact ⟨records, (mapM_eq_ok_iff.mp hread).imp fun _ _ => parseRecord_eq_ok_iff.mp, rfl⟩
  · rintro ⟨records, hspells, rfl⟩
    rw [mapM_eq_ok_iff.mpr (hspells.imp fun _ _ => parseRecord_eq_ok_iff.mpr)]
    rfl

theorem linesOf_join_render {items : List Item} (h : ∀ item ∈ items, '\n' ∉ item.name.toList) :
    linesOf (String.join (items.map fun item => item.render ++ "\n")) =
      items.map fun item => item.render.toList := by
  have htext : (String.join (items.map fun item => item.render ++ "\n")).toList =
      (items.map fun item => item.render.toList).flatMap fun line => line ++ ['\n'] := by
    rw [String.toList_join, List.flatMap_map, List.flatMap_map]
    exact List.flatMap_congr fun item _ => by rw [String.toList_append]; rfl
  have hlines : ∀ line ∈ items.map fun item => item.render.toList, '\n' ∉ line := by
    rw [List.forall_mem_map]
    intro item hmem
    have htag : '\n' ∉ item.type.tag.toList := by cases item.type <;> decide
    have hsize : '\n' ∉ item.size.toNat.repr.toList := Decimal.not_mem_repr rfl _
    rw [toList_render]
    simp only [List.mem_append, List.mem_cons, not_or]
    exact ⟨htag, by decide, hsize, by decide, h item hmem⟩
  have hnonempty : ∀ line ∈ items.map fun item => item.render.toList,
      (!line.isEmpty) = true := by
    rw [List.forall_mem_map]
    intro item _
    simp [toList_render]
  rw [linesOf, htext, splitOn_flatMap_concat hlines, List.takeWhile_append_of_pos hnonempty]
  simp

/-- **A listing is read back as its entries in their order**, if no name holds a line end. -/
theorem parse_join_render {items : List Item} (h : ∀ item ∈ items, '\n' ∉ item.name.toList) :
    parse (String.join (items.map fun item => item.render ++ "\n")) =
      .ok (items.mergeSort before) := by
  rw [parse_eq_ok_iff, linesOf_join_render h]
  refine ⟨items, ?_, rfl⟩
  rw [List.forall₂_map_left_iff, List.forall₂_same]
  exact fun item _ => spells_render item

/-- **No entry that is read from a listing has a line end in its name.** -/
theorem not_mem_name_of_parse {text : String} {items : List Item} (h : parse text = .ok items)
    {item : Item} (hmem : item ∈ items) : '\n' ∉ item.name.toList := by
  obtain ⟨records, hspells, rfl⟩ := parse_eq_ok_iff.mp h
  obtain ⟨line, hline, hrecord⟩ :=
    exists_of_forall₂ hspells ((List.mergeSort_perm records before).mem_iff.mp hmem)
  intro hend
  exact not_mem_of_mem_splitOn ((List.takeWhile_prefix _).mem hline)
    (hrecord.name_suffix.mem hend)

end Listing

end RemoteFiles
