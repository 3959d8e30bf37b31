import RemoteFiles.Proofs.Listing.Records

/-!
# Listings in order

A listing is shown with its directories before its files, the largest first; entries that are alike
in both stay in the order they came in. That settles the place of each entry: `Arranged` says so of a
list of entries, and there is no other list that is arranged from the same ones.

* `arranged_iff` -- sorting is the one way to arrange;
* `lines_iff` -- the lines that are read are those that a text has, said of its characters;
* `linesOf_append_blank` -- what stands behind the first empty line is not looked at;
* `count_format` -- each entry is shown on a line of its own;
* `parse_arranges` -- which texts are listings, and what is read from them.
-/

namespace RemoteFiles

namespace Listing

/-! ## 1. The order -/

/-- One entry may stand before another: it is a directory and the other a file, or they are of one
    type and it is no smaller. -/
def Precedes (a b : Item) : Prop :=
  a.type = .directory ∧ b.type = .file ∨ a.type = b.type ∧ b.size ≤ a.size

/-- The entries of one type and one size, in their order. -/
def alike (type : EntryType) (size : UInt64) (items : List Item) : List Item :=
  items.filter fun item => item.type = type ∧ item.size = size

/-- Entries that have been put in order: they are the same ones, none stands before one that it may
    not precede, and those of one type and one size stand as they came. -/
structure Arranged (records items : List Item) : Prop where
  perm : items.Perm records
  sorted : items.Pairwise Precedes
  stable : ∀ type size, alike type size items = alike type size records

theorem before_iff {a b : Item} : before a b = true ↔ Precedes a b := by
  unfold before Precedes
  cases a.type <;> cases b.type <;> simp

theorem Precedes.trans {a b c : Item} (h : Precedes a b) (h' : Precedes b c) : Precedes a c := by
  rcases h with ⟨ha, hb⟩ | ⟨htype, hsize⟩ <;> rcases h' with ⟨hb', hc⟩ | ⟨htype', hsize'⟩
  · exact .inl ⟨ha, hc⟩
  · exact .inl ⟨ha, htype'.symm.trans hb⟩
  · exact .inl ⟨htype.trans hb', hc⟩
  · exact .inr ⟨htype.trans htype', UInt64.le_trans hsize' hsize⟩

theorem Precedes.total (a b : Item) : Precedes a b ∨ Precedes b a := by
  unfold Precedes
  cases a.type <;> cases b.type <;> simp [UInt64.le_total]

/-- Entries that may stand on either side of each other are of one type and one size. -/
theorem Precedes.antisymm {a b : Item} (h : Precedes a b) (h' : Precedes b a) :
    a.type = b.type ∧ a.size = b.size := by
  rcases h with ⟨ha, hb⟩ | ⟨htype, hsize⟩
  · rcases h' with ⟨hb', -⟩ | ⟨htype', -⟩
    · rw [hb] at hb'
      cases hb'
    · rw [ha, hb] at htype'
      cases htype'
  · rcases h' with ⟨hb', ha'⟩ | ⟨-, hsize'⟩
    · rw [hb', ha'] at htype
      cases htype
    · exact ⟨htype, UInt64.le_antisymm hsize' hsize⟩

theorem before_trans (a b c : Item) (h : before a b = true) (h' : before b c = true) :
    before a c = true :=
  before_iff.mpr ((before_iff.mp h).trans (before_iff.mp h'))

theorem before_total (a b : Item) : (before a b || before b a) = true := by
  rw [Bool.or_eq_true, before_iff, before_iff]
  exact Precedes.total a b

theorem mem_alike_iff {type : EntryType} {size : UInt64} {item : Item} {items : List Item} :
    item ∈ alike type size items ↔ item ∈ items ∧ item.type = type ∧ item.size = size := by
  rw [alike, List.mem_filter, decide_eq_true_eq]

theorem mem_iff_of_alike {items others : List Item}
    (h : ∀ type size, alike type size items = alike type size others) {item : Item} :
    item ∈ items ↔ item ∈ others := by
  have hmem : ∀ xs : List Item, item ∈ xs ↔ item ∈ alike item.type item.size xs := by
    intro xs
    rw [mem_alike_iff]
    exact (and_iff_left ⟨rfl, rfl⟩).symm
  rw [hmem items, hmem others, h]

theorem alike_cons (type : EntryType) (size : UInt64) (item : Item) (items : List Item) :
    alike type size (item :: items) =
      if item.type = type ∧ item.size = size then item :: alike type size items
      else alike type size items := by
  rw [alike, List.filter_cons]
  simp only [decide_eq_true_eq]
  rfl

/-- **The order leaves no choice**: sorted entries are known by those of each type and size. -/
theorem eq_of_alike {items others : List Item} (hitems : items.Pairwise Precedes)
    (hothers : others.Pairwise Precedes)
    (h : ∀ type size, alike type size items = alike type size others) : items = others := by
  induction items generalizing others with
  | nil =>
    refine (List.eq_nil_iff_forall_not_mem.mpr fun other hother => ?_).symm
    cases (mem_iff_of_alike h).mpr hother
  | cons item items ih =>
    cases others with
    | nil => cases (mem_iff_of_alike h).mp List.mem_cons_self
    | cons other others =>
      -- the first of the one list may stand on either side of the first of the other
      have hhead : item = other := by
        rcases List.mem_cons.mp ((mem_iff_of_alike h).mp (List.mem_cons_self (a := item)))
          with heq | hlater
        · exact heq
        rcases List.mem_cons.mp ((mem_iff_of_alike h).mpr (List.mem_cons_self (a := other)))
          with heq | hlater'
        · exact heq.symm
        have hkey := Precedes.antisymm (List.rel_of_pairwise_cons hothers hlater)
          (List.rel_of_pairwise_cons hitems hlater')
        have hfirst := h item.type item.size
        rw [alike_cons, alike_cons, if_pos ⟨rfl, rfl⟩, if_pos hkey] at hfirst
        exact (List.cons.inj hfirst).1
      subst hhead
      refine congrArg (item :: ·) (ih hitems.tail hothers.tail fun type size => ?_)
      have hcons := h type size
      rw [alike_cons, alike_cons] at hcons
      split_ifs at hcons with hkey
      · exact (List.cons.inj hcons).2
      · exact hcons

/-- Sorting arranges. -/
theorem arranged_mergeSort (records : List Item) : Arranged records (records.mergeSort before) where
  perm := List.mergeSort_perm records before
  sorted := (List.pairwise_mergeSort before_trans before_total records).imp before_iff.mp
  stable type size := by
    -- entries of one type and one size are in order as they are, so sorting leaves them so
    have hordered : (alike type size records).Pairwise fun a b => before a b = true := by
      refine List.pairwise_of_forall_mem_list fun a ha b hb => before_iff.mpr (.inr ?_)
      obtain ⟨-, htype, hsize⟩ := mem_alike_iff.mp ha
      obtain ⟨-, htype', hsize'⟩ := mem_alike_iff.mp hb
      rw [htype, htype', hsize, hsize']
      exact ⟨rfl, UInt64.le_refl size⟩
    have hsub : (alike type size records).Sublist (records.mergeSort before) :=
      List.sublist_mergeSort before_trans before_total hordered List.filter_sublist
    have hkept : (alike type size records).Sublist (alike type size (records.mergeSort before)) := by
      have hfiltered := hsub.filter fun item => decide (item.type = type ∧ item.size = size)
      simp only [alike, List.filter_filter, Bool.and_self] at hfiltered
      exact hfiltered
    refine (hkept.eq_of_length ?_).symm
    exact ((List.mergeSort_perm records before).filter _).length_eq.symm

/-- **Sorting is the one way to arrange.** -/
theorem arranged_iff {records items : List Item} :
    Arranged records items ↔ records.mergeSort before = items := by
  have hsort := arranged_mergeSort records
  constructor
  · intro h
    exact eq_of_alike hsort.sorted h.sorted fun type size =>
      (hsort.stable type size).trans (h.stable type size).symm
  · rintro rfl
    exact hsort

/-! ## 2. Where a listing ends -/

/-- The lines of a listing: none is empty, and behind them the text is at its end or an empty line
    follows. A line is ended by a line feed, and the last one of the text by the end of it. -/
structure Lines (text : String) (lines : List (List Char)) : Prop where
  proper : ∀ line ∈ lines, line ≠ [] ∧ '\n' ∉ line
  ended : ∃ rest, text.toList ++ ['\n'] = (lines.flatMap fun line => line ++ ['\n']) ++ rest ∧
    (rest = [] ∨ rest.head? = some '\n')

/-- Lines that are followed by the end of the text or by an empty line are cut out. -/
theorem takeWhile_splitOn {lines : List (List Char)}
    (hproper : ∀ line ∈ lines, line ≠ [] ∧ '\n' ∉ line) {chars rest : List Char}
    (hchars : chars ++ ['\n'] = (lines.flatMap fun line => line ++ ['\n']) ++ rest)
    (hrest : rest = [] ∨ rest.head? = some '\n') :
    ((chars.splitOn '\n').takeWhile fun line => !line.isEmpty) = lines := by
  induction lines generalizing chars with
  | nil =>
    rw [List.flatMap_nil, List.nil_append] at hchars
    subst hchars
    cases chars with
    | nil => rfl
    | cons c chars =>
      obtain rfl : c = '\n' := by simpa using hrest
      have hblank : ('\n' :: chars).splitOn '\n' = [] :: chars.splitOn '\n' :=
        List.splitOn_append_cons_self [] chars
      rw [hblank]
      exact List.takeWhile_cons_of_neg (by simp)
  | cons line lines ih =>
    obtain ⟨⟨hne, hnone⟩, hlater⟩ := List.forall_mem_cons.mp hproper
    have hfirst (later : List (List Char)) :
        ((line :: later).takeWhile fun line => !line.isEmpty) =
          line :: later.takeWhile fun line => !line.isEmpty :=
      List.takeWhile_cons_of_pos (by simpa using hne)
    rw [List.flatMap_cons, List.append_assoc, List.append_assoc, List.singleton_append] at hchars
    -- behind the line there is nothing more, or a line feed ends what there is
    rcases List.eq_nil_or_concat ((lines.flatMap fun line => line ++ ['\n']) ++ rest) with
      hnil | ⟨chars', c, hbehind⟩
    · rw [hnil] at hchars
      obtain rfl := List.append_cancel_right hchars
      obtain ⟨hlines, -⟩ := List.append_eq_nil_iff.mp hnil
      have hnothing : lines = [] := List.eq_nil_iff_forall_not_mem.mpr (by simpa using hlines)
      rw [List.splitOn_eq_singleton hnone, hfirst, hnothing]
      rfl
    · rw [List.concat_eq_append] at hbehind
      rw [hbehind, ← List.cons_append, ← List.append_assoc] at hchars
      obtain ⟨rfl, hlast⟩ := List.append_inj' hchars rfl
      rw [← hlast] at hbehind
      rw [List.splitOn_append_cons_self_of_not_mem hnone, hfirst, ih hlater hbehind.symm]

/-- **The lines that are read are the lines of the text.** -/
theorem lines_iff {text : String} {lines : List (List Char)} :
    Lines text lines ↔ linesOf text = lines := by
  constructor
  · rintro ⟨hproper, rest, htext, hrest⟩
    exact takeWhile_splitOn hproper htext hrest
  · rintro rfl
    have hparts := List.takeWhile_append_dropWhile (p := fun line : List Char => !line.isEmpty)
      (l := text.toList.splitOn '\n')
    have hjoined := flatMap_splitOn_concat '\n' text.toList
    rw [← hparts, List.flatMap_append] at hjoined
    refine ⟨fun line hmem => ⟨?_, not_mem_of_mem_splitOn ((List.takeWhile_prefix _).mem hmem)⟩,
      _, hjoined.symm, ?_⟩
    · have hfull := List.all_eq_true.mp List.all_takeWhile line hmem
      simpa using hfull
    · cases hbehind : (text.toList.splitOn '\n').dropWhile fun line => !line.isEmpty with
      | nil => exact .inl rfl
      | cons line later =>
        have hstop := List.head?_dropWhile_not (fun line : List Char => !line.isEmpty)
          (text.toList.splitOn '\n')
        rw [hbehind] at hstop
        have hempty : line = [] := by simpa using hstop
        rw [hempty]
        exact .inr rfl

/-- What stands behind an empty line is not looked at. -/
theorem linesOf_append_blank (text rest : String) :
    linesOf (text ++ "\n\n" ++ rest) = linesOf text := by
  have htext : (text ++ "\n\n" ++ rest).toList = text.toList ++ '\n' :: '\n' :: rest.toList := by
    simp
  have hblank : ('\n' :: rest.toList).splitOn '\n' = [] :: rest.toList.splitOn '\n' :=
    List.splitOn_append_cons_self [] rest.toList
  rw [linesOf, htext, List.splitOn_append_cons_self, hblank, List.takeWhile_append]
  split_ifs with hwhole
  · rw [List.takeWhile_cons_of_neg (by simp), List.append_nil]
    exact ((List.takeWhile_prefix _).eq_of_length hwhole).symm
  · rfl

theorem linesOf_blank (rest : String) : linesOf ("\n" ++ rest) = [] := by
  have hblank : ("\n" ++ rest).toList.splitOn '\n' = [] :: rest.toList.splitOn '\n' := by
    rw [String.toList_append]
    exact List.splitOn_append_cons_self [] rest.toList
  rw [linesOf, hblank]
  exact List.takeWhile_cons_of_neg (by simp)

/-! ## 3. How a listing is shown -/

/-- A size is shown as digits and letters. -/
theorem lineFeed_not_mem_inUnits (size unit : Nat) {units : List String}
    (h : ∀ letters ∈ units, '\n' ∉ letters.toList) :
    '\n' ∉ (Size.inUnits size unit units).toList := by
  have hnumber : ∀ n : Nat, '\n' ∉ n.repr.toList := fun n => Decimal.not_mem_repr rfl n
  fun_induction Size.inUnits size unit units with
  | case1 unit =>
    rw [String.toList_append, List.mem_append, not_or]
    exact ⟨hnumber _, by decide⟩
  | case2 unit letters larger hsmall =>
    rw [String.toList_append, String.toList_append, List.mem_append, List.mem_append, not_or, not_or]
    exact ⟨⟨hnumber _, h letters List.mem_cons_self⟩, by decide⟩
  | case3 unit letters larger hlarge ih =>
    exact ih fun other hother => h other (List.mem_cons_of_mem letters hother)

theorem mem_pushn {c d : Char} {text : String} {n : Nat} (h : d ∈ (text.pushn c n).toList) :
    d ∈ text.toList ∨ d = c := by
  rw [String.pushn_eq_repeat_push] at h
  induction n with
  | zero => exact .inl h
  | succ n ih =>
    rw [Nat.repeat, String.toList_push, List.mem_append, List.mem_singleton] at h
    exact h.elim ih .inr

/-- An entry is shown on one line. -/
theorem lineFeed_not_mem_display {item : Item} (h : '\n' ∉ item.name.toList) :
    '\n' ∉ item.display.toList := by
  have htag : '\n' ∉ item.type.tag.toList := by cases item.type <;> decide
  have hsize : '\n' ∉ (Size.display item.size).toList :=
    lineFeed_not_mem_inUnits _ _ (by decide)
  have hspaces : ∀ n, '\n' ∉ ("".pushn ' ' n).toList := by
    intro n hmem
    rcases mem_pushn hmem with hnone | hspace
    · cases hnone
    · cases hspace
  simp [Item.display, htag, hsize, hspaces, h]

/-- **There is one line for each entry.** -/
theorem count_format {items : List Item} (h : ∀ item ∈ items, '\n' ∉ item.name.toList) :
    (format items).toList.count '\n' = items.length := by
  induction items with
  | nil => rfl
  | cons item items ih =>
    have hline := lineFeed_not_mem_display (h item List.mem_cons_self)
    have hlater := ih fun other hother => h other (List.mem_cons_of_mem item hother)
    have htext : (format (item :: items)).toList =
        item.display.toList ++ '\n' :: (format items).toList := by
      simp [format, String.toList_join]
    rw [htext, List.count_append, List.count_eq_zero_of_not_mem hline, List.count_cons_self, hlater,
      Nat.zero_add, List.length_cons]

/-! ## 4. Listings -/

theorem exists_forall₂_iff {α β : Type} {R : α → β → Prop} {xs : List α} :
    (∃ ys, List.Forall₂ R xs ys) ↔ ∀ x ∈ xs, ∃ y, R x y := by
  induction xs with
  | nil => exact ⟨fun _ => nofun, fun _ => ⟨[], .nil⟩⟩
  | cons x xs ih =>
    rw [List.forall_mem_cons, ← ih]
    constructor
    · rintro ⟨ys, h⟩
      obtain ⟨y, later, hfirst, hlater, rfl⟩ := List.forall₂_cons_left_iff.mp h
      exact ⟨⟨y, hfirst⟩, later, hlater⟩
    · rintro ⟨⟨y, hfirst⟩, later, hlater⟩
      exact ⟨y :: later, .cons hfirst hlater⟩

/-- **What is read from a text.** It has lines, and it is a listing exactly if each of them is a
    record. Then the entries are those of the lines, put in order. What stands behind an empty line
    makes no difference, and each entry is shown on a line of its own. -/
theorem parse_arranges (text : String) :
    (∃ lines, Lines text lines) ∧
      (∀ lines, Lines text lines →
        ((∃ items, parse text = .ok items) ↔ ∀ line ∈ lines, ∃ item, Spells line item) ∧
          ∀ items, parse text = .ok items ↔
            ∃ records, List.Forall₂ Spells lines records ∧ Arranged records items) ∧
      (∀ items, parse text = .ok items → (format items).toList.count '\n' = items.length) ∧
      (∀ rest, parse (text ++ "\n\n" ++ rest) = parse text) ∧
      ∀ rest, parse ("\n" ++ rest) = .ok [] := by
  refine ⟨⟨_, lines_iff.mpr rfl⟩, fun lines hlines => ?_, fun items hparse => ?_, fun rest => ?_,
    fun rest => ?_⟩
  · obtain rfl := lines_iff.mp hlines
    refine ⟨?_, fun items => by simp only [parse_eq_ok_iff, arranged_iff]⟩
    rw [← exists_forall₂_iff]
    constructor
    · rintro ⟨items, hparse⟩
      obtain ⟨records, hspells, -⟩ := parse_eq_ok_iff.mp hparse
      exact ⟨records, hspells⟩
    · rintro ⟨records, hspells⟩
      exact ⟨_, parse_eq_ok_iff.mpr ⟨records, hspells, rfl⟩⟩
  · exact count_format fun item hmem => not_mem_name_of_parse hparse hmem
  · rw [parse, parse, linesOf_append_blank]
  · rw [parse_eq_ok_iff, linesOf_blank]
    exact ⟨[], .nil, List.mergeSort_nil⟩

/-- A directory that came behind a file, two files of one size, zeros in front of a size, a colon in
    a name, and something behind the empty line. -/
theorem parse_arranges_three :
    parse "[F]:1:a\n[D]:007:b:c\n[F]:1:d\n\nx" =
        .ok [⟨.directory, 7, "b:c"⟩, ⟨.file, 1, "a"⟩, ⟨.file, 1, "d"⟩] ∧
      (format [⟨.directory, 7, "b:c"⟩, ⟨.file, 1, "a"⟩, ⟨.file, 1, "d"⟩]).toList.count '\n' = 3 := by
  have hlines : linesOf "[F]:1:a\n[D]:007:b:c\n[F]:1:d\n\nx" =
      ["[F]:1:a".toList, "[D]:007:b:c".toList, "[F]:1:d".toList] := by decide +kernel
  have hread : ["[F]:1:a".toList, "[D]:007:b:c".toList, "[F]:1:d".toList].mapM parseRecord =
      .ok [⟨.file, 1, "a"⟩, ⟨.directory, 7, "b:c"⟩, ⟨.file, 1, "d"⟩] := by decide +kernel
  have hsort : [(⟨.file, 1, "a"⟩ : Item), ⟨.directory, 7, "b:c"⟩, ⟨.file, 1, "d"⟩].mergeSort before =
      [⟨.directory, 7, "b:c"⟩, ⟨.file, 1, "a"⟩, ⟨.file, 1, "d"⟩] := by
    simp [List.mergeSort, List.MergeSort.Internal.splitInTwo, List.cons_merge_cons, before]
  have hparse : parse "[F]:1:a\n[D]:007:b:c\n[F]:1:d\n\nx" =
      .ok [⟨.directory, 7, "b:c"⟩, ⟨.file, 1, "a"⟩, ⟨.file, 1, "d"⟩] := by
    rw [parse, hlines, hread, ← hsort]
    rfl
  obtain ⟨-, -, hcount, -, -⟩ := parse_arranges "[F]:1:a\n[D]:007:b:c\n[F]:1:d\n\nx"
  exact ⟨hparse, hcount _ hparse⟩

end Listing

end RemoteFiles
