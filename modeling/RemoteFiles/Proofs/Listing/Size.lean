import Mathlib.Data.Nat.Log
import RemoteFiles.Proofs.Listing.Records
import RemoteFiles.Proofs.Listing.Rounding

/-!
# What the size of an entry says

A size is shown as a count and the name of a unit. `Spells` reads that back; a text is read in one way
only (`Spells.unique`), so what is said about the count and the unit of a text is said about the text.

* `spells_display` -- the unit is the largest of which the rounded size has one, and the count is the
  nearest;
* `display_accurate` -- how large a size is shown to be, and that a larger size is never shown to be
  smaller;
* `count_lt_iff` -- the unit is chosen before the count is rounded, so just below a unit there are
  1024 of the one before.
-/

namespace RemoteFiles

namespace Size

/-! ## 1. Texts -/

/-- The names of the units, each of 1024 times the one before. -/
def unitNames : List String := ["B", "KiB", "MiB", "GiB", "TiB", "PiB", "EiB", "ZiB", "YiB"]

/-- The text says: so many of the unit of `1024 ^ power` bytes. -/
def Spells (text : String) (count power : Nat) : Prop :=
  ∃ name, unitNames[power]? = some name ∧ text = count.repr ++ name

/-- The text says this and nothing else. -/
def ReadsAs (text : String) (count power : Nat) : Prop :=
  ∀ other exponent, Spells text other exponent ↔ other = count ∧ exponent = power

section Texts

variable {text name : String} {count power : Nat}

/-- A count ends where the digits end. -/
theorem takeWhile_digits (h : name ∈ unitNames) (count : Nat) :
    (count.repr ++ name).toList.takeWhile Decimal.isDigit = count.repr.toList := by
  have hnames : ∀ name ∈ unitNames, name.toList.takeWhile Decimal.isDigit = [] := by decide
  rw [String.toList_append, List.takeWhile_append_of_pos fun c hc => Decimal.isDigit_of_mem_repr hc,
    hnames name h, List.append_nil]

/-- **A text is read in one way only.** -/
theorem Spells.unique (h : Spells text count power) {other exponent : Nat}
    (h' : Spells text other exponent) : other = count ∧ exponent = power := by
  obtain ⟨name, hname, rfl⟩ := h
  obtain ⟨name', hname', heq⟩ := h'
  have hdigits : count.repr.toList = other.repr.toList := by
    rw [← takeWhile_digits (List.mem_of_getElem? hname), heq,
      takeWhile_digits (List.mem_of_getElem? hname')]
  have hcount : other = count := by
    rw [← Nat.ofDigitChars_ten_toDigits (n := other), ← Nat.toList_repr, ← hdigits, Nat.toList_repr,
      Nat.ofDigitChars_ten_toDigits]
  rw [hcount] at heq
  have hsame : name.toList = name'.toList := by
    have hlists := congrArg String.toList heq
    rw [String.toList_append, String.toList_append] at hlists
    exact List.append_cancel_left hlists
  rw [← String.toList_inj.mp hsame] at hname'
  have hlength : exponent < unitNames.length := (List.getElem?_eq_some_iff.mp hname').1
  exact ⟨hcount, (List.getElem?_inj hlength (by decide)).mp (hname'.trans hname.symm)⟩

theorem Spells.readsAs (h : Spells text count power) : ReadsAs text count power := by
  intro other exponent
  constructor
  · exact h.unique
  · intro hsame
    rw [hsame.1, hsame.2]
    exact h

end Texts

/-! ## 2. Units -/

/-- The largest power of 1024 that a number reaches, and the first one for zero. -/
structure LargestPower (n power : Nat) : Prop where
  reached : n ≠ 0 → 1024 ^ power ≤ n
  largest : ∀ other, 1024 ^ other ≤ n → other ≤ power
  zero : n = 0 → power = 0

/-- The unit that a number is shown in. -/
def powerOf (n : Nat) : Nat := Nat.log 1024 n

/-- How many of that unit are shown. -/
def countOf (n : Nat) : Nat := roundDiv n (1024 ^ powerOf n)

section Units

variable {n m power : Nat}

theorem largestPower_powerOf (n : Nat) : LargestPower n (powerOf n) where
  reached h := Nat.pow_log_le_self 1024 h
  largest other h := Nat.le_log_of_pow_le (by decide) h
  zero h := by
    rw [h]
    exact Nat.log_zero_right 1024

theorem lt_pow_powerOf (n : Nat) : n < 1024 ^ (powerOf n + 1) :=
  Nat.lt_pow_succ_log_self (by decide) n

/-- Units are tried one after the other, up to the first of which there are fewer than 1024. -/
theorem inUnits_eq {letters : List String} {size unit : Nat} (hpower : power < letters.length)
    (hreached : power ≠ 0 → 1024 ^ power * unit ≤ size) (h : size < 1024 ^ (power + 1) * unit) :
    inUnits size unit letters =
      (roundDiv size (1024 ^ power * unit)).repr ++ letters[power] ++ "B" := by
  induction letters generalizing unit power with
  | nil => exact absurd hpower (Nat.not_lt_zero _)
  | cons first larger ih =>
    cases power with
    | zero =>
      rw [Nat.zero_add, Nat.pow_one] at h
      rw [inUnits, if_pos h, Nat.pow_zero, Nat.one_mul, List.getElem_cons_zero]
    | succ power =>
      have hunit : 1024 ^ (power + 1) * unit = 1024 ^ power * (1024 * unit) := by
        rw [Nat.pow_succ, Nat.mul_assoc]
      have hnext : 1024 ^ (power + 1 + 1) * unit = 1024 ^ (power + 1) * (1024 * unit) := by
        rw [Nat.pow_succ, Nat.mul_assoc]
      have hlarge : ¬ size < 1024 * unit := by
        refine Nat.not_lt_of_le (Nat.le_trans ?_ (hreached (Nat.succ_ne_zero power)))
        rw [hunit]
        exact Nat.le_mul_of_pos_left _ (Nat.pow_pos (by decide))
      rw [inUnits, if_neg hlarge, hunit, List.getElem_cons_succ]
      rw [hnext] at h
      refine ih (Nat.lt_of_succ_lt_succ hpower) (fun _ => ?_) h
      rw [← hunit]
      exact hreached (Nat.succ_ne_zero power)

/-- No size is larger than the number that is one more than the largest size. -/
theorem toPrecision_le (size : UInt64) : toPrecision size.toNat ≤ 2 ^ 64 := by
  have hlargest : toPrecision (2 ^ 64) = 2 ^ 64 := by decide +kernel
  rw [← hlargest]
  exact toPrecision_mono (Nat.le_of_lt size.toNat_lt)

theorem powerOf_le (size : UInt64) : powerOf (toPrecision size.toNat) ≤ 6 := by
  have hlt : powerOf (toPrecision size.toNat) < 7 :=
    Nat.log_lt_of_lt_pow' (by decide) (Nat.lt_of_le_of_lt (toPrecision_le size) (by decide))
  exact Nat.le_of_lt_succ hlt

/-- **What a size is shown as**: the count of the unit that its rounded value is shown in. -/
theorem spells_display (size : UInt64) :
    Spells (display size) (countOf (toPrecision size.toNat)) (powerOf (toPrecision size.toNat)) := by
  have hpower := powerOf_le size
  have hreached := (largestPower_powerOf (toPrecision size.toNat))
  have hbelow := lt_pow_powerOf (toPrecision size.toNat)
  unfold countOf
  generalize powerOf (toPrecision size.toNat) = power at *
  have hlength : power < units.length := Nat.lt_of_le_of_lt hpower (by decide)
  have hname : unitNames[power]? = some (units[power] ++ "B") := by
    have hnames : unitNames = units.map (· ++ "B") ++ ["YiB"] := by decide
    rw [hnames, List.getElem?_append_left (by rwa [List.length_map]), List.getElem?_map,
      List.getElem?_eq_getElem hlength, Option.map_some]
  refine ⟨_, hname, ?_⟩
  rw [display, inUnits_eq hlength ?_ (by rwa [Nat.mul_one]), Nat.mul_one, String.append_assoc]
  intro hpositive
  rw [Nat.mul_one]
  exact hreached.reached fun hzero => hpositive (hreached.zero hzero)

theorem unit_pos (power : Nat) : 0 < 1024 ^ power := Nat.pow_pos (by decide)

/-- What is left of a number in its unit is rounded to 1024 of it at most. -/
theorem countOf_le (n : Nat) : countOf n ≤ 1024 := by
  have hfull := roundDiv_mono (unit_pos (powerOf n)) (Nat.le_of_lt (lt_pow_powerOf n))
  rwa [Nat.pow_succ', roundDiv_mul (unit_pos _)] at hfull

/-- A number is not rounded to nothing, as there is at least one of its unit. -/
theorem countOf_pos (h : n ≠ 0) : 0 < countOf n := by
  have hreached := (largestPower_powerOf n).reached h
  rw [← Nat.one_mul (1024 ^ powerOf n)] at hreached
  have hone := roundDiv_mono (unit_pos (powerOf n)) hreached
  rwa [roundDiv_mul (unit_pos _)] at hone

/-- **What is shown keeps the order**: if the unit becomes larger, one of it is as much as there can
    be of the unit before. -/
theorem amount_mono (h : n ≤ m) :
    countOf n * 1024 ^ powerOf n ≤ countOf m * 1024 ^ powerOf m := by
  have hpower : powerOf n ≤ powerOf m := Nat.log_mono_right h
  rcases Nat.eq_or_lt_of_le hpower with hsame | hlarger
  · rw [countOf, countOf, hsame]
    exact Nat.mul_le_mul_right _ (roundDiv_mono (unit_pos _) h)
  · have hpositive : m ≠ 0 := by
      rintro rfl
      rw [(largestPower_powerOf 0).zero rfl] at hlarger
      exact absurd hlarger (Nat.not_lt_zero _)
    calc countOf n * 1024 ^ powerOf n ≤ 1024 * 1024 ^ powerOf n :=
          Nat.mul_le_mul_right _ (countOf_le n)
      _ = 1024 ^ (powerOf n + 1) := Nat.pow_succ'.symm
      _ ≤ 1024 ^ powerOf m := Nat.pow_le_pow_right (by decide) hlarger
      _ ≤ countOf m * 1024 ^ powerOf m := Nat.le_mul_of_pos_left _ (countOf_pos hpositive)

end Units

/-- **Sizes are shown accurately, and in order.** A size is first taken to 53 significant bits, which
    changes none that has no more of them. Its unit is then the largest of which there is one, and
    never above the seventh; its count is the nearest whole number of that unit. Of two sizes the
    larger is never shown to be smaller. -/
theorem display_accurate :
    (∀ size : UInt64, ∃ taken count power,
      NearestWithMantissa size.toNat taken ∧ (size.toNat < 2 ^ 53 → taken = size.toNat) ∧
        LargestPower taken power ∧ power ≤ 6 ∧
        NearestMultiple (1024 ^ power) taken (count * 1024 ^ power) ∧
        ReadsAs (display size) count power) ∧
    ∀ small large : UInt64, small ≤ large → ∀ count power count' power',
      Spells (display small) count power → Spells (display large) count' power' →
        count * 1024 ^ power ≤ count' * 1024 ^ power' := by
  constructor
  · intro size
    refine ⟨toPrecision size.toNat, _, _, nearest_toPrecision _, toPrecision_of_lt,
      largestPower_powerOf _, powerOf_le size, ?_, (spells_display size).readsAs⟩
    exact nearest_roundDiv (unit_pos _) _
  · intro small large hle count power count' power' hsmall hlarge
    obtain ⟨rfl, rfl⟩ := (spells_display small).unique hsmall
    obtain ⟨rfl, rfl⟩ := (spells_display large).unique hlarge
    exact amount_mono (toPrecision_mono (UInt64.le_iff_toNat_le.mp hle))

/-! ## 3. Just below a unit -/

section Boundaries

variable {n : Nat}

theorem countOf_eq_zero_iff : countOf n = 0 ↔ n = 0 := by
  constructor
  · intro h
    by_contra hpositive
    exact absurd h (Nat.ne_of_gt (countOf_pos hpositive))
  · intro h
    rw [h]
    rfl

theorem toPrecision_eq_zero_iff : toPrecision n = 0 ↔ n = 0 := by
  constructor
  · intro h
    by_contra hpositive
    have hle := toPrecision_mono (Nat.one_le_iff_ne_zero.mpr hpositive)
    rw [h] at hle
    exact absurd hle (by decide)
  · intro h
    rw [h]
    rfl

/-- There are 1024 of a unit exactly if at most half of it is missing to the next one. -/
theorem le_countOf_iff :
    1024 ≤ countOf n ↔ ∃ power, 2047 * 1024 ^ power ≤ 2 * n ∧ n < 1024 ^ (power + 1) := by
  have hiff : 1024 ≤ countOf n ↔ 2 * (1024 * 1024 ^ powerOf n) ≤ 2 * n + 1024 ^ powerOf n :=
    le_roundDiv_iff (unit_pos _) (by decide)
  rw [hiff]
  constructor
  · intro h
    exact ⟨powerOf n, by omega, lt_pow_powerOf n⟩
  · intro h
    obtain ⟨power, hlower, hupper⟩ := h
    have hunit := unit_pos power
    have hpower : powerOf n = power :=
      Nat.log_eq_of_pow_le_of_lt_pow (by omega) hupper
    rw [hpower]
    omega

/-- A bound on what a size is taken to is a bound on the size, and two sizes tell which. -/
theorem le_toPrecision_iff {bound first : Nat} (hbelow : 2 * toPrecision (first - 1) < bound)
    (hfirst : bound ≤ 2 * toPrecision first) : bound ≤ 2 * toPrecision n ↔ first ≤ n := by
  constructor
  · intro h
    by_contra hless
    have hle := toPrecision_mono (Nat.le_sub_one_of_lt (Nat.lt_of_not_le hless))
    omega
  · intro h
    have hle := toPrecision_mono h
    omega

/-- The ends of a range of sizes tell the range of what they are taken to. -/
theorem range_iff {bound next first last : Nat} (hbelow : 2 * toPrecision (first - 1) < bound)
    (hfirst : bound ≤ 2 * toPrecision first) (hlast : 2 * toPrecision last < 2 * next)
    (habove : 2 * next ≤ 2 * toPrecision (last + 1)) :
    (first ≤ n ∧ n ≤ last) ↔ bound ≤ 2 * toPrecision n ∧ toPrecision n < next := by
  have hlower : bound ≤ 2 * toPrecision n ↔ first ≤ n := le_toPrecision_iff hbelow hfirst
  have hupper : 2 * next ≤ 2 * toPrecision n ↔ last + 1 ≤ n := le_toPrecision_iff hlast habove
  omega

/-- The sizes that are at most half a unit below the next larger unit, the first and the last of
    them for each unit. Sizes below an exbibyte are taken to multiples of 128 first, so that what is
    at most 64 below counts as reaching it. -/
def almostNext : List (Nat × Nat) :=
  [(2 ^ 20 - 2 ^ 9, 2 ^ 20 - 1), (2 ^ 30 - 2 ^ 19, 2 ^ 30 - 1), (2 ^ 40 - 2 ^ 29, 2 ^ 40 - 1),
    (2 ^ 50 - 2 ^ 39, 2 ^ 50 - 1), (2 ^ 60 - 2 ^ 49 - 2 ^ 6, 2 ^ 60 - 2 ^ 6 - 1)]

/-- The size is in one of these ranges. -/
def IsAlmostNext (size : Nat) : Prop := ∃ range ∈ almostNext, range.1 ≤ size ∧ size ≤ range.2

/-- The ends of the ranges, tried out. -/
theorem almostNext_ends : ∀ place : Fin 5,
    2 * toPrecision (almostNext[place].1 - 1) < 2047 * 1024 ^ (place.val + 1) ∧
      2047 * 1024 ^ (place.val + 1) ≤ 2 * toPrecision almostNext[place].1 ∧
      2 * toPrecision almostNext[place].2 < 2 * 1024 ^ (place.val + 2) ∧
      2 * 1024 ^ (place.val + 2) ≤ 2 * toPrecision (almostNext[place].2 + 1) := by
  decide +kernel

theorem mem_almostNext_iff (place : Fin 5) :
    (almostNext[place].1 ≤ n ∧ n ≤ almostNext[place].2) ↔
      2047 * 1024 ^ (place.val + 1) ≤ 2 * toPrecision n ∧
        toPrecision n < 1024 ^ (place.val + 2) := by
  obtain ⟨hbelow, hfirst, hlast, habove⟩ := almostNext_ends place
  exact range_iff hbelow hfirst hlast habove

/-- **Which sizes are shown as 1024 of a unit.** -/
theorem le_countOf_toPrecision_iff (size : UInt64) :
    1024 ≤ countOf (toPrecision size.toNat) ↔ IsAlmostNext size.toNat := by
  rw [le_countOf_iff]
  constructor
  · intro h
    obtain ⟨power, hlower, hupper⟩ := h
    have hlargest := toPrecision_le size
    have hpower : power < 6 := by
      by_contra hmore
      have hpow : 1024 ^ 6 ≤ 1024 ^ power := Nat.pow_le_pow_right (by decide) (Nat.le_of_not_lt hmore)
      omega
    cases power with
    | zero => omega
    | succ place =>
      have hplace : place < 5 := Nat.lt_of_succ_lt_succ hpower
      exact ⟨almostNext[place], List.getElem_mem _,
        (mem_almostNext_iff ⟨place, hplace⟩).mpr ⟨hlower, hupper⟩⟩
  · intro h
    obtain ⟨range, hmem, hrange⟩ := h
    obtain ⟨place, hplace, rfl⟩ := List.mem_iff_getElem.mp hmem
    have hiff := (mem_almostNext_iff ⟨place, hplace⟩).mp hrange
    exact ⟨place + 1, hiff⟩

end Boundaries

/-- **Sizes are normalised, but for those just below a unit.** A size is shown as 1024 of a unit at
    the most, and as that many exactly if it is at most half a unit below the next larger one. It is
    shown as nothing only if it is nothing. -/
theorem count_lt_iff (size : UInt64) :
    ∃ count power, ReadsAs (display size) count power ∧ count ≤ 1024 ∧
      (count < 1024 ↔ ¬ IsAlmostNext size.toNat) ∧ (count = 0 ↔ size = 0) := by
  refine ⟨_, _, (spells_display size).readsAs, countOf_le _, ?_, ?_⟩
  · rw [← le_countOf_toPrecision_iff]
    exact Nat.not_le.symm
  · rw [countOf_eq_zero_iff, toPrecision_eq_zero_iff]
    exact UInt64.toNat_inj (b := 0)

/-- One byte less than a mebibyte is shown as 1024 of the unit below, although there is a unit that
    is as much as that. -/
theorem readsAs_below_mebibyte :
    ReadsAs (display 1048575) 1024 1 ∧ unitNames[2]? = some "MiB" := by
  have hspells : Spells (display 1048575) 1024 1 := ⟨"KiB", rfl, by decide +kernel⟩
  exact ⟨hspells.readsAs, rfl⟩

end Size

end RemoteFiles
