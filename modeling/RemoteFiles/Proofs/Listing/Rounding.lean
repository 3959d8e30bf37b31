import Mathlib.Data.Nat.Dist
import RemoteFiles.Listing.Size

/-!
# Rounding to the nearest

A size is rounded twice, each time to a grid of numbers: to those that have 53 significant bits, and
to the multiples of a unit. `Nearest` says what that is to mean, and nothing about how it is done: no
number of the grid is nearer, and where two are as near, it is the even one.

* `nearest_roundDiv`, `nearest_toPrecision` -- the two roundings, each on its grid;
* `Nearest.mono` -- rounding to the nearest keeps the order, on whatever grid
  (`roundDiv_mono`, `toPrecision_mono`).
-/

namespace RemoteFiles

namespace Size

/-! ## 1. Grids -/

/-- A number of the grid to which none is nearer. If another one is as near, this is the even one. -/
structure Nearest (grid even : Nat → Prop) (n v : Nat) : Prop where
  mem : grid v
  dist_le : ∀ other, grid other → n.dist v ≤ n.dist other
  even : ∀ other, grid other → other ≠ v → n.dist other = n.dist v → even v

/-- The nearest multiple of a unit, of two the one that is an even number of units. -/
def NearestMultiple (unit : Nat) : Nat → Nat → Prop :=
  Nearest (fun v => unit ∣ v) fun v => 2 * unit ∣ v

/-- A number that a mantissa of 53 bits and a power of two make up. -/
def HasMantissa (v : Nat) : Prop :=
  ∃ mantissa exponent, mantissa < 2 ^ 53 ∧ v = mantissa * 2 ^ exponent

/-- A number whose mantissa, filling all 53 bits, is even. -/
def HasEvenMantissa (v : Nat) : Prop :=
  ∃ mantissa exponent, 2 ^ 52 ≤ 2 * mantissa ∧ 2 * mantissa < 2 ^ 53 ∧
    v = 2 * mantissa * 2 ^ exponent

/-- The nearest number with a mantissa of 53 bits, of two the one whose mantissa is even. -/
def NearestWithMantissa : Nat → Nat → Prop := Nearest HasMantissa HasEvenMantissa

section Grids

variable {grid even : Nat → Prop} {n m v w : Nat}

/-- **Rounding to the nearest keeps the order**: what is rounded down past what is rounded up would
    be nearer to the other. -/
theorem Nearest.mono (hv : Nearest grid even n v) (hw : Nearest grid even m w) (h : n < m) :
    v ≤ w := by
  have hleft := hv.dist_le w hw.mem
  have hright := hw.dist_le v hv.mem
  simp only [Nat.dist] at hleft hright
  omega

/-- A number of the grid is nearest to itself. -/
theorem Nearest.of_mem (h : grid n) : Nearest grid even n n where
  mem := h
  dist_le other _ := by simp only [Nat.dist_self, Nat.zero_le]
  even other _ hne htie := by
    rw [Nat.dist_self] at htie
    exact absurd (Nat.eq_of_dist_eq_zero htie).symm hne

variable {unit : Nat}

/-- Two multiples of a unit are the same, or a unit apart. -/
theorem multiple_cases (hv : unit ∣ v) (hw : unit ∣ w) : w = v ∨ w + unit ≤ v ∨ v + unit ≤ w := by
  rcases Nat.lt_trichotomy w v with hlt | heq | hgt
  · have hunit := Nat.le_of_dvd (Nat.sub_pos_of_lt hlt) (Nat.dvd_sub hv hw)
    exact .inr (.inl (by omega))
  · exact .inl heq
  · have hunit := Nat.le_of_dvd (Nat.sub_pos_of_lt hgt) (Nat.dvd_sub hw hv)
    exact .inr (.inr (by omega))

/-- Half a unit away is near enough, as long as exactly half a unit leads to an even number. -/
theorem nearestMultiple_of_dist (hv : unit ∣ v) (h : 2 * n.dist v ≤ unit)
    (htie : 2 * n.dist v = unit → 2 * unit ∣ v) : NearestMultiple unit n v where
  mem := hv
  dist_le other hother := by
    simp only [Nat.dist] at h ⊢
    rcases multiple_cases hv hother with heq | hbelow | habove <;> omega
  even other hother hne hdist := by
    refine htie ?_
    simp only [Nat.dist] at h hdist ⊢
    rcases multiple_cases hv hother with heq | hbelow | habove
    · exact absurd heq hne
    · omega
    · omega

end Grids

/-! ## 2. Multiples of a unit -/

section Multiples

variable {n m unit : Nat}

/-- The three ways in which a quotient is rounded. -/
theorem roundDiv_cases (n unit : Nat) :
    (2 * (n % unit) < unit ∧ roundDiv n unit = n / unit) ∨
      (unit < 2 * (n % unit) ∧ roundDiv n unit = n / unit + 1) ∨
      (2 * (n % unit) = unit ∧ roundDiv n unit = n / unit + n / unit % 2) := by
  unfold roundDiv
  dsimp only
  split_ifs <;> omega

/-- **A quotient is rounded to the nearest whole number**, of two the even one. -/
theorem nearest_roundDiv (hunit : 0 < unit) (n : Nat) :
    NearestMultiple unit n (roundDiv n unit * unit) := by
  have hsplit : n / unit * unit + n % unit = n := Nat.div_add_mod' n unit
  have hrest : n % unit < unit := Nat.mod_lt n hunit
  have hnext : (n / unit + 1) * unit = n / unit * unit + unit := Nat.succ_mul _ _
  refine nearestMultiple_of_dist (Nat.dvd_mul_left _ _) ?_ ?_
  · rcases roundDiv_cases n unit with ⟨h, heq⟩ | ⟨h, heq⟩ | ⟨h, heq⟩
    · rw [heq, Nat.dist]
      omega
    · rw [heq, hnext, Nat.dist]
      omega
    · rcases Nat.mod_two_eq_zero_or_one (n / unit) with heven | hodd
      · rw [heq, heven, Nat.add_zero, Nat.dist]
        omega
      · rw [heq, hodd, hnext, Nat.dist]
        omega
  · intro htie
    rcases roundDiv_cases n unit with ⟨h, heq⟩ | ⟨h, heq⟩ | ⟨h, heq⟩
    · rw [heq, Nat.dist] at htie
      omega
    · rw [heq, hnext, Nat.dist] at htie
      omega
    · refine Nat.mul_dvd_mul_right (Nat.dvd_of_mod_eq_zero ?_) unit
      rw [heq]
      omega

theorem roundDiv_mul (hunit : 0 < unit) (count : Nat) : roundDiv (count * unit) unit = count := by
  have hrest : count * unit % unit = 0 := Nat.mul_mod_left count unit
  have hquotient : count * unit / unit = count := Nat.mul_div_cancel count hunit
  rcases roundDiv_cases (count * unit) unit with ⟨h, heq⟩ | ⟨h, heq⟩ | ⟨h, heq⟩
  · rw [heq, hquotient]
  · omega
  · omega

theorem roundDiv_mono (hunit : 0 < unit) (h : n ≤ m) : roundDiv n unit ≤ roundDiv m unit := by
  rcases Nat.eq_or_lt_of_le h with rfl | hlt
  · exact Nat.le_refl _
  · have hle := (nearest_roundDiv hunit n).mono (nearest_roundDiv hunit m) hlt
    exact Nat.le_of_mul_le_mul_right hle hunit

/-- An even number is reached by whatever is at most half a unit below it. -/
theorem le_roundDiv_iff (hunit : 0 < unit) {bound : Nat} (heven : bound % 2 = 0) :
    bound ≤ roundDiv n unit ↔ 2 * (bound * unit) ≤ 2 * n + unit := by
  have hsplit : n / unit * unit + n % unit = n := Nat.div_add_mod' n unit
  have hrest : n % unit < unit := Nat.mod_lt n hunit
  rcases Nat.lt_trichotomy (n / unit + 1) bound with hlt | rfl | hgt
  · have hproduct : (n / unit + 1 + 1) * unit ≤ bound * unit := Nat.mul_le_mul_right unit hlt
    rw [Nat.succ_mul, Nat.succ_mul] at hproduct
    rcases roundDiv_cases n unit with ⟨h, heq⟩ | ⟨h, heq⟩ | ⟨h, heq⟩ <;> omega
  · have hnext : (n / unit + 1) * unit = n / unit * unit + unit := Nat.succ_mul _ _
    rcases roundDiv_cases n unit with ⟨h, heq⟩ | ⟨h, heq⟩ | ⟨h, heq⟩ <;> omega
  · have hproduct : bound * unit ≤ n / unit * unit :=
      Nat.mul_le_mul_right unit (Nat.le_of_lt_succ hgt)
    rcases roundDiv_cases n unit with ⟨h, heq⟩ | ⟨h, heq⟩ | ⟨h, heq⟩ <;> omega

end Multiples

/-! ## 3. Numbers with a mantissa -/

section Mantissas

variable {n m exponent : Nat}

theorem toPrecision_of_lt (h : n < 2 ^ 53) : toPrecision n = n := by
  have hlog : Nat.log2 n + 1 - precision = 0 := by
    by_cases hzero : n = 0
    · rw [hzero]
      rfl
    · have hbits : Nat.log2 n < 53 := (Nat.log2_lt hzero).mpr h
      simp only [precision]
      omega
  rw [toPrecision, hlog]
  show roundDiv n 1 * 1 = n
  rw [Nat.mul_one]
  simpa using roundDiv_mul Nat.one_pos n

/-- A number of more bits is rounded to a multiple of the power of two that leaves it 53 of them. -/
theorem toPrecision_of_bits (hlower : 2 ^ (52 + exponent) ≤ n) (hupper : n < 2 ^ (53 + exponent)) :
    toPrecision n = roundDiv n (2 ^ exponent) * 2 ^ exponent := by
  have hpos : n ≠ 0 := Nat.ne_of_gt (Nat.lt_of_lt_of_le (Nat.two_pow_pos _) hlower)
  have hlog : Nat.log2 n = 52 + exponent := by
    have hle : 52 + exponent ≤ Nat.log2 n := (Nat.le_log2 hpos).mpr hlower
    have hlt : Nat.log2 n < 53 + exponent := (Nat.log2_lt hpos).mpr hupper
    omega
  have hshift : 52 + exponent + 1 - precision = exponent := by
    simp only [precision]
    omega
  rw [toPrecision, hlog, hshift, Nat.one_shiftLeft]

/-- A number with a mantissa is a multiple of a power of two, or has less than 53 bits in front of
    that power. -/
theorem HasMantissa.cases {v : Nat} (h : HasMantissa v) (exponent : Nat) :
    2 ^ exponent ∣ v ∨ v < 2 ^ (52 + exponent) := by
  obtain ⟨mantissa, own, hmantissa, rfl⟩ := h
  rcases Nat.lt_or_ge own exponent with hless | hmore
  · refine .inr ?_
    calc mantissa * 2 ^ own < 2 ^ 53 * 2 ^ own :=
          Nat.mul_lt_mul_of_pos_right hmantissa (Nat.two_pow_pos own)
      _ = 2 ^ (53 + own) := (Nat.pow_add 2 53 own).symm
      _ ≤ 2 ^ (52 + exponent) := Nat.pow_le_pow_right (by decide) (by omega)
  · exact .inl (Nat.dvd_mul_left_of_dvd (Nat.pow_dvd_pow 2 hmore) mantissa)

/-- What a number of more than 53 bits is rounded to has a mantissa. If all the bits of the mantissa
    are ones and it is rounded up, the mantissa is a power of two, and the exponent one more. -/
theorem hasMantissa_mul {mantissa : Nat} (h : mantissa ≤ 2 ^ 53) :
    HasMantissa (mantissa * 2 ^ exponent) := by
  rcases Nat.eq_or_lt_of_le h with rfl | hlt
  · exact ⟨2 ^ 52, exponent + 1, by decide, by omega⟩
  · exact ⟨mantissa, exponent, hlt, rfl⟩

theorem hasEvenMantissa_mul {half : Nat} (hlower : 2 ^ 52 ≤ 2 * half) (hupper : 2 * half ≤ 2 ^ 53) :
    HasEvenMantissa (2 * half * 2 ^ exponent) := by
  rcases Nat.eq_or_lt_of_le hupper with heq | hlt
  · rw [heq]
    exact ⟨2 ^ 51, exponent + 1, by decide, by decide, by omega⟩
  · exact ⟨half, exponent, hlower, hlt, rfl⟩

theorem exists_bits (h : 2 ^ 53 ≤ n) :
    ∃ exponent, 2 ^ (52 + exponent) ≤ n ∧ n < 2 ^ (53 + exponent) := by
  have hpos : n ≠ 0 := Nat.ne_of_gt (Nat.lt_of_lt_of_le (Nat.two_pow_pos 53) h)
  have hlog : 53 ≤ Nat.log2 n := (Nat.le_log2 hpos).mpr h
  refine ⟨Nat.log2 n - 52, ?_, ?_⟩
  · exact (Nat.le_log2 hpos).mp (by omega)
  · exact (Nat.log2_lt hpos).mp (by omega)

/-- **A number is taken to the nearest one with 53 significant bits**, of two the even one. -/
theorem nearest_toPrecision (n : Nat) : NearestWithMantissa n (toPrecision n) := by
  rcases Nat.lt_or_ge n (2 ^ 53) with hsmall | hlarge
  · rw [toPrecision_of_lt hsmall]
    exact .of_mem ⟨n, 0, hsmall, (Nat.mul_one n).symm⟩
  obtain ⟨exponent, hlower, hupper⟩ := exists_bits hlarge
  have hunit : 0 < 2 ^ exponent := Nat.two_pow_pos exponent
  rw [toPrecision_of_bits hlower hupper]
  have hspec := nearest_roundDiv hunit n
  have hfirst := hspec.dist_le (2 ^ (52 + exponent)) (Nat.pow_dvd_pow 2 (Nat.le_add_left _ _))
  rw [Nat.pow_add] at hlower hupper
  have hmantissa : 2 ^ 52 ≤ roundDiv n (2 ^ exponent) := by
    have hle := roundDiv_mono hunit hlower
    rwa [roundDiv_mul hunit] at hle
  have hmantissa' : roundDiv n (2 ^ exponent) ≤ 2 ^ 53 := by
    have hle := roundDiv_mono hunit (Nat.le_of_lt hupper)
    rwa [roundDiv_mul hunit] at hle
  rw [← Nat.pow_add] at hlower
  -- what is no multiple of the unit lies below the first number of 53 bits, which is one
  refine ⟨hasMantissa_mul hmantissa', ?_, ?_⟩
  · intro other hother
    rcases hother.cases exponent with hmultiple | hbelow
    · exact hspec.dist_le other hmultiple
    · simp only [Nat.dist] at hfirst ⊢
      omega
  · intro other hother hne htie
    rcases hother.cases exponent with hmultiple | hbelow
    · obtain ⟨half, hhalf⟩ := hspec.even other hmultiple hne htie
      rw [Nat.mul_right_comm] at hhalf
      have hdouble := Nat.eq_of_mul_eq_mul_right hunit hhalf
      rw [hdouble] at hmantissa hmantissa' ⊢
      exact hasEvenMantissa_mul hmantissa hmantissa'
    · simp only [Nat.dist] at hfirst htie
      omega

theorem toPrecision_mono (h : n ≤ m) : toPrecision n ≤ toPrecision m := by
  rcases Nat.eq_or_lt_of_le h with rfl | hlt
  · exact Nat.le_refl _
  · exact (nearest_toPrecision n).mono (nearest_toPrecision m) hlt

end Mantissas

end Size

end RemoteFiles
