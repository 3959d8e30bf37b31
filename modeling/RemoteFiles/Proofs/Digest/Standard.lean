import Mathlib.Data.List.Forall2
import Mathlib.Data.Nat.Nth
import Mathlib.Data.Nat.Prime.Basic
import Mathlib.Order.Bounds.Basic
import RemoteFiles.Proofs.Digest

/-!
# The digest as the standard defines it

`Sha256.hash` carries a window of sixteen words through a block and folds over a list of blocks.
FIPS 180-4 numbers the words of a block and the blocks of a message, counts its padding in bits, and
takes its constants from the roots of the first primes. This file states that definition
(`Sha256.IsDigest`) and compares the function with it, part by part.

* `pads_iff` -- the padding: the fewest zeros that fill the last block;
* `schedule_eq` -- the message schedule: the window holds sixteen numbered words in a row;
* `compress_eq`, `foldl_compress_eq` -- one block, and all of them;
* `primeRoots_constants`, `primeRoots_initial` -- the tables of constants;
* `isDigest_iff` -- every message has one digest by the standard, and it is the hash;
* `Digest.ofPieces_standard` -- so contents that are hashed in pieces have the digest of the
  standard.
-/

namespace RemoteFiles

namespace Sha256

/-! ## 1. The standard -/

/-- A word turned to the right by so many bits: those that fall off come in on the left. -/
def turned (x : UInt32) (n : Nat) : UInt32 := ⟨x.toBitVec.rotateRight n⟩

section Functions

variable (x y z : UInt32)

/-- Bits of `y` where `x` has a one, and bits of `z` elsewhere. -/
def choice : UInt32 := (x &&& y) ^^^ (~~~x &&& z)

/-- The bits that two of the three words have. -/
def majority : UInt32 := (x &&& y) ^^^ (x &&& z) ^^^ (y &&& z)

/-- The function of a round that is written as a capital sigma with index zero. -/
def roundSum0 : UInt32 := turned x 2 ^^^ turned x 13 ^^^ turned x 22

/-- The function of a round that is written as a capital sigma with index one. -/
def roundSum1 : UInt32 := turned x 6 ^^^ turned x 11 ^^^ turned x 25

/-- The function of the schedule that is written as a small sigma with index zero. -/
def scheduleSum0 : UInt32 := turned x 7 ^^^ turned x 18 ^^^ (x >>> 3)

/-- The function of the schedule that is written as a small sigma with index one. -/
def scheduleSum1 : UInt32 := turned x 17 ^^^ turned x 19 ^^^ (x >>> 10)

end Functions

/-- The word with this number in the message schedule of a block. -/
def scheduled (block : Bytes) (t : Nat) : UInt32 :=
  if t < 16 then UInt32.ofNat (Bytes.ofBigEndian ((block.drop (4 * t)).take 4))
  else
    scheduleSum1 (scheduled block (t - 2)) + scheduled block (t - 7) +
      scheduleSum0 (scheduled block (t - 15)) + scheduled block (t - 16)
  termination_by t

/-- The round with this number, in a block. -/
def roundAt (constants : List UInt32) (block : Bytes) (s : State) (t : Nat) : State :=
  let t1 := s.h + roundSum1 s.e + choice s.e s.f s.g + constants.getD t 0 + scheduled block t
  let t2 := roundSum0 s.a + majority s.a s.b s.c
  ⟨t1 + t2, s.a, s.b, s.c, s.d + t1, s.e, s.f, s.g⟩

/-- The hash value after so many blocks of a padded message. -/
def valueAfter (constants : List UInt32) (start : State) (padded : Bytes) : Nat → State
  | 0 => start
  | n + 1 =>
    let value := valueAfter constants start padded n
    let block := (padded.drop (64 * n)).take 64
    let s := (List.range 64).foldl (roundAt constants block) value
    ⟨s.a + value.a, s.b + value.b, s.c + value.c, s.d + value.d,
      s.e + value.e, s.f + value.f, s.g + value.g, s.h + value.h⟩

/-- A message is padded by a one bit, the fewest zero bits with which 64 bits are missing from whole
    blocks, and the number of its bits in these 64. A byte starts with the one bit, so seven of the
    zeros are in that byte. -/
def Pads (message padded : Bytes) : Prop :=
  ∃ zeros, IsLeast {k | (message.length * 8 + 1 + k) % 512 = 448} zeros ∧
    padded = message ++ (0x80 :: List.replicate ((zeros - 7) / 8) 0 ++
      Bytes.bigEndian 8 (message.length * 8))

/-- The word holds the first 32 bits of the fractional part of a root. -/
def IsRootFraction (degree number : Nat) (word : UInt32) : Prop :=
  ∃ whole, (whole * UInt32.size + word.toNat) ^ degree ≤ number * UInt32.size ^ degree ∧
    number * UInt32.size ^ degree < (whole * UInt32.size + word.toNat + 1) ^ degree

/-- The words are taken from the roots of the first primes, as many as there are words. -/
def PrimeRoots (degree : Nat) (words : List UInt32) : Prop :=
  List.Forall₂ (IsRootFraction degree) ((List.range words.length).map (Nat.nth Nat.Prime)) words

/-- The words of a state. -/
def State.words (s : State) : List UInt32 := [s.a, s.b, s.c, s.d, s.e, s.f, s.g, s.h]

/-- The digest of a message by the standard: the hash value after all blocks of the padded message,
    64 constants being taken from cube roots, and the first hash value from square roots. -/
def IsDigest (message digest : Bytes) : Prop :=
  ∃ constants start padded, constants.length = 64 ∧ PrimeRoots 3 constants ∧
    PrimeRoots 2 start.words ∧ Pads message padded ∧
    digest = (valueAfter constants start padded (padded.length / 64)).words.flatMap
      fun word => Bytes.bigEndian 4 word.toNat

/-! ## 2. Padding -/

/-- **The padding is the one of the standard.** -/
theorem pads_iff {message padded : Bytes} :
    Pads message padded ↔ padded = message ++ padding message.length := by
  have hleast (zeros : Nat) :
      IsLeast {k | (message.length * 8 + 1 + k) % 512 = 448} zeros ↔
        zeros = 8 * ((119 - message.length % 64) % 64) + 7 := by
    constructor
    · rintro ⟨hzeros, hfewest⟩
      have hzeros : (message.length * 8 + 1 + zeros) % 512 = 448 := hzeros
      have hle : zeros ≤ 8 * ((119 - message.length % 64) % 64) + 7 :=
        hfewest (by show _ % 512 = 448; omega)
      omega
    · rintro rfl
      refine ⟨by show _ % 512 = 448; omega, fun k hk => ?_⟩
      have hk : (message.length * 8 + 1 + k) % 512 = 448 := hk
      omega
  have hbytes : (8 * ((119 - message.length % 64) % 64) + 7 - 7) / 8 =
      (119 - message.length % 64) % 64 := by omega
  simp only [Pads, hleast, exists_eq_left, hbytes, padding]

/-! ## 3. Blocks and words by their numbers -/

/-- Bytes that fill whole pieces are cut at the multiples of the size. -/
theorem chunks_eq_map {size : Nat} (hsize : 0 < size) (count : Nat) {bytes : Bytes}
    (h : bytes.length = size * count) :
    Bytes.chunks size bytes =
      (List.range count).map fun i => (bytes.drop (size * i)).take size := by
  induction count generalizing bytes with
  | zero =>
    rw [List.eq_nil_of_length_eq_zero h, Bytes.chunks]
    rfl
  | succ count ih =>
    rw [Nat.mul_succ] at h
    have hne : bytes ≠ [] := List.ne_nil_of_length_pos (by omega)
    have hlater : (bytes.drop size).length = size * count := by
      rw [List.length_drop]
      omega
    rw [Bytes.chunks_of_ne_nil hsize hne, ih hlater, List.range_succ_eq_map, List.map_cons,
      List.map_map]
    refine congrArg₂ List.cons rfl (List.map_congr_left fun i _ => ?_)
    show ((bytes.drop size).drop (size * i)).take size = (bytes.drop (size * (i + 1))).take size
    rw [List.drop_drop, Nat.mul_succ, Nat.add_comm]

theorem scheduled_of_lt {block : Bytes} {t : Nat} (h : t < 16) :
    scheduled block t = UInt32.ofNat (Bytes.ofBigEndian ((block.drop (4 * t)).take 4)) := by
  rw [scheduled, if_pos h]

theorem scheduled_add (block : Bytes) (t : Nat) :
    scheduled block (t + 16) =
      scheduleSum1 (scheduled block (t + 14)) + scheduled block (t + 9) +
        scheduleSum0 (scheduled block (t + 1)) + scheduled block t := by
  rw [scheduled, if_neg (by omega)]
  rfl

theorem wordsOf_eq {block : Bytes} (h : block.length = 64) :
    wordsOf block = (List.range' 0 16).map (scheduled block) := by
  rw [wordsOf, chunks_eq_map (by decide) 16 h, List.map_map, ← List.range_eq_range']
  refine List.map_congr_left fun t ht => ?_
  rw [scheduled_of_lt (List.mem_range.mp ht)]
  rfl

/-- **The schedule goes on as the standard numbers it**: the window holds sixteen words in a row. -/
theorem schedule_eq (block : Bytes) (n t : Nat) :
    schedule n ((List.range' t 16).map (scheduled block)) =
      (List.range' t n).map (scheduled block) := by
  induction n generalizing t with
  | zero => rfl
  | succ n ih =>
    have hnext : nextWord ((List.range' t 16).map (scheduled block)) = scheduled block (t + 16) :=
      (scheduled_add block t).symm
    have hwindow : ((List.range' t 16).map (scheduled block)).drop 1 ++ [scheduled block (t + 16)] =
        (List.range' (t + 1) 16).map (scheduled block) := rfl
    rw [schedule, hnext, hwindow, ih, List.range'_succ, List.map_cons]
    rfl

/-! ## 4. Compression -/

theorem round_eq (constants : List UInt32) (block : Bytes) (s : State) (t : Nat) :
    round s (constants.getD t 0 + scheduled block t) = roundAt constants block s t := by
  have hsum0 : roundSum0 s.a = rotate s.a 2 ^^^ rotate s.a 13 ^^^ rotate s.a 22 := rfl
  have hsum1 : roundSum1 s.e = rotate s.e 6 ^^^ rotate s.e 11 ^^^ rotate s.e 25 := rfl
  simp only [round, roundAt, hsum0, hsum1, choice, majority, UInt32.add_assoc]

/-- Constants and scheduled words are added word by word. -/
theorem zipWith_roundConstants (words : Nat → UInt32) :
    List.zipWith (· + ·) roundConstants ((List.range' 0 64).map words) =
      (List.range 64).map fun t => roundConstants.getD t 0 + words t := rfl

theorem State.add_comm (s t : State) : s.add t = t.add s := by
  simp only [State.add, UInt32.add_comm]

/-- **A block changes the hash value as the standard says.** -/
theorem compress_eq (s : State) {block : Bytes} (h : block.length = 64) :
    compress s block = ((List.range 64).foldl (roundAt roundConstants block) s).add s := by
  rw [compress, wordsOf_eq h, schedule_eq, zipWith_roundConstants, List.foldl_map, State.add_comm]
  simp only [round_eq]

/-- **So do the blocks of a message, one after the other.** -/
theorem foldl_compress_eq {padded : Bytes} {count : Nat} (h : padded.length = 64 * count) :
    (Bytes.chunks 64 padded).foldl compress initial =
      valueAfter roundConstants initial padded count := by
  have hblocks (n : Nat) (hn : n ≤ count) :
      ((List.range n).map fun i => (padded.drop (64 * i)).take 64).foldl compress initial =
        valueAfter roundConstants initial padded n := by
    induction n with
    | zero => rfl
    | succ n ih =>
      have hblock : ((padded.drop (64 * n)).take 64).length = 64 := by
        rw [List.length_take, List.length_drop]
        omega
      rw [List.range_succ, List.map_append, List.foldl_append, ih (by omega)]
      exact compress_eq _ hblock
  rw [chunks_eq_map (by decide) count h, hblocks count (Nat.le_refl count)]

/-! ## 5. Constants -/

/-- The numbers below a bound that have a property are the first ones that have it. -/
theorem map_nth_count (p : Nat → Prop) [DecidablePred p] (bound : Nat) :
    (List.range (Nat.count p bound)).map (Nat.nth p) = (List.range bound).filter p := by
  induction bound with
  | zero => rfl
  | succ bound ih =>
    rw [List.range_succ, List.filter_append, ← ih, Nat.count_succ]
    by_cases h : p bound
    · rw [if_pos h, List.range_succ, List.map_append, List.filter_cons_of_pos (by simpa using h)]
      exact congrArg (_ ++ [·]) (Nat.nth_count h)
    · rw [if_neg h, List.filter_cons_of_neg (by simpa using h)]
      exact (List.append_nil _).symm

/-- No number from 2 to 17 divides `n`, but perhaps `n` itself. -/
def Undivided (n : Nat) : Prop := 2 ≤ n ∧ ∀ d < 18, 2 ≤ d → d < n → n % d ≠ 0

instance : DecidablePred Undivided := fun n =>
  inferInstanceAs (Decidable (2 ≤ n ∧ ∀ d < 18, 2 ≤ d → d < n → n % d ≠ 0))

/-- What no number up to its root divides is prime. -/
theorem prime_iff_undivided {n : Nat} (h : n < 18 * 18) : Nat.Prime n ↔ Undivided n := by
  constructor
  · intro hprime
    exact ⟨hprime.two_le, fun d _ hd hdn hdvd =>
      (Nat.prime_def_lt'.mp hprime).2 d hd hdn (Nat.dvd_of_mod_eq_zero hdvd)⟩
  · rintro ⟨htwo, hundivided⟩
    refine Nat.prime_def_le_sqrt.mpr ⟨htwo, fun d hd hroot hdvd => ?_⟩
    have hsmall : d < 18 := Nat.lt_of_le_of_lt hroot (Nat.sqrt_lt.mpr h)
    have hdn : d < n := Nat.lt_of_le_of_lt hroot (Nat.sqrt_lt_self (by omega))
    exact hundivided d hsmall hd hdn (Nat.mod_eq_zero_of_dvd hdvd)

/-- Words are compared with the roots of the primes below a bound. None of these roots is 20 or
    more. -/
theorem primeRoots_of_undivided {degree bound : Nat} {words : List UInt32}
    (hbound : bound ≤ 18 * 18)
    (hroots : List.Forall₂
      (fun number (word : UInt32) => ∃ whole < 20,
        (whole * UInt32.size + word.toNat) ^ degree ≤ number * UInt32.size ^ degree ∧
        number * UInt32.size ^ degree < (whole * UInt32.size + word.toNat + 1) ^ degree)
      ((List.range bound).filter Undivided) words) : PrimeRoots degree words := by
  have hprimes : (List.range bound).filter Nat.Prime = (List.range bound).filter Undivided :=
    List.filter_congr fun n hn => decide_eq_decide.mpr
      (prime_iff_undivided (Nat.lt_of_lt_of_le (List.mem_range.mp hn) hbound))
  have hfirst := map_nth_count Nat.Prime bound
  have hcount : Nat.count Nat.Prime bound = words.length := by
    rw [← hroots.length_eq, ← hprimes, ← hfirst, List.length_map, List.length_range]
  rw [PrimeRoots, ← hcount, hfirst, hprimes]
  exact hroots.imp fun _ _ ⟨whole, _, hroot⟩ => ⟨whole, hroot⟩

/-- **The constants of the rounds are taken from cube roots.** -/
theorem primeRoots_constants : PrimeRoots 3 roundConstants :=
  primeRoots_of_undivided (show 312 ≤ 18 * 18 by decide) (by decide +kernel)

/-- **The first hash value is taken from square roots.** -/
theorem primeRoots_initial : PrimeRoots 2 initial.words :=
  primeRoots_of_undivided (show 20 ≤ 18 * 18 by decide) (by decide +kernel)

/-- A root has one fractional part. -/
theorem IsRootFraction.unique {degree number : Nat} (hdegree : degree ≠ 0) {first second : UInt32}
    (h : IsRootFraction degree number first) (h' : IsRootFraction degree number second) :
    first = second := by
  obtain ⟨whole, hbelow, habove⟩ := h
  obtain ⟨whole', hbelow', habove'⟩ := h'
  have hle := (Nat.pow_lt_pow_iff_left hdegree).mp (Nat.lt_of_le_of_lt hbelow habove')
  have hge := (Nat.pow_lt_pow_iff_left hdegree).mp (Nat.lt_of_le_of_lt hbelow' habove)
  have hfirst := first.toNat_lt_size
  have hsecond := second.toNat_lt_size
  apply UInt32.toNat_inj.mp
  simp only [UInt32.size] at *
  omega

/-- Prime numbers determine the words that are taken from their roots. -/
theorem PrimeRoots.unique {degree : Nat} (hdegree : degree ≠ 0) {first second : List UInt32}
    (hlength : first.length = second.length) (h : PrimeRoots degree first)
    (h' : PrimeRoots degree second) : first = second := by
  rw [PrimeRoots] at h h'
  rw [hlength] at h
  generalize (List.range second.length).map (Nat.nth Nat.Prime) = numbers at h h'
  induction h generalizing second with
  | nil =>
    exact (List.forall₂_nil_left_iff.mp h').symm
  | cons hfirst _ ih =>
    obtain ⟨word, words, hword, hwords, rfl⟩ := List.forall₂_cons_left_iff.mp h'
    rw [hfirst.unique hdegree hword, ih (Nat.succ.inj hlength) hwords]

/-! ## 6. Digests -/

/-- **By the standard a message has one digest, and that is its hash.** -/
theorem isDigest_iff {message digest : Bytes} :
    IsDigest message digest ↔ digest = hash message := by
  have hlength : (message ++ padding message.length).length =
      64 * ((message ++ padding message.length).length / 64) := by
    have hfull := length_padding message.length
    rw [List.length_append]
    omega
  have hhash : hash message = (valueAfter roundConstants initial
      (message ++ padding message.length)
      ((message ++ padding message.length).length / 64)).words.flatMap
        fun word => Bytes.bigEndian 4 word.toNat := by
    rw [hash, foldl_compress_eq hlength]
    rfl
  constructor
  · rintro ⟨constants, start, padded, hcount, hconstants, hstart, hpads, rfl⟩
    obtain rfl := pads_iff.mp hpads
    obtain rfl := hconstants.unique (by decide) hcount primeRoots_constants
    have hwords : start.words = initial.words :=
      hstart.unique (by decide) rfl primeRoots_initial
    obtain rfl : start = initial := by
      obtain ⟨a, b, c, d, e, f, g, h⟩ := start
      simpa [State.words, initial] using hwords
    exact hhash.symm
  · rintro rfl
    exact ⟨roundConstants, initial, _, rfl, primeRoots_constants, primeRoots_initial,
      pads_iff.mpr rfl, hhash⟩

/-! The digest of "abc" is the one that is known for it. -/

example : IsDigest [0x61, 0x62, 0x63]
    [0xba, 0x78, 0x16, 0xbf, 0x8f, 0x01, 0xcf, 0xea, 0x41, 0x41, 0x40, 0xde, 0x5d, 0xae, 0x22, 0x23,
      0xb0, 0x03, 0x61, 0xa3, 0x96, 0x17, 0x7a, 0x9c, 0xb4, 0x10, 0xff, 0x61, 0xf2, 0x00, 0x15,
      0xad] := isDigest_iff.mpr (by decide +kernel)

end Sha256

namespace Digest

/-- **Contents that are hashed in pieces have the digest of the standard**, whatever the size of the
    pieces; so the size makes no difference, and a digest is verified exactly if it is this one. -/
theorem ofPieces_standard (size : Nat) (content : Bytes) :
    Sha256.IsDigest content (ofPieces size content).bytes ∧
      ofPieces size content = of content ∧
      ∀ digest : Digest,
        digest.verifies content = true ↔ Sha256.IsDigest content digest.bytes := by
  refine ⟨Sha256.isDigest_iff.mpr (bytes_ofPieces size content), ?_, fun digest => ?_⟩
  · exact (verifies_iff.mp (verifies_iff_bytes.mpr (bytes_ofPieces size content))).symm
  · rw [verifies_iff_bytes, Sha256.isDigest_iff]

end Digest

end RemoteFiles
