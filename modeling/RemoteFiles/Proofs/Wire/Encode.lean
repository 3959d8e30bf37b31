import RemoteFiles.Proofs.Step
import RemoteFiles.Wire.Encode

/-!
# What an encoder writes

An encoder does not know its sink, so what it writes must not depend on it. `Written` says what that
is: the bytes, and the failure if there is one. `LawfulWritable` gives the `Written` of a value, and
demands that encoding the value does just that to every sink that keeps what it is given together.

* `Does.andThen` -- two encoders in a row write one after the other, unless the first fails;
* `lengthOf_eq`, `write_eq`, `bytesOf_eq` -- the runs of the library, in terms of what is written.
  The bytes that are counted are thus the bytes that are appended.
-/

namespace RemoteFiles

namespace Wire

/-! ## 1. Sinks -/

/-- A sink that keeps together what it is given: it cannot tell two pushes from one. -/
class LawfulSink (σ : Type) [Sink σ] : Prop where
  push_nil : ∀ s : σ, Sink.push [] s = s
  push_push : ∀ (first second : Bytes) (s : σ),
    Sink.push second (Sink.push first s) = Sink.push (first ++ second) s

instance : LawfulSink Writer where
  push_nil w := by simp [Sink.push]
  push_push first second w := by simp [Sink.push, Nat.add_assoc]

instance : LawfulSink Tally where
  push_nil t := rfl
  push_push first second t := by simp [Sink.push, Nat.add_assoc]

/-! ## 2. What is written -/

/-- What an encoder has written when it is over, and its failure if it has failed. -/
structure Written where
  bytes : Bytes
  failure : Option Oversize
  deriving DecidableEq, Repr

namespace Written

/-- All is written. -/
def all (bytes : Bytes) : Written := ⟨bytes, none⟩

/-- Nothing is written. -/
def refused (oversize : Oversize) : Written := ⟨[], some oversize⟩

/-- One after the other, unless the first fails. -/
def andThen (first second : Written) : Written :=
  match first.failure with
  | none => ⟨first.bytes ++ second.bytes, second.failure⟩
  | some _ => first

/-- The bytes, if there is no failure. -/
def result (written : Written) : Except Oversize Bytes :=
  match written.failure with
  | none => .ok written.bytes
  | some oversize => .error oversize

/-- The end of an encoder that has written this into a sink. -/
def into {σ : Type} [Sink σ] (written : Written) (s : σ) : EStateM.Result Oversize σ Unit :=
  match written.failure with
  | none => .ok () (Sink.push written.bytes s)
  | some oversize => .error oversize (Sink.push written.bytes s)

@[simp] theorem all_andThen_all (first second : Bytes) :
    (all first).andThen (all second) = all (first ++ second) := rfl

@[simp] theorem refused_andThen (oversize : Oversize) (second : Written) :
    (refused oversize).andThen second = refused oversize := rfl

theorem all_inj {first second : Bytes} : all first = all second ↔ first = second := by
  simp [all]

theorem refused_ne_all (oversize : Oversize) (bytes : Bytes) : refused oversize ≠ all bytes := by
  simp [refused, all]

@[simp] theorem result_all (bytes : Bytes) : (all bytes).result = .ok bytes := rfl

theorem result_eq_ok_iff {written : Written} {bytes : Bytes} :
    written.result = .ok bytes ↔ written = all bytes := by
  obtain ⟨done, failure⟩ := written
  cases failure <;> simp [result, all]

theorem andThen_eq_all_iff {first second : Written} {bytes : Bytes} :
    first.andThen second = all bytes ↔
      ∃ front back, first = all front ∧ second = all back ∧ bytes = front ++ back := by
  obtain ⟨front, failure⟩ := first
  obtain ⟨back, failure'⟩ := second
  cases failure with
  | some oversize => simp [andThen, all]
  | none =>
    simp only [andThen, all, Written.mk.injEq, and_true]
    constructor
    · rintro ⟨rfl, rfl⟩
      exact ⟨front, back, rfl, ⟨rfl, rfl⟩, rfl⟩
    · rintro ⟨_, _, rfl, ⟨rfl, rfl⟩, rfl⟩
      exact ⟨rfl, rfl⟩

theorem andThen_assoc (first second third : Written) :
    (first.andThen second).andThen third = first.andThen (second.andThen third) := by
  obtain ⟨bytes, failure⟩ := first
  obtain ⟨bytes', failure'⟩ := second
  cases failure with
  | some oversize => rfl
  | none => cases failure' <;> simp [andThen]

end Written

/-! ## 3. Encoders -/

section Encoders

variable {σ : Type} [Sink σ]

/-- The encoder writes this, whatever the sink holds already. -/
def Does (x : Encoder σ Unit) (written : Written) : Prop :=
  ∀ s : σ, x s = written.into s

theorem does_push (bytes : Bytes) : Does (push bytes : Encoder σ Unit) (.all bytes) :=
  fun _ => rfl

variable [LawfulSink σ]

theorem does_pure : Does (pure () : Encoder σ Unit) (.all []) := by
  intro s
  simp only [Step.pure_apply, Written.into, Written.all, LawfulSink.push_nil]

theorem does_throw (oversize : Oversize) :
    Does (throw oversize : Encoder σ Unit) (.refused oversize) := by
  intro s
  simp only [Step.throw_apply, Written.into, Written.refused, LawfulSink.push_nil]

/-- **Two encoders in a row write one after the other.** -/
theorem Does.andThen {x y : Encoder σ Unit} {first second : Written} (hx : Does x first)
    (hy : Does y second) : Does (x >>= fun _ => y) (first.andThen second) := by
  intro s
  obtain ⟨front, failure⟩ := first
  cases failure with
  | some oversize =>
    rw [Step.bind_of_error (hx s)]
    rfl
  | none =>
    obtain ⟨back, failure⟩ := second
    rw [Step.bind_of_ok (hx s), hy]
    cases failure <;> simp only [Written.into, Written.andThen, LawfulSink.push_push]

end Encoders

/-- Values whose encoding is the same in every sink, with what it writes. -/
class LawfulWritable (α : Type) [Writable α] where
  /-- What the encoding of a value writes. -/
  written : α → Written
  does : ∀ {σ : Type} [Sink σ] [LawfulSink σ] (value : α),
    Does (encode value : Encoder σ Unit) (written value)

export LawfulWritable (written)

/-! ## 4. Runs -/

section Runs

variable {α : Type} [Writable α] [LawfulWritable α]

/-- **The length is that of the bytes that are written.** -/
theorem lengthOf_eq (value : α) : lengthOf value = (written value).result.map List.length := by
  rw [lengthOf, LawfulWritable.does value]
  cases h : (written value).failure <;>
    simp [Written.into, Written.result, h, Sink.push, Except.map]

/-- **Writing appends what is written**, and answers its length. -/
theorem write_eq (target : Bytes) (value : α) :
    write target value =
      ((written value).result.map List.length, target ++ (written value).bytes) := by
  rw [write, LawfulWritable.does value]
  cases h : (written value).failure <;>
    simp [Written.into, Written.result, h, Sink.push, Except.map]

theorem bytesOf_eq (value : α) : bytesOf value = (written value).result := by
  rw [bytesOf, write_eq, List.nil_append]
  cases h : (written value).failure <;> simp [Written.result, h, Except.map]

theorem bytesOf_eq_ok_iff {value : α} {bytes : Bytes} :
    bytesOf value = .ok bytes ↔ written value = .all bytes := by
  rw [bytesOf_eq, Written.result_eq_ok_iff]

end Runs

/-! ## 5. Values -/

instance : LawfulWritable UInt8 := ⟨fun n => .all [n], fun _ => does_push _⟩
instance : LawfulWritable UInt16 :=
  ⟨fun n => .all (Bytes.bigEndian 2 n.toNat), fun _ => does_push _⟩
instance : LawfulWritable UInt32 :=
  ⟨fun n => .all (Bytes.bigEndian 4 n.toNat), fun _ => does_push _⟩
instance : LawfulWritable UInt64 :=
  ⟨fun n => .all (Bytes.bigEndian 8 n.toNat), fun _ => does_push _⟩

instance : LawfulWritable Bytes := ⟨.all, fun _ => does_push _⟩

instance {n : Nat} : LawfulWritable { bytes : Bytes // bytes.length = n } :=
  ⟨fun bytes => .all bytes.val, fun _ => does_push _⟩

@[simp] theorem written_uint8 (n : UInt8) : written n = .all [n] := rfl

@[simp] theorem written_uint16 (n : UInt16) : written n = .all (Bytes.bigEndian 2 n.toNat) := rfl

@[simp] theorem written_uint32 (n : UInt32) : written n = .all (Bytes.bigEndian 4 n.toNat) := rfl

@[simp] theorem written_uint64 (n : UInt64) : written n = .all (Bytes.bigEndian 8 n.toNat) := rfl

@[simp] theorem written_bytes (bytes : Bytes) : written bytes = .all bytes := rfl

/-- What writing an optional value writes. -/
def writtenOption {α : Type} [Writable α] [LawfulWritable α] : Option α → Written
  | some value => written value
  | none => .all []

instance {α : Type} [Writable α] [LawfulWritable α] : LawfulWritable (Option α) where
  written := writtenOption
  does value := by
    cases value with
    | some value => exact LawfulWritable.does value
    | none => exact does_pure

/-- What writing the length of a short string writes. -/
def writtenShortLength (bytes : Bytes) : Written :=
  if maxShortString < bytes.length then .refused (.shortString bytes.length)
  else .all (Bytes.bigEndian 2 bytes.length)

/-- Nothing but the length goes into a length prefix. -/
theorem writtenShortLength_congr {first second : Bytes} (h : first.length = second.length) :
    writtenShortLength first = writtenShortLength second := by
  unfold writtenShortLength
  rw [h]

theorem toNat_ofNat_shortLength {n : Nat} (h : n ≤ maxShortString) :
    (UInt16.ofNat n).toNat = n :=
  UInt16.toNat_ofNat_of_lt' (Nat.lt_succ_of_le h)

/-- **No length is cut off**: a length that is written at all is the length. -/
theorem does_pushShortLength {σ : Type} [Sink σ] [LawfulSink σ] (bytes : Bytes) :
    Does (pushShortLength bytes : Encoder σ Unit) (writtenShortLength bytes) := by
  unfold pushShortLength shortLength writtenShortLength
  by_cases h : maxShortString < bytes.length
  · rw [if_pos h, if_pos h]
    exact does_throw _
  · rw [if_neg h, if_neg h]
    have hdoes := LawfulWritable.does (σ := σ) (UInt16.ofNat bytes.length)
    rwa [written_uint16, toNat_ofNat_shortLength (Nat.le_of_not_lt h)] at hdoes

instance : LawfulWritable ShortString where
  written s := (writtenShortLength s.bytes).andThen (.all s.bytes)
  does s := (does_pushShortLength s.bytes).andThen (does_push s.bytes)

/-- What writing a value behind its length writes. -/
def writtenBlob {α : Type} [Writable α] [LawfulWritable α] (content : α) : Written :=
  match (written content).result with
  | .ok bytes =>
    if bytes.length < UInt64.size then .all (Bytes.bigEndian 8 bytes.length ++ bytes)
    else .refused (.blob bytes.length)
  | .error oversize => .refused oversize

/-- The length before a value comes from a run that counts, and is what is written. -/
theorem encode_blob {α σ : Type} [Writable α] [LawfulWritable α] [Sink σ] (content : α) :
    (encode (Blob.mk content) : Encoder σ Unit) =
      match (written content).result with
      | .ok bytes =>
        if bytes.length < UInt64.size then
          encode (UInt64.ofNat bytes.length) >>= fun _ => encode content
        else throw (.blob bytes.length)
      | .error oversize => throw oversize := by
  have hlength := lengthOf_eq content
  dsimp only [encode, instWritableBlob]
  rw [hlength]
  cases (written content).result <;> rfl

instance {α : Type} [Writable α] [LawfulWritable α] : LawfulWritable (Blob α) where
  written blob := writtenBlob blob.content
  does {σ} _ _ blob := by
    rw [encode_blob blob.content, writtenBlob]
    cases h : (written blob.content).result with
    | error oversize => exact does_throw oversize
    | ok bytes =>
      by_cases hfits : bytes.length < UInt64.size
      · have hdoes := (LawfulWritable.does (σ := σ) (UInt64.ofNat bytes.length)).andThen
          (LawfulWritable.does blob.content)
        rw [written_uint64, UInt64.toNat_ofNat_of_lt' hfits, Written.result_eq_ok_iff.mp h] at hdoes
        simp only [if_pos hfits]
        exact hdoes
      · simp only [if_neg hfits]
        exact does_throw _

/-- The length of a short string, in two bytes. -/
theorem writtenShortLength_eq_all_iff {content bytes : Bytes} :
    writtenShortLength content = .all bytes ↔
      content.length ≤ maxShortString ∧ bytes = Bytes.bigEndian 2 content.length := by
  unfold writtenShortLength
  by_cases h : maxShortString < content.length
  · rw [if_pos h]
    refine ⟨fun hrefused => absurd hrefused (Written.refused_ne_all _ _), ?_⟩
    rintro ⟨hle, -⟩
    omega
  · rw [if_neg h, Written.all_inj]
    exact ⟨fun hbytes => ⟨Nat.le_of_not_lt h, hbytes.symm⟩, fun hbytes => hbytes.2.symm⟩

/-- A value behind its length: the number of its bytes in eight bytes, and the bytes. -/
theorem written_blob_eq_all_iff {α : Type} [Writable α] [LawfulWritable α] {content : α}
    {frame : Bytes} :
    written (Blob.mk content) = .all frame ↔
      ∃ bytes, written content = .all bytes ∧ bytes.length < UInt64.size ∧
        frame = Bytes.bigEndian 8 bytes.length ++ bytes := by
  show writtenBlob content = _ ↔ _
  rw [writtenBlob]
  cases h : (written content).result with
  | error oversize =>
    simp only [← Written.result_eq_ok_iff, h]
    simp [Written.refused, Written.result]
  | ok bytes =>
    rw [Written.result_eq_ok_iff.mp h]
    by_cases hfits : bytes.length < UInt64.size
    · simp only [if_pos hfits, Written.all_inj]
      constructor
      · rintro rfl
        exact ⟨bytes, rfl, hfits, rfl⟩
      · rintro ⟨_, rfl, -, rfl⟩
        rfl
    · simp only [if_neg hfits, Written.all_inj]
      constructor
      · intro hrefused
        exact absurd hrefused (Written.refused_ne_all _ _)
      · rintro ⟨_, rfl, hfits', -⟩
        exact absurd hfits' hfits

end Wire

end RemoteFiles
