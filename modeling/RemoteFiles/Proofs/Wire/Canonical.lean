import RemoteFiles.Proofs.Wire.Decode

/-!
# What a decoder has taken

`Takes` looks ahead, from the bytes to the value. This file looks back, from a decoder that has
answered a value to the bytes it must have found.

* `Took` -- the cursor has moved over some bytes, and nothing else of it has changed;
* `Canonical` -- the bytes taken for a value are those that are written of it, so there is one way
  to write it (`written_of_readFrame`);
* `RunsOut` -- a decoder that fails in one way only, by running out.
-/

namespace RemoteFiles

namespace Wire

/-! ## 1. Bytes that have been taken -/

/-- The cursor has moved over these bytes, which stood at the front of what was left. -/
structure Took (before : Cursor) (bytes : Bytes) (after : Cursor) : Prop where
  rest : before.rest = bytes ++ after.rest
  position : after.position = before.position + bytes.length
  expectDigest : after.expectDigest = before.expectDigest

theorem Took.refl (cursor : Cursor) : Took cursor [] cursor := ⟨rfl, rfl, rfl⟩

/-- **What two decoders in a row have taken** stood there one after the other. -/
theorem Took.trans {first second third : Cursor} {front back : Bytes} (h : Took first front second)
    (h' : Took second back third) : Took first (front ++ back) third where
  rest := by rw [h.rest, h'.rest, List.append_assoc]
  position := by rw [h'.position, h.position, List.length_append, Nat.add_assoc]
  expectDigest := h'.expectDigest.trans h.expectDigest

section Fields

variable {before after : Cursor}

theorem takeExactly_eq_ok {n : Nat} {bytes : { bytes : Bytes // bytes.length = n }}
    (h : Decoder.takeExactly n before = .ok bytes after) : Took before bytes.val after := by
  unfold Decoder.takeExactly at h
  split at h
  · rename_i hle
    cases h
    refine ⟨(List.take_append_drop n before.rest).symm, ?_, rfl⟩
    show before.position + n = before.position + (before.rest.take n).length
    rw [List.length_take, Nat.min_eq_left hle]
  · cases h

/-- What is refused leaves the cursor where it was. -/
theorem takeExactly_eq_error {n : Nat} {malformed : Malformed}
    (h : Decoder.takeExactly n before = .error malformed after) :
    malformed = .ranOut ∧ before.rest.length < n ∧ after = before := by
  unfold Decoder.takeExactly at h
  split at h
  · cases h
  · rename_i hlong
    cases h
    exact ⟨rfl, Nat.lt_of_not_le hlong, rfl⟩

theorem take_eq_ok {n : Nat} {bytes : Bytes} (h : Decoder.take n before = .ok bytes after) :
    bytes.length = n ∧ Took before bytes after := by
  obtain ⟨taken, middle, htaken, hbytes⟩ := Step.bind_eq_ok_iff.mp h
  cases hbytes
  exact ⟨taken.property, takeExactly_eq_ok htaken⟩

/-- What is taken to the end leaves nothing. -/
theorem takeRest_eq_ok {bytes : Bytes} (h : Decoder.takeRest before = .ok bytes after) :
    Took before bytes after ∧ after.rest = [] := by
  obtain ⟨count, middle, hcount, htake⟩ := Step.bind_eq_ok_iff.mp h
  rw [remaining_apply] at hcount
  cases hcount
  obtain ⟨hlength, htook⟩ := take_eq_ok htake
  refine ⟨htook, ?_⟩
  have hcounted := congrArg List.length htook.rest
  rw [List.length_append, hlength] at hcounted
  exact List.eq_nil_of_length_eq_zero (by omega)

theorem number_eq_ok {width n : Nat} (h : Decoder.number width before = .ok n after) :
    n < Bytes.capacity width ∧ Took before (Bytes.bigEndian width n) after := by
  obtain ⟨bytes, middle, hbytes, hn⟩ := Step.bind_eq_ok_iff.mp h
  cases hn
  obtain ⟨rfl, htook⟩ := take_eq_ok hbytes
  refine ⟨Bytes.ofBigEndian_lt bytes, ?_⟩
  rw [Bytes.bigEndian_ofBigEndian]
  exact htook

end Fields

/-! ## 2. Values with one written form -/

/-- Values that are taken from no bytes but those that are written of them. -/
class Canonical (α : Type) [Writable α] [LawfulWritable α] [Readable α] : Prop where
  took : ∀ {before after : Cursor} {value : α}, decode before = .ok value after →
    ∃ bytes, written value = .all bytes ∧ Took before bytes after

/-- A number of a fixed width is taken from the bytes that spell it. -/
theorem took_of_number {α : Type} [Writable α] [LawfulWritable α] {width : Nat} {ofNat : Nat → α}
    (hwritten : ∀ n, n < Bytes.capacity width → written (ofNat n) = .all (Bytes.bigEndian width n))
    {before after : Cursor} {value : α}
    (h : (Decoder.number width >>= fun n => pure (ofNat n)) before = .ok value after) :
    ∃ bytes, written value = .all bytes ∧ Took before bytes after := by
  obtain ⟨n, middle, hn, hvalue⟩ := Step.bind_eq_ok_iff.mp h
  cases hvalue
  obtain ⟨hfits, htook⟩ := number_eq_ok hn
  exact ⟨Bytes.bigEndian width n, hwritten n hfits, htook⟩

instance : Canonical UInt8 where
  took h := took_of_number (fun _ _ => rfl) h

instance : Canonical UInt16 where
  took h := by
    refine took_of_number (fun n hfits => ?_) h
    rw [written_uint16, UInt16.toNat_ofNat_of_lt' hfits]

instance : Canonical UInt32 where
  took h := by
    refine took_of_number (fun n hfits => ?_) h
    rw [written_uint32, UInt32.toNat_ofNat_of_lt' hfits]

instance : Canonical UInt64 where
  took h := by
    refine took_of_number (fun n hfits => ?_) h
    rw [written_uint64, UInt64.toNat_ofNat_of_lt' hfits]

/-- The length of a short string fits its prefix, since that is where it came from. -/
theorem writtenShortLength_of_toNat {length : UInt16} {bytes : Bytes}
    (h : bytes.length = length.toNat) :
    writtenShortLength bytes = .all (Bytes.bigEndian 2 length.toNat) := by
  have hlt : length.toNat < 65536 := length.toNat_lt
  refine writtenShortLength_eq_all_iff.mpr ⟨?_, by rw [h]⟩
  rw [h]
  exact Nat.le_of_lt_succ hlt

instance : Canonical ShortString where
  took {before after value} h := by
    obtain ⟨length, middle, hlength, hrest⟩ := Step.bind_eq_ok_iff.mp h
    obtain ⟨bytes, last, hbytes, hvalue⟩ := Step.bind_eq_ok_iff.mp hrest
    cases hvalue
    obtain ⟨front, hfront, htook⟩ := Canonical.took hlength
    obtain ⟨hcount, htook'⟩ := take_eq_ok hbytes
    rw [← Written.all_inj.mp hfront] at htook
    refine ⟨_, ?_, htook.trans htook'⟩
    show (writtenShortLength bytes).andThen (.all bytes) = _
    rw [writtenShortLength_of_toNat hcount, Written.all_andThen_all]

/-! ## 3. Whole inputs -/

section Inputs

variable {α : Type} [Writable α] [LawfulWritable α] [Readable α] [Canonical α]
  {input : Bytes} {expectDigest : Bool} {value : α}

/-- What is read from the front of an input is written there. -/
theorem written_of_readPrefixed (h : readPrefixed input expectDigest = .ok value) :
    ∃ bytes rest, written value = .all bytes ∧ input = bytes ++ rest := by
  obtain ⟨cursor, hdecode⟩ := exists_of_readPrefixed h
  obtain ⟨bytes, hbytes, htook⟩ := Canonical.took hdecode
  exact ⟨bytes, cursor.rest, hbytes, htook.rest⟩

/-- A decoder that has got to the end of an input has taken the whole of it. -/
theorem Took.eq_of_position {bytes : Bytes} {after : Cursor}
    (h : Took (.atFront input expectDigest) bytes after)
    (hposition : after.position = input.length) : bytes = input := by
  have hcount : after.position = bytes.length := h.position.trans (Nat.zero_add _)
  have hrest : input = bytes ++ after.rest := h.rest
  have hlength := congrArg List.length hrest
  rw [List.length_append] at hlength
  have hnil : after.rest = [] := List.eq_nil_of_length_eq_zero (by omega)
  rw [hrest, hnil, List.append_nil]

/-- **A whole input is what is written of the value that it is read as.** -/
theorem written_of_readFrame (h : readFrame input expectDigest = .ok value) :
    written value = .all input := by
  unfold readFrame at h
  split at h
  · rename_i found cursor hdecode
    split at h
    · rename_i hposition
      cases h
      obtain ⟨bytes, hbytes, htook⟩ := Canonical.took hdecode
      rw [hbytes, htook.eq_of_position hposition]
    · cases h
  · cases h

end Inputs

/-! ## 4. Decoders that can only run out -/

/-- The decoder fails in one way only: the input ends too early. -/
def RunsOut {α : Type} (x : Decoder α) : Prop :=
  ∀ before malformed after, x before = .error malformed after → malformed = .ranOut

section RunsOut

variable {α β : Type}

theorem runsOut_pure (value : α) : RunsOut (pure value) := by
  intro before malformed after h
  cases h

theorem RunsOut.bind {x : Decoder α} {f : α → Decoder β} (hx : RunsOut x)
    (hf : ∀ a, RunsOut (f a)) : RunsOut (x >>= f) := by
  intro before malformed after h
  rw [Step.bind_apply] at h
  cases hfirst : x before with
  | ok a middle =>
    rw [hfirst] at h
    exact hf a middle malformed after h
  | error cause middle =>
    rw [hfirst] at h
    cases h
    exact hx before malformed after hfirst

theorem runsOut_take (n : Nat) : RunsOut (Decoder.take n) := by
  refine RunsOut.bind ?_ fun _ => runsOut_pure _
  intro before malformed after h
  exact (takeExactly_eq_error h).1

theorem runsOut_number (width : Nat) : RunsOut (Decoder.number width) :=
  (runsOut_take width).bind fun _ => runsOut_pure _

theorem runsOut_uint16 : RunsOut (decode : Decoder UInt16) :=
  (runsOut_number 2).bind fun _ => runsOut_pure _

theorem runsOut_uint32 : RunsOut (decode : Decoder UInt32) :=
  (runsOut_number 4).bind fun _ => runsOut_pure _

theorem runsOut_uint64 : RunsOut (decode : Decoder UInt64) :=
  (runsOut_number 8).bind fun _ => runsOut_pure _

end RunsOut

end Wire

end RemoteFiles
