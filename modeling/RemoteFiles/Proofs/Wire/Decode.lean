import RemoteFiles.Proofs.Wire.Encode
import RemoteFiles.Wire.Decode

/-!
# What a decoder takes

`Takes x bytes value` says all that matters of a decoder on bytes that it reads: it takes just these
bytes, whatever stands behind them, and if they do not all come, it runs out. Such decoders compose
(`Takes.bind`), so what a whole header takes is what its fields take, one after the other.

* `takes_take`, `takes_number` and their like -- the fields;
* `Finishes` -- a decoder that looks at what is left, or at the request that is answered, on the
  last part of an input; `Takes.finishes_bind` puts it behind the fields before it;
* `Fails` -- the same for a decoder that stops at something wrong;
* `readPrefixed_of_takes`, `readPrefixed_of_fails` -- reading from the front of an input;
* `readFrame_of_finishes`, `readFrame_of_fails` -- reading a whole input;
* `Faithful` -- what is written of a value is what its decoder takes.
-/

namespace RemoteFiles

namespace Wire

/-- The decoder takes these bytes and answers the value, whatever comes behind them; whenever they
    do not all come, it runs out. -/
structure Takes {α : Type} (x : Decoder α) (bytes : Bytes) (value : α) : Prop where
  whole : ∀ rest position expectDigest, x ⟨bytes ++ rest, position, expectDigest⟩ =
    .ok value ⟨rest, position + bytes.length, expectDigest⟩
  short : ∀ front back position expectDigest, bytes = front ++ back → back ≠ [] →
    ∃ cursor, x ⟨front, position, expectDigest⟩ = .error .ranOut cursor

section Composition

variable {α β : Type}

/-! ## 1. Composition -/

theorem takes_pure (value : α) : Takes (pure value) [] value where
  whole _ _ _ := rfl
  short _ _ _ _ h hback := absurd (List.append_eq_nil_iff.mp h.symm).2 hback

/-- **Two decoders in a row take their bytes one after the other.** -/
theorem Takes.bind {x : Decoder α} {f : α → Decoder β} {first second : Bytes} {a : α} {b : β}
    (hx : Takes x first a) (hf : Takes (f a) second b) : Takes (x >>= f) (first ++ second) b where
  whole rest position expectDigest := by
    rw [List.append_assoc, Step.bind_of_ok (hx.whole _ _ _), hf.whole, List.length_append,
      Nat.add_assoc]
  short front back position expectDigest h hback := by
    -- the cut falls into what the first takes, or behind it
    rcases List.append_eq_append_iff.mp h with ⟨more, rfl, hmore⟩ | ⟨more, rfl, rfl⟩
    · obtain ⟨cursor, hcursor⟩ := hf.short more back (position + first.length) expectDigest
        hmore hback
      exact ⟨cursor, by rw [Step.bind_of_ok (hx.whole _ _ _), hcursor]⟩
    · by_cases hnil : more = []
      · subst hnil
        obtain ⟨cursor, hcursor⟩ := hf.short [] second (position + front.length) expectDigest
          rfl (by simpa using hback)
        have hwhole := hx.whole [] position expectDigest
        rw [List.append_nil, List.append_nil] at hwhole
        exact ⟨cursor, by rw [Step.bind_of_ok hwhole, hcursor]⟩
      · obtain ⟨cursor, hcursor⟩ := hx.short front more position expectDigest rfl hnil
        exact ⟨cursor, Step.bind_of_error hcursor f⟩

/-- The last field of a value: what it takes, the value takes. -/
theorem Takes.map {x : Decoder α} {bytes : Bytes} {a : α} (hx : Takes x bytes a) (f : α → β) :
    Takes (x >>= fun a => pure (f a)) bytes (f a) := by
  have h := hx.bind (f := fun a => pure (f a)) (takes_pure (f a))
  rwa [List.append_nil] at h

end Composition

/-! ## 2. Fields -/

theorem takes_takeExactly {bytes : Bytes} {n : Nat} (h : bytes.length = n) :
    Takes (Decoder.takeExactly n) bytes ⟨bytes, h⟩ where
  whole rest position expectDigest := by
    have hle : n ≤ (bytes ++ rest).length := by rw [List.length_append]; omega
    rw [Decoder.takeExactly, dif_pos hle]
    simp only [EStateM.Result.ok.injEq, Subtype.mk.injEq, Cursor.mk.injEq]
    refine ⟨?_, ?_, by rw [h], trivial⟩
    · rw [← h, List.take_left]
    · rw [← h, List.drop_left]
  short front back position expectDigest hsplit hback := by
    have hlt : ¬ n ≤ front.length := by
      have := List.length_pos_iff.mpr hback
      rw [hsplit, List.length_append] at h
      omega
    exact ⟨_, dif_neg hlt⟩

theorem takes_take {bytes : Bytes} {n : Nat} (h : bytes.length = n) :
    Takes (Decoder.take n) bytes bytes :=
  (takes_takeExactly h).map Subtype.val

theorem takes_number {bytes : Bytes} {width : Nat} (h : bytes.length = width) :
    Takes (Decoder.number width) bytes (Bytes.ofBigEndian bytes) :=
  (takes_take h).map Bytes.ofBigEndian

theorem takes_uint8 (n : UInt8) : Takes decode [n] n := by
  have hnumber : Takes (Decoder.number 1) [n] (Bytes.ofBigEndian [n]) := takes_number rfl
  have h := hnumber.map UInt8.ofNat
  rwa [show Bytes.ofBigEndian [n] = n.toNat by simp [Bytes.ofBigEndian], UInt8.ofNat_toNat] at h

theorem takes_uint16 {bytes : Bytes} (h : bytes.length = 2) :
    Takes decode bytes (UInt16.ofNat (Bytes.ofBigEndian bytes)) :=
  (takes_number h).map UInt16.ofNat

theorem takes_uint32 {bytes : Bytes} (h : bytes.length = 4) :
    Takes decode bytes (UInt32.ofNat (Bytes.ofBigEndian bytes)) :=
  (takes_number h).map UInt32.ofNat

theorem takes_uint64 {bytes : Bytes} (h : bytes.length = 8) :
    Takes decode bytes (UInt64.ofNat (Bytes.ofBigEndian bytes)) :=
  (takes_number h).map UInt64.ofNat

/-- **A number that was written is read back.** -/
theorem takes_bigEndian_uint16 (n : UInt16) : Takes decode (Bytes.bigEndian 2 n.toNat) n := by
  have h := takes_uint16 (Bytes.length_bigEndian 2 n.toNat)
  have hfits : n.toNat < Bytes.capacity 2 := n.toNat_lt
  rwa [Bytes.ofBigEndian_bigEndian, Nat.mod_eq_of_lt hfits, UInt16.ofNat_toNat] at h

theorem takes_bigEndian_uint32 (n : UInt32) : Takes decode (Bytes.bigEndian 4 n.toNat) n := by
  have h := takes_uint32 (Bytes.length_bigEndian 4 n.toNat)
  have hfits : n.toNat < Bytes.capacity 4 := n.toNat_lt
  rwa [Bytes.ofBigEndian_bigEndian, Nat.mod_eq_of_lt hfits, UInt32.ofNat_toNat] at h

theorem takes_bigEndian_uint64 (n : UInt64) : Takes decode (Bytes.bigEndian 8 n.toNat) n := by
  have h := takes_uint64 (Bytes.length_bigEndian 8 n.toNat)
  have hfits : n.toNat < Bytes.capacity 8 := n.toNat_lt
  rwa [Bytes.ofBigEndian_bigEndian, Nat.mod_eq_of_lt hfits, UInt64.ofNat_toNat] at h

/-! ## 3. To the end of the input -/

/-- The decoder takes the input to its end and answers the value. -/
def Finishes {α : Type} (x : Decoder α) (expectDigest : Bool) (input : Bytes) (value : α) : Prop :=
  ∀ position, x ⟨input, position, expectDigest⟩ =
    .ok value ⟨[], position + input.length, expectDigest⟩

/-- The decoder stops at something wrong in the input. -/
def Fails {α : Type} (x : Decoder α) (expectDigest : Bool) (input : Bytes)
    (malformed : Malformed) : Prop :=
  ∀ position, ∃ cursor, x ⟨input, position, expectDigest⟩ = .error malformed cursor

section Endings

variable {α β : Type} {expectDigest : Bool}

theorem Takes.finishes {x : Decoder α} {bytes : Bytes} {a : α} (hx : Takes x bytes a) :
    Finishes x expectDigest bytes a := by
  intro position
  have h := hx.whole [] position expectDigest
  rwa [List.append_nil] at h

/-- **Fields, and then the last part of an input.** -/
theorem Takes.finishes_bind {x : Decoder α} {f : α → Decoder β} {first second : Bytes} {a : α}
    {b : β} (hx : Takes x first a) (hf : Finishes (f a) expectDigest second b) :
    Finishes (x >>= f) expectDigest (first ++ second) b := by
  intro position
  rw [Step.bind_of_ok (hx.whole _ _ _), hf, List.length_append, Nat.add_assoc]

theorem fails_throw (malformed : Malformed) (input : Bytes) :
    Fails (throw malformed : Decoder α) expectDigest input malformed :=
  fun _ => ⟨_, rfl⟩

/-- A decoder runs out if not all that it takes is there. -/
theorem Takes.fails {x : Decoder α} {front back : Bytes} {a : α} (hx : Takes x (front ++ back) a)
    (hback : back ≠ []) : Fails x expectDigest front .ranOut :=
  fun position => hx.short front back position expectDigest rfl hback

theorem Fails.bind {x : Decoder α} {input : Bytes} {malformed : Malformed}
    (hx : Fails x expectDigest input malformed) (f : α → Decoder β) :
    Fails (x >>= f) expectDigest input malformed := by
  intro position
  obtain ⟨cursor, hcursor⟩ := hx position
  exact ⟨cursor, Step.bind_of_error hcursor f⟩

/-- **Fields, and then something wrong.** -/
theorem Takes.fails_bind {x : Decoder α} {f : α → Decoder β} {first second : Bytes} {a : α}
    {malformed : Malformed} (hx : Takes x first a)
    (hf : Fails (f a) expectDigest second malformed) :
    Fails (x >>= f) expectDigest (first ++ second) malformed := by
  intro position
  obtain ⟨cursor, hcursor⟩ := hf (position + first.length)
  exact ⟨cursor, by rw [Step.bind_of_ok (hx.whole _ _ _), hcursor]⟩

theorem fails_takeExactly {input : Bytes} {n : Nat} (h : input.length < n) :
    Fails (Decoder.takeExactly n) expectDigest input .ranOut :=
  fun _ => ⟨_, dif_neg (Nat.not_le_of_lt h)⟩

theorem fails_take {input : Bytes} {n : Nat} (h : input.length < n) :
    Fails (Decoder.take n) expectDigest input .ranOut :=
  (fails_takeExactly h).bind _

@[simp] theorem remaining_apply (cursor : Cursor) :
    Decoder.remaining cursor = .ok cursor.rest.length cursor := rfl

/-- What is left is taken to its end. -/
theorem finishes_takeRest (rest : Bytes) : Finishes Decoder.takeRest expectDigest rest rest := by
  have htake : Takes (Decoder.take rest.length) rest rest := takes_take rfl
  exact fun position => htake.finishes position

end Endings

/-! ## 4. Whole inputs -/

section Inputs

variable {α : Type} [Readable α]

theorem readPrefixed_of_takes {bytes : Bytes} {value : α} (h : Takes decode bytes value)
    (rest : Bytes) (expectDigest : Bool) :
    readPrefixed (bytes ++ rest) expectDigest = .ok value := by
  rw [readPrefixed, Cursor.atFront, h.whole]

theorem readPrefixed_of_fails {input : Bytes} {expectDigest : Bool} {malformed : Malformed}
    (h : Fails (decode : Decoder α) expectDigest input malformed) :
    (readPrefixed input expectDigest : Except Malformed α) = .error malformed := by
  obtain ⟨cursor, hcursor⟩ := h 0
  rw [readPrefixed, Cursor.atFront, hcursor]

/-- What is read from the front of an input is what the decoder comes to there. -/
theorem exists_of_readPrefixed {input : Bytes} {expectDigest : Bool} {value : α}
    (h : readPrefixed input expectDigest = .ok value) :
    ∃ cursor, decode (.atFront input expectDigest) = .ok value cursor := by
  unfold readPrefixed at h
  split at h
  · rename_i found cursor hdecode
    cases h
    exact ⟨cursor, hdecode⟩
  · cases h

theorem readFrame_of_finishes {input : Bytes} {expectDigest : Bool} {value : α}
    (h : Finishes decode expectDigest input value) : readFrame input expectDigest = .ok value := by
  rw [readFrame, Cursor.atFront, h 0]
  exact if_pos (Nat.zero_add _)

/-- What is left over behind a value is counted. -/
theorem readFrame_of_trailing {bytes rest : Bytes} {value : α} (h : Takes decode bytes value)
    (hrest : rest ≠ []) (expectDigest : Bool) :
    (readFrame (bytes ++ rest) expectDigest : Except Malformed α) =
      .error (.trailing rest.length) := by
  have hsome : 0 < rest.length := List.length_pos_iff.mpr hrest
  have hcount : (bytes ++ rest).length - (0 + bytes.length) = rest.length := by
    rw [List.length_append]
    omega
  have hposition : ¬ 0 + bytes.length = (bytes ++ rest).length := by
    rw [List.length_append]
    omega
  rw [readFrame, Cursor.atFront, h.whole]
  refine (if_neg hposition).trans ?_
  rw [hcount]

theorem readFrame_of_fails {input : Bytes} {expectDigest : Bool} {malformed : Malformed}
    (h : Fails (decode : Decoder α) expectDigest input malformed) :
    (readFrame input expectDigest : Except Malformed α) = .error malformed := by
  obtain ⟨cursor, hcursor⟩ := h 0
  rw [readFrame, Cursor.atFront, hcursor]

end Inputs

/-! ## 5. What is read back -/

/-- Values of which what is written is taken back. -/
class Faithful (α : Type) [Writable α] [LawfulWritable α] [Readable α] : Prop where
  takes : ∀ {value : α} {bytes : Bytes}, written value = .all bytes → Takes decode bytes value

/-- The length of a short string is read back as it is. -/
theorem takes_shortLength {n : Nat} (h : n ≤ maxShortString) :
    Takes decode (Bytes.bigEndian 2 n) (UInt16.ofNat n) := by
  have htakes := takes_bigEndian_uint16 (UInt16.ofNat n)
  rwa [toNat_ofNat_shortLength h] at htakes

theorem takes_take_shortLength {bytes : Bytes} (h : bytes.length ≤ maxShortString) :
    Takes (Decoder.take (UInt16.ofNat bytes.length).toNat) bytes bytes :=
  takes_take (toNat_ofNat_shortLength h).symm

instance : Faithful UInt8 where
  takes h := by
    rw [← Written.all_inj.mp h]
    exact takes_uint8 _

instance : Faithful ShortString where
  takes {value bytes} h := by
    obtain ⟨front, _, hfront, hback, rfl⟩ := Written.andThen_eq_all_iff.mp h
    obtain ⟨hfits, rfl⟩ := writtenShortLength_eq_all_iff.mp hfront
    rw [← Written.all_inj.mp hback]
    exact (takes_shortLength hfits).bind ((takes_take_shortLength hfits).map ShortString.mk)

end Wire

end RemoteFiles
