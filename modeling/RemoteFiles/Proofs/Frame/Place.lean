import RemoteFiles.Frame.Response
import RemoteFiles.Proofs.Frame.Request
import RemoteFiles.Proofs.Wire.Script

/-!
# Where a decoder is in its input

Every decoder is a script (`Part.scripted`), so it is always at a known place of its input: what it
has taken and what is left are the input, and its position counts what it has taken. Most decoders
look at nothing but the bytes that they take. Then the value depends on these bytes alone, whatever
stands behind them, and if they do not all come, the decoder runs out (`selfContained_of_scripted`).

* `Part` -- the types that are read, and which of their decoders look at what is left;
* `KeepsPlace`, `EndsInside`, `SelfContained` -- what is said of a run, of a whole input, and of a
  type;
* `decoders_keep_place` -- all of it.
-/

namespace RemoteFiles

namespace Wire

/-! ## 1. Decoders as scripts -/

/-- Values that are read by looking at nothing but the bytes that are taken. -/
class Sequential (α : Type) [Readable α] : Prop where
  scripted : ∀ {looks : Bool}, Scripted looks (decode : Decoder α)

instance : Sequential UInt8 := ⟨(scripted_number 1).map UInt8.ofNat⟩
instance : Sequential UInt16 := ⟨(scripted_number 2).map UInt16.ofNat⟩
instance : Sequential UInt32 := ⟨(scripted_number 4).map UInt32.ofNat⟩
instance : Sequential UInt64 := ⟨(scripted_number 8).map UInt64.ofNat⟩

instance {n : Nat} : Sequential { bytes : Bytes // bytes.length = n } := ⟨scripted_takeExactly n⟩

instance : Sequential ShortString where
  scripted := Sequential.scripted.bind fun length : UInt16 =>
    (scripted_take length.toNat).map ShortString.mk

/-- A code is looked up once its byte is there. -/
theorem scripted_code {α : Type} {looks : Bool} (ofCode? : UInt8 → Option α)
    (cause : UInt8 → Malformed) {next : UInt8 → Decoder α}
    (hnext : ∀ code, next code = (ofCode? code).elim (throw (cause code)) pure) :
    Scripted looks (decode >>= next) := by
  refine Sequential.scripted.bind fun code => ?_
  rw [hnext]
  cases ofCode? code with
  | none => exact scripted_throw (cause code)
  | some value => exact scripted_pure value

instance : Sequential ActionKind where
  scripted := scripted_code ActionKind.ofCode? .unknownAction fun code => by
    cases ActionKind.ofCode? code <;> rfl

instance : Sequential Permission where
  scripted := scripted_code Permission.ofCode? (fun _ => .badNumber) fun code => by
    cases Permission.ofCode? code <;> rfl

instance : Sequential Digest where
  scripted := (scripted_takeExactly Digest.size).map fun bytes =>
    Digest.mk bytes.val bytes.property

instance : Sequential RequestHeader where
  scripted := by
    refine Sequential.scripted.bind fun opcode => Sequential.scripted.bind fun userFlag => ?_
    refine Sequential.scripted.bind fun _reserved => ?_
    refine Sequential.scripted.bind fun usernameLength => ?_
    refine Sequential.scripted.bind fun passwordLength => ?_
    refine Sequential.scripted.bind fun session => ?_
    refine (scripted_take usernameLength.toNat).bind fun username => ?_
    exact (scripted_take passwordLength.toNat).map fun password =>
      RequestHeader.mk opcode userFlag ⟨username⟩ ⟨password⟩ session

instance : Sequential RequestFrame where
  scripted := Sequential.scripted.bind fun header => Sequential.scripted.bind fun length =>
    (scripted_take length.toNat).map (RequestFrame.mk header)

instance : Sequential ResponseHeader where
  scripted := Sequential.scripted.bind fun code => Sequential.scripted.bind fun reserved =>
    Sequential.scripted.bind fun session =>
      Sequential.scripted.map (ResponseHeader.mk code reserved session)

/-! The rest of the decoders look at what is left, or at the request that is answered. -/

theorem scripted_accountPayload : Scripted true (decode : Decoder AccountPayload) := by
  refine Sequential.scripted.bind fun action => Sequential.scripted.bind fun permission => ?_
  refine Sequential.scripted.bind fun username => scripted_remaining.bind fun left => ?_
  split
  · exact Sequential.scripted.map fun password =>
      AccountPayload.mk action permission username (some password)
  · exact scripted_pure _

theorem scripted_pathPayload : Scripted true (decode : Decoder PathPayload) := by
  refine Sequential.scripted.bind fun path => scripted_get.bind fun cursor => ?_
  split
  · refine Sequential.scripted.bind fun digest => ?_
    exact scripted_takeRest.map fun content => PathPayload.mk path (some ⟨digest, content⟩)
  · exact scripted_pure _

theorem scripted_responseBody : Scripted true (decode : Decoder ResponseBody) := by
  refine Sequential.scripted.bind fun messageLength => ?_
  refine (scripted_take messageLength.toNat).bind fun bytes => ?_
  split
  · exact scripted_throw .badString
  · rename_i message _
    refine scripted_get.bind fun cursor => scripted_remaining.bind fun left => ?_
    split
    · refine Sequential.scripted.bind fun digest => ?_
      exact scripted_takeRest.map (ResponseBody.mk message (some digest))
    · exact scripted_takeRest.map (ResponseBody.mk message none)

/-! ## 2. What is read -/

/-- The types that are read from the wire. -/
inductive Part where
  | uint8
  | uint16
  | uint32
  | uint64
  | array (length : Nat)
  | kind
  | permission
  | digest
  | shortString
  | requestHeader
  | requestFrame
  | responseHeader
  | accountPayload
  | pathPayload
  | responseBody

namespace Part

/-- The values of a part. -/
def Value : Part → Type
  | uint8 => UInt8
  | uint16 => UInt16
  | uint32 => UInt32
  | uint64 => UInt64
  | array length => { bytes : Bytes // bytes.length = length }
  | kind => ActionKind
  | permission => Permission
  | digest => Digest
  | shortString => ShortString
  | requestHeader => RequestHeader
  | requestFrame => RequestFrame
  | responseHeader => ResponseHeader
  | accountPayload => AccountPayload
  | pathPayload => PathPayload
  | responseBody => ResponseBody

/-- How the values of a part are read. -/
instance readable : (part : Part) → Readable part.Value
  | uint8 => inferInstanceAs (Readable UInt8)
  | uint16 => inferInstanceAs (Readable UInt16)
  | uint32 => inferInstanceAs (Readable UInt32)
  | uint64 => inferInstanceAs (Readable UInt64)
  | array length => inferInstanceAs (Readable { bytes : Bytes // bytes.length = length })
  | kind => inferInstanceAs (Readable ActionKind)
  | permission => inferInstanceAs (Readable Permission)
  | digest => inferInstanceAs (Readable Digest)
  | shortString => inferInstanceAs (Readable ShortString)
  | requestHeader => inferInstanceAs (Readable RequestHeader)
  | requestFrame => inferInstanceAs (Readable RequestFrame)
  | responseHeader => inferInstanceAs (Readable ResponseHeader)
  | accountPayload => inferInstanceAs (Readable AccountPayload)
  | pathPayload => inferInstanceAs (Readable PathPayload)
  | responseBody => inferInstanceAs (Readable ResponseBody)

/-- Whether the decoder of a part looks at more than the bytes that it takes. -/
def looks : Part → Bool
  | accountPayload | pathPayload | responseBody => true
  | _ => false

/-- **Every decoder is a script.** -/
theorem scripted : (part : Part) → Scripted part.looks (decode : Decoder part.Value)
  | uint8 => Sequential.scripted (α := UInt8)
  | uint16 => Sequential.scripted (α := UInt16)
  | uint32 => Sequential.scripted (α := UInt32)
  | uint64 => Sequential.scripted (α := UInt64)
  | array length => scripted_takeExactly length
  | kind => Sequential.scripted (α := ActionKind)
  | permission => Sequential.scripted (α := Permission)
  | digest => Sequential.scripted (α := Digest)
  | shortString => Sequential.scripted (α := ShortString)
  | requestHeader => Sequential.scripted (α := RequestHeader)
  | requestFrame => Sequential.scripted (α := RequestFrame)
  | responseHeader => Sequential.scripted (α := ResponseHeader)
  | accountPayload => scripted_accountPayload
  | pathPayload => scripted_pathPayload
  | responseBody => scripted_responseBody

end Part

/-! ## 3. Runs over an input -/

/-- A run over an input keeps its place. -/
structure KeepsPlace {looks : Bool} {α : Type} (script : Script looks α) (input : Bytes)
    (expectDigest : Bool) : Prop where
  /-- From step to step the run comes to its end. -/
  ends : ∃ taken, Reaches script (.atFront input expectDigest) taken
    (.ending (script.run (.atFront input expectDigest)))
    (Step.stateAfter (script.run (.atFront input expectDigest)))
  /-- No step leads away from it. -/
  same : ∀ taken ahead cursor, Reaches script (.atFront input expectDigest) taken ahead cursor →
    ahead.run cursor = script.run (.atFront input expectDigest)
  /-- Wherever it has got to, what was taken and what is left are the input. -/
  place : ∀ taken ahead cursor, Reaches script (.atFront input expectDigest) taken ahead cursor →
    Place input taken cursor
  /-- There a request for any number of bytes is answered out of the input, or refused. -/
  request : ∀ taken ahead cursor, Reaches script (.atFront input expectDigest) taken ahead cursor →
    ∀ n, Decoder.take n cursor =
      if cursor.position + n ≤ input.length then
        .ok ((input.drop cursor.position).take n)
          ⟨input.drop (cursor.position + n), cursor.position + n, cursor.expectDigest⟩
      else .error .ranOut cursor

/-- **Every run keeps its place**, by its steps. -/
theorem keepsPlace {looks : Bool} {α : Type} (script : Script looks α) (input : Bytes)
    (expectDigest : Bool) : KeepsPlace script input expectDigest where
  ends := reaches_ending script _
  same _ _ _ h := h.run_eq
  place _ _ _ h := h.took.place
  request _ _ _ h := h.took.place.take_eq

/-- A decoder stops inside its input, and what it leaves over there is counted. -/
structure EndsInside (α : Type) [Readable α] (input : Bytes) (expectDigest : Bool) : Prop where
  position_le : ∀ (value : α) (cursor : Cursor),
    decode (.atFront input expectDigest) = .ok value cursor → cursor.position ≤ input.length
  leftover : ∀ (value : α) (cursor : Cursor),
    decode (.atFront input expectDigest) = .ok value cursor →
      readFrame input expectDigest =
        if cursor.rest = [] then .ok value else .error (.trailing cursor.rest.length)

section Inputs

variable {α : Type} [Readable α] {input : Bytes} {expectDigest : Bool}

/-- The end of a decoder is a place in the input, since every step of a script is. -/
theorem place_of_decode {looks : Bool} {value : α} {cursor : Cursor}
    (h : Scripted looks (decode : Decoder α))
    (hdecode : decode (.atFront input expectDigest) = .ok value cursor) :
    ∃ taken, Place input taken cursor := by
  obtain ⟨script, hscript⟩ := h
  obtain ⟨taken, hreaches⟩ := reaches_ending script (.atFront input expectDigest)
  rw [hscript, hdecode] at hreaches
  exact ⟨taken, hreaches.took.place⟩

theorem endsInside_of_scripted {looks : Bool} (h : Scripted looks (decode : Decoder α)) :
    EndsInside α input expectDigest where
  position_le value cursor hdecode := by
    obtain ⟨_, hplace⟩ := place_of_decode h hdecode
    exact hplace.position_le
  leftover value cursor hdecode := by
    obtain ⟨_, hplace⟩ := place_of_decode h hdecode
    have htotal := hplace.total
    have hleft : input.length - cursor.position = cursor.rest.length := by omega
    have hall : cursor.position = input.length ↔ cursor.rest = [] := by
      rw [← List.length_eq_zero_iff]
      omega
    rw [readFrame, hdecode]
    simp only [hall, hleft]

end Inputs

/-- The value is read from these bytes, whatever comes behind them, and from no fewer. -/
structure ReadFrom {α : Type} [Readable α] (bytes : Bytes) (value : α) : Prop where
  extended : ∀ rest expectDigest, readPrefixed (bytes ++ rest) expectDigest = .ok value
  cut : ∀ front back expectDigest, bytes = front ++ back → back ≠ [] →
    (readPrefixed front expectDigest : Except Malformed α) = .error .ranOut

theorem Takes.readFrom {α : Type} [Readable α] {bytes : Bytes} {value : α}
    (h : Takes decode bytes value) : ReadFrom bytes value where
  extended rest expectDigest := readPrefixed_of_takes h rest expectDigest
  cut front back _ hbytes hback := by
    rw [hbytes] at h
    exact readPrefixed_of_fails (h.fails hback)

/-- A value of the type is read from just the bytes that are consumed for it. -/
def SelfContained (α : Type) [Readable α] : Prop :=
  ∀ (input : Bytes) (expectDigest : Bool) (value : α),
    readPrefixed input expectDigest = .ok value →
      ∃ cursor, decode (.atFront input expectDigest) = .ok value cursor ∧
        ReadFrom (input.take cursor.position) value

/-- **A decoder that looks at nothing but the bytes it takes** needs nothing but these. -/
theorem selfContained_of_scripted {α : Type} [Readable α]
    (h : Scripted false (decode : Decoder α)) : SelfContained α := by
  intro input expectDigest value hread
  obtain ⟨script, hscript⟩ := h
  obtain ⟨cursor, hdecode⟩ := exists_of_readPrefixed hread
  have hrun : script.run (.atFront input expectDigest) = .ok value cursor := by
    rw [hscript, hdecode]
  obtain ⟨bytes, htook, htakes⟩ := takes_of_run hrun
  rw [hscript] at htakes
  have hconsumed : input.take cursor.position = bytes := by
    rw [htook.place.position_eq, ← htook.place.split, List.take_left]
  refine ⟨cursor, hdecode, ?_⟩
  rw [hconsumed]
  exact htakes.readFrom

/-! ## 4. All decoders -/

/-- **Decoders keep their place.** A script that runs over an input has at every step taken the
    bytes that stand before those that are left; its position counts them, so that no request for
    bytes, however large, goes beyond the input. Every decoder is such a script, hence what is left
    over of an input is what lies behind the position. And a decoder that does not look at what is
    left reads its value from the bytes that it consumes, whatever follows them, and not from a part
    of them. -/
theorem decoders_keep_place :
    (∀ (looks : Bool) (α : Type) (script : Script looks α) (input : Bytes) (expectDigest : Bool),
      KeepsPlace script input expectDigest) ∧
    (∀ part : Part, Scripted part.looks (decode : Decoder part.Value)) ∧
    (∀ (part : Part) (input : Bytes) (expectDigest : Bool),
      EndsInside part.Value input expectDigest) ∧
    ∀ part : Part, part.looks = false → SelfContained part.Value := by
  refine ⟨fun _ _ => keepsPlace, Part.scripted, fun part _ _ => ?_, fun part hlooks => ?_⟩
  · exact endsInside_of_scripted part.scripted
  · have hscripted := part.scripted
    rw [hlooks] at hscripted
    exact selfContained_of_scripted hscripted

/-- A name with a byte behind it: the run ends behind the name, the byte is left over, others may
    stand there, and without its last letter there is no name. -/
theorem decoders_keep_place_name :
    (∃ (script : Script false ShortString) (ahead : Script false ShortString),
      script.run = decode ∧
        Reaches script (.atFront [0, 2, 0x61, 0x62, 7] false) [0, 2, 0x61, 0x62] ahead
          ⟨[7], 4, false⟩) ∧
      (readFrame [0, 2, 0x61, 0x62, 7] false : Except Malformed ShortString) =
        .error (.trailing 1) ∧
      readPrefixed [0, 2, 0x61, 0x62, 8, 8] true = .ok (ShortString.mk [0x61, 0x62]) ∧
      (readPrefixed [0, 2, 0x61] false : Except Malformed ShortString) = .error .ranOut := by
  obtain ⟨hplace, hscripted, hinside, hcontained⟩ := decoders_keep_place
  have hdecode : decode (.atFront [0, 2, 0x61, 0x62, 7] false) =
      .ok (ShortString.mk [0x61, 0x62]) ⟨[7], 4, false⟩ := rfl
  refine ⟨?_, (hinside .shortString _ _).leftover _ _ hdecode, ?_⟩
  · obtain ⟨script, hscript⟩ : Scripted false (decode : Decoder ShortString) :=
      hscripted .shortString
    have hkeeps := hplace false ShortString script [0, 2, 0x61, 0x62, 7] false
    obtain ⟨taken, hreaches⟩ := hkeeps.ends
    rw [hscript, hdecode] at hreaches
    have hsplit : taken ++ [7] = [0, 2, 0x61, 0x62] ++ [7] :=
      (hkeeps.place _ _ _ hreaches).split
    rw [List.append_cancel_right hsplit] at hreaches
    exact ⟨script, _, hscript, hreaches⟩
  · obtain ⟨cursor, hagain, hread⟩ := hcontained .shortString rfl [0, 2, 0x61, 0x62, 7] false
      (ShortString.mk [0x61, 0x62]) rfl
    have hcursor : cursor = ⟨[7], 4, false⟩ := (EStateM.Result.ok.inj (hagain.symm.trans hdecode)).2
    rw [hcursor] at hread
    exact ⟨hread.extended [8, 8] true, hread.cut _ [0x62] false rfl (by decide)⟩

end Wire

end RemoteFiles
