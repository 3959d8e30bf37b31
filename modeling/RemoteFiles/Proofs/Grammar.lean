import RemoteFiles.Proofs.Frame.Canonical

/-!
# The grammar of requests

Any bytes may come to whoever receives requests. `fault` says what is wrong with them as a request,
the first of three things that are looked at in turn: the two codes, then whether the frame ends too
early, then whether it ends too late. Where it ends is said by three lengths in it (`promised`), the
last of which stands behind two strings that the first two measure.

* `parse_of_unknown`, `parse_of_short`, `parse_of_promised` -- what becomes of an input, fault by
  fault;
* `parse_canonical` -- a frame is refused for its fault, or read; what was read is written back to
  the same bytes, the two reserved ones made zero.
-/

namespace RemoteFiles

open Wire

/-! ## 1. Parts of an input -/

namespace Bytes

/-- The `count` bytes of an input from a position on, or what there is of them. -/
def slice (input : Bytes) (start count : Nat) : Bytes := (input.drop start).take count

/-- The number that stands in `width` bytes from a position on. -/
def numberAt (input : Bytes) (start width : Nat) : Nat := ofBigEndian (input.slice start width)

variable {input : Bytes} {start count width : Nat}

theorem length_slice (h : start + count ≤ input.length) :
    (input.slice start count).length = count := by
  rw [slice, List.length_take, List.length_drop]
  omega

theorem slice_add (input : Bytes) (start first second : Nat) :
    input.slice start (first + second) =
      input.slice start first ++ input.slice (start + first) second := by
  rw [slice, List.take_add, List.drop_drop, slice, slice]

theorem numberAt_lt (h : start + width ≤ input.length) :
    input.numberAt start width < capacity width := by
  have hlt := ofBigEndian_lt (input.slice start width)
  rwa [length_slice h] at hlt

/-- A number that was written in the middle of an input is found there. -/
theorem numberAt_middle (front : Bytes) (width : Nat) {n : Nat} (hfits : n < capacity width)
    (back : Bytes) : numberAt (front ++ (bigEndian width n ++ back)) front.length width = n := by
  have hwidth := length_bigEndian width n
  have hslice : slice (front ++ (bigEndian width n ++ back)) front.length width =
      bigEndian width n := by
    rw [slice, List.drop_left, List.take_append_of_le_length (Nat.le_of_eq hwidth.symm),
      List.take_of_length_le (Nat.le_of_eq hwidth)]
  rw [numberAt, hslice, ofBigEndian_bigEndian, Nat.mod_eq_of_lt hfits]

end Bytes

namespace RequestFrame

/-! ## 2. What is wrong with an input -/

/-- The number of bytes of the username. -/
def usernameLength (input : Bytes) : Nat := input.numberAt 4 2

/-- The number of bytes of the password. -/
def passwordLength (input : Bytes) : Nat := input.numberAt 6 2

/-- Where the credentials end. -/
def headerLength (input : Bytes) : Nat := 12 + usernameLength input + passwordLength input

/-- The number of bytes of the payload. -/
def payloadLength (input : Bytes) : Nat := input.numberAt (headerLength input) 8

/-- Where the frame ends. -/
def promised (input : Bytes) : Nat := headerLength input + 8 + payloadLength input

/-- The first of the two codes that is no code. -/
def unknownCode? (input : Bytes) : Option UInt8 :=
  (input.take 2).find? fun code => (ActionKind.ofCode? code).isNone

/-- What is wrong with an input as a request; the first thing found decides. -/
def fault (input : Bytes) : Option Error :=
  match unknownCode? input with
  | some code => some (.unknownAction code)
  | none =>
    if input.length < promised input then some .ranOut
    else if promised input < input.length then some .wrongPacketLength
    else none

/-- Two codes, as far as the input goes. -/
theorem codes_of_known {input : Bytes} (h : unknownCode? input = none) :
    input = [] ∨ (∃ opcode : ActionKind, input = [opcode.code]) ∨
      ∃ (opcode userFlag : ActionKind) (rest : Bytes),
        input = opcode.code :: userFlag.code :: rest := by
  have hknown : ∀ code ∈ input.take 2, ∃ kind : ActionKind, kind.code = code := by
    intro code hmem
    have hsome := List.find?_eq_none.mp h code hmem
    rw [Option.isNone_iff_eq_none] at hsome
    obtain ⟨kind, hkind⟩ := Option.ne_none_iff_exists'.mp hsome
    exact ⟨kind, ActionKind.ofCode?_eq_some_iff.mp hkind⟩
  match input, hknown with
  | [], _ => exact .inl rfl
  | [code], hknown =>
    obtain ⟨opcode, rfl⟩ := hknown code (by simp)
    exact .inr (.inl ⟨opcode, rfl⟩)
  | code :: flag :: rest, hknown =>
    obtain ⟨opcode, rfl⟩ := hknown code (by simp)
    obtain ⟨userFlag, rfl⟩ := hknown flag (by simp)
    exact .inr (.inr ⟨opcode, userFlag, rest, rfl⟩)

/-! ## 3. Codes -/

/-- The decoder of a header, once it has the codes. -/
def headerBehind (opcode userFlag : ActionKind) : Decoder RequestHeader := do
  let _reserved : UInt16 ← decode
  let usernameLength : UInt16 ← decode
  let passwordLength : UInt16 ← decode
  let session ← decode
  let username ← Decoder.take usernameLength.toNat
  let password ← Decoder.take passwordLength.toNat
  return ⟨opcode, userFlag, ⟨username⟩, ⟨password⟩, session⟩

/-- The decoder of a frame, once it has the codes. -/
def behind (opcode userFlag : ActionKind) : Decoder RequestFrame := do
  let header ← headerBehind opcode userFlag
  let length : UInt64 ← decode
  let payload ← Decoder.take length.toNat
  return ⟨header, payload⟩

theorem decode_eq :
    (decode : Decoder RequestFrame) =
      (decode >>= fun opcode => decode >>= fun userFlag => behind opcode userFlag) := by
  show ((decode >>= fun opcode => decode >>= fun userFlag => headerBehind opcode userFlag) >>=
    _) = _
  simp only [bind_assoc]
  rfl

theorem takes_code (kind : ActionKind) : Takes decode [kind.code] kind := Faithful.takes rfl

theorem fails_code {code : UInt8} (h : ActionKind.ofCode? code = none) (rest : Bytes) :
    Fails (decode : Decoder ActionKind) false ([code] ++ rest) (.unknownAction code) := by
  refine (takes_uint8 code).fails_bind ?_
  rw [h]
  exact fails_throw _ _

theorem fails_code_of_nil : Fails (decode : Decoder ActionKind) false [] .ranOut :=
  (((fails_take (by decide)).bind _).bind _).bind _

/-- **A code that is none is what the input is refused for**, whatever comes behind it. -/
theorem parse_of_unknown {input : Bytes} {code : UInt8} (h : unknownCode? input = some code) :
    parse input = .error (.unknownAction code) := by
  refine readFrame_of_fails ?_
  rw [decode_eq]
  match input, h with
  | first :: rest, h =>
    cases hfirst : ActionKind.ofCode? first with
    | none =>
      have hcode : first = code := by simpa [unknownCode?, hfirst] using h
      rw [← hcode]
      exact (fails_code hfirst rest).bind _
    | some opcode =>
      obtain rfl := ActionKind.ofCode?_eq_some_iff.mp hfirst
      refine (takes_code opcode).fails_bind ?_
      match rest, h with
      | [], h => simp [unknownCode?, hfirst] at h
      | second :: rest, h =>
        cases hsecond : ActionKind.ofCode? second with
        | none =>
          have hcode : second = code := by simpa [unknownCode?, hfirst, hsecond] using h
          rw [← hcode]
          exact (fails_code hsecond rest).bind _
        | some userFlag => simp [unknownCode?, hfirst, hsecond] at h

/-! ## 4. Lengths -/

section Lengths

variable {input : Bytes}

/-- The fields of a header behind its codes, if all of them are there. -/
theorem takes_headerBehind (opcode userFlag : ActionKind) (h : headerLength input ≤ input.length) :
    Takes (headerBehind opcode userFlag)
      (input.slice 2 (2 + (2 + (2 + (4 + (usernameLength input + passwordLength input))))))
      ⟨opcode, userFlag, ⟨input.slice 12 (usernameLength input)⟩,
        ⟨input.slice (12 + usernameLength input) (passwordLength input)⟩,
        UInt32.ofNat (input.numberAt 8 4)⟩ := by
  rw [headerLength] at h
  have hfirst : (UInt16.ofNat (usernameLength input)).toNat = usernameLength input :=
    UInt16.toNat_ofNat_of_lt' (Bytes.numberAt_lt (by omega))
  have hsecond : (UInt16.ofNat (passwordLength input)).toNat = passwordLength input :=
    UInt16.toNat_ofNat_of_lt' (Bytes.numberAt_lt (by omega))
  simp only [Bytes.slice_add]
  refine (takes_uint16 (Bytes.length_slice (by omega))).bind ?_
  refine (takes_uint16 (Bytes.length_slice (by omega))).bind ?_
  refine (takes_uint16 (Bytes.length_slice (by omega))).bind ?_
  refine (takes_uint32 (Bytes.length_slice (by omega))).bind ?_
  refine (takes_take ((Bytes.length_slice (by omega)).trans hfirst.symm)).bind ?_
  exact (takes_take ((Bytes.length_slice (by omega)).trans hsecond.symm)).map _

/-- The same for a whole frame. -/
theorem takes_behind (opcode userFlag : ActionKind) (h : promised input ≤ input.length) :
    ∃ frame, Takes (behind opcode userFlag) (input.slice 2 (promised input - 2)) frame := by
  have hheader : headerLength input ≤ input.length := by
    rw [promised] at h
    omega
  have hend : 2 + (2 + (2 + (2 + (4 + (usernameLength input + passwordLength input))))) =
      headerLength input := by
    rw [headerLength]
    omega
  have hsplit : promised input - 2 =
      2 + (2 + (2 + (4 + (usernameLength input + passwordLength input)))) +
        (8 + payloadLength input) := by
    rw [promised, headerLength]
    omega
  rw [promised] at h
  have hsize : (UInt64.ofNat (payloadLength input)).toNat = payloadLength input :=
    UInt64.toNat_ofNat_of_lt' (Bytes.numberAt_lt (by omega))
  have hpayload : ∀ header : RequestHeader, Takes
      (decode >>= fun length : UInt64 => Decoder.take length.toNat >>= fun payload =>
        pure ⟨header, payload⟩)
      (input.slice (headerLength input) 8 ++
        input.slice (headerLength input + 8) (payloadLength input))
      (RequestFrame.mk header (input.slice (headerLength input + 8) (payloadLength input))) := by
    intro header
    refine (takes_uint64 (Bytes.length_slice (by omega))).bind ?_
    exact (takes_take ((Bytes.length_slice (by omega)).trans hsize.symm)).map _
  rw [hsplit, Bytes.slice_add, hend, Bytes.slice_add input (headerLength input)]
  exact ⟨_, (takes_headerBehind opcode userFlag hheader).bind (hpayload _)⟩

/-- **A frame is taken as far as it promises to go**, if all of that is there. -/
theorem takes_of_promised (hknown : unknownCode? input = none) (h : promised input ≤ input.length) :
    ∃ frame, Takes (decode : Decoder RequestFrame) (input.take (promised input)) frame := by
  have hlong : 20 ≤ promised input := by
    rw [promised, headerLength]
    omega
  rcases codes_of_known hknown with hnil | ⟨opcode, hone⟩ | ⟨opcode, userFlag, rest, htwo⟩
  · have hlength := congrArg List.length hnil
    rw [List.length_nil] at hlength
    omega
  · have hlength := congrArg List.length hone
    rw [List.length_singleton] at hlength
    omega
  · obtain ⟨frame, hbehind⟩ := takes_behind opcode userFlag h
    have hfront : input.slice 0 2 = [opcode.code] ++ [userFlag.code] := by
      rw [htwo]
      rfl
    have hinput : input.take (promised input) =
        [opcode.code] ++ ([userFlag.code] ++ input.slice 2 (promised input - 2)) := by
      have hcount : promised input = 2 + (promised input - 2) := by omega
      have hslice := Bytes.slice_add input 0 2 (promised input - 2)
      rw [← hcount, Nat.zero_add, hfront, List.append_assoc] at hslice
      exact hslice
    refine ⟨frame, ?_⟩
    rw [hinput, decode_eq]
    exact (takes_code opcode).bind ((takes_code userFlag).bind hbehind)

/-- **A frame that has been taken ends where it promised to.** -/
theorem promised_layout {frame : RequestFrame} {reserved : Bytes}
    (hfit : Fit frame.header.strings) (hsize : frame.payload.length < UInt64.size)
    (hreserved : reserved.length = 2) (rest : Bytes) :
    promised (frame.layout reserved ++ rest) = (frame.layout reserved).length := by
  obtain ⟨⟨opcode, userFlag, ⟨username⟩, ⟨password⟩, session⟩, payload⟩ := frame
  obtain ⟨husername, hpasswords⟩ := fit_cons.mp hfit
  obtain ⟨hpassword, -⟩ := fit_cons.mp hpasswords
  generalize hinput : layout ⟨⟨opcode, userFlag, ⟨username⟩, ⟨password⟩, session⟩, payload⟩
    reserved ++ rest = input
  have hfirst : usernameLength input = username.length := by
    have hcodes : ([opcode.code, userFlag.code] ++ reserved).length = 4 := by simp [hreserved]
    have hmiddle := Bytes.numberAt_middle ([opcode.code, userFlag.code] ++ reserved) 2
      (Nat.lt_succ_of_le husername)
    rw [hcodes] at hmiddle
    rw [← hinput, usernameLength, layout, RequestHeader.layout]
    simp only [List.append_assoc] at hmiddle ⊢
    exact hmiddle _
  have hsecond : passwordLength input = password.length := by
    have hcodes : ([opcode.code, userFlag.code] ++ reserved ++
        Bytes.bigEndian 2 username.length).length = 6 := by simp [hreserved]
    have hmiddle := Bytes.numberAt_middle ([opcode.code, userFlag.code] ++ reserved ++
      Bytes.bigEndian 2 username.length) 2 (Nat.lt_succ_of_le hpassword)
    rw [hcodes] at hmiddle
    rw [← hinput, passwordLength, layout, RequestHeader.layout]
    simp only [List.append_assoc] at hmiddle ⊢
    exact hmiddle _
  have hheader : headerLength input = (RequestHeader.layout
      ⟨opcode, userFlag, ⟨username⟩, ⟨password⟩, session⟩ reserved).length := by
    rw [headerLength, hfirst, hsecond]
    simp only [RequestHeader.layout, List.length_append, List.length_cons, List.length_nil,
      Bytes.length_bigEndian, hreserved]
    omega
  have hthird : payloadLength input = payload.length := by
    have hmiddle := Bytes.numberAt_middle
      (RequestHeader.layout ⟨opcode, userFlag, ⟨username⟩, ⟨password⟩, session⟩ reserved) 8 hsize
    rw [payloadLength, hheader, ← hinput, layout]
    simp only [List.append_assoc] at hmiddle ⊢
    exact hmiddle _
  rw [promised, hheader, hthird, layout, List.length_append, List.length_append,
    Bytes.length_bigEndian, Nat.add_assoc]

end Lengths

/-! ## 5. Reading -/

section Reading

variable {input : Bytes}

/-- Behind the codes a frame can only run out. -/
theorem runsOut_behind (opcode userFlag : ActionKind) : RunsOut (behind opcode userFlag) := by
  have hheader : RunsOut (headerBehind opcode userFlag) :=
    runsOut_uint16.bind fun _ => runsOut_uint16.bind fun _ => runsOut_uint16.bind fun _ =>
      runsOut_uint32.bind fun _ => (runsOut_take _).bind fun _ => (runsOut_take _).bind fun _ =>
        runsOut_pure _
  exact hheader.bind fun _ => runsOut_uint64.bind fun _ => (runsOut_take _).bind fun _ =>
    runsOut_pure _

/-- **An input that ends too early runs out**, wherever it ends. -/
theorem parse_of_short (hknown : unknownCode? input = none) (h : input.length < promised input) :
    parse input = .error .ranOut := by
  rcases codes_of_known hknown with rfl | ⟨opcode, rfl⟩ | ⟨opcode, userFlag, rest, rfl⟩
  · refine readFrame_of_fails ?_
    rw [decode_eq]
    exact fails_code_of_nil.bind _
  · refine readFrame_of_fails ?_
    rw [decode_eq]
    exact (takes_code opcode).fails_bind (fails_code_of_nil.bind _)
  · generalize hinput : opcode.code :: userFlag.code :: rest = input at h
    unfold parse readFrame
    cases hdecode : (decode : Decoder RequestFrame) (.atFront input false) with
    | ok frame after =>
      -- what has been taken was promised, and all of it was there
      obtain ⟨hfit, hsize, reserved, hreserved, htook⟩ := RequestFrame.took hdecode
      have hwhole : input = frame.layout reserved ++ after.rest := htook.rest
      have hpromised := promised_layout hfit hsize hreserved after.rest
      rw [← hwhole] at hpromised
      have hlength := congrArg List.length hwhole
      rw [List.length_append, ← hpromised] at hlength
      omega
    | error malformed after =>
      have hbehind : (decode : Decoder RequestFrame) (.atFront input false) =
          behind opcode userFlag ⟨rest, 2, false⟩ := by
        rw [decode_eq, ← hinput]
        exact (Step.bind_of_ok ((takes_code opcode).whole (userFlag.code :: rest) 0 false) _).trans
          (Step.bind_of_ok ((takes_code userFlag).whole rest 1 false) _)
      rw [hbehind] at hdecode
      rw [runsOut_behind opcode userFlag _ _ _ hdecode]

/-- **An input that goes on behind the frame is refused**, and one that ends there is read. -/
theorem parse_of_promised (hknown : unknownCode? input = none) (h : promised input ≤ input.length) :
    ∃ frame, parse input =
      if promised input < input.length then .error (.trailing (input.length - promised input))
      else .ok frame := by
  obtain ⟨frame, htakes⟩ := takes_of_promised hknown h
  refine ⟨frame, ?_⟩
  by_cases hlong : promised input < input.length
  · have hrest : input.drop (promised input) ≠ [] := by
      rw [Ne, List.drop_eq_nil_iff]
      omega
    have htrailing := readFrame_of_trailing htakes hrest false
    rw [List.take_append_drop, List.length_drop] at htrailing
    rw [if_pos hlong]
    exact htrailing
  · have hwhole : input.take (promised input) = input := List.take_of_length_le (by omega)
    rw [hwhole] at htakes
    rw [if_neg hlong]
    exact readFrame_of_finishes htakes.finishes

/-- The input with the two reserved bytes made zero. -/
def cleared (input : Bytes) : Bytes := input.take 2 ++ [0, 0] ++ input.drop 4

/-- What a frame that has been read was written in. -/
theorem eq_layout_of_parse {frame : RequestFrame} (h : parse input = .ok frame) :
    Fit frame.header.strings ∧ frame.payload.length < UInt64.size ∧
      ∃ reserved, reserved.length = 2 ∧ input = frame.layout reserved := by
  unfold parse readFrame at h
  split at h
  · rename_i found cursor hdecode
    split at h
    · rename_i hposition
      cases h
      obtain ⟨hfit, hsize, reserved, hreserved, htook⟩ := RequestFrame.took hdecode
      exact ⟨hfit, hsize, reserved, hreserved, (htook.eq_of_position hposition).symm⟩
    · cases h
  · cases h

/-- What the parts of a frame are written as. -/
structure Rewritten (input : Bytes) (frame : RequestFrame) : Prop where
  /-- Header, length and payload make up the input again. -/
  whole : ∃ header size, bytesOf frame.header = .ok header ∧
    bytesOf (UInt64.ofNat frame.payload.length) = .ok size ∧
    header ++ size ++ frame.payload = cleared input
  /-- A payload about an account is written as it came. -/
  account : ∀ payload, frame.accountPayload? = some (.ok payload) →
    bytesOf payload = .ok frame.payload
  /-- A payload about a path is written as it came. -/
  path : ∀ payload, frame.pathPayload = .ok payload → bytesOf payload = .ok frame.payload

theorem cleared_layout (frame : RequestFrame) {reserved : Bytes} (h : reserved.length = 2) :
    cleared (frame.layout reserved) = frame.layout [0, 0] := by
  match reserved, h with
  | [first, second], _ => rfl

/-- **What has been read is written back to where it came from.** -/
theorem rewritten_of_parse {frame : RequestFrame} (h : parse input = .ok frame) :
    Rewritten input frame where
  whole := by
    obtain ⟨hfit, hsize, reserved, hreserved, rfl⟩ := eq_layout_of_parse h
    refine ⟨_, _, bytesOf_eq_ok_iff.mpr (RequestHeader.written_of_fit hfit), rfl, ?_⟩
    rw [cleared_layout frame hreserved, UInt64.toNat_ofNat_of_lt' hsize, List.append_assoc]
    rfl
  account payload hpayload := by
    unfold accountPayload? at hpayload
    split at hpayload
    · exact bytesOf_eq_ok_iff.mpr (written_of_readFrame (Option.some.inj hpayload))
    · cases hpayload
  path payload hpayload := bytesOf_eq_ok_iff.mpr (written_of_readFrame hpayload)

/-- **A request is refused for the first thing that is wrong with it, or it is read**, and then it
    was written in the one way in which it can be. -/
theorem parse_canonical (input : Bytes) :
    match fault input with
    | some error => ∃ malformed, parse input = .error malformed ∧ malformed.toError = error
    | none => ∃ frame, parse input = .ok frame ∧ Rewritten input frame := by
  unfold fault
  cases hcode : unknownCode? input with
  | some code => exact ⟨_, parse_of_unknown hcode, rfl⟩
  | none =>
    simp only
    by_cases hshort : input.length < promised input
    · rw [if_pos hshort]
      exact ⟨_, parse_of_short hcode hshort, rfl⟩
    · rw [if_neg hshort]
      obtain ⟨frame, hparse⟩ := parse_of_promised hcode (Nat.le_of_not_lt hshort)
      by_cases hlong : promised input < input.length
      · rw [if_pos hlong] at hparse ⊢
        exact ⟨_, hparse, rfl⟩
      · rw [if_neg hlong] at hparse ⊢
        exact ⟨frame, hparse, rewritten_of_parse hparse⟩

end Reading

end RequestFrame

end RemoteFiles
