import RemoteFiles.Frame.Response
import RemoteFiles.Proofs.Frame.Payload

/-!
# Response frames, read

What the decoders of a response make of arbitrary bytes. Nothing is assumed of the bytes: they may
be cut short, their lengths may lie, and their text may be none.

* `ResponseHeader.takes_ofFrame` -- the header is what the first fourteen bytes spell;
* `ResponseBody.readFrame_of_nil` and the theorems behind it -- one for each way in which a body can
  be read or refused, in the order in which the decoder finds out.
-/

namespace RemoteFiles

open Wire

/-! ## 1. Header -/

namespace ResponseHeader

/-- The header that the front of a frame spells. -/
def ofFrame (frame : Bytes) : ResponseHeader :=
  { code := frame.getD 0 0
    reserved := frame.getD 1 0
    session := UInt32.ofNat (Bytes.ofBigEndian ((frame.drop 2).take 4))
    payloadLength := UInt64.ofNat (Bytes.ofBigEndian ((frame.drop 6).take 8)) }

/-- Fourteen bytes are a header. -/
theorem takes_ofFrame {bytes : Bytes} (h : bytes.length = length) :
    Takes decode bytes (ofFrame bytes) := by
  match bytes, h with
  | code :: reserved :: tail, h =>
    have htail : tail.length = 12 := by
      simpa [length] using h
    have hsession : (tail.take 4).length = 4 := by rw [List.length_take]; omega
    have hsize : (tail.drop 4).length = 8 := by rw [List.length_drop]; omega
    have hsplit : code :: reserved :: tail =
        [code] ++ ([reserved] ++ (tail.take 4 ++ tail.drop 4)) := by
      rw [List.take_append_drop]
      rfl
    have hread : ofFrame (code :: reserved :: tail) =
        ⟨code, reserved, UInt32.ofNat (Bytes.ofBigEndian (tail.take 4)),
          UInt64.ofNat (Bytes.ofBigEndian (tail.drop 4))⟩ := by
      simp [ofFrame, List.take_of_length_le (Nat.le_of_eq hsize)]
    rw [hread, hsplit]
    refine (takes_uint8 code).bind ((takes_uint8 reserved).bind ?_)
    exact (takes_uint32 hsession).bind ((takes_uint64 hsize).map fun size =>
      ResponseHeader.mk code reserved _ size)

/-- The header is all in the first fourteen bytes. -/
theorem ofFrame_take (frame : Bytes) : ofFrame (frame.take length) = ofFrame frame := by
  simp [ofFrame, length, List.drop_take, List.take_take]

end ResponseHeader

/-! ## 2. Body -/

namespace ResponseBody

section Reading

variable {expectDigest : Bool} {size : UInt8} {message rest : Bytes} {text : String}

/-! A body that ends too early, or whose message is no text. -/

theorem readFrame_of_nil :
    (readFrame [] expectDigest : Except Malformed ResponseBody) = .error .ranOut := by
  have hsize : Fails (decode : Decoder UInt8) expectDigest [] .ranOut :=
    ((fails_take (by decide)).bind _).bind _
  exact readFrame_of_fails (hsize.bind _)

theorem readFrame_of_short (h : rest.length < size.toNat) :
    (readFrame (size :: rest) expectDigest : Except Malformed ResponseBody) = .error .ranOut := by
  refine readFrame_of_fails ((takes_uint8 size).fails_bind ?_)
  exact (fails_take h).bind _

theorem readFrame_of_broken (hsize : message.length = size.toNat)
    (hbroken : Utf8.decode? message = none) :
    (readFrame (size :: (message ++ rest)) expectDigest : Except Malformed ResponseBody) =
      .error .badString := by
  refine readFrame_of_fails ((takes_uint8 size).fails_bind ((takes_take hsize).fails_bind ?_))
  rw [hbroken]
  exact fails_throw _ _

/-! What comes behind the message depends on the request. -/

/-- A digest and a file. -/
def fileBehind (text : String) : Decoder ResponseBody := do
  let digest ← decode
  let payload ← Decoder.takeRest
  return ⟨text, some digest, payload⟩

/-- A payload that is no file. -/
def payloadBehind (text : String) : Decoder ResponseBody := do
  let payload ← Decoder.takeRest
  return ⟨text, none, payload⟩

/-- The decoder, once it has the message. -/
def behind (expectDigest : Bool) (text : String) (rest : Bytes) : Decoder ResponseBody :=
  if expectDigest && 0 < rest.length then fileBehind text else payloadBehind text

theorem readFrame_of_fails_behind {malformed : Malformed} (hsize : message.length = size.toNat)
    (htext : Utf8.decode? message = some text)
    (h : Fails (behind expectDigest text rest) expectDigest rest malformed) :
    (readFrame (size :: (message ++ rest)) expectDigest : Except Malformed ResponseBody) =
      .error malformed := by
  refine readFrame_of_fails ((takes_uint8 size).fails_bind ((takes_take hsize).fails_bind ?_))
  rw [htext]
  exact h

theorem readFrame_of_finishes_behind {body : ResponseBody} (hsize : message.length = size.toNat)
    (htext : Utf8.decode? message = some text)
    (h : Finishes (behind expectDigest text rest) expectDigest rest body) :
    readFrame (size :: (message ++ rest)) expectDigest = .ok body := by
  have hdecode : Finishes decode expectDigest ([size] ++ (message ++ rest)) body := by
    refine (takes_uint8 size).finishes_bind ((takes_take hsize).finishes_bind ?_)
    rw [htext]
    exact h
  exact readFrame_of_finishes hdecode

/-- Where a digest is expected, there is a whole one or nothing. -/
theorem readFrame_of_shortDigest (hsize : message.length = size.toNat)
    (htext : Utf8.decode? message = some text) (hsome : 0 < rest.length)
    (hshort : rest.length < Digest.size) :
    (readFrame (size :: (message ++ rest)) true : Except Malformed ResponseBody) =
      .error .ranOut := by
  refine readFrame_of_fails_behind hsize htext ?_
  rw [behind, if_pos (by simpa using hsome)]
  exact ((fails_takeExactly hshort).bind _).bind _

theorem readFrame_of_digest (hsize : message.length = size.toNat)
    (htext : Utf8.decode? message = some text) (digest : Digest) (payload : Bytes) :
    readFrame (size :: (message ++ (digest.bytes ++ payload))) true =
      .ok (ResponseBody.mk text (some digest) payload) := by
  have hsome : 0 < (digest.bytes ++ payload).length := by
    rw [List.length_append, digest.length_eq]
    exact Nat.lt_of_lt_of_le (by decide) (Nat.le_add_right _ _)
  refine readFrame_of_finishes_behind hsize htext ?_
  rw [behind, if_pos (by simpa using hsome)]
  refine (takes_digest digest).finishes_bind fun position => ?_
  rw [Step.bind_of_ok (finishes_takeRest payload position)]
  rfl

theorem readFrame_of_noDigest (hsize : message.length = size.toNat)
    (htext : Utf8.decode? message = some text) (h : expectDigest = true → rest = []) :
    readFrame (size :: (message ++ rest)) expectDigest = .ok (ResponseBody.mk text none rest) := by
  have hplain : ¬ (expectDigest && 0 < rest.length) = true := by
    intro hfile
    rw [Bool.and_eq_true] at hfile
    rw [h hfile.1] at hfile
    exact absurd hfile.2 (by decide)
  refine readFrame_of_finishes_behind hsize htext ?_
  rw [behind, if_neg hplain]
  intro position
  rw [payloadBehind, Step.bind_of_ok (finishes_takeRest rest position)]
  rfl

end Reading

end ResponseBody

end RemoteFiles
