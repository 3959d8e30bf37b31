import RemoteFiles.Proofs.Digest
import RemoteFiles.Proofs.Frame.Response
import RemoteFiles.Proofs.Text.Utf8
import RemoteFiles.Response.Basic

/-!
# The grammar of responses

Any bytes may come as the answer to a request. `fault` says what is wrong with them, the first of
seven things that are looked at in turn, and `Spelled` says what a response has to do with the bytes
it was read from.

* `read_of_body` -- reading once the header has been accepted and its promise is kept;
* `read_spec` -- what is wrong with a frame is what it is rejected for, and a frame with which
  nothing is wrong is read as what it spells;
* `parse_grammar` -- the same for the step of the client, which changes nothing but its log.
-/

namespace RemoteFiles

open Wire

/-! ## 1. Headers -/

namespace ResponseHeader

theorem read_of_short {frame : Bytes} (h : frame.length < length) :
    read frame = .error (.malformed .ranOut) := by
  have hmissing : List.replicate (length - frame.length) (0 : UInt8) ≠ [] := by
    rw [Ne, List.replicate_eq_nil_iff]
    omega
  have hlength : (frame ++ List.replicate (length - frame.length) 0).length = length := by
    rw [List.length_append, List.length_replicate]
    omega
  have hread : (readPrefixed frame false : Except Malformed ResponseHeader) = .error .ranOut :=
    readPrefixed_of_fails ((takes_ofFrame hlength).fails hmissing)
  rw [read, hread]
  rfl

theorem read_of_length_le {frame : Bytes} (h : length ≤ frame.length) :
    read frame =
      if maxPayload < (ofFrame frame).payloadLength then
        .error (.oversized (ofFrame frame).payloadLength)
      else .ok (ofFrame frame) := by
  have hlength : (frame.take length).length = length := by
    rw [List.length_take]
    omega
  have hread : readPrefixed frame false = .ok (ofFrame frame) := by
    have htakes := readPrefixed_of_takes (takes_ofFrame hlength) (frame.drop length) false
    rwa [List.take_append_drop, ofFrame_take] at htakes
  rw [read, hread]
  by_cases hlimit : maxPayload < (ofFrame frame).payloadLength
  · rw [if_pos hlimit]
    exact if_pos hlimit
  · rw [if_neg hlimit]
    exact if_neg hlimit

/-- **No frame is cut at its header unless it is that long.** -/
theorem length_le_of_read {frame : Bytes} {header : ResponseHeader} (h : read frame = .ok header) :
    length ≤ frame.length := by
  by_cases hlength : frame.length < length
  · rw [read_of_short hlength] at h
    cases h
  · exact Nat.le_of_not_lt hlength

end ResponseHeader

namespace Response

/-! ## 2. What a frame spells -/

/-- The number of bytes that a frame promises behind its header. -/
def promised (frame : Bytes) : Nat := Bytes.ofBigEndian ((frame.drop 6).take 8)

/-- A frame that promises more than four gibibytes is not accepted. -/
def promiseLimit : Nat := 4 * 1024 * 1024 * 1024

/-- The number of bytes of the message. -/
def messageSize (frame : Bytes) : Nat := (frame.getD 14 0).toNat

/-- The bytes of the message. -/
def messageBytes (frame : Bytes) : Bytes := (frame.drop 15).take (messageSize frame)

/-- The bytes behind the message. -/
def bytesBehind (frame : Bytes) : Bytes := frame.drop (15 + messageSize frame)

/-- The number of bytes that are promised behind the message. -/
def remainder (frame : Bytes) : Nat := promised frame - 1 - messageSize frame

/-- What is wrong with a frame as the answer to a request; the first thing found decides. -/
def fault (request : Request) (frame : Bytes) : Option Error :=
  if frame.length < 14 then some .ranOut
  else if promiseLimit < promised frame then some (.bigPacket (UInt64.ofNat (promised frame)))
  else if frame.length - 14 < promised frame then some .ranOut
  else if promised frame < frame.length - 14 then some .wrongPacketLength
  else if promised frame = 0 ∨ promised frame < 1 + messageSize frame then some .ranOut
  else if ¬ ByteArray.IsValidUTF8 (messageBytes frame).toByteArray then some .badString
  else if request.action = .get ∧ 1 ≤ remainder frame ∧ remainder frame ≤ 31 then some .ranOut
  else none

/-- What a response has to do with the frame it was read from, as the answer to a request. -/
structure Spelled (request : Request) (frame : Bytes) (response : Response) : Prop where
  request_eq : response.request = request
  /-- The frame ends where it promises to. -/
  length_eq : frame.length = 14 + promised frame
  code : frame[0]? = some response.header.code
  reserved : frame[1]? = some response.header.reserved
  session : response.header.session.toNat = Bytes.ofBigEndian ((frame.drop 2).take 4)
  payloadLength : response.header.payloadLength.toNat = promised frame
  message : Utf8.encode response.message = messageBytes frame
  /-- The length of the message is not cut off. -/
  messageLength : response.messageLength.toNat = messageSize frame ∧
    (Utf8.encode response.message).length = messageSize frame
  /-- Digest and payload are all there is behind the message. -/
  bytesBehind_eq : bytesBehind frame =
    (response.digest.elim [] Digest.bytes) ++ response.payload.getD []
  digest : response.digest.isSome = true ↔ request.action = .get ∧ 0 < remainder frame
  payload : response.payload = none ↔ remainder frame = 0
  validHash : response.validHash = true ↔
    ∃ digest, response.digest = some digest ∧
      digest.bytes = Sha256.hash (response.payload.getD [])
  /-- Every byte behind the header is accounted for. -/
  accounts : response.header.payloadLength.toNat =
    1 + response.messageLength.toNat + (if response.digest.isSome then 32 else 0) +
      (response.payload.getD []).length

/-! ## 3. Reading -/

theorem read_of_header_error {request : Request} {frame : Bytes} {rejection : Rejection}
    (h : ResponseHeader.read frame = .error rejection) :
    read request frame = .error rejection := by
  rw [read, h]
  rfl

/-- The response that is made of a header and a body. -/
def ofParts (request : Request) (header : ResponseHeader) (body : ResponseBody) : Response :=
  { request, header, message := body.message, digest := body.digest
    payload := if body.payload.isEmpty && body.digest.isNone then none else some body.payload }

/-- **Reading, once the header has been accepted**: too little, too much, or a body. -/
theorem read_of_header {request : Request} {frame : Bytes} {header : ResponseHeader}
    (h : ResponseHeader.read frame = .ok header) :
    read request frame =
      if (frame.drop ResponseHeader.length).length < header.payloadLength.toNat then
        .error (.short (frame.drop ResponseHeader.length).length header.payloadLength)
      else if header.payloadLength.toNat < (frame.drop ResponseHeader.length).length then
        .error .overlong
      else
        match (readFrame (frame.drop ResponseHeader.length) request.expectsDigest :
          Except Malformed ResponseBody) with
        | .ok body => .ok (ofParts request header body)
        | .error malformed => .error (.malformed malformed) := by
  rw [read, h]
  by_cases hshort : (frame.drop ResponseHeader.length).length < header.payloadLength.toNat
  · exact (if_pos hshort).trans (if_pos hshort).symm
  · refine (if_neg hshort).trans (Eq.trans ?_ (if_neg hshort).symm)
    by_cases hlong : header.payloadLength.toNat < (frame.drop ResponseHeader.length).length
    · exact (if_pos hlong).trans (if_pos hlong).symm
    · refine (if_neg hlong).trans (Eq.trans ?_ (if_neg hlong).symm)
      show ((readFrame _ _).mapError _).bind _ = _
      cases (readFrame (frame.drop ResponseHeader.length) request.expectsDigest :
        Except Malformed ResponseBody) <;> rfl

/-- **The body of a frame that ends where it promises to.** -/
theorem read_of_body {request : Request} {frame : Bytes} {header : ResponseHeader}
    (h : ResponseHeader.read frame = .ok header)
    (hlength : (frame.drop ResponseHeader.length).length = header.payloadLength.toNat) :
    read request frame =
      match (readFrame (frame.drop ResponseHeader.length) request.expectsDigest :
        Except Malformed ResponseBody) with
      | .ok body => .ok (ofParts request header body)
      | .error malformed => .error (.malformed malformed) := by
  rw [read_of_header h, if_neg (by omega), if_neg (by omega)]

/-- The answer to a download, and no other, may carry a digest. -/
theorem expectsDigest_iff {request : Request} :
    request.expectsDigest = true ↔ request.action = .get := by
  obtain ⟨session, operation⟩ := request
  cases operation <;>
    simp [Request.expectsDigest, Request.target?, Request.action, Operation.action]

/-- Reading ends in a rejection for the error, or in the response that the frame spells. -/
def Outcome (request : Request) (frame : Bytes) : Option Error → Prop
  | some error => ∃ rejection, read request frame = .error rejection ∧ rejection.toError = error
  | none => ∃ response, read request frame = .ok response ∧ Spelled request frame response

section Bodies

variable {request : Request} {frame : Bytes}

theorem promised_ofFrame (h : 14 ≤ frame.length) :
    (ResponseHeader.ofFrame frame).payloadLength.toNat = promised frame := by
  have hlength : ((frame.drop 6).take 8).length = 8 := by
    rw [List.length_take, List.length_drop]
    omega
  have hfits : promised frame < Bytes.capacity 8 := by
    have hlt := Bytes.ofBigEndian_lt ((frame.drop 6).take 8)
    rwa [hlength] at hlt
  exact UInt64.toNat_ofNat_of_lt' hfits

theorem session_ofFrame (h : 14 ≤ frame.length) :
    (ResponseHeader.ofFrame frame).session.toNat = Bytes.ofBigEndian ((frame.drop 2).take 4) := by
  have hlength : ((frame.drop 2).take 4).length = 4 := by
    rw [List.length_take, List.length_drop]
    omega
  have hfits : Bytes.ofBigEndian ((frame.drop 2).take 4) < Bytes.capacity 4 := by
    have hlt := Bytes.ofBigEndian_lt ((frame.drop 2).take 4)
    rwa [hlength] at hlt
  exact UInt32.toNat_ofNat_of_lt' hfits

/-- The header of a frame that promises no more than is accepted. -/
theorem read_ofFrame (h : 14 ≤ frame.length) (hlimit : ¬ promiseLimit < promised frame) :
    ResponseHeader.read frame = .ok (ResponseHeader.ofFrame frame) := by
  have hle : ¬ ResponseHeader.maxPayload < (ResponseHeader.ofFrame frame).payloadLength := by
    rw [UInt64.lt_iff_toNat_lt, promised_ofFrame h]
    exact hlimit
  rw [ResponseHeader.read_of_length_le h, if_neg hle]

/-- A body with something in it: the length of the message, the message, and what is behind. -/
theorem drop_header (h : 14 < frame.length) :
    frame.drop 14 = frame.getD 14 0 :: (messageBytes frame ++ bytesBehind frame) := by
  have hbehind : bytesBehind frame = (frame.drop 15).drop (messageSize frame) := by
    rw [List.drop_drop]
    rfl
  rw [hbehind, messageBytes, List.take_append_drop, List.drop_eq_getElem_cons h,
    List.getD_eq_getElem?_getD, List.getElem?_eq_getElem h, Option.getD_some]

theorem getElem?_eq_some_getD {i : Nat} (h : i < frame.length) :
    frame[i]? = some (frame.getD i 0) := by
  rw [List.getD_eq_getElem?_getD, List.getElem?_eq_getElem h, Option.getD_some]

theorem length_messageBytes (hlength : frame.length = 14 + promised frame)
    (hsize : 1 + messageSize frame ≤ promised frame) :
    (messageBytes frame).length = messageSize frame := by
  rw [messageBytes, List.length_take, List.length_drop]
  omega

theorem length_bytesBehind (hlength : frame.length = 14 + promised frame) :
    (bytesBehind frame).length = remainder frame := by
  rw [bytesBehind, remainder, List.length_drop]
  omega

@[simp] theorem payload_ofParts (header : ResponseHeader) (body : ResponseBody) :
    (ofParts request header body).payload.getD [] = body.payload := by
  obtain ⟨text, digest, payload⟩ := body
  cases payload <;> cases digest <;> rfl

theorem payload_ofParts_eq_none_iff {header : ResponseHeader} {body : ResponseBody} :
    (ofParts request header body).payload = none ↔ body.payload = [] ∧ body.digest = none := by
  obtain ⟨text, digest, payload⟩ := body
  cases payload <;> cases digest <;> simp [ofParts]

theorem validHash_iff {response : Response} :
    response.validHash = true ↔
      ∃ digest, response.digest = some digest ∧
        digest.bytes = Sha256.hash (response.payload.getD []) := by
  rw [validHash]
  cases response.digest with
  | none => simp
  | some digest => simp [Digest.verifies_iff_bytes]

/-- **A body is the frame's own**, if its parts are those that stand behind the header. -/
theorem spelled_ofParts {text : String} {digest : Option Digest} {payload : Bytes}
    (hlength : frame.length = 14 + promised frame)
    (hsize : 1 + messageSize frame ≤ promised frame)
    (htext : Utf8.encode text = messageBytes frame)
    (hbehind : bytesBehind frame = digest.elim [] Digest.bytes ++ payload)
    (hdigest : digest.isSome = true ↔ request.action = .get ∧ 0 < remainder frame) :
    Spelled request frame (ofParts request (.ofFrame frame) ⟨text, digest, payload⟩) := by
  have h14 : 14 ≤ frame.length := by omega
  have hmessage := length_messageBytes hlength hsize
  have hremainder : remainder frame = (digest.elim [] Digest.bytes).length + payload.length := by
    rw [← length_bytesBehind hlength, hbehind, List.length_append]
  have hcount : (digest.elim [] Digest.bytes).length = if digest.isSome then 32 else 0 := by
    cases digest with
    | none => rfl
    | some digest => exact digest.length_eq
  have haccounts : promised frame =
      1 + messageSize frame + (if digest.isSome then 32 else 0) + payload.length := by
    rw [← hcount]
    rw [remainder] at hremainder
    omega
  have hshort : messageSize frame < 256 := (frame.getD 14 0).toNat_lt
  have hcut : (ofParts request (.ofFrame frame) ⟨text, digest, payload⟩).messageLength.toNat =
      messageSize frame := by
    show (UInt8.ofNat (Utf8.encode text).length).toNat = _
    rw [htext, hmessage]
    exact UInt8.toNat_ofNat_of_lt' hshort
  refine
    { request_eq := rfl
      length_eq := hlength
      code := ?_
      reserved := ?_
      session := session_ofFrame h14
      payloadLength := promised_ofFrame h14
      message := htext
      messageLength := ⟨hcut, by rw [← hmessage, ← htext]; rfl⟩
      bytesBehind_eq := ?_
      digest := hdigest
      payload := ?_
      validHash := validHash_iff
      accounts := ?_ }
  · exact getElem?_eq_some_getD (by omega)
  · exact getElem?_eq_some_getD (by omega)
  · rw [payload_ofParts]
    exact hbehind
  · rw [payload_ofParts_eq_none_iff, hremainder]
    cases digest with
    | none => simp
    | some digest => simp [digest.length_eq]
  · rw [hcut, payload_ofParts]
    exact (promised_ofFrame h14).trans haccounts

section Lengths

variable (hlength : frame.length = 14 + promised frame) (hlimit : ¬ promiseLimit < promised frame)

include hlength hlimit

theorem read_of_length :
    read request frame =
      match (readFrame (frame.drop 14) request.expectsDigest : Except Malformed ResponseBody) with
      | .ok body => .ok (ofParts request (.ofFrame frame) body)
      | .error malformed => .error (.malformed malformed) := by
  have h14 : 14 ≤ frame.length := by omega
  refine read_of_body (read_ofFrame h14 hlimit) ?_
  rw [promised_ofFrame h14, List.length_drop]
  show frame.length - 14 = _
  omega

theorem outcome_of_malformed (malformed : Malformed) {error : Error}
    (h : (readFrame (frame.drop 14) request.expectsDigest : Except Malformed ResponseBody) =
      .error malformed) (herror : malformed.toError = error) :
    Outcome request frame (some error) :=
  ⟨.malformed malformed, by rw [read_of_length hlength hlimit, h], herror⟩

theorem outcome_of_body (body : ResponseBody)
    (h : readFrame (frame.drop 14) request.expectsDigest = .ok body)
    (hspelled : Spelled request frame (ofParts request (.ofFrame frame) body)) :
    Outcome request frame none :=
  ⟨_, by rw [read_of_length hlength hlimit, h], hspelled⟩

/-- What is behind a message that is text: a whole digest and a file where a file is expected,
    and any payload elsewhere. -/
theorem outcome_of_text {text : String} (hsize : 1 + messageSize frame ≤ promised frame)
    (hdecode : Utf8.decode? (messageBytes frame) = some text) :
    Outcome request frame
      (if request.action = .get ∧ 1 ≤ remainder frame ∧ remainder frame ≤ 31 then some .ranOut
      else none) := by
  have hbody : 14 < frame.length := by omega
  have hdrop := drop_header hbody
  have hmessage : (messageBytes frame).length = (frame.getD 14 0).toNat :=
    length_messageBytes hlength hsize
  have hremainder := length_bytesBehind hlength
  have htext : Utf8.encode text = messageBytes frame := Utf8.decode?_eq_some_iff.mp hdecode
  by_cases hfile : request.action = .get ∧ 0 < remainder frame
  · obtain ⟨hget, hsome⟩ := hfile
    by_cases hshort : remainder frame ≤ 31
    · rw [if_pos ⟨hget, hsome, hshort⟩]
      refine outcome_of_malformed hlength hlimit .ranOut ?_ rfl
      rw [hdrop, expectsDigest_iff.mpr hget]
      rw [← hremainder] at hsome hshort
      exact ResponseBody.readFrame_of_shortDigest hmessage hdecode hsome (Nat.lt_succ_of_le hshort)
    · rw [if_neg fun h => hshort h.2.2]
      obtain ⟨digest, payload, hbehind⟩ : ∃ (digest : Digest) (payload : Bytes),
          bytesBehind frame = digest.bytes ++ payload := by
        have hlong : Digest.size ≤ (bytesBehind frame).length := by
          rw [hremainder]
          exact Nat.lt_of_not_le hshort
        exact ⟨⟨(bytesBehind frame).take Digest.size, by rw [List.length_take]; omega⟩,
          (bytesBehind frame).drop Digest.size, (List.take_append_drop _ _).symm⟩
      refine outcome_of_body hlength hlimit ⟨text, some digest, payload⟩ ?_
        (spelled_ofParts hlength hsize htext hbehind (by simp [hget, hsome]))
      rw [hdrop, expectsDigest_iff.mpr hget, hbehind]
      exact ResponseBody.readFrame_of_digest hmessage hdecode digest payload
  · rw [if_neg fun h => hfile ⟨h.1, h.2.1⟩]
    refine outcome_of_body hlength hlimit ⟨text, none, bytesBehind frame⟩ ?_
      (spelled_ofParts hlength hsize htext rfl (by simpa using hfile))
    rw [hdrop]
    refine ResponseBody.readFrame_of_noDigest hmessage hdecode fun hexpects => ?_
    rw [← List.length_eq_zero_iff, hremainder]
    by_contra hsome
    exact hfile ⟨expectsDigest_iff.mp hexpects, Nat.pos_of_ne_zero hsome⟩

/-- A body whose promise is kept: too short for its message, or read up to the end of it. -/
theorem outcome_of_length :
    Outcome request frame
      (if promised frame = 0 ∨ promised frame < 1 + messageSize frame then some .ranOut
      else if ¬ ByteArray.IsValidUTF8 (messageBytes frame).toByteArray then some .badString
      else if request.action = .get ∧ 1 ≤ remainder frame ∧ remainder frame ≤ 31 then some .ranOut
      else none) := by
  by_cases hempty : promised frame = 0
  · rw [if_pos (.inl hempty)]
    refine outcome_of_malformed hlength hlimit .ranOut ?_ rfl
    rw [List.drop_of_length_le (by omega)]
    exact ResponseBody.readFrame_of_nil
  have hbody : 14 < frame.length := by omega
  have hdrop := drop_header hbody
  by_cases hsize : promised frame < 1 + messageSize frame
  · rw [if_pos (.inr hsize)]
    refine outcome_of_malformed hlength hlimit .ranOut ?_ rfl
    rw [hdrop]
    refine ResponseBody.readFrame_of_short ?_
    have hcount := congrArg List.length hdrop
    rw [List.length_drop, List.length_cons] at hcount
    show _ < messageSize frame
    omega
  rw [if_neg (not_or.mpr ⟨hempty, hsize⟩)]
  have hfits : 1 + messageSize frame ≤ promised frame := Nat.le_of_not_lt hsize
  cases hdecode : Utf8.decode? (messageBytes frame) with
  | none =>
    have hinvalid : ¬ ByteArray.IsValidUTF8 (messageBytes frame).toByteArray := by
      rw [← Utf8.decode?_isSome_iff, hdecode]
      decide
    rw [if_pos hinvalid]
    refine outcome_of_malformed hlength hlimit .badString ?_ rfl
    rw [hdrop]
    exact ResponseBody.readFrame_of_broken (length_messageBytes hlength hfits) hdecode
  | some text =>
    have hvalid : ByteArray.IsValidUTF8 (messageBytes frame).toByteArray := by
      rw [← Utf8.decode?_isSome_iff, hdecode]
      rfl
    rw [if_neg (not_not_intro hvalid)]
    exact outcome_of_text hlength hlimit hfits hdecode

end Lengths

/-- **What is wrong with a frame is what it is rejected for**, and a frame with which nothing is
    wrong is read as what it spells. -/
theorem read_spec (request : Request) (frame : Bytes) :
    Outcome request frame (fault request frame) := by
  unfold fault
  by_cases hheader : frame.length < 14
  · rw [if_pos hheader]
    exact ⟨_, read_of_header_error (ResponseHeader.read_of_short hheader), rfl⟩
  rw [if_neg hheader]
  have h14 : 14 ≤ frame.length := Nat.le_of_not_lt hheader
  by_cases hlimit : promiseLimit < promised frame
  · rw [if_pos hlimit]
    have hlt : ResponseHeader.maxPayload < (ResponseHeader.ofFrame frame).payloadLength := by
      rw [UInt64.lt_iff_toNat_lt, promised_ofFrame h14]
      exact hlimit
    have hread := ResponseHeader.read_of_length_le h14
    rw [if_pos hlt] at hread
    exact ⟨_, read_of_header_error hread, rfl⟩
  rw [if_neg hlimit]
  have hread : read request frame = _ := read_of_header (read_ofFrame h14 hlimit)
  have hdrop : (frame.drop ResponseHeader.length).length = frame.length - 14 := List.length_drop
  rw [promised_ofFrame h14, hdrop] at hread
  by_cases hshort : frame.length - 14 < promised frame
  · rw [if_pos hshort] at hread
    rw [if_pos hshort]
    exact ⟨_, hread, rfl⟩
  rw [if_neg hshort] at hread
  rw [if_neg hshort]
  by_cases hlong : promised frame < frame.length - 14
  · rw [if_pos hlong] at hread
    rw [if_pos hlong]
    exact ⟨_, hread, rfl⟩
  rw [if_neg hlong]
  exact outcome_of_length (by omega) hlimit

end Bodies

/-! ## 4. The step of the client -/

/-- What the log says about a response that has been read. -/
def verdict (response : Response) : Log :=
  (if response.digest.isSome && !response.validHash then
    [⟨.warn, "digest mismatch for " ++ (response.payload.getD []).length.repr ++ " byte payload"⟩]
  else []) ++ [⟨.debug, inspect response⟩]

/-- What the log says about a frame before it is read. -/
def arrival (frame : Bytes) : Log :=
  [⟨.trace, "response " ++ frame.length.repr ++ " bytes\n" ++
    HexDump.render (frame.take dumpLimit)⟩]

theorem parse_of_read_error {request : Request} {frame : Bytes} {rejection : Rejection}
    (h : read request frame = .error rejection) (client : Client) :
    parse request frame client = .error rejection.toError
      { client with log := client.log ++ (arrival frame ++ rejection.notice) } := by
  rw [← List.append_assoc]
  show (ClientM.accepted (read request frame) >>= _) _ = _
  rw [h]
  rfl

theorem parse_of_read_ok {request : Request} {frame : Bytes} {response : Response}
    (h : read request frame = .ok response) (client : Client) :
    parse request frame client = .ok response
      { client with log := client.log ++ (arrival frame ++ verdict response) } := by
  rw [verdict]
  show (ClientM.accepted (read request frame) >>= _) _ = _
  rw [h]
  by_cases hwarn : (response.digest.isSome && !response.validHash) = true
  · rw [if_pos hwarn, ← List.append_assoc, ← List.append_assoc]
    exact congrFun (if_pos hwarn) _
  · rw [if_neg hwarn, ← List.append_assoc, List.nil_append]
    exact congrFun (if_neg hwarn) _

/-- What the client accepts has been read. -/
theorem read_of_parse {request : Request} {frame : Bytes} {client after : Client}
    {response : Response} (h : parse request frame client = .ok response after) :
    read request frame = .ok response := by
  cases hread : read request frame with
  | error rejection =>
    rw [parse_of_read_error hread] at h
    cases h
  | ok found =>
    rw [parse_of_read_ok hread] at h
    cases h
    rfl

/-- No cut reaches beyond the bytes that there are, be it the one behind the header or one that a
    decoder makes. -/
def CutsInRange (frame : Bytes) : Prop :=
  (∀ header, ResponseHeader.read frame = .ok header → ResponseHeader.length ≤ frame.length) ∧
    ∀ n cursor bytes after, Decoder.take n cursor = .ok bytes after →
      n ≤ cursor.rest.length ∧ bytes = cursor.rest.take n ∧ after.rest = cursor.rest.drop n

theorem cutsInRange (frame : Bytes) : CutsInRange frame := by
  refine ⟨fun _ hread => ResponseHeader.length_le_of_read hread, ?_⟩
  intro n cursor bytes after htake
  obtain ⟨taken, _, htaken, hbytes⟩ := Step.bind_eq_ok_iff.mp htake
  unfold Decoder.takeExactly at htaken
  split at htaken
  · rename_i hle
    cases htaken
    cases hbytes
    exact ⟨hle, rfl, rfl⟩
  · cases htaken

/-- **A response is read, or the error says what is wrong with the frame.** Only the log is changed
    by that, and no cut reaches beyond the frame. -/
theorem parse_grammar (request : Request) (frame : Bytes) (client : Client) :
    (match fault request frame with
    | some error => ∃ records,
        parse request frame client = .error error { client with log := client.log ++ records }
    | none => ∃ response records,
        parse request frame client = .ok response { client with log := client.log ++ records } ∧
          Spelled request frame response) ∧
      CutsInRange frame := by
  refine ⟨?_, cutsInRange frame⟩
  have hspec := read_spec request frame
  cases hfault : fault request frame with
  | some error =>
    rw [hfault] at hspec
    obtain ⟨rejection, hread, rfl⟩ := hspec
    exact ⟨_, parse_of_read_error hread client⟩
  | none =>
    rw [hfault] at hspec
    obtain ⟨response, hread, hspelled⟩ := hspec
    exact ⟨response, _, parse_of_read_ok hread client, hspelled⟩

end Response

end RemoteFiles
