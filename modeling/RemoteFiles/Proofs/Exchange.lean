import RemoteFiles.Proofs.Frame.Canonical
import RemoteFiles.Proofs.Response

/-!
# Responses, written and read

The frame that a server writes and the response that a client reads are two views of the same thing,
though not every frame is read alike: whether a digest stands behind the message is known from the
request, not from the bytes.

* `ResponseBody.frame_eq` -- what is written, and that a long message is all that can prevent it;
* `Response.conveys_of_apt` -- what is written for a request is read as the answer to it;
* `Response.frame_of_read` -- what is read is written back to the same bytes;
* `Response.frame_parse` -- both directions.
-/

namespace RemoteFiles

open Wire

/-! ## 1. What is written -/

namespace ResponseHeader

/-- The fourteen bytes of a header. -/
def bytes (header : ResponseHeader) : Bytes :=
  [header.code, header.reserved] ++
    (Bytes.bigEndian 4 header.session.toNat ++ Bytes.bigEndian 8 header.payloadLength.toNat)

theorem written_eq (header : ResponseHeader) : written header = .all header.bytes := rfl

theorem length_bytes (header : ResponseHeader) : header.bytes.length = length := by
  simp only [bytes, List.length_append, Bytes.length_bigEndian]
  rfl

/-- A header is read back. -/
theorem takes_bytes (header : ResponseHeader) : Takes decode header.bytes header := by
  refine (takes_uint8 header.code).bind ((takes_uint8 header.reserved).bind ?_)
  exact (takes_bigEndian_uint32 header.session).bind
    ((takes_bigEndian_uint64 header.payloadLength).map fun size =>
      ResponseHeader.mk header.code header.reserved header.session size)

/-- A header that is accepted is the one at the front of the frame. -/
theorem readPrefixed_of_read {frame : Bytes} {header : ResponseHeader}
    (h : read frame = .ok header) : readPrefixed frame false = .ok header := by
  cases hprefix : (readPrefixed frame false : Except Malformed ResponseHeader) with
  | error malformed =>
    rw [read, hprefix] at h
    cases h
  | ok found =>
    have hread : read frame =
        if maxPayload < found.payloadLength then
          .error (.oversized found.payloadLength)
        else .ok found := by
      rw [read, hprefix]
      rfl
    rw [hread] at h
    by_cases hlimit : maxPayload < found.payloadLength
    · rw [if_pos hlimit] at h
      cases h
    · rw [if_neg hlimit] at h
      cases h
      rfl

end ResponseHeader

namespace ResponseBody

/-- The bytes of a body whose message is short enough. -/
def bytes (body : ResponseBody) : Bytes :=
  UInt8.ofNat (Utf8.encode body.message).length ::
    (Utf8.encode body.message ++ (body.digest.elim [] Digest.bytes ++ body.payload))

/-- The number of them. -/
def size (body : ResponseBody) : Nat :=
  1 + (Utf8.encode body.message).length + (if body.digest.isSome then 32 else 0) +
    body.payload.length

theorem length_bytes (body : ResponseBody) : body.bytes.length = body.size := by
  have hdigest : (body.digest.elim [] Digest.bytes).length =
      if body.digest.isSome then 32 else 0 := by
    cases body.digest with
    | none => rfl
    | some digest => exact digest.length_eq
  rw [bytes, size, List.length_cons, List.length_append, List.length_append, hdigest]
  omega

theorem written_digest (digest : Option Digest) :
    written digest = .all (digest.elim [] Digest.bytes) := by
  cases digest <;> rfl

theorem written_of_short {body : ResponseBody}
    (h : ¬ maxMessage < (Utf8.encode body.message).length) : written body = .all body.bytes := by
  show (writtenMessageLength (Utf8.encode body.message)).andThen
    ((Written.all (Utf8.encode body.message)).andThen
      ((written body.digest).andThen (.all body.payload))) = _
  rw [writtenMessageLength, if_neg h, written_digest, Written.all_andThen_all,
    Written.all_andThen_all, Written.all_andThen_all]
  rfl

theorem written_of_long {body : ResponseBody}
    (h : maxMessage < (Utf8.encode body.message).length) :
    written body = .refused (.message (Utf8.encode body.message).length) := by
  show (writtenMessageLength (Utf8.encode body.message)).andThen _ = _
  rw [writtenMessageLength, if_pos h, Written.refused_andThen]

/-- **The frame that is written**: the length in its header is the length of the body, and nothing
    is written if the message is too long for its length. -/
theorem frame_eq (code : UInt8) (session : UInt32) (body : ResponseBody) :
    frame code session body =
      if maxMessage < (Utf8.encode body.message).length then
        .error (.message (Utf8.encode body.message).length)
      else
        .ok ((ResponseHeader.mk code 0 session (UInt64.ofNat body.size)).bytes ++ body.bytes) := by
  rw [frame, lengthOf_eq, bytesOf_eq body]
  by_cases hlong : maxMessage < (Utf8.encode body.message).length
  · rw [if_pos hlong, written_of_long hlong]
    rfl
  · rw [if_neg hlong, written_of_short hlong, ← length_bytes]
    have hheader := bytesOf_eq_ok_iff.mpr
      (ResponseHeader.written_eq ⟨code, 0, session, UInt64.ofNat body.bytes.length⟩)
    exact Step.result_bind_eq_ok_iff.mpr
      ⟨_, rfl, Step.result_bind_eq_ok_iff.mpr ⟨_, hheader, rfl⟩⟩

end ResponseBody

namespace Response

/-! ## 2. What is written is read -/

/-- The body can be the answer to the request: a digest goes with a download only, and a download
    without a digest has no payload. -/
structure Apt (request : Request) (body : ResponseBody) : Prop where
  download : body.digest.isSome = true → request.action = .get
  noFile : request.action = .get → body.digest = none → body.payload = []

/-- The response is what was written. A payload of no bytes is a payload only behind a digest. -/
structure Conveys (response : Response) (code : UInt8) (session : UInt32) (body : ResponseBody) :
    Prop where
  code : response.header.code = code
  session : response.header.session = session
  reserved : response.header.reserved = 0
  message : response.message = body.message
  digest : response.digest = body.digest
  payload : response.payload =
    if body.payload = [] ∧ body.digest = none then none else some body.payload

/-- A body that can be the answer to the request is read as that answer. -/
theorem readFrame_of_apt {request : Request} {body : ResponseBody} (h : Apt request body)
    (hshort : ¬ ResponseBody.maxMessage < (Utf8.encode body.message).length) :
    readFrame body.bytes request.expectsDigest = .ok body := by
  obtain ⟨text, digest, payload⟩ := body
  have hsize : (Utf8.encode text).length = (UInt8.ofNat (Utf8.encode text).length).toNat :=
    (UInt8.toNat_ofNat_of_lt' (Nat.lt_succ_of_le (Nat.le_of_not_lt hshort))).symm
  cases digest with
  | some digest =>
    have hexpects : request.expectsDigest = true := expectsDigest_iff.mpr (h.download rfl)
    rw [hexpects]
    exact ResponseBody.readFrame_of_digest hsize (Utf8.decode?_encode text) digest payload
  | none =>
    refine ResponseBody.readFrame_of_noDigest hsize (Utf8.decode?_encode text) ?_
    intro hexpects
    exact h.noFile (expectsDigest_iff.mp hexpects) rfl

/-- A header and a body in a row are read as both, if the one tells the length of the other. -/
theorem read_bytes {request : Request} {header : ResponseHeader} {body : ResponseBody}
    (h : Apt request body)
    (hshort : ¬ ResponseBody.maxMessage < (Utf8.encode body.message).length)
    (hpromise : header.payloadLength.toNat = body.size) (hlimit : body.size ≤ promiseLimit) :
    read request (header.bytes ++ body.bytes) = .ok (ofParts request header body) := by
  have hfront : (header.bytes ++ body.bytes).drop ResponseHeader.length = body.bytes := by
    rw [← header.length_bytes, List.drop_left]
  have hle : ¬ ResponseHeader.maxPayload < header.payloadLength := by
    rw [UInt64.lt_iff_toNat_lt, hpromise]
    exact Nat.not_lt_of_le hlimit
  have hheader : ResponseHeader.read (header.bytes ++ body.bytes) = .ok header := by
    rw [ResponseHeader.read, readPrefixed_of_takes header.takes_bytes]
    exact if_neg hle
  have hlength : ((header.bytes ++ body.bytes).drop ResponseHeader.length).length =
      header.payloadLength.toNat := by
    rw [hfront, hpromise, body.length_bytes]
  rw [read_of_body hheader hlength, hfront, readFrame_of_apt h hshort]

theorem conveys_ofParts (request : Request) (code : UInt8) (session : UInt32) (length : UInt64)
    (body : ResponseBody) :
    (ofParts request ⟨code, 0, session, length⟩ body).Conveys code session body where
  code := rfl
  session := rfl
  reserved := rfl
  message := rfl
  digest := rfl
  payload := by
    obtain ⟨text, digest, payload⟩ := body
    cases payload <;> cases digest <;> rfl

/-- **What is written for a request is read as the answer to it.** -/
theorem conveys_of_apt {request : Request} {body : ResponseBody} (h : Apt request body)
    (hshort : ¬ ResponseBody.maxMessage < (Utf8.encode body.message).length)
    (hlimit : body.size ≤ promiseLimit) (code : UInt8) (session : UInt32) :
    ∃ frame response, body.frame code session = .ok frame ∧ read request frame = .ok response ∧
      response.Conveys code session body := by
  have hframe := ResponseBody.frame_eq code session body
  rw [if_neg hshort] at hframe
  have hpromise : (UInt64.ofNat body.size).toNat = body.size :=
    UInt64.toNat_ofNat_of_lt' (Nat.lt_of_le_of_lt hlimit (by decide))
  exact ⟨_, _, hframe, read_bytes h hshort hpromise hlimit, conveys_ofParts _ _ _ _ _⟩

/-! ## 3. What is read has been written -/

/-- A response is made of a header and a body, and the header tells the length of the body. -/
theorem parts_of_read {request : Request} {frame : Bytes} {response : Response}
    (h : read request frame = .ok response) :
    ∃ header body, (readPrefixed frame false : Except Malformed ResponseHeader) = .ok header ∧
      (frame.drop ResponseHeader.length).length = header.payloadLength.toNat ∧
      readFrame (frame.drop ResponseHeader.length) request.expectsDigest = .ok body ∧
      response = ofParts request header body := by
  obtain ⟨header, hheader, -⟩ := Step.result_bind_eq_ok_iff.mp h
  rw [read_of_header hheader] at h
  by_cases hshort : (frame.drop ResponseHeader.length).length < header.payloadLength.toNat
  · rw [if_pos hshort] at h
    cases h
  rw [if_neg hshort] at h
  by_cases hlong : header.payloadLength.toNat < (frame.drop ResponseHeader.length).length
  · rw [if_pos hlong] at h
    cases h
  rw [if_neg hlong] at h
  have hlength := Nat.le_antisymm (Nat.le_of_not_lt hlong) (Nat.le_of_not_lt hshort)
  cases hbody : (readFrame (frame.drop ResponseHeader.length) request.expectsDigest :
      Except Malformed ResponseBody) with
  | error malformed =>
    rw [hbody] at h
    cases h
  | ok body =>
    rw [hbody] at h
    cases h
    exact ⟨header, body, ResponseHeader.readPrefixed_of_read hheader, hlength, rfl, rfl⟩

/-- What is not written has no written form. -/
theorem short_of_written {body : ResponseBody} {bytes : Bytes} (h : written body = .all bytes) :
    ¬ ResponseBody.maxMessage < (Utf8.encode body.message).length := by
  intro hlong
  rw [ResponseBody.written_of_long hlong] at h
  exact Written.refused_ne_all _ _ h

/-- **What is read is written back to the same bytes**, if the reserved byte is zero. -/
theorem frame_of_read {request : Request} {frame : Bytes} {response : Response}
    (h : read request frame = .ok response) (hreserved : response.header.reserved = 0) :
    ResponseBody.frame response.header.code response.header.session
      ⟨response.message, response.digest, response.payload.getD []⟩ = .ok frame := by
  obtain ⟨header, body, hheader, hlength, hbody, rfl⟩ := parts_of_read h
  obtain ⟨bytes, rest, hbytes, hsplit⟩ := written_of_readPrefixed hheader
  have hfront : header.bytes = bytes := Written.all_inj.mp hbytes
  have hrest : frame.drop ResponseHeader.length = rest := by
    rw [hsplit, ← hfront, ← header.length_bytes, List.drop_left]
  rw [hrest] at hbody hlength
  have hwritten := written_of_readFrame hbody
  have hshort := short_of_written hwritten
  rw [ResponseBody.written_of_short hshort, Written.all_inj] at hwritten
  -- the header that is written is the one that was read
  have hsame :
      ResponseHeader.mk header.code 0 header.session (UInt64.ofNat body.size) = header := by
    have hzero : header.reserved = 0 := hreserved
    rw [← body.length_bytes, hwritten, hlength, UInt64.ofNat_toNat, ← hzero]
  rw [payload_ofParts]
  show body.frame header.code header.session = _
  rw [ResponseBody.frame_eq, if_neg hshort, hsame, hfront, hwritten, hsplit]

/-! ## 4. Both directions -/

/-- **Responses, there and back.** A frame cannot be written only if its message is too long; what
    is written for a request is read as the answer to it; and what is read, with its reserved byte
    zero, is written back to the same bytes. -/
theorem frame_parse (code : UInt8) (session : UInt32) (body : ResponseBody) :
    (∀ error, (body.frame code session).mapError Oversize.toError = .error error ↔
      error = .noRoom ∧ 255 < (Utf8.encode body.message).length) ∧
    (∀ request client, Apt request body → (Utf8.encode body.message).length ≤ 255 →
      body.size ≤ 4 * 1024 * 1024 * 1024 →
        ∃ frame response records, body.frame code session = .ok frame ∧
          parse request frame client =
            .ok response { client with log := client.log ++ records } ∧
          response.Conveys code session body) ∧
    ∀ request frame client response after, parse request frame client = .ok response after →
      response.header.reserved = 0 →
        ResponseBody.frame response.header.code response.header.session
          ⟨response.message, response.digest, response.payload.getD []⟩ = .ok frame := by
  refine ⟨?_, ?_, ?_⟩
  · intro error
    rw [ResponseBody.frame_eq]
    by_cases hlong : ResponseBody.maxMessage < (Utf8.encode body.message).length
    · rw [if_pos hlong]
      constructor
      · rintro ⟨⟩
        exact ⟨rfl, hlong⟩
      · rintro ⟨rfl, -⟩
        rfl
    · rw [if_neg hlong]
      constructor
      · rintro ⟨⟩
      · rintro ⟨-, hlong'⟩
        exact absurd hlong' hlong
  · intro request client hapt hshort hlimit
    obtain ⟨frame, response, hframe, hread, hconveys⟩ :=
      conveys_of_apt hapt (Nat.not_lt_of_le hshort) hlimit code session
    exact ⟨frame, response, _, hframe, parse_of_read_ok hread client, hconveys⟩
  · intro request frame client response after hparse hreserved
    exact frame_of_read (read_of_parse hparse) hreserved

/-- The answer to a download goes there and back, with a digest of sevens and a payload of two
    bytes. -/
theorem frame_parse_sevens :
    ∃ frame response after,
      parse ⟨⟨"host", 4000, "ann", ⟨"secret"⟩, 5⟩, .get "notes" ⟨[0x61]⟩⟩ frame
        ⟨⟨[], [], []⟩, "", []⟩ = .ok response after ∧
      response.message = "ok" ∧ response.payload = some [0x68, 0x69] ∧
      ResponseBody.frame response.header.code response.header.session
        ⟨response.message, response.digest, response.payload.getD []⟩ = .ok frame := by
  obtain ⟨-, hthere, hback⟩ :=
    frame_parse 1 5 ⟨"ok", some ⟨List.replicate 32 7, rfl⟩, [0x68, 0x69]⟩
  have hapt : Apt ⟨⟨"host", 4000, "ann", ⟨"secret"⟩, 5⟩, .get "notes" ⟨[0x61]⟩⟩
      ⟨"ok", some ⟨List.replicate 32 7, rfl⟩, [0x68, 0x69]⟩ :=
    ⟨fun _ => rfl, fun _ hnone => nomatch hnone⟩
  obtain ⟨frame, response, records, -, hparse, hconveys⟩ :=
    hthere _ ⟨⟨[], [], []⟩, "", []⟩ hapt (by decide) (by decide)
  exact ⟨frame, response, _, hparse, hconveys.message, hconveys.payload,
    hback _ _ _ _ _ hparse hconveys.reserved⟩

end Response

end RemoteFiles
