import RemoteFiles.Proofs.Stream

/-!
# One length of a frame

Where a frame ends is worked out in three places: `expectedLength` reads it off a header,
`Source.readFrame` takes so much from a stream, and `Response.parse` compares it with what it has been
given. All three go by the promise of the header, and refuse the same promises.

* `fault_eq_bigPacket_iff`, `expectedLength_eq_bigPacket_iff` -- a promise is refused in both places
  or in none;
* `framed_of_parse`, `framed_of_readFrame` -- what is accepted and what is cut out of a stream is a
  whole frame;
* `delimitsAlike` -- the three places agree about all bytes.
-/

namespace RemoteFiles

namespace Response

variable {request : Request} {frame : Bytes}

/-! ## 1. Promises that are refused -/

theorem outcome_eq_error_iff {client : Client} {error : Error} :
    Step.outcome (parse request frame client) = .error error ↔
      fault request frame = some error := by
  have hspec := read_spec request frame
  cases hfault : fault request frame with
  | some found =>
    rw [hfault] at hspec
    obtain ⟨rejection, hread, rfl⟩ := hspec
    rw [parse_of_read_error hread, Step.outcome_error, Except.error.injEq, Option.some.injEq]
  | none =>
    rw [hfault] at hspec
    obtain ⟨response, hread, -⟩ := hspec
    rw [parse_of_read_ok hread]
    exact ⟨nofun, nofun⟩

/-- **The parser refuses a promise** as too large for nothing but its size. -/
theorem fault_eq_bigPacket_iff {size : UInt64} :
    fault request frame = some (.bigPacket size) ↔
      14 ≤ frame.length ∧ promiseLimit < promised frame ∧
        UInt64.ofNat (promised frame) = size := by
  unfold fault
  by_cases hshort : frame.length < 14
  · rw [if_pos hshort]
    exact ⟨nofun, fun h => absurd h.1 (Nat.not_le_of_lt hshort)⟩
  rw [if_neg hshort]
  by_cases hlarge : promiseLimit < promised frame
  · rw [if_pos hlarge, Option.some.injEq, Error.bigPacket.injEq]
    exact ⟨fun h => ⟨Nat.le_of_not_lt hshort, hlarge, h⟩, fun h => h.2.2⟩
  · rw [if_neg hlarge]
    constructor
    · intro h
      split_ifs at h <;> cases h
    · exact fun h => absurd h.2.1 hlarge

theorem expectedLength_of_short (h : frame.length < 14) :
    expectedLength frame = .error (.malformed .ranOut) := by
  rw [expectedLength, ResponseHeader.read_of_short h]
  rfl

/-- **The transport refuses the same promises**, naming the same size. -/
theorem expectedLength_eq_bigPacket_iff {size : UInt64} :
    (expectedLength frame).mapError Rejection.toError = .error (.bigPacket size) ↔
      14 ≤ frame.length ∧ promiseLimit < promised frame ∧
        UInt64.ofNat (promised frame) = size := by
  by_cases hshort : frame.length < 14
  · rw [expectedLength_of_short hshort]
    exact ⟨nofun, fun h => absurd h.1 (Nat.not_le_of_lt hshort)⟩
  have hheader : 14 ≤ frame.length := Nat.le_of_not_lt hshort
  rw [expectedLength_eq hheader]
  by_cases hlarge : promiseLimit < promised frame
  · rw [if_pos hlarge]
    show (Except.error (.bigPacket _) : Except Error Nat) = _ ↔ _
    rw [Except.error.injEq, Error.bigPacket.injEq]
    exact ⟨fun h => ⟨hheader, hlarge, h⟩, fun h => h.2.2⟩
  · rw [if_neg hlarge]
    exact ⟨nofun, fun h => absurd h.2.1 hlarge⟩

/-- The transport misses bytes of a header, and nothing else. -/
theorem expectedLength_eq_ranOut_iff :
    (expectedLength frame).mapError Rejection.toError = .error .ranOut ↔ frame.length < 14 := by
  constructor
  · intro h
    by_contra hlong
    rw [expectedLength_eq (Nat.le_of_not_lt hlong)] at h
    split_ifs at h <;> cases h
  · intro hshort
    rw [expectedLength_of_short hshort]
    rfl

/-! ## 2. Whole frames -/

theorem framed_of_fault_eq_none (h : fault request frame = none) : Framed frame := by
  unfold fault at h
  split_ifs at h
  exact ⟨by omega, by omega⟩

/-- **What the parser accepts is a whole frame.** -/
theorem framed_of_parse {client after : Client} {response : Response}
    (h : parse request frame client = .ok response after) : Framed frame := by
  cases hfault : fault request frame with
  | none => exact framed_of_fault_eq_none hfault
  | some error =>
    have hfails : Step.outcome (parse request frame client) = .error error :=
      outcome_eq_error_iff.mpr hfault
    rw [h] at hfails
    cases hfails

/-- The lengths inside a body ask for more than there is: for the length of a message, for the message
    itself, or for the digest of a file behind a message that is text. -/
def BodyRunsOut (request : Request) (frame : Bytes) : Prop :=
  promised frame = 0 ∨ promised frame < 1 + messageSize frame ∨
    (ByteArray.IsValidUTF8 (messageBytes frame).toByteArray ∧ request.action = .get ∧
      1 ≤ remainder frame ∧ remainder frame ≤ 31)

/-- **Of a whole frame only the body can be wrong.** -/
theorem fault_of_framed (h : Framed frame) :
    fault request frame =
      if promised frame = 0 ∨ promised frame < 1 + messageSize frame then some .ranOut
      else if ¬ ByteArray.IsValidUTF8 (messageBytes frame).toByteArray then some .badString
      else if request.action = .get ∧ 1 ≤ remainder frame ∧ remainder frame ≤ 31 then some .ranOut
      else none := by
  obtain ⟨hlimit, hlength⟩ := h
  rw [fault, if_neg (by omega), if_neg (by omega), if_neg (by omega), if_neg (by omega)]

theorem fault_eq_ranOut_iff (h : Framed frame) :
    fault request frame = some .ranOut ↔ BodyRunsOut request frame := by
  rw [fault_of_framed h, BodyRunsOut, ← or_assoc]
  split_ifs <;> simp_all

end Response

namespace Source

/-- **What is cut out of a stream is a whole frame.** -/
theorem framed_of_readFrame {source : Source} {frame : Bytes}
    (h : source.readFrame.1 = .ok frame) : Response.Framed frame := by
  rw [(readFrame_next source).1, next] at h
  split_ifs at h with hshort hlarge hcut
  cases h
  have hpromised : Response.promised
      (source.flatten.take (14 + Response.promised source.flatten)) =
        Response.promised source.flatten := by
    refine Response.promised_of_take ?_
    rw [List.take_take, Nat.min_eq_left (Nat.le_add_right 14 _)]
  refine ⟨by rw [hpromised]; exact Nat.le_of_not_lt hlarge, ?_⟩
  rw [hpromised, List.length_take]
  omega

end Source

/-! ## 3. Transport and parser -/

namespace Response

/-- The places where the end of a frame is worked out agree about some bytes, as the answer to a
    request. -/
structure DelimitsAlike (request : Request) (bytes : Bytes) : Prop where
  /-- What the parser accepts has the length that its header is expected to have, and is cut out of
      every stream that starts with it. -/
  accepted : ∀ client response after, parse request bytes client = .ok response after →
    expectedLength (bytes.take 14) = .ok bytes.length ∧
      ∀ (source : Source) (following : Bytes), source.flatten = bytes ++ following →
        source.readFrame.1 = .ok bytes ∧ source.readFrame.2.flatten = following
  /-- A promise is refused in both places, with the same size, or in none. -/
  refused : ∀ client size,
    (expectedLength bytes).mapError Rejection.toError = .error (.bigPacket size) ↔
      Step.outcome (parse request bytes client) = .error (.bigPacket size)
  /-- A length can be told from every header that is there. -/
  short : (expectedLength bytes).mapError Rejection.toError = .error .ranOut ↔ bytes.length < 14
  /-- What has been cut out of a stream ends where it promises to, so if the parser misses bytes, then
      by the lengths inside the body. -/
  received : ∀ source : Source, source.readFrame.1 = .ok bytes →
    bytes.length = 14 + promised bytes ∧
      ∀ client, (∀ size, Step.outcome (parse request bytes client) ≠ .error (.bigPacket size)) ∧
        Step.outcome (parse request bytes client) ≠ .error .wrongPacketLength ∧
        (Step.outcome (parse request bytes client) = .error .ranOut ↔ BodyRunsOut request bytes)

/-- **Transport and parser delimit frames alike**, whatever the bytes are. -/
theorem delimitsAlike (request : Request) (bytes : Bytes) : DelimitsAlike request bytes where
  accepted client response after hparse := by
    have hframed := framed_of_parse hparse
    obtain ⟨hlimit, hlength⟩ := hframed
    have hpromised : promised (bytes.take 14) = promised bytes :=
      promised_of_take (by rw [List.take_take, Nat.min_self])
    have hheader : 14 ≤ (bytes.take 14).length := by
      rw [List.length_take]
      omega
    refine ⟨?_, fun source following hsource => ?_⟩
    · rw [expectedLength_eq hheader, hpromised, if_neg (Nat.not_lt_of_le hlimit), hlength,
        Nat.add_comm]
    · exact Source.readFrame_of_framed ⟨hlimit, hlength⟩ hsource
  refused client size := by
    rw [outcome_eq_error_iff, fault_eq_bigPacket_iff, expectedLength_eq_bigPacket_iff]
  short := expectedLength_eq_ranOut_iff
  received source hreceived := by
    have hframed := Source.framed_of_readFrame hreceived
    refine ⟨hframed.length_eq, fun client => ⟨fun size => ?_, ?_, ?_⟩⟩
    · rw [ne_eq, outcome_eq_error_iff, fault_eq_bigPacket_iff]
      exact fun h => absurd h.2.1 (Nat.not_lt_of_le hframed.promised_le)
    · rw [ne_eq, outcome_eq_error_iff, fault_of_framed hframed]
      split_ifs <;> nofun
    · rw [outcome_eq_error_iff]
      exact fault_eq_ranOut_iff hframed

/-- A frame that comes in two pieces, with a message that is longer than its body. -/
theorem delimitsAlike_two_pieces :
    (Source.readFrame [[1, 0, 0, 0, 0], [9, 0, 0, 0, 0, 0, 0, 0, 2, 2, 0x6F]]).1 =
        .ok [1, 0, 0, 0, 0, 9, 0, 0, 0, 0, 0, 0, 0, 2, 2, 0x6F] ∧
      Step.outcome (parse ⟨⟨"host", 4000, "ann", ⟨"secret"⟩, 5⟩, .authenticate⟩
        [1, 0, 0, 0, 0, 9, 0, 0, 0, 0, 0, 0, 0, 2, 2, 0x6F] ⟨⟨[], [], []⟩, "", []⟩) =
          .error .ranOut := by
  have hframed : Framed [1, 0, 0, 0, 0, 9, 0, 0, 0, 0, 0, 0, 0, 2, 2, 0x6F] :=
    ⟨by decide, by decide⟩
  have hread : (Source.readFrame [[1, 0, 0, 0, 0], [9, 0, 0, 0, 0, 0, 0, 0, 2, 2, 0x6F]]).1 =
      .ok [1, 0, 0, 0, 0, 9, 0, 0, 0, 0, 0, 0, 0, 2, 2, 0x6F] :=
    (Source.readFrame_of_framed hframed (List.append_nil _).symm).1
  obtain ⟨-, hparse⟩ := (delimitsAlike ⟨⟨"host", 4000, "ann", ⟨"secret"⟩, 5⟩, .authenticate⟩
    _).received _ hread
  obtain ⟨-, -, hranOut⟩ := hparse ⟨⟨[], [], []⟩, "", []⟩
  exact ⟨hread, hranOut.mpr (.inr (.inl (by decide)))⟩

end Response

end RemoteFiles
