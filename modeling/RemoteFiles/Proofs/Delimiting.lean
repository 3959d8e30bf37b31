import RemoteFiles.Proofs.Framing
import RemoteFiles.Proofs.Grammar

/-!
# Frames that delimit themselves

Where a frame ends can be told from the frame: what comes before its end is refused because bytes are
missing, and what goes on behind it because there are too many. No other error comes up on the way,
wherever a frame is cut, be it inside a number, a string, a digest or a payload.

* `Delimited.eq_of_starts` -- a frame that delimits itself starts no other one;
* `Response.delimited_of_framed`, `RequestFrame.delimited_of_takes` -- responses do by the promise of
  their header, requests because their decoder takes its fields one after the other;
* `frames_delimited` -- both, for all frames that are accepted.
-/

namespace RemoteFiles

open Wire

/-! ## 1. Frames and what is read of them -/

/-- A frame is told from all that it starts with and from all that starts with it: the former runs
    out, the latter does not have the length that it promises. -/
structure Delimited {α : Type} (read : Bytes → Except Error α) (frame : Bytes) : Prop where
  cut : ∀ front back, frame = front ++ back → back ≠ [] → read front = .error .ranOut
  extended : ∀ more, more ≠ [] → read (frame ++ more) = .error .wrongPacketLength

/-- **Such a frame starts no other frame.** -/
theorem Delimited.eq_of_starts {α : Type} {read : Bytes → Except Error α} {frame other : Bytes}
    {value : α} (h : Delimited read frame) (hother : read other = .ok value)
    (hstarts : frame <+: other) : frame = other := by
  obtain ⟨more, rfl⟩ := hstarts
  by_contra hne
  have hmore : more ≠ [] := by
    rintro rfl
    exact hne (List.append_nil frame).symm
  rw [h.extended more hmore] at hother
  cases hother

/-! ## 2. Responses -/

namespace Response

/-- What becomes of some bytes as the response to a request. -/
def reading (request : Request) (client : Client) (bytes : Bytes) : Except Error Response :=
  Step.outcome (parse request bytes client)

/-- Some bytes are accepted as the response to a request. -/
def Accepted (request : Request) (frame : Bytes) : Prop :=
  ∃ client response, reading request client frame = .ok response

variable {request : Request} {frame : Bytes}

theorem accepted_iff : Accepted request frame ↔ fault request frame = none := by
  constructor
  · rintro ⟨client, response, haccepted⟩
    cases hfault : fault request frame with
    | none => rfl
    | some error =>
      have hrejected : reading request client frame = .error error :=
        outcome_eq_error_iff.mpr hfault
      rw [haccepted] at hrejected
      cases hrejected
  · intro hfault
    have hspec := read_spec request frame
    rw [hfault] at hspec
    obtain ⟨response, hread, -⟩ := hspec
    refine ⟨⟨⟨[], [], []⟩, "", []⟩, response, ?_⟩
    rw [reading, parse_of_read_ok hread]
    rfl

theorem Accepted.framed (h : Accepted request frame) : Framed frame :=
  framed_of_fault_eq_none (accepted_iff.mp h)

/-- A whole frame without its end misses bytes: of the header, or of what that promises. -/
theorem fault_of_cut {front back : Bytes} (h : Framed (front ++ back)) (hback : back ≠ []) :
    fault request front = some .ranOut := by
  have hmissing : 0 < back.length := List.length_pos_iff.mpr hback
  have hlength := h.length_eq
  rw [List.length_append] at hlength
  by_cases hshort : front.length < 14
  · exact if_pos hshort
  have hpromised : promised front = promised (front ++ back) :=
    promised_of_take (List.take_append_of_le_length (Nat.le_of_not_lt hshort)).symm
  have hlimit := h.promised_le
  rw [fault, if_neg hshort, if_neg (by omega), if_pos (by omega)]

/-- A whole frame that goes on has more than it promises. -/
theorem fault_of_extended {more : Bytes} (h : Framed frame) (hmore : more ≠ []) :
    fault request (frame ++ more) = some .wrongPacketLength := by
  have hleft : 0 < more.length := List.length_pos_iff.mpr hmore
  have hlength := h.length_eq
  have hlimit := h.promised_le
  have hpromised : promised (frame ++ more) = promised frame :=
    promised_of_take (List.take_append_of_le_length (by omega))
  rw [fault, List.length_append, hpromised, if_neg (by omega), if_neg (by omega),
    if_neg (by omega), if_pos (by omega)]

/-- **A whole response delimits itself**, whatever it answers. -/
theorem delimited_of_framed (h : Framed frame) (client : Client) :
    Delimited (reading request client) frame where
  cut front back hframe hback := by
    rw [hframe] at h
    exact outcome_eq_error_iff.mpr (fault_of_cut h hback)
  extended _ hmore := outcome_eq_error_iff.mpr (fault_of_extended h hmore)

end Response

/-! ## 3. Requests -/

namespace RequestFrame

/-- What becomes of some bytes as a request. -/
def reading (input : Bytes) : Except Error RequestFrame := (parse input).mapError Malformed.toError

/-- Some bytes are accepted as a request. -/
def Accepted (input : Bytes) : Prop := ∃ frame, reading input = .ok frame

variable {input : Bytes}

theorem reading_eq_ok_iff {frame : RequestFrame} :
    reading input = .ok frame ↔ parse input = .ok frame := by
  rw [reading]
  cases parse input with
  | ok found => exact ⟨fun h => by cases h; rfl, fun h => by cases h; rfl⟩
  | error malformed => exact ⟨nofun, nofun⟩

/-- What is accepted is taken by the decoder of frames, down to the last byte. -/
theorem Accepted.takes (h : Accepted input) :
    ∃ frame, Takes (decode : Decoder RequestFrame) input frame := by
  obtain ⟨frame, haccepted⟩ := h
  rw [reading_eq_ok_iff] at haccepted
  cases hknown : unknownCode? input with
  | some code =>
    rw [parse_of_unknown hknown] at haccepted
    cases haccepted
  | none =>
    have hpromised : promised input ≤ input.length := by
      by_contra hlong
      rw [parse_of_short hknown (Nat.lt_of_not_le hlong)] at haccepted
      cases haccepted
    obtain ⟨_, hparse⟩ := parse_of_promised hknown hpromised
    have hwhole : ¬ promised input < input.length := by
      intro hless
      rw [if_pos hless, haccepted] at hparse
      cases hparse
    obtain ⟨taken, htakes⟩ := takes_of_promised hknown hpromised
    rw [List.take_of_length_le (Nat.le_of_not_lt hwhole)] at htakes
    exact ⟨taken, htakes⟩

/-- **A request delimits itself** if its decoder takes it. -/
theorem delimited_of_takes {frame : RequestFrame}
    (h : Takes (decode : Decoder RequestFrame) input frame) : Delimited reading input where
  cut front back hinput hback := by
    rw [hinput] at h
    rw [reading, parse, readFrame_of_fails (h.fails hback)]
    rfl
  extended more hmore := by
    rw [reading, parse, readFrame_of_trailing h hmore]
    rfl

end RequestFrame

/-! ## 4. All frames -/

/-- **Frames delimit themselves.** Of a response that is accepted for some request every part that
    ends earlier runs out as a response to it, and all that goes on behind it has the wrong length;
    the same goes for requests. So no frame starts another one, also if two responses are not to the
    same request. -/
theorem frames_delimited :
    (∀ request frame, Response.Accepted request frame →
      ∀ client, Delimited (Response.reading request client) frame) ∧
    (∀ input, RequestFrame.Accepted input → Delimited RequestFrame.reading input) ∧
    (∀ request request' frame other, Response.Accepted request frame →
      Response.Accepted request' other → frame <+: other → frame = other) ∧
    (∀ input other, RequestFrame.Accepted input → RequestFrame.Accepted other →
      input <+: other → input = other) := by
  refine ⟨fun request frame haccepted client => ?_, fun input haccepted => ?_,
    fun request request' frame other haccepted hother hstarts => ?_,
    fun input other haccepted hother hstarts => ?_⟩
  · exact Response.delimited_of_framed haccepted.framed client
  · obtain ⟨_, htakes⟩ := haccepted.takes
    exact RequestFrame.delimited_of_takes htakes
  · obtain ⟨client, response, hread⟩ := hother
    exact (Response.delimited_of_framed haccepted.framed client).eq_of_starts hread hstarts
  · obtain ⟨_, htakes⟩ := haccepted.takes
    obtain ⟨frame, hread⟩ := hother
    exact (RequestFrame.delimited_of_takes htakes).eq_of_starts hread hstarts

/-- A response cut inside the length of its body, and a request with one byte too many. -/
theorem frames_delimited_cut_and_extended :
    Response.reading ⟨⟨"host", 4000, "ann", ⟨"secret"⟩, 5⟩, .authenticate⟩ ⟨⟨[], [], []⟩, "", []⟩
        [1, 0, 0, 0, 0, 9, 0, 0, 0, 0] = .error .ranOut ∧
      RequestFrame.reading [5, 0, 0, 0, 0, 1, 0, 1, 0, 0, 0, 9, 0x61, 0x62,
        0, 0, 0, 0, 0, 0, 0, 0, 7] = .error .wrongPacketLength := by
  obtain ⟨hresponses, hrequests, -, -⟩ := frames_delimited
  have hresponse : Response.Accepted ⟨⟨"host", 4000, "ann", ⟨"secret"⟩, 5⟩, .authenticate⟩
      [1, 0, 0, 0, 0, 9, 0, 0, 0, 0, 0, 0, 0, 3, 2, 0x6F, 0x6B] :=
    Response.accepted_iff.mpr (by decide +kernel)
  have hrequest : RequestFrame.Accepted [5, 0, 0, 0, 0, 1, 0, 1, 0, 0, 0, 9, 0x61, 0x62,
      0, 0, 0, 0, 0, 0, 0, 0] := ⟨_, rfl⟩
  exact ⟨(hresponses _ _ hresponse _).cut _ [0, 0, 0, 3, 2, 0x6F, 0x6B] rfl (by decide),
    (hrequests _ hrequest).extended [7] (by decide)⟩

end RemoteFiles
