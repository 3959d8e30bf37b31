import RemoteFiles.Proofs.Response
import RemoteFiles.Stream

/-!
# Frames in a stream

A connection delivers a stream in pieces, and where one piece ends and the next begins says nothing
about the frames in it. What is read and how much of the stream it takes are functions of the bytes
alone (`next`), so everything else in this file is about bytes.

* `take_flatten` -- taking bytes across pieces is taking them from the whole;
* `readFrame_next` -- reading a frame is cutting it off the front of the bytes;
* `next_of_frame`, `next_of_cut`, `next_of_oversized` -- a whole frame, a frame that breaks off, and
  a header that promises too much;
* `readFrames_stream` -- the frames of a stream come back in order, and nothing behind them is
  touched.
-/

namespace RemoteFiles

/-- The bytes are one whole response frame, whatever its body says. -/
structure Response.Framed (frame : Bytes) : Prop where
  /-- The header promises no more than is ever accepted. -/
  promised_le : promised frame ≤ promiseLimit
  /-- Behind the header there is as much as it promises. -/
  length_eq : frame.length = 14 + promised frame

/-! ## 1. The length of a frame -/

/-- The promise is all in the first fourteen bytes. -/
theorem Response.promised_of_take {bytes bytes' : Bytes} (h : bytes.take 14 = bytes'.take 14) :
    promised bytes = promised bytes' := by
  have hfield : ∀ b : Bytes, (b.drop 6).take 8 = (b.take 14).drop 6 := by
    intro b
    rw [List.drop_take]
  unfold promised
  rw [hfield, hfield, h]

/-- **The length of the frame that a header starts**: that of the header and what it promises. -/
theorem expectedLength_eq {header : Bytes} (h : 14 ≤ header.length) :
    expectedLength header =
      if Response.promiseLimit < Response.promised header then
        .error (.oversized (UInt64.ofNat (Response.promised header)))
      else .ok (Response.promised header + 14) := by
  have hpromised := Response.promised_ofFrame h
  have hlimit : ResponseHeader.maxPayload < (ResponseHeader.ofFrame header).payloadLength ↔
      Response.promiseLimit < Response.promised header := by
    rw [UInt64.lt_iff_toNat_lt, hpromised]
    exact Iff.rfl
  rw [expectedLength, ResponseHeader.read_of_length_le h]
  by_cases hlarge : Response.promiseLimit < Response.promised header
  · rw [if_pos (hlimit.mpr hlarge), if_pos hlarge]
    rfl
  · rw [if_neg fun hle => hlarge (hlimit.mp hle), if_neg hlarge, ← hpromised]
    rfl

namespace Source

/-! ## 2. Bytes across pieces -/

/-- **Where the pieces end says nothing**: bytes are taken from the front of the whole, and what is
    left is the rest of it. Pieces without a byte are passed over. -/
theorem take_flatten (n : Nat) (source : Source) :
    (source.take n).1 = source.flatten.take n ∧
      (source.take n).2.flatten = source.flatten.drop n := by
  induction source generalizing n with
  | nil => simp [take]
  | cons piece later ih =>
    obtain ⟨htaken, hleft⟩ := ih (n - piece.length)
    unfold take
    by_cases hzero : n = 0
    · subst hzero
      exact ⟨rfl, rfl⟩
    rw [if_neg hzero]
    by_cases hlong : piece.length ≤ n
    · rw [if_pos hlong, List.flatten_cons, List.take_append, List.drop_append,
        List.take_of_length_le hlong, List.drop_of_length_le hlong, ← htaken, ← hleft]
      exact ⟨rfl, rfl⟩
    · have hinside : n - piece.length = 0 := by omega
      rw [if_neg hlong, List.flatten_cons, List.take_append, List.drop_append, hinside,
        List.take_zero, List.append_nil]
      exact ⟨rfl, rfl⟩

theorem take_fst (n : Nat) (source : Source) : (source.take n).1 = source.flatten.take n :=
  (take_flatten n source).1

theorem flatten_take_snd (n : Nat) (source : Source) :
    (source.take n).2.flatten = source.flatten.drop n :=
  (take_flatten n source).2

/-! ## 3. One frame -/

/-- What the front of some bytes reads as, and how many bytes it takes to know. -/
def next (bytes : Bytes) : Except Fault Bytes × Nat :=
  if bytes.length < 14 then (.error .headerCutShort, bytes.length)
  else if Response.promiseLimit < Response.promised bytes then
    (.error (.rejected (.oversized (UInt64.ofNat (Response.promised bytes)))), 14)
  else if bytes.length < 14 + Response.promised bytes then
    (.error (.truncated bytes.length (14 + Response.promised bytes)), bytes.length)
  else (.ok (bytes.take (14 + Response.promised bytes)), 14 + Response.promised bytes)

section Readings

variable {source : Source}

theorem readFrame_of_short (h : (source.take 14).1.length < 14) :
    source.readFrame = (.error .headerCutShort, (source.take 14).2) := if_pos h

theorem readFrame_of_rejected {rejection : Rejection} (h : ¬ (source.take 14).1.length < 14)
    (hheader : expectedLength (source.take 14).1 = .error rejection) :
    source.readFrame = (.error (.rejected rejection), (source.take 14).2) := by
  refine (if_neg h).trans ?_
  dsimp only [ResponseHeader.length]
  rw [hheader]

theorem readFrame_of_total {total : Nat} (h : ¬ (source.take 14).1.length < 14)
    (hheader : expectedLength (source.take 14).1 = .ok total) :
    source.readFrame =
      if ((source.take 14).1 ++ ((source.take 14).2.take (total - 14)).1).length = total then
        (.ok ((source.take 14).1 ++ ((source.take 14).2.take (total - 14)).1),
          ((source.take 14).2.take (total - 14)).2)
      else
        (.error (.truncated
          ((source.take 14).1 ++ ((source.take 14).2.take (total - 14)).1).length total),
          ((source.take 14).2.take (total - 14)).2) := by
  refine (if_neg h).trans ?_
  dsimp only [ResponseHeader.length]
  rw [hheader]

end Readings

/-- **Reading a frame is cutting it off the front of the bytes**, however they are delivered. -/
theorem readFrame_next (source : Source) :
    source.readFrame.1 = (next source.flatten).1 ∧
      source.readFrame.2.flatten = source.flatten.drop (next source.flatten).2 := by
  have hheader := take_fst 14 source
  have hrest := flatten_take_snd 14 source
  unfold next
  by_cases hshort : source.flatten.length < 14
  · have hnothing : source.flatten.drop 14 = source.flatten.drop source.flatten.length := by
      rw [List.drop_length, List.drop_of_length_le (by omega)]
    rw [if_pos hshort, readFrame_of_short (by rw [hheader, List.length_take]; omega)]
    exact ⟨rfl, hrest.trans hnothing⟩
  have hfourteen : (source.flatten.take 14).length = 14 := by
    rw [List.length_take]
    omega
  have hlong : ¬ (source.take 14).1.length < 14 := by
    rw [hheader]
    omega
  have hpromised : Response.promised (source.flatten.take 14) =
      Response.promised source.flatten :=
    Response.promised_of_take (by rw [List.take_take, Nat.min_self])
  have hexpected := expectedLength_eq (Nat.le_of_eq hfourteen.symm)
  rw [hpromised, ← hheader] at hexpected
  rw [if_neg hshort]
  by_cases hlarge : Response.promiseLimit < Response.promised source.flatten
  · rw [if_pos hlarge] at hexpected
    rw [if_pos hlarge, readFrame_of_rejected hlong hexpected]
    exact ⟨rfl, hrest⟩
  rw [if_neg hlarge] at hexpected
  rw [if_neg hlarge, readFrame_of_total hlong hexpected, hheader]
  -- the header and what is taken behind it are the front of the whole
  have hbody : source.flatten.take 14 ++
      ((source.take 14).2.take (Response.promised source.flatten + 14 - 14)).1 =
        source.flatten.take (14 + Response.promised source.flatten) := by
    rw [take_fst, hrest, Nat.add_sub_cancel, List.take_add]
  have hleft : ((source.take 14).2.take (Response.promised source.flatten + 14 - 14)).2.flatten =
      source.flatten.drop (14 + Response.promised source.flatten) := by
    rw [flatten_take_snd, hrest, Nat.add_sub_cancel, List.drop_drop]
  simp only [hbody]
  by_cases hcut : source.flatten.length < 14 + Response.promised source.flatten
  · have hall : source.flatten.take (14 + Response.promised source.flatten) = source.flatten :=
      List.take_of_length_le (Nat.le_of_lt hcut)
    have hnothing : source.flatten.drop (14 + Response.promised source.flatten) =
        source.flatten.drop source.flatten.length := by
      rw [List.drop_length, List.drop_of_length_le (Nat.le_of_lt hcut)]
    rw [hall, if_neg (by omega), if_pos hcut, Nat.add_comm 14]
    exact ⟨rfl, hleft.trans hnothing⟩
  · have htotal : (source.flatten.take (14 + Response.promised source.flatten)).length =
        Response.promised source.flatten + 14 := by
      rw [List.length_take]
      omega
    rw [if_pos htotal, if_neg hcut]
    exact ⟨rfl, hleft⟩

section Fronts

variable {frame bytes : Bytes}

/-- **A whole frame is cut off as it is**, whatever follows it. -/
theorem next_of_frame (h : Response.Framed frame) (following : Bytes) :
    next (frame ++ following) = (.ok frame, frame.length) := by
  obtain ⟨hlimit, hlength⟩ := h
  have hpromised : Response.promised (frame ++ following) = Response.promised frame :=
    Response.promised_of_take (List.take_append_of_le_length (by omega))
  have hlong : 14 + Response.promised frame ≤ (frame ++ following).length := by
    rw [List.length_append]
    omega
  unfold next
  rw [if_neg (by omega), hpromised, if_neg (by omega), if_neg (by omega), ← hlength,
    List.take_left]

/-- A whole frame at the front of a stream is read, and what follows it is left. -/
theorem readFrame_of_framed (h : Response.Framed frame) {source : Source} {following : Bytes}
    (hsource : source.flatten = frame ++ following) :
    source.readFrame.1 = .ok frame ∧ source.readFrame.2.flatten = following := by
  obtain ⟨hresult, hleft⟩ := readFrame_next source
  rw [hsource, next_of_frame h following] at hresult hleft
  rw [List.drop_left] at hleft
  exact ⟨hresult, hleft⟩

/-- **A frame that breaks off is no frame**, wherever it does. -/
theorem next_of_cut {missing : Bytes} (h : Response.Framed (bytes ++ missing))
    (hmissing : missing ≠ []) : ∃ fault, next bytes = (.error fault, bytes.length) := by
  obtain ⟨hlimit, hlength⟩ := h
  have hpositive : 0 < missing.length := List.length_pos_iff.mpr hmissing
  rw [List.length_append] at hlength
  unfold next
  by_cases hshort : bytes.length < 14
  · rw [if_pos hshort]
    exact ⟨_, rfl⟩
  have hpromised : Response.promised (bytes ++ missing) = Response.promised bytes :=
    Response.promised_of_take (List.take_append_of_le_length (by omega))
  rw [hpromised] at hlimit hlength
  rw [if_neg hshort, if_neg (by omega), if_pos (by omega)]
  exact ⟨_, rfl⟩

/-- **A header that promises too much is refused**, and nothing behind it is taken. -/
theorem next_of_oversized (h : 14 ≤ bytes.length)
    (hlarge : Response.promiseLimit < Response.promised bytes) :
    next bytes =
      (.error (.rejected (.oversized (UInt64.ofNat (Response.promised bytes)))), 14) := by
  unfold next
  rw [if_neg (by omega), if_pos hlarge]

end Fronts

/-! ## 4. Many frames -/

/-- Reads so many frames, one after the other. -/
def readFrames : Nat → Source → List (Except Fault Bytes) × Source
  | 0, source => ([], source)
  | count + 1, source =>
    let (result, source) := source.readFrame
    let (results, source) := readFrames count source
    (result :: results, source)

theorem readFrames_succ (count : Nat) (source : Source) :
    readFrames (count + 1) source =
      (source.readFrame.1 :: (readFrames count source.readFrame.2).1,
        (readFrames count source.readFrame.2).2) := rfl

/-- **How a stream is cut into pieces makes no difference**, however often a frame is read. -/
theorem readFrames_congr {source other : Source} (h : other.flatten = source.flatten)
    (count : Nat) :
    (readFrames count other).1 = (readFrames count source).1 ∧
      (readFrames count other).2.flatten = (readFrames count source).2.flatten := by
  induction count generalizing source other with
  | zero => exact ⟨rfl, h⟩
  | succ count ih =>
    obtain ⟨hresult, hleft⟩ := readFrame_next source
    obtain ⟨hresult', hleft'⟩ := readFrame_next other
    rw [h] at hresult' hleft'
    obtain ⟨hresults, hlast⟩ := ih (hleft'.trans hleft.symm)
    rw [readFrames_succ, readFrames_succ, hresult, hresult', hresults]
    exact ⟨rfl, hlast⟩

/-- **Frames come back in order**, each as it is, and what follows them is left. -/
theorem readFrames_of_frames {frames : List Bytes} {following : Bytes} {source : Source}
    (hframes : ∀ frame ∈ frames, Response.Framed frame)
    (hsource : source.flatten = frames.flatten ++ following) :
    (readFrames frames.length source).1 = frames.map .ok ∧
      (readFrames frames.length source).2.flatten = following := by
  induction frames generalizing source with
  | nil => exact ⟨rfl, hsource⟩
  | cons frame frames ih =>
    rw [List.flatten_cons, List.append_assoc] at hsource
    obtain ⟨hresult, hleft⟩ := readFrame_of_framed (hframes frame List.mem_cons_self) hsource
    have hlater : ∀ other ∈ frames, Response.Framed other :=
      fun other hother => hframes other (List.mem_cons_of_mem frame hother)
    obtain ⟨hresults, hlast⟩ := ih hlater hleft
    rw [List.length_cons, readFrames_succ, hresult, hresults]
    exact ⟨rfl, hlast⟩

/-- What reading goes on with behind the frames that have come whole. -/
structure EndsAs (later : Source) : Prop where
  /-- A frame that breaks off is none. -/
  cut : ∀ missing, missing ≠ [] → Response.Framed (later.flatten ++ missing) →
    ∃ fault, later.readFrame.1 = .error fault
  /-- A header that promises too much is taken, and nothing behind it. -/
  oversized : ∀ header following, later.flatten = header ++ following → header.length = 14 →
    Response.promiseLimit < Response.promised header →
    later.readFrame.1 =
        .error (.rejected (.oversized (UInt64.ofNat (Response.promised header)))) ∧
      later.readFrame.2.flatten = following

theorem endsAs (later : Source) : EndsAs later where
  cut missing hmissing hframed := by
    obtain ⟨fault, hnext⟩ := next_of_cut hframed hmissing
    refine ⟨fault, ?_⟩
    rw [(readFrame_next later).1, hnext]
  oversized header following hlater hheader hlarge := by
    have hpromised : Response.promised (header ++ following) = Response.promised header :=
      Response.promised_of_take (List.take_append_of_le_length (Nat.le_of_eq hheader.symm))
    have hlong : 14 ≤ (header ++ following).length := by
      rw [List.length_append]
      omega
    have hnext := next_of_oversized hlong (by rw [hpromised]; exact hlarge)
    obtain ⟨hresult, hleft⟩ := readFrame_next later
    rw [hlater, hnext] at hresult hleft
    rw [hpromised] at hresult
    refine ⟨hresult, hleft.trans ?_⟩
    rw [← hheader, List.drop_left]

/-- **The frames of a stream come back in order**, byte for byte, and nothing behind them is
    touched. There a frame that breaks off is an error, and so is a header that promises too much,
    of which nothing but the header is taken. How the stream is cut into pieces makes no
    difference. -/
theorem readFrames_stream (frames : List Bytes) (following : Bytes) (source : Source)
    (hframes : ∀ frame ∈ frames, Response.Framed frame)
    (hsource : source.flatten = frames.flatten ++ following) :
    (readFrames frames.length source).1 = frames.map .ok ∧
      (readFrames frames.length source).2.flatten = following ∧
      EndsAs (readFrames frames.length source).2 ∧
      ∀ (other : Source) (count : Nat), other.flatten = source.flatten →
        (readFrames count other).1 = (readFrames count source).1 ∧
          (readFrames count other).2.flatten = (readFrames count source).2.flatten := by
  obtain ⟨hresults, hlast⟩ := readFrames_of_frames hframes hsource
  exact ⟨hresults, hlast, endsAs _, fun other count h => readFrames_congr h count⟩

/-- Two frames in four pieces, the second without a body, and two bytes behind them. -/
theorem readFrames_stream_four_pieces :
    (readFrames 2
        [[1, 0, 0, 0, 0], [9, 0, 0, 0, 0, 0, 0, 0, 3, 2, 0x6F, 0x6B, 2],
          [0, 0, 0, 0, 7, 0, 0, 0, 0, 0, 0, 0, 0, 5], [6]]).1 =
      [.ok [1, 0, 0, 0, 0, 9, 0, 0, 0, 0, 0, 0, 0, 3, 2, 0x6F, 0x6B],
        .ok [2, 0, 0, 0, 0, 7, 0, 0, 0, 0, 0, 0, 0, 0]] ∧
      (readFrames 2
        [[1, 0, 0, 0, 0], [9, 0, 0, 0, 0, 0, 0, 0, 3, 2, 0x6F, 0x6B, 2],
          [0, 0, 0, 0, 7, 0, 0, 0, 0, 0, 0, 0, 0, 5], [6]]).2.flatten = [5, 6] := by
  have hframes : ∀ frame ∈ [[1, 0, 0, 0, 0, 9, 0, 0, 0, 0, 0, 0, 0, 3, 2, 0x6F, 0x6B],
      [2, 0, 0, 0, 0, 7, 0, 0, 0, 0, 0, 0, 0, 0]], Response.Framed frame := by
    intro frame hframe
    rcases List.mem_cons.mp hframe with rfl | hlater
    · exact ⟨by decide, by decide⟩
    · obtain rfl := List.mem_singleton.mp hlater
      exact ⟨by decide, by decide⟩
  obtain ⟨hresults, hlast, -, -⟩ := readFrames_stream _ [5, 6]
    [[1, 0, 0, 0, 0], [9, 0, 0, 0, 0, 0, 0, 0, 3, 2, 0x6F, 0x6B, 2],
      [0, 0, 0, 0, 7, 0, 0, 0, 0, 0, 0, 0, 0, 5], [6]] hframes rfl
  exact ⟨hresults, hlast⟩

end Source

end RemoteFiles
