import RemoteFiles.Proofs.Request
import RemoteFiles.Proofs.Text.HexDump

/-!
# What the log shows of a frame

Before a frame is sent, the log shows the front of it with the password of the login masked. This
file compares what it shows of two frames that are the same but for one part (`Bytes.SameBut`).

* `SameBut.masked_eq` -- a part that is masked makes no difference;
* `SameBut.masked_eq_iff` -- a part behind the mask makes one, as far as the dump goes;
* `Written.PartAt` -- both passwords come last where they are written, the one in the header and
  the one in the payload;
* `Session.logged_create_eq_iff` -- the password of a new account lies behind the mask.
-/

namespace RemoteFiles

open Wire

/-! ## 1. Masks -/

/-- Two strings of bytes that are the same but for the part that starts at a position. -/
def Bytes.SameBut (position : Nat) (part part' first second : Bytes) : Prop :=
  ∃ front back, front.length = position ∧ first = front ++ part ++ back ∧
    second = front ++ part' ++ back

/-- The same where nothing comes behind the part. -/
def Bytes.SameUpTo (position : Nat) (part part' first second : Bytes) : Prop :=
  ∃ front, front.length = position ∧ first = front ++ part ∧ second = front ++ part'

namespace Request

@[simp] theorem length_mask (start count : Nat) (bytes : Bytes) :
    (mask start count bytes).length = bytes.length := by
  simp only [mask, List.length_append, List.length_take, List.length_replicate, List.length_drop]
  omega

/-- The mask, position by position. -/
theorem getElem?_mask (start count : Nat) (bytes : Bytes) (i : Nat) :
    (mask start count bytes)[i]? =
      if start ≤ i ∧ i < start + count then bytes[i]?.map fun _ => 0x2A else bytes[i]? := by
  by_cases hi : i < bytes.length
  · have hfront : (bytes.take start).length = min start bytes.length := List.length_take
    rcases Nat.lt_or_ge i start with hbefore | hstart
    · rw [if_neg (by omega), mask, List.append_assoc,
        List.getElem?_append_left (by rw [hfront]; omega), List.getElem?_take, if_pos hbefore]
    · rw [mask, List.append_assoc, List.getElem?_append_right (by rw [hfront]; omega), hfront,
        List.length_take, List.length_drop]
      rcases Nat.lt_or_ge i (start + count) with hwithin | hbehind
      · rw [if_pos ⟨hstart, hwithin⟩,
          List.getElem?_append_left (by rw [List.length_replicate]; omega), List.getElem?_replicate,
          if_pos (by omega), List.getElem?_eq_getElem hi]
        rfl
      · rw [if_neg (by omega), List.getElem?_append_right (by rw [List.length_replicate]; omega),
          List.getElem?_drop, List.length_replicate]
        congr 1
        omega
  · rw [List.getElem?_eq_none (by rw [length_mask]; omega), List.getElem?_eq_none (by omega)]
    split <;> rfl

/-- What is masked of the front is the front of what is masked. -/
theorem mask_take (start count limit : Nat) (bytes : Bytes) :
    mask start count (bytes.take limit) = (mask start count bytes).take limit := by
  apply List.ext_getElem?
  intro i
  rw [getElem?_mask, List.getElem?_take, List.getElem?_take, getElem?_mask]
  split <;> split <;> rfl

/-- A mask that ends within the front leaves the rest alone. -/
theorem mask_append {start count : Nat} {front : Bytes} (h : start + count ≤ front.length)
    (back : Bytes) : mask start count (front ++ back) = mask start count front ++ back := by
  apply List.ext_getElem?
  intro i
  rw [getElem?_mask, List.getElem?_append, List.getElem?_append, length_mask, getElem?_mask]
  rcases Nat.lt_or_ge i front.length with hi | hi
  · rw [if_pos hi, if_pos hi]
  · rw [if_neg (by omega), if_neg (by omega), if_neg (by omega)]

/-- A mask that starts behind the front covers what is there, as far as it goes. -/
theorem mask_part {start count : Nat} {front part : Bytes} (hstart : front.length = start)
    (hcount : part.length = count) (back : Bytes) :
    mask start count (front ++ part ++ back) = front ++ List.replicate count 0x2A ++ back := by
  subst hstart hcount
  simp [mask]

end Request

namespace Bytes

variable {position : Nat} {part part' first second : Bytes}

theorem SameUpTo.append_left (h : SameUpTo position part part' first second) (bytes : Bytes) :
    SameUpTo (bytes.length + position) part part' (bytes ++ first) (bytes ++ second) := by
  obtain ⟨front, rfl, rfl, rfl⟩ := h
  refine ⟨bytes ++ front, List.length_append, ?_, ?_⟩ <;> rw [List.append_assoc]

theorem SameUpTo.append_right (h : SameUpTo position part part' first second) (back : Bytes) :
    SameBut position part part' (first ++ back) (second ++ back) := by
  obtain ⟨front, hposition, rfl, rfl⟩ := h
  exact ⟨front, back, hposition, rfl, rfl⟩

theorem SameBut.length_eq (h : SameBut position part part' first second)
    (hlength : part.length = part'.length) : first.length = second.length := by
  obtain ⟨front, back, -, rfl, rfl⟩ := h
  simp only [List.length_append, hlength]

/-- **A part that is masked makes no difference**, wherever the dump ends. -/
theorem SameBut.masked_eq (h : SameBut position part part' first second)
    (hlength : part.length = part'.length) (limit : Nat) :
    Request.mask position part.length (first.take limit) =
      Request.mask position part'.length (second.take limit) := by
  obtain ⟨front, back, hposition, rfl, rfl⟩ := h
  rw [Request.mask_take, Request.mask_take, Request.mask_part hposition rfl,
    Request.mask_part hposition rfl, hlength]

/-- **A part behind the mask makes a difference as far as the dump goes.** -/
theorem SameBut.masked_eq_iff (h : SameBut position part part' first second)
    (hlength : part.length = part'.length) {start count : Nat} (hbehind : start + count ≤ position)
    (limit : Nat) :
    Request.mask start count (first.take limit) = Request.mask start count (second.take limit) ↔
      part.take (limit - position) = part'.take (limit - position) := by
  obtain ⟨front, back, rfl, rfl, rfl⟩ := h
  have htake : ∀ bytes : Bytes,
      Request.mask start count ((front ++ bytes ++ back).take limit) =
        (Request.mask start count front).take limit ++
          (bytes.take (limit - front.length) ++
            back.take (limit - front.length - bytes.length)) := by
    intro bytes
    rw [Request.mask_take, List.append_assoc, Request.mask_append hbehind, List.take_append,
      Request.length_mask, List.take_append]
  rw [htake, htake, hlength, List.append_cancel_left_eq, List.append_cancel_right_eq]

end Bytes

/-! ## 2. Parts of what is written -/

namespace Wire

/-- What is written is the same but for the part that comes last, which starts at a position if it
    is written at all. -/
def Written.PartAt (position : Nat) (part part' : Bytes) (first second : Written) : Prop :=
  ∃ front : Written, (∀ bytes, front = .all bytes → bytes.length = position) ∧
    first = front.andThen (.all part) ∧ second = front.andThen (.all part')

namespace Written.PartAt

variable {position : Nat} {part part' : Bytes} {first second : Written}

/-- Either both are written, and are the same but for the part, or both fail in the same way. -/
theorem cases (h : PartAt position part part' first second) :
    (∃ front : Bytes, front.length = position ∧ first = .all (front ++ part) ∧
        second = .all (front ++ part')) ∨
      ∃ oversize, first.result = .error oversize ∧ second.result = .error oversize := by
  obtain ⟨⟨front, failure⟩, hposition, rfl, rfl⟩ := h
  cases failure with
  | none => exact .inl ⟨front, hposition front rfl, rfl, rfl⟩
  | some oversize => exact .inr ⟨oversize, rfl, rfl⟩

/-- A step of the client that writes two such values fails for both or for none. -/
theorem parallel (h : PartAt position part part' first second) :
    Step.Parallel (Bytes.SameUpTo position part part') Eq (ClientM.encoded first.result)
      (ClientM.encoded second.result) := by
  rintro client _ rfl
  rcases h.cases with ⟨front, hposition, rfl, rfl⟩ | ⟨oversize, hfirst, hsecond⟩
  · rw [result_all, result_all, ClientM.encoded_ok, ClientM.encoded_ok]
    exact .ok ⟨front, hposition, rfl, rfl⟩ rfl
  · rw [hfirst, hsecond, ClientM.encoded_error]
    exact .error rfl

end Written.PartAt

/-- The part of a value is a part of the value behind its length. -/
theorem partAt_blob {α : Type} [Writable α] [LawfulWritable α] {first second : α} {position : Nat}
    {part part' : Bytes} (h : Written.PartAt position part part' (written first) (written second))
    (hlength : part.length = part'.length) :
    Written.PartAt (8 + position) part part' (written (Blob.mk first))
      (written (Blob.mk second)) := by
  show Written.PartAt _ _ _ (writtenBlob first) (writtenBlob second)
  unfold writtenBlob
  rcases h.cases with ⟨front, hposition, hfirst, hsecond⟩ | ⟨oversize, hfirst, hsecond⟩
  · simp only [hfirst, hsecond, Written.result_all, List.length_append, ← hlength]
    by_cases hfits : front.length + part.length < UInt64.size
    · rw [if_pos hfits, if_pos hfits]
      refine ⟨.all (Bytes.bigEndian 8 (front.length + part.length) ++ front), ?_, ?_, ?_⟩
      · intro bytes hbytes
        rw [← Written.all_inj.mp hbytes, List.length_append, Bytes.length_bigEndian, hposition]
      · rw [Written.all_andThen_all, List.append_assoc]
      · rw [Written.all_andThen_all, List.append_assoc]
    · rw [if_neg hfits, if_neg hfits]
      exact ⟨.refused _, fun bytes hbytes => absurd hbytes (Written.refused_ne_all _ _), rfl, rfl⟩
  · rw [hfirst, hsecond]
    exact ⟨.refused _, fun bytes hbytes => absurd hbytes (Written.refused_ne_all _ _), rfl, rfl⟩

end Wire

/-- What a header is up to the password. -/
def RequestHeader.front (header : RequestHeader) : Written :=
  (written header.opcode).andThen <| (written header.userFlag).andThen <|
    (written (0 : UInt16)).andThen <| (writtenShortLength header.username.bytes).andThen <|
    (writtenShortLength header.password.bytes).andThen <| (written header.session).andThen <|
    .all header.username.bytes

theorem RequestHeader.written_eq (header : RequestHeader) :
    written header = header.front.andThen (.all header.password.bytes) := by
  simp only [front, Written.andThen_assoc]
  rfl

theorem RequestHeader.length_front {header : RequestHeader} {bytes : Bytes}
    (h : header.front = .all bytes) :
    bytes.length = fixedLength + header.username.bytes.length := by
  obtain ⟨opcode, _, hopcode, h₁, rfl⟩ := Written.andThen_eq_all_iff.mp h
  obtain ⟨userFlag, _, huserFlag, h₂, rfl⟩ := Written.andThen_eq_all_iff.mp h₁
  obtain ⟨reserved, _, hreserved, h₃, rfl⟩ := Written.andThen_eq_all_iff.mp h₂
  obtain ⟨_, _, husername, h₄, rfl⟩ := Written.andThen_eq_all_iff.mp h₃
  obtain ⟨_, _, hpassword, h₅, rfl⟩ := Written.andThen_eq_all_iff.mp h₄
  obtain ⟨session, _, hsession, hlast, rfl⟩ := Written.andThen_eq_all_iff.mp h₅
  obtain ⟨-, rfl⟩ := writtenShortLength_eq_all_iff.mp husername
  obtain ⟨-, rfl⟩ := writtenShortLength_eq_all_iff.mp hpassword
  rw [← Written.all_inj.mp hopcode, ← Written.all_inj.mp huserFlag,
    ← Written.all_inj.mp hreserved, ← Written.all_inj.mp hsession, ← Written.all_inj.mp hlast]
  simp only [List.length_append, Bytes.length_bigEndian, List.length_singleton, fixedLength]
  omega

/-- The password comes last in a header, right behind the username. -/
theorem RequestHeader.partAt (header : RequestHeader) {password : Bytes}
    (hlength : header.password.bytes.length = password.length) :
    Written.PartAt (fixedLength + header.username.bytes.length) header.password.bytes password
      (written header) (written { header with password := ⟨password⟩ }) := by
  have hfront : RequestHeader.front { header with password := ⟨password⟩ } = header.front := by
    simp only [front, writtenShortLength_congr hlength]
  refine ⟨header.front, fun _ => length_front, header.written_eq, ?_⟩
  rw [written_eq, hfront]

/-- What the payload for a new account is up to the password, its length given by some bytes. -/
def AccountPayload.front (permission : Permission) (username : ShortString) (password : Bytes) :
    Written :=
  (written ActionKind.createUser).andThen <| (written permission).andThen <|
    (written username).andThen (writtenShortLength password)

theorem AccountPayload.length_front {permission : Permission} {username : ShortString}
    {password bytes : Bytes} (h : front permission username password = .all bytes) :
    bytes.length = 6 + username.bytes.length := by
  obtain ⟨action, _, haction, h₁, rfl⟩ := Written.andThen_eq_all_iff.mp h
  obtain ⟨tier, _, htier, h₂, rfl⟩ := Written.andThen_eq_all_iff.mp h₁
  obtain ⟨_, _, husername, hpassword, rfl⟩ := Written.andThen_eq_all_iff.mp h₂
  obtain ⟨_, name, hprefix, hname, rfl⟩ := Written.andThen_eq_all_iff.mp husername
  obtain ⟨-, rfl⟩ := writtenShortLength_eq_all_iff.mp hprefix
  obtain ⟨-, rfl⟩ := writtenShortLength_eq_all_iff.mp hpassword
  rw [← Written.all_inj.mp haction, ← Written.all_inj.mp htier, ← Written.all_inj.mp hname]
  simp only [List.length_append, Bytes.length_bigEndian, List.length_singleton]
  omega

theorem AccountPayload.written_eq (permission : Permission) (username : ShortString)
    (password : Bytes) :
    written (AccountPayload.mk .createUser permission username (some ⟨password⟩)) =
      (front permission username password).andThen (.all password) := by
  simp only [front, Written.andThen_assoc]
  rfl

/-- The password of a new account comes last in the payload. -/
theorem AccountPayload.partAt (permission : Permission) (username : ShortString)
    {password password' : Bytes} (hlength : password.length = password'.length) :
    Written.PartAt (6 + username.bytes.length) password password'
      (written (AccountPayload.mk .createUser permission username (some ⟨password⟩)))
      (written (AccountPayload.mk .createUser permission username (some ⟨password'⟩))) := by
  have hfront : front permission username password = front permission username password' := by
    simp only [front, writtenShortLength_congr hlength]
  refine ⟨front permission username password, fun _ => length_front, written_eq _ _ _, ?_⟩
  rw [written_eq, hfront]

/-! ## 3. Frames and what is told of them -/

namespace Request

/-- The frame that is sent, before the log is told of it. -/
def assemble (request : Request) : ClientM Error Bytes := do
  ClientM.ask request.operation.check
  let header ← ClientM.encoded (bytesOf request.header)
  let payload ← request.payload
  return header ++ payload

/-- What the log is told of a frame. -/
def told (request : Request) (frame : Bytes) : Log.Record :=
  ⟨.trace, "request " ++ frame.length.repr ++ " bytes\n" ++ HexDump.render (request.masked frame)⟩

/-- A frame is sent as it has been assembled, after the log has been told of it. -/
theorem toBytes_eq (request : Request) :
    request.toBytes = request.assemble >>= fun frame => do
      ClientM.tell [request.told frame]
      return frame := by
  simp only [toBytes, assemble, bind_assoc, pure_bind]
  rfl

/-- The log after a request has been turned into a frame, or has failed to be. -/
def logged (request : Request) (client : Client) : Log :=
  (Step.stateAfter (request.toBytes client)).log

theorem toBytes_of_assembled {request : Request} {client after : Client} {frame : Bytes}
    (h : request.assemble client = .ok frame after) :
    request.toBytes client =
      .ok frame { after with log := after.log ++ [request.told frame] } := by
  rw [toBytes_eq, Step.bind_of_ok h]
  rfl

theorem toBytes_of_not_assembled {request : Request} {client after : Client} {error : Error}
    (h : request.assemble client = .error error after) :
    request.toBytes client = .error error after := by
  rw [toBytes_eq, Step.bind_of_error h]

/-- What the log is told shows all that the mask leaves. -/
theorem told_eq_iff {request request' : Request} {frame frame' : Bytes}
    (hlength : frame.length = frame'.length) :
    request.told frame = request'.told frame' ↔ request.masked frame = request'.masked frame' := by
  have hmasked : (request.masked frame).length = (request'.masked frame').length := by
    simp only [masked, length_mask, List.length_take, hlength]
  rw [told, told, hlength, Log.Record.mk.injEq, String.append_right_inj,
    HexDump.render_inj hmasked]
  exact and_iff_right rfl

/-- A header is the same in both runs, if it is written, and as long as its two strings make it. -/
theorem parallel_header (header : RequestHeader) :
    Step.Parallel
      (fun first second => first = second ∧ first.length =
        RequestHeader.fixedLength + header.username.bytes.length + header.password.bytes.length)
      Eq (ClientM.encoded (bytesOf header)) (ClientM.encoded (bytesOf header)) := by
  rw [bytesOf_eq]
  refine (header.partAt rfl).parallel.mono ?_
  rintro _ _ ⟨front, hposition, rfl, rfl⟩
  exact ⟨rfl, by rw [List.length_append, hposition]⟩

end Request

/-! ## 4. The password of a new account -/

namespace Session

/-- The request for a new account. -/
def create (session : Session) (permission : Permission) (username : String) (password : Secret) :
    Request :=
  session.build (.account ⟨.create, permission, username, some password⟩)

/-- Where the password of a new account starts in the frame: behind the header, the length of the
    payload, and what comes before it in the payload. -/
def newPasswordStart (session : Session) (username : String) : Nat :=
  RequestHeader.fixedLength + (Utf8.encode session.username).length +
    (Utf8.encode session.password.text).length + (8 + (6 + (Utf8.encode username).length))

/-- What the dump has of the password of a new account. -/
def exposed (session : Session) (username : String) (password : Secret) : Bytes :=
  (Utf8.encode password.text).take (Request.dumpLimit - session.newPasswordStart username)

section NewPassword

variable {session : Session} {permission : Permission} {username : String}
  {password password' : Secret}

theorem parallel_assemble_create
    (hlength : (Utf8.encode password.text).length = (Utf8.encode password'.text).length) :
    Step.Parallel
      (Bytes.SameBut (session.newPasswordStart username) (Utf8.encode password.text)
        (Utf8.encode password'.text))
      Eq (session.create permission username password).assemble
      (session.create permission username password').assemble := by
  refine (Step.parallel_same _).bind fun _ _ _ => ?_
  refine (Request.parallel_header _).bind ?_
  rintro header _ ⟨rfl, hheader⟩
  have hpayload := (partAt_blob
    (AccountPayload.partAt permission (.ofString username) hlength) hlength).parallel
  rw [← bytesOf_eq, ← bytesOf_eq] at hpayload
  refine hpayload.bind fun _ _ hbehind => Step.parallel_pure ?_
  have hframe := (hbehind.append_left header).append_right []
  rw [List.append_nil, List.append_nil, hheader] at hframe
  exact hframe

/-- Once the frame has been assembled, the log shows what the dump has of the password. -/
theorem logged_create_of_assembled
    (hlength : (Utf8.encode password.text).length = (Utf8.encode password'.text).length)
    {client after : Client} {frame : Bytes}
    (hframe : (session.create permission username password).assemble client = .ok frame after) :
    (session.create permission username password).logged client =
        (session.create permission username password').logged client ↔
      session.exposed username password = session.exposed username password' := by
  obtain ⟨frame', hframe', hsame⟩ := (parallel_assemble_create hlength).of_ok hframe
  have hbehind : RequestHeader.fixedLength + (Utf8.encode session.username).length +
      (Utf8.encode session.password.text).length ≤ session.newPasswordStart username :=
    Nat.le_add_right _ _
  have hmasked := hsame.masked_eq_iff hlength hbehind Request.dumpLimit
  rw [Request.logged, Request.logged, Request.toBytes_of_assembled hframe,
    Request.toBytes_of_assembled hframe', Step.stateAfter_ok, Step.stateAfter_ok,
    List.append_cancel_left_eq, List.cons.injEq, Request.told_eq_iff (hsame.length_eq hlength)]
  exact (and_iff_left rfl).trans hmasked

/-- **The log shows the password of a new account.** Of two requests that only this password tells
    apart, its length being the same, the log shows the same if and only if no byte within the dump
    tells the two passwords apart, unless the requests cannot be sent at all. -/
theorem logged_create_eq_iff (session : Session) (permission : Permission) (username : String)
    {password password' : Secret}
    (hlength : (Utf8.encode password.text).length = (Utf8.encode password'.text).length)
    (client : Client) :
    (session.create permission username password).logged client =
        (session.create permission username password').logged client ↔
      ∀ frame after,
        (session.create permission username password).toBytes client = .ok frame after →
          session.exposed username password = session.exposed username password' := by
  cases hfirst : (session.create permission username password).assemble client with
  | ok frame after =>
    have hsent := Request.toBytes_of_assembled hfirst
    rw [logged_create_of_assembled hlength hfirst]
    exact ⟨fun h _ _ _ => h, fun h => h frame _ hsent⟩
  | error error after =>
    have hfailed := Request.toBytes_of_not_assembled hfirst
    have hfailed' := Request.toBytes_of_not_assembled
      ((parallel_assemble_create hlength).of_error hfirst)
    rw [Request.logged, Request.logged, hfailed, hfailed']
    refine ⟨fun _ frame sent h => ?_, fun _ => rfl⟩
    cases h

end NewPassword

theorem length_encode_replicate (n : Nat) :
    (Utf8.encode (String.ofList (List.replicate n 'a'))).length = n := by
  have hchar : String.utf8EncodeChar 'a' = [97] := by decide
  simp only [Utf8.encode, String.toList_ofList, List.length_flatMap, List.map_replicate, hchar]
  simp

theorem exposed_of_long_name (session : Session)
    (h : Request.dumpLimit ≤ (Utf8.encode session.username).length) (username : String)
    (password : Secret) : session.exposed username password = [] := by
  have hbehind : Request.dumpLimit ≤ session.newPasswordStart username := by
    rw [newPasswordStart]
    omega
  rw [exposed, Nat.sub_eq_zero_of_le hbehind, List.take_zero]

/-- Where the dump ends before the password, the log shows nothing of it. -/
theorem logged_create_long_name :
    (create ⟨"host", 4000, String.ofList (List.replicate 512 'a'), ⟨"letmein"⟩, 0⟩ .readWrite "bob"
        ⟨"s3cret"⟩).logged ⟨⟨[], [], []⟩, "", []⟩ =
      (create ⟨"host", 4000, String.ofList (List.replicate 512 'a'), ⟨"letmein"⟩, 0⟩ .readWrite "bob"
        ⟨"hunter"⟩).logged ⟨⟨[], [], []⟩, "", []⟩ := by
  refine (logged_create_eq_iff _ .readWrite "bob" (by decide) _).mpr ?_
  intro frame after _
  have hname := Nat.le_of_eq (length_encode_replicate 512).symm
  have hnothing := exposed_of_long_name
    ⟨"host", 4000, String.ofList (List.replicate 512 'a'), ⟨"letmein"⟩, 0⟩ hname "bob"
  exact (hnothing _).trans (hnothing _).symm

/-- With short names the log of one password is not that of another. -/
theorem logged_create_ne :
    ¬ ∀ (session : Session) (permission : Permission) (username : String)
        (password password' : Secret),
      (Utf8.encode password.text).length = (Utf8.encode password'.text).length →
      ∀ client : Client,
        (session.create permission username password).logged client =
          (session.create permission username password').logged client := by
  intro h
  have hlogged := h ⟨"host", 4000, "admin", ⟨"letmein"⟩, 0⟩ .readWrite "bob" ⟨"s3cret"⟩ ⟨"hunter"⟩
    (by decide) ⟨⟨[], [], []⟩, "", []⟩
  obtain ⟨frame, hframe⟩ : ∃ frame, (create ⟨"host", 4000, "admin", ⟨"letmein"⟩, 0⟩ .readWrite "bob"
      ⟨"s3cret"⟩).assemble ⟨⟨[], [], []⟩, "", []⟩ = .ok frame ⟨⟨[], [], []⟩, "", []⟩ := ⟨_, rfl⟩
  have hexposed := (logged_create_of_assembled (by decide) hframe).mp hlogged
  exact absurd hexposed (by decide)

end Session

end RemoteFiles
