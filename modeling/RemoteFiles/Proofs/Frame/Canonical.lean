import RemoteFiles.Proofs.Frame.Layout
import RemoteFiles.Proofs.Frame.Response
import RemoteFiles.Proofs.Text.Utf8
import RemoteFiles.Proofs.Wire.Canonical

/-!
# Frames have one written form

Nothing of what crosses the wire can be written in two ways: whatever has been read of it is written
back to the same bytes. The one exception are the two reserved bytes in the header of a request,
which are passed over and written as zero (`RequestHeader.took`).
-/

namespace RemoteFiles

open Wire

/-! ## 1. Codes and digests -/

/-- A code is taken from the one byte that it is written as, if the table that it is looked up in
    knows it. -/
theorem took_of_code {α : Type} [Writable α] [LawfulWritable α] (ofCode? : UInt8 → Option α)
    (cause : UInt8 → Malformed) {next : UInt8 → Decoder α}
    (hnext : ∀ code, next code = (ofCode? code).elim (throw (cause code)) pure)
    (hwritten : ∀ {code value}, ofCode? code = some value → written value = written code)
    {before after : Cursor} {value : α} (h : (decode >>= next) before = .ok value after) :
    ∃ bytes, written value = .all bytes ∧ Took before bytes after := by
  obtain ⟨code, middle, hcode, hvalue⟩ := Step.bind_eq_ok_iff.mp h
  obtain ⟨bytes, hbytes, htook⟩ := Canonical.took hcode
  rw [hnext] at hvalue
  cases hfound : ofCode? code with
  | none =>
    rw [hfound] at hvalue
    cases hvalue
  | some found =>
    rw [hfound] at hvalue
    cases hvalue
    exact ⟨bytes, (hwritten hfound).trans hbytes, htook⟩

instance : Canonical ActionKind where
  took h := took_of_code ActionKind.ofCode? .unknownAction
    (fun code => by cases ActionKind.ofCode? code <;> rfl)
    (fun hfound => congrArg written (ActionKind.ofCode?_eq_some_iff.mp hfound)) h

instance : Canonical Permission where
  took h := took_of_code Permission.ofCode? (fun _ => .badNumber)
    (fun code => by cases Permission.ofCode? code <;> rfl)
    (fun hfound => congrArg written (Permission.ofCode?_eq_some_iff.mp hfound)) h

instance : Canonical Digest where
  took {before after digest} h := by
    obtain ⟨bytes, middle, hbytes, hdigest⟩ := Step.bind_eq_ok_iff.mp h
    cases hdigest
    exact ⟨bytes.val, rfl, takeExactly_eq_ok hbytes⟩

/-! ## 2. Payloads of requests -/

/-- A password is there or it is not, and the decoder can tell from what is left. -/
instance : Canonical AccountPayload where
  took {before after payload} h := by
    obtain ⟨action, _, haction, h₁⟩ := Step.bind_eq_ok_iff.mp h
    obtain ⟨permission, _, hpermission, h₂⟩ := Step.bind_eq_ok_iff.mp h₁
    obtain ⟨username, last, husername, h₃⟩ := Step.bind_eq_ok_iff.mp h₂
    rw [Step.bind_of_ok (remaining_apply last)] at h₃
    obtain ⟨code, hcode, htook⟩ := Canonical.took haction
    obtain ⟨tier, htier, htook'⟩ := Canonical.took hpermission
    obtain ⟨name, hname, htook''⟩ := Canonical.took husername
    have hfront := htook.trans (htook'.trans htook'')
    have hwritten : ∀ password, written (AccountPayload.mk action permission username password) =
        (Written.all (code ++ (tier ++ name))).andThen
          (if action = .createUser then written password else .all []) := by
      intro password
      show (written action).andThen ((written permission).andThen
        ((written username).andThen _)) = _
      rw [hcode, htier, hname, ← Written.all_andThen_all, ← Written.all_andThen_all,
        Written.andThen_assoc, Written.andThen_assoc]
    split at h₃
    · rename_i hmore
      obtain ⟨password, _, hpassword, hpayload⟩ := Step.bind_eq_ok_iff.mp h₃
      cases hpayload
      obtain ⟨secret, hsecret, htaken⟩ := Canonical.took hpassword
      have hcreate : action = .createUser := of_decide_eq_true (Bool.and_eq_true_iff.mp hmore).1
      refine ⟨_, ?_, hfront.trans htaken⟩
      rw [hwritten, if_pos hcreate]
      show (Written.all _).andThen (written password) = _
      rw [hsecret, Written.all_andThen_all]
    · cases h₃
      have hnone : (if action = .createUser then written (none : Option ShortString) else .all []) =
          Written.all [] := by
        split <;> rfl
      refine ⟨_, ?_, hfront⟩
      rw [hwritten, hnone, Written.all_andThen_all, List.append_nil]

instance : Canonical PathPayload where
  took {before after payload} h := by
    obtain ⟨path, middle, hpath, hfile⟩ := Step.bind_eq_ok_iff.mp h
    obtain ⟨bytes, hbytes, htook⟩ := Canonical.took hpath
    rw [Step.bind_of_ok (Step.get_apply middle)] at hfile
    split at hfile
    · obtain ⟨digest, _, hdigest, hrest⟩ := Step.bind_eq_ok_iff.mp hfile
      obtain ⟨content, _, hcontent, hpayload⟩ := Step.bind_eq_ok_iff.mp hrest
      cases hpayload
      obtain ⟨hash, hhash, htook'⟩ := Canonical.took hdigest
      obtain ⟨htook'', -⟩ := takeRest_eq_ok hcontent
      refine ⟨_, ?_, htook.trans (htook'.trans htook'')⟩
      show (written path).andThen ((written digest).andThen (.all content)) = _
      rw [hbytes, hhash, Written.all_andThen_all, Written.all_andThen_all]
    · cases hfile
      refine ⟨bytes, ?_, htook⟩
      show (written path).andThen (.all []) = _
      rw [hbytes, Written.all_andThen_all, List.append_nil]

/-! ## 3. Requests -/

/-- **A header is taken from where its fields should stand**; the two reserved bytes may be any. -/
theorem RequestHeader.took {before after : Cursor} {header : RequestHeader}
    (h : decode before = .ok header after) :
    Fit header.strings ∧
      ∃ reserved, reserved.length = 2 ∧ Took before (header.layout reserved) after := by
  obtain ⟨opcode, _, hopcode, h₁⟩ := Step.bind_eq_ok_iff.mp h
  obtain ⟨userFlag, _, huserFlag, h₂⟩ := Step.bind_eq_ok_iff.mp h₁
  obtain ⟨reserved, _, hreserved, h₃⟩ := Step.bind_eq_ok_iff.mp h₂
  obtain ⟨usernameLength, _, husernameLength, h₄⟩ := Step.bind_eq_ok_iff.mp h₃
  obtain ⟨passwordLength, _, hpasswordLength, h₅⟩ := Step.bind_eq_ok_iff.mp h₄
  obtain ⟨session, _, hsession, h₆⟩ := Step.bind_eq_ok_iff.mp h₅
  obtain ⟨username, _, husername, h₇⟩ := Step.bind_eq_ok_iff.mp h₆
  obtain ⟨password, _, hpassword, hheader⟩ := Step.bind_eq_ok_iff.mp h₇
  cases hheader
  obtain ⟨code, hcode, t₁⟩ := Canonical.took hopcode
  obtain ⟨flag, hflag, t₂⟩ := Canonical.took huserFlag
  obtain ⟨zeros, hzeros, t₃⟩ := Canonical.took hreserved
  obtain ⟨first, hfirst, t₄⟩ := Canonical.took husernameLength
  obtain ⟨second, hsecond, t₅⟩ := Canonical.took hpasswordLength
  obtain ⟨id, hid, t₆⟩ := Canonical.took hsession
  obtain ⟨hcount, t₇⟩ := take_eq_ok husername
  obtain ⟨hcount', t₈⟩ := take_eq_ok hpassword
  have hfit : Fit [username, password] := by
    refine fit_cons.mpr ⟨?_, fit_cons.mpr ⟨?_, List.forall_mem_nil _⟩⟩
    · rw [hcount]
      exact Nat.le_of_lt_succ usernameLength.toNat_lt
    · rw [hcount']
      exact Nat.le_of_lt_succ passwordLength.toNat_lt
  have hskipped : zeros.length = 2 := by
    rw [← Written.all_inj.mp hzeros, Bytes.length_bigEndian]
  -- the two lengths are those of the strings that were taken by them
  have hfirst' : first = Bytes.bigEndian 2 username.length := by
    rw [hcount]
    exact (Written.all_inj.mp hfirst).symm
  have hsecond' : second = Bytes.bigEndian 2 password.length := by
    rw [hcount']
    exact (Written.all_inj.mp hsecond).symm
  have hcodes : code ++ flag = [opcode.code, userFlag.code] := by
    rw [← Written.all_inj.mp hcode, ← Written.all_inj.mp hflag]
    rfl
  have htook := (t₁.trans t₂).trans (t₃.trans (t₄.trans (t₅.trans (t₆.trans (t₇.trans t₈)))))
  rw [hcodes, hfirst', hsecond', ← Written.all_inj.mp hid] at htook
  exact ⟨hfit, zeros, hskipped, htook⟩

/-- The same for a whole frame: behind the header stand a length and that many bytes. -/
theorem RequestFrame.took {before after : Cursor} {frame : RequestFrame}
    (h : decode before = .ok frame after) :
    Fit frame.header.strings ∧ frame.payload.length < UInt64.size ∧
      ∃ reserved, reserved.length = 2 ∧ Took before (frame.layout reserved) after := by
  obtain ⟨header, _, hheader, hrest⟩ := Step.bind_eq_ok_iff.mp h
  obtain ⟨length, _, hlength, hbehind⟩ := Step.bind_eq_ok_iff.mp hrest
  obtain ⟨payload, _, hpayload, hframe⟩ := Step.bind_eq_ok_iff.mp hbehind
  cases hframe
  obtain ⟨hfit, reserved, hreserved, htook⟩ := RequestHeader.took hheader
  obtain ⟨size, hsize, htook'⟩ := Canonical.took hlength
  obtain ⟨hcount, htook''⟩ := take_eq_ok hpayload
  have hsize' : size = Bytes.bigEndian 8 payload.length := by
    rw [hcount]
    exact (Written.all_inj.mp hsize).symm
  have hlt : payload.length < UInt64.size := by
    rw [hcount]
    exact length.toNat_lt
  rw [hsize'] at htook'
  exact ⟨hfit, hlt, reserved, hreserved, htook.trans (htook'.trans htook'')⟩

/-! ## 4. Responses -/

instance : LawfulWritable ResponseHeader where
  written header :=
    (written header.code).andThen <| (written header.reserved).andThen <|
      (written header.session).andThen (written header.payloadLength)
  does header :=
    (LawfulWritable.does header.code).andThen <| (LawfulWritable.does header.reserved).andThen <|
      (LawfulWritable.does header.session).andThen (LawfulWritable.does header.payloadLength)

instance : Canonical ResponseHeader where
  took {before after header} h := by
    obtain ⟨code, _, hcode, h₁⟩ := Step.bind_eq_ok_iff.mp h
    obtain ⟨reserved, _, hreserved, h₂⟩ := Step.bind_eq_ok_iff.mp h₁
    obtain ⟨session, _, hsession, h₃⟩ := Step.bind_eq_ok_iff.mp h₂
    obtain ⟨size, _, hsize, hheader⟩ := Step.bind_eq_ok_iff.mp h₃
    cases hheader
    obtain ⟨first, hfirst, t₁⟩ := Canonical.took hcode
    obtain ⟨second, hsecond, t₂⟩ := Canonical.took hreserved
    obtain ⟨id, hid, t₃⟩ := Canonical.took hsession
    obtain ⟨length, hlength, t₄⟩ := Canonical.took hsize
    refine ⟨_, ?_, t₁.trans (t₂.trans (t₃.trans t₄))⟩
    show (written code).andThen ((written reserved).andThen
      ((written session).andThen (written size))) = _
    rw [hfirst, hsecond, hid, hlength, Written.all_andThen_all, Written.all_andThen_all,
      Written.all_andThen_all]

/-- What is written of the length of a message. -/
def writtenMessageLength (message : Bytes) : Written :=
  if ResponseBody.maxMessage < message.length then .refused (.message message.length)
  else .all [UInt8.ofNat message.length]

instance : LawfulWritable ResponseBody where
  written body :=
    (writtenMessageLength (Utf8.encode body.message)).andThen <|
      (Written.all (Utf8.encode body.message)).andThen <|
      (written body.digest).andThen (.all body.payload)
  does {σ} _ _ body := by
    have hbehind : Does (push (Utf8.encode body.message) >>= fun _ =>
        encode body.digest >>= fun _ => push body.payload : Encoder σ Unit) _ :=
      (does_push _).andThen ((LawfulWritable.does body.digest).andThen (does_push body.payload))
    intro s
    show (if ResponseBody.maxMessage < (Utf8.encode body.message).length then
      (throw (Oversize.message _) : Encoder σ Unit) >>= _ else _) s = _
    unfold writtenMessageLength
    by_cases hlong : ResponseBody.maxMessage < (Utf8.encode body.message).length
    · rw [if_pos hlong, if_pos hlong]
      exact (does_throw _).andThen hbehind s
    · rw [if_neg hlong, if_neg hlong]
      exact (LawfulWritable.does (UInt8.ofNat _)).andThen hbehind s

/-- The length of a message fits one byte, since that is where it came from. -/
theorem writtenMessageLength_of_toNat {length : UInt8} {message : Bytes}
    (h : message.length = length.toNat) : writtenMessageLength message = .all [length] := by
  have hlt : length.toNat < 256 := length.toNat_lt
  have hshort : ¬ ResponseBody.maxMessage < message.length := by
    rw [h]
    exact Nat.not_lt_of_le (Nat.le_of_lt_succ hlt)
  rw [writtenMessageLength, if_neg hshort, h, UInt8.ofNat_toNat]

/-- What stands behind the message is taken to the end, with a digest before it or without. -/
theorem took_behind {before after : Cursor} {expectDigest : Bool} {text : String}
    {rest : Bytes} {body : ResponseBody}
    (h : ResponseBody.behind expectDigest text rest before = .ok body after) :
    body.message = text ∧ ∃ bytes,
      (written body.digest).andThen (.all body.payload) = .all bytes ∧
        Took before bytes after := by
  unfold ResponseBody.behind at h
  split at h
  · obtain ⟨digest, _, hdigest, hrest⟩ := Step.bind_eq_ok_iff.mp h
    obtain ⟨payload, _, hpayload, hbody⟩ := Step.bind_eq_ok_iff.mp hrest
    cases hbody
    obtain ⟨hash, hhash, htook⟩ := Canonical.took hdigest
    obtain ⟨htook', -⟩ := takeRest_eq_ok hpayload
    refine ⟨rfl, _, ?_, htook.trans htook'⟩
    show (written digest).andThen (.all payload) = _
    rw [hhash, Written.all_andThen_all]
  · obtain ⟨payload, _, hpayload, hbody⟩ := Step.bind_eq_ok_iff.mp h
    cases hbody
    obtain ⟨htook, -⟩ := takeRest_eq_ok hpayload
    exact ⟨rfl, payload, rfl, htook⟩

instance : Canonical ResponseBody where
  took {before after body} h := by
    obtain ⟨length, _, hlength, h₁⟩ := Step.bind_eq_ok_iff.mp h
    obtain ⟨message, middle, hmessage, h₂⟩ := Step.bind_eq_ok_iff.mp h₁
    obtain ⟨size, hsize, htook⟩ := Canonical.took hlength
    obtain ⟨hcount, htook'⟩ := take_eq_ok hmessage
    cases htext : Utf8.decode? message with
    | none =>
      rw [htext] at h₂
      cases h₂
    | some text =>
      rw [htext] at h₂
      obtain ⟨hsame, bytes, hbytes, htook''⟩ := took_behind h₂
      have hencode : Utf8.encode body.message = message := by
        rw [hsame]
        exact Utf8.decode?_eq_some_iff.mp htext
      refine ⟨_, ?_, htook.trans (htook'.trans htook'')⟩
      show (writtenMessageLength (Utf8.encode body.message)).andThen
        ((Written.all (Utf8.encode body.message)).andThen _) = _
      rw [hencode, hbytes, writtenMessageLength_of_toNat hcount, ← written_uint8, hsize,
        Written.all_andThen_all, Written.all_andThen_all]

end RemoteFiles
