import RemoteFiles.Frame.Payload
import RemoteFiles.Proofs.Wire.Decode

/-!
# Payloads of requests, written and read back

For everything that a request carries behind its header: what is written, and that it is read back.
Codes and digests are read back from the front of any input. The two payloads look at the input
around them, and are read back as whole inputs (`readFrame_accountPayload`,
`readFrame_pathPayload`).
-/

namespace RemoteFiles

open Wire

/-! ## 1. Codes and digests -/

instance : LawfulWritable ActionKind :=
  ⟨fun kind => written kind.code, fun kind => LawfulWritable.does kind.code⟩

instance : LawfulWritable Permission :=
  ⟨fun tier => written tier.code, fun tier => LawfulWritable.does tier.code⟩

instance : LawfulWritable Digest :=
  ⟨fun digest => .all digest.bytes, fun digest => does_push digest.bytes⟩

instance : Faithful ActionKind where
  takes {kind bytes} h := by
    have hcode : ActionKind.ofCode? kind.code = some kind := ActionKind.ofCode?_eq_some_iff.mpr rfl
    have hbytes : Takes decode bytes kind.code := Faithful.takes h
    rw [← List.append_nil bytes]
    refine hbytes.bind ?_
    rw [hcode]
    exact takes_pure kind

instance : Faithful Permission where
  takes {tier bytes} h := by
    have hcode : Permission.ofCode? tier.code = some tier := Permission.ofCode?_eq_some_iff.mpr rfl
    have hbytes : Takes decode bytes tier.code := Faithful.takes h
    rw [← List.append_nil bytes]
    refine hbytes.bind ?_
    rw [hcode]
    exact takes_pure tier

theorem takes_digest (digest : Digest) : Takes decode digest.bytes digest :=
  (takes_takeExactly digest.length_eq).map fun bytes => Digest.mk bytes.val bytes.property

instance : Faithful Digest where
  takes {digest bytes} h := by
    rw [← Written.all_inj.mp h]
    exact takes_digest digest

/-! ## 2. Payloads -/

instance : LawfulWritable EmptyPayload :=
  ⟨fun _ => .all [], fun _ => does_pure⟩

instance : LawfulWritable AccountPayload where
  written payload :=
    (written payload.action).andThen <| (written payload.permission).andThen <|
      (written payload.username).andThen <|
      if payload.action = .createUser then written payload.password else .all []
  does payload := by
    refine (LawfulWritable.does payload.action).andThen <|
      (LawfulWritable.does payload.permission).andThen <|
      (LawfulWritable.does payload.username).andThen ?_
    by_cases h : payload.action = .createUser
    · rw [if_pos h, if_pos h]
      exact LawfulWritable.does payload.password
    · rw [if_neg h, if_neg h]
      exact does_pure

instance : LawfulWritable PathPayload where
  written payload :=
    (written payload.path).andThen <|
      match payload.file with
      | some file => (written file.digest).andThen (.all file.content)
      | none => .all []
  does payload := by
    refine (LawfulWritable.does payload.path).andThen ?_
    cases payload.file with
    | some file => exact (LawfulWritable.does file.digest).andThen (does_push file.content)
    | none => exact does_pure

/-- The payload as it is sent: a password goes with the creation of an account only. -/
def AccountPayload.sent (payload : AccountPayload) : AccountPayload :=
  { payload with password := if payload.action = .createUser then payload.password else none }

/-- **The payload of a request about an account is read back as it was sent.** -/
theorem readFrame_accountPayload {payload : AccountPayload} {bytes : Bytes}
    (h : written payload = .all bytes) : readFrame bytes false = .ok payload.sent := by
  obtain ⟨action, permission, username, password⟩ := payload
  obtain ⟨_, _, haction, h₁, rfl⟩ := Written.andThen_eq_all_iff.mp h
  obtain ⟨_, _, hpermission, h₂, rfl⟩ := Written.andThen_eq_all_iff.mp h₁
  obtain ⟨_, tail, husername, htail, rfl⟩ := Written.andThen_eq_all_iff.mp h₂
  apply readFrame_of_finishes
  refine (Faithful.takes haction).finishes_bind ((Faithful.takes hpermission).finishes_bind ?_)
  refine (Faithful.takes husername).finishes_bind ?_
  intro position
  rw [Step.bind_of_ok (remaining_apply _)]
  by_cases hcreate : action = .createUser
  · rw [if_pos hcreate] at htail
    cases password with
    | none =>
      rw [← Written.all_inj.mp htail]
      simp [AccountPayload.sent]
    | some password =>
      -- the length of the password is there, be the password empty or not
      have hpassword : Takes decode tail password := Faithful.takes htail
      obtain ⟨_, bytes, hlength, -, rfl⟩ := Written.andThen_eq_all_iff.mp htail
      obtain ⟨-, rfl⟩ := writtenShortLength_eq_all_iff.mp hlength
      have hsome := hpassword.map fun password : ShortString =>
        AccountPayload.mk action permission username (some password)
      have hfront : 0 < (Bytes.bigEndian 2 password.bytes.length ++ bytes).length := by
        rw [List.length_append, Bytes.length_bigEndian]
        exact Nat.lt_of_lt_of_le (by decide) (Nat.le_add_right 2 _)
      have hmore : (decide (action = .createUser) &&
          decide (0 < (Bytes.bigEndian 2 password.bytes.length ++ bytes).length)) = true := by
        rw [Bool.and_eq_true]
        exact ⟨decide_eq_true hcreate, decide_eq_true hfront⟩
      rw [if_pos hmore, hsome.finishes position]
      simp [AccountPayload.sent, hcreate]
  · rw [if_neg hcreate] at htail
    rw [← Written.all_inj.mp htail]
    simp [AccountPayload.sent, hcreate]

/-- **The payload of a request about a path is read back**, by whoever knows whether it has a
    file. -/
theorem readFrame_pathPayload {payload : PathPayload} {bytes : Bytes}
    (h : written payload = .all bytes) : readFrame bytes payload.file.isSome = .ok payload := by
  obtain ⟨path, file⟩ := payload
  obtain ⟨_, tail, hpath, htail, rfl⟩ := Written.andThen_eq_all_iff.mp h
  apply readFrame_of_finishes
  refine (Faithful.takes hpath).finishes_bind ?_
  intro position
  cases file with
  | none =>
    rw [← Written.all_inj.mp htail]
    rfl
  | some file =>
    obtain ⟨_, _, hdigest, hcontent, rfl⟩ := Written.andThen_eq_all_iff.mp htail
    rw [← Written.all_inj.mp hcontent]
    have hfinish : Finishes (do
        let digest : Digest ← decode
        let content ← Decoder.takeRest
        return (⟨path, some ⟨digest, content⟩⟩ : PathPayload)) true _ _ :=
      (Faithful.takes hdigest).finishes_bind fun position => by
        rw [Step.bind_of_ok (finishes_takeRest file.content position)]
        rfl
    exact hfinish position

end RemoteFiles
