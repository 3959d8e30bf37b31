import RemoteFiles.Frame.Request
import RemoteFiles.Proofs.Frame.Payload

/-!
# Request frames, written and read back

A header is written with both lengths before both strings, and read back from the front of a frame
(`Faithful RequestHeader`). A header, a length and a payload are a frame
(`RequestFrame.parse_append`).
-/

namespace RemoteFiles

open Wire

/-! ## 1. Headers -/

instance : LawfulWritable RequestHeader where
  written header :=
    (written header.opcode).andThen <| (written header.userFlag).andThen <|
      (written (0 : UInt16)).andThen <| (writtenShortLength header.username.bytes).andThen <|
      (writtenShortLength header.password.bytes).andThen <| (written header.session).andThen <|
      (Written.all header.username.bytes).andThen (.all header.password.bytes)
  does header :=
    (LawfulWritable.does header.opcode).andThen <| (LawfulWritable.does header.userFlag).andThen <|
      (LawfulWritable.does (0 : UInt16)).andThen <|
      (does_pushShortLength header.username.bytes).andThen <|
      (does_pushShortLength header.password.bytes).andThen <|
      (LawfulWritable.does header.session).andThen <|
      (does_push header.username.bytes).andThen (does_push header.password.bytes)

/-- **A header is read back**, with its two strings behind their two lengths. -/
instance : Faithful RequestHeader where
  takes {header bytes} h := by
    obtain ⟨opcode, _, hopcode, h₁, rfl⟩ := Written.andThen_eq_all_iff.mp h
    obtain ⟨userFlag, _, huserFlag, h₂, rfl⟩ := Written.andThen_eq_all_iff.mp h₁
    obtain ⟨reserved, _, hreserved, h₃, rfl⟩ := Written.andThen_eq_all_iff.mp h₂
    obtain ⟨_, _, husername, h₄, rfl⟩ := Written.andThen_eq_all_iff.mp h₃
    obtain ⟨_, _, hpassword, h₅, rfl⟩ := Written.andThen_eq_all_iff.mp h₄
    obtain ⟨session, _, hsession, h₆, rfl⟩ := Written.andThen_eq_all_iff.mp h₅
    obtain ⟨username, password, husername', hpassword', rfl⟩ := Written.andThen_eq_all_iff.mp h₆
    obtain ⟨hshort, rfl⟩ := writtenShortLength_eq_all_iff.mp husername
    obtain ⟨hshort', rfl⟩ := writtenShortLength_eq_all_iff.mp hpassword
    rw [← Written.all_inj.mp hreserved, ← Written.all_inj.mp hsession,
      ← Written.all_inj.mp husername', ← Written.all_inj.mp hpassword']
    refine (Faithful.takes hopcode).bind ((Faithful.takes huserFlag).bind ?_)
    refine (takes_bigEndian_uint16 0).bind ?_
    refine (takes_shortLength hshort).bind ((takes_shortLength hshort').bind ?_)
    refine (takes_bigEndian_uint32 header.session).bind ?_
    refine (takes_take_shortLength hshort).bind ?_
    exact (takes_take_shortLength hshort').map fun password =>
      RequestHeader.mk header.opcode header.userFlag header.username ⟨password⟩ header.session

/-! ## 2. Frames -/

/-- **A header, the length of a payload and the payload are a frame.** -/
theorem RequestFrame.parse_append {header : RequestHeader} {front payload : Bytes}
    (h : written header = .all front) (hfits : payload.length < UInt64.size) :
    RequestFrame.parse (front ++ (Bytes.bigEndian 8 payload.length ++ payload)) =
      .ok ⟨header, payload⟩ := by
  have hlength : (UInt64.ofNat payload.length).toNat = payload.length :=
    UInt64.toNat_ofNat_of_lt' hfits
  have htakes := takes_bigEndian_uint64 (UInt64.ofNat payload.length)
  rw [hlength] at htakes
  refine readFrame_of_finishes ((Faithful.takes h).bind (htakes.bind ?_)).finishes
  exact (takes_take hlength.symm).map (RequestFrame.mk header)

end RemoteFiles
