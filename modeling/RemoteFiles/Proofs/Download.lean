import RemoteFiles.Proofs.Disk.Change
import RemoteFiles.Proofs.Response

/-!
# Saving a download, once

A download is saved when its digest has come and is right, where nothing is yet, and not otherwise.
`Saves` says what one call does, for every disk that it may find. The disk only grows
(`extends_save`), and the file that has been written is in the way of the next call
(`obstructed_of_written`), so of many calls at most one writes (`written_once`).
-/

namespace RemoteFiles

namespace Response

/-- A response that has been parsed is spelled by its frame. -/
theorem spelled_of_parse {request : Request} {frame : Bytes} {client after : Client}
    {response : Response} (h : parse request frame client = .ok response after) :
    Spelled request frame response := by
  have hspec := read_spec request frame
  cases hfault : fault request frame with
  | some error =>
    rw [hfault] at hspec
    obtain ⟨rejection, hread, -⟩ := hspec
    rw [parse_of_read_error hread] at h
    cases h
  | none =>
    rw [hfault] at hspec
    obtain ⟨found, hread, hspelled⟩ := hspec
    rw [parse_of_read_ok hread] at h
    cases h
    exact hspelled

/-! ## 1. One call -/

section Calls

variable {response : Response} {target : Path} {content : Bytes}

theorem save_of_no_target (h : response.request.target? = none) (client : Client) :
    response.save client =
      .error (.badUsage "save_file() on a response that isn't for GET") client := by
  rw [save, h]
  rfl

variable (htarget : response.request.target? = some target)

include htarget

theorem save_of_no_file (h : response.file? = none) (client : Client) :
    response.save client = .ok .noFile client := by
  rw [save, htarget, h]
  rfl

theorem save_of_mismatch (hfile : response.file? = some content)
    (h : ¬ response.validHash = true) (client : Client) :
    response.save client = .ok .hashMismatch client := by
  rw [save, htarget, hfile]
  exact congrFun (if_neg h) client

/-- A file whose digest is right is made and written. -/
theorem save_of_match (hfile : response.file? = some content) (h : response.validHash = true)
    (client : Client) :
    response.save client =
      match Disk.createWith writeSize target content client.disk with
      | .ok _ disk => .ok (.written content.length target)
          { client with
            disk := disk
            log := client.log ++ [⟨.info, "wrote " ++ content.length.repr ++ " bytes to " ++
              target.display⟩] }
      | .error fault disk => .error (.disk fault) { client with disk := disk } := by
  rw [save, htarget, hfile]
  refine Eq.trans (congrFun (if_pos h) client) ?_
  rw [Step.bind_apply, ClientM.mapError_apply, ClientM.change_apply]
  cases Disk.createWith writeSize target content client.disk <;> rfl

end Calls

/-- **Saving changes nothing, or it makes a file at the target.** -/
theorem save_cases (response : Response) (client : Client) :
    (∃ outcome, response.save client = .ok outcome client ∧ ¬ outcome.isWritten = true) ∨
    (∃ error, response.save client = .error error client) ∨
    ∃ target content, response.request.target? = some target ∧
      response.file? = some content ∧ response.validHash = true := by
  cases htarget : response.request.target? with
  | none => exact .inr (.inl ⟨_, save_of_no_target htarget client⟩)
  | some target =>
    cases hfile : response.file? with
    | none => exact .inl ⟨.noFile, save_of_no_file htarget hfile client, by decide⟩
    | some content =>
      by_cases hvalid : response.validHash = true
      · exact .inr (.inr ⟨target, content, rfl, rfl, hvalid⟩)
      · exact .inl ⟨.hashMismatch, save_of_mismatch htarget hfile hvalid client, by decide⟩

/-! ## 2. The disk only grows -/

/-- **Saving alters no entry that there is**, whatever comes of it. -/
theorem extends_save (response : Response) (client : Client) :
    Disk.Extends client.disk (Step.stateAfter (response.save client)).disk := by
  rcases save_cases response client with
    ⟨outcome, hsave, -⟩ | ⟨error, hsave⟩ | ⟨target, content, htarget, hfile, hvalid⟩
  · rw [hsave]
    exact Disk.Extends.refl client.disk
  · rw [hsave]
    exact Disk.Extends.refl client.disk
  · rw [save_of_match htarget hfile hvalid]
    obtain ⟨hextends, -⟩ := Disk.extends_createWith writeSize target content client.disk
    cases hwrite : Disk.createWith writeSize target content client.disk with
    | ok done disk =>
      rw [hwrite] at hextends
      exact hextends
    | error fault disk =>
      rw [hwrite] at hextends
      exact hextends

/-- **A file is written by making it at the target**, and by nothing else. -/
theorem createWith_of_written {response : Response} {client after : Client} {outcome : SaveOutcome}
    (h : response.save client = .ok outcome after) (hwritten : outcome.isWritten = true) :
    ∃ target content, response.request.target? = some target ∧
      Disk.createWith writeSize target content client.disk = .ok () after.disk := by
  rcases save_cases response client with
    ⟨found, hsave, hidle⟩ | ⟨error, hsave⟩ | ⟨target, content, htarget, hfile, hvalid⟩
  · rw [hsave] at h
    cases h
    exact absurd hwritten hidle
  · rw [hsave] at h
    cases h
  · rw [save_of_match htarget hfile hvalid] at h
    cases hwrite : Disk.createWith writeSize target content client.disk with
    | ok done disk =>
      rw [hwrite] at h
      cases h
      exact ⟨target, content, htarget, hwrite⟩
    | error fault disk =>
      rw [hwrite] at h
      cases h

/-- What is at the target of a request is in the way of its download. -/
def Obstructed (response : Response) (disk : Disk) : Prop :=
  ∀ target, response.request.target? = some target → Disk.Blocked target disk

/-- **A file that has been written is in the way** of the next. -/
theorem obstructed_of_written {response : Response} {client after : Client} {outcome : SaveOutcome}
    (h : response.save client = .ok outcome after) (hwritten : outcome.isWritten = true) :
    Obstructed response after.disk := by
  obtain ⟨target, content, htarget, hwrite⟩ := createWith_of_written h hwritten
  intro found hfound
  rw [htarget] at hfound
  cases hfound
  exact (Disk.extends_createWith writeSize target content client.disk).2 _ hwrite

theorem not_written_of_obstructed {response : Response} {client after : Client}
    {outcome : SaveOutcome} (hobstructed : Obstructed response client.disk)
    (h : response.save client = .ok outcome after) : ¬ outcome.isWritten = true := by
  intro hwritten
  obtain ⟨target, content, htarget, hwrite⟩ := createWith_of_written h hwritten
  obtain ⟨place, created, hcreate, -⟩ := Step.bind_eq_ok_iff.mp hwrite
  exact Disk.not_free_of_blocked (hobstructed target htarget) place
    (Disk.createFile_eq_ok hcreate).1

/-! ## 3. Many calls -/

/-- The outcomes of saving so many times, nothing else happening in between, and the client after
    that. A call that fails has no outcome. -/
def saveTimes (response : Response) : Nat → Client → List SaveOutcome × Client
  | 0, client => ([], client)
  | n + 1, client =>
    match response.save client with
    | .ok outcome after =>
      (outcome :: (saveTimes response n after).1, (saveTimes response n after).2)
    | .error _ after => saveTimes response n after

theorem extends_saveTimes (response : Response) (n : Nat) (client : Client) :
    Disk.Extends client.disk (saveTimes response n client).2.disk := by
  induction n generalizing client with
  | zero => exact Disk.Extends.refl client.disk
  | succ n ih =>
    have hfirst := extends_save response client
    unfold saveTimes
    cases h : response.save client with
    | ok outcome after =>
      rw [h] at hfirst
      exact hfirst.trans (ih after)
    | error error after =>
      rw [h] at hfirst
      exact hfirst.trans (ih after)

/-- Once something is in the way, no call writes. -/
theorem none_written_of_obstructed {response : Response} (n : Nat) {client : Client}
    (h : Obstructed response client.disk) :
    (saveTimes response n client).1.filter SaveOutcome.isWritten = [] := by
  induction n generalizing client with
  | zero => rfl
  | succ n ih =>
    -- the disk grows, so what is in the way stays there
    have hgrown : Obstructed response (Step.stateAfter (response.save client)).disk :=
      fun target htarget => (h target htarget).mono (extends_save response client)
    unfold saveTimes
    cases hsave : response.save client with
    | ok outcome after =>
      rw [hsave] at hgrown
      rw [List.filter_cons_of_neg (not_written_of_obstructed h hsave)]
      exact ih hgrown
    | error error after =>
      rw [hsave] at hgrown
      exact ih hgrown

/-- **Of many calls at most one writes.** -/
theorem written_once (response : Response) (n : Nat) (client : Client) :
    ((saveTimes response n client).1.filter SaveOutcome.isWritten).length ≤ 1 := by
  induction n generalizing client with
  | zero => exact Nat.zero_le 1
  | succ n ih =>
    unfold saveTimes
    cases hsave : response.save client with
    | error error after => exact ih after
    | ok outcome after =>
      by_cases hwritten : outcome.isWritten = true
      · have hobstructed := obstructed_of_written hsave hwritten
        rw [List.filter_cons_of_pos hwritten, none_written_of_obstructed n hobstructed]
        exact Nat.le_refl 1
      · rw [List.filter_cons_of_neg hwritten]
        exact ih after

/-! ## 4. Downloads -/

/-- What saving the answer to a download does, the client being as it is. -/
structure Saves (response : Response) (target : Path) (client : Client) : Prop where
  noFile : response.digest = none → response.save client = .ok .noFile client
  hashMismatch : ∀ digest, response.digest = some digest →
    digest.bytes ≠ Sha256.hash (response.payload.getD []) →
    response.save client = .ok .hashMismatch client
  /-- Where an entry is, or where no file can be made, the tree stays as it is. -/
  refused : ∀ digest, response.digest = some digest →
    digest.bytes = Sha256.hash (response.payload.getD []) →
    (Disk.Occupied target client.disk ∨
      ∃ fault disk, Disk.createFile target client.disk = .error fault disk) →
    ∃ fault after, response.save client = .error (.disk fault) after ∧
      Disk.SameTree client.disk after.disk
  /-- Everywhere else one file is new, provided that the medium carries out what is written to a
      new file. -/
  written : ∀ digest place disk, response.digest = some digest →
    digest.bytes = Sha256.hash (response.payload.getD []) →
    Disk.createFile target client.disk = .ok place disk →
    (∀ outage ∈ client.disk.outages.tail, outage = none) →
    ∃ after, response.save client = .ok (.written (response.payload.getD []).length target) after ∧
      Disk.Gains client.disk after.disk target (response.payload.getD []) place

/-- A digest never comes without a payload, be it empty. -/
theorem file?_of_digest {request : Request} {frame : Bytes} {response : Response}
    (hspelled : Spelled request frame response) {digest : Digest}
    (h : response.digest = some digest) :
    response.file? = some (response.payload.getD []) := by
  obtain ⟨-, hremainder⟩ := hspelled.digest.mp (by rw [h]; rfl)
  cases hpayload : response.payload with
  | none =>
    rw [hspelled.payload.mp hpayload] at hremainder
    exact absurd hremainder (Nat.lt_irrefl 0)
  | some content =>
    rw [file?, h, hpayload]
    rfl

/-- A download whose digest is right is saved by making the file of its payload. -/
theorem save_of_valid {request : Request} {frame : Bytes} {response : Response} {target : Path}
    (hspelled : Spelled request frame response) (htarget : request.target? = some target)
    (h : response.validHash = true) (client : Client) :
    response.save client =
      match Disk.createWith writeSize target (response.payload.getD []) client.disk with
      | .ok _ disk => .ok (.written (response.payload.getD []).length target)
          { client with
            disk := disk
            log := client.log ++ [⟨.info, "wrote " ++ (response.payload.getD []).length.repr ++
              " bytes to " ++ target.display⟩] }
      | .error fault disk => .error (.disk fault) { client with disk := disk } := by
  obtain rfl := hspelled.request_eq
  obtain ⟨digest, hdigest, -⟩ := hspelled.validHash.mp h
  exact save_of_match htarget (file?_of_digest hspelled hdigest) h client

/-- **The answer to a download is saved as it should be**, whatever the disk is. -/
theorem saves_of_spelled {request : Request} {frame : Bytes} {response : Response} {target : Path}
    (hspelled : Spelled request frame response) (htarget : response.request.target? = some target)
    (client : Client) : Saves response target client where
  noFile hdigest := by
    refine save_of_no_file htarget ?_ client
    rw [file?, hdigest]
    rfl
  hashMismatch digest hdigest hne := by
    refine save_of_mismatch htarget (file?_of_digest hspelled hdigest) ?_ client
    intro hvalid
    obtain ⟨found, hfound, heq⟩ := hspelled.validHash.mp hvalid
    rw [hdigest] at hfound
    cases hfound
    exact hne heq
  refused digest hdigest heq hrefused := by
    have hvalid := hspelled.validHash.mpr ⟨digest, hdigest, heq⟩
    have hsave := save_of_valid hspelled (hspelled.request_eq ▸ htarget) hvalid client
    obtain ⟨fault, disk, hcreate⟩ : ∃ fault disk,
        Disk.createFile target client.disk = .error fault disk := by
      rcases hrefused with hoccupied | hfails
      · exact Disk.createFile_of_not_free (Disk.not_free_of_occupied hoccupied)
      · exact hfails
    have hwrite : Disk.createWith writeSize target (response.payload.getD []) client.disk =
        .error fault disk := Step.bind_of_error hcreate _
    rw [hwrite] at hsave
    exact ⟨fault, _, hsave, Disk.createFile_eq_error hcreate⟩
  written digest place disk hdigest heq hcreate hwrites := by
    have hvalid := hspelled.validHash.mpr ⟨digest, hdigest, heq⟩
    have hsave := save_of_valid hspelled (hspelled.request_eq ▸ htarget) hvalid client
    obtain ⟨after, hwrite, hgains⟩ := Disk.createWith_of_created hcreate fun outage hmem =>
      hwrites outage (List.mem_of_mem_take hmem)
    rw [show Disk.createWith writeSize target _ client.disk = _ from hwrite] at hsave
    exact ⟨_, hsave, hgains⟩

/-- **A download is saved if its digest is right and nothing is in its way**, once, and no other
    answer is saved at all. Between the calls that are counted the disk is left alone. -/
theorem save_download {request : Request} {frame : Bytes} {start parsed : Client}
    {response : Response} (h : parse request frame start = .ok response parsed) :
    (∀ client,
      match request.operation with
      | .get _ target => Saves response target client
      | _ => response.save client =
          .error (.badUsage "save_file() on a response that isn't for GET") client) ∧
    ∀ n client, ((saveTimes response n client).1.filter SaveOutcome.isWritten).length ≤ 1 ∧
      Disk.Extends client.disk (saveTimes response n client).2.disk := by
  have hspelled := spelled_of_parse h
  obtain rfl := hspelled.request_eq
  refine ⟨fun client => ?_, fun n client =>
    ⟨written_once response n client, extends_saveTimes response n client⟩⟩
  cases hoperation : response.request.operation with
  | get path target =>
    have htarget : response.request.target? = some target := by rw [Request.target?, hoperation]
    exact saves_of_spelled hspelled htarget client
  | _ =>
    refine save_of_no_target ?_ client
    rw [Request.target?, hoperation]

/-- A file of two bytes is saved on an empty disk. -/
theorem save_download_two_bytes :
    ∃ frame response parsed after,
      parse ⟨⟨"host", 4000, "ann", ⟨"secret"⟩, 5⟩, .get "notes" ⟨[0x61]⟩⟩ frame
        ⟨⟨[], [], []⟩, "", []⟩ = .ok response parsed ∧
      response.save ⟨⟨[], [], []⟩, "", []⟩ = .ok (.written 2 ⟨[0x61]⟩) after ∧
      Disk.Gains ⟨[], [], []⟩ after.disk ⟨[0x61]⟩ [0x68, 0x69] [[0x61]] := by
  obtain ⟨frame, hframe⟩ : ∃ frame : Bytes,
      frame = [0, 0, 0, 0, 0, 5, 0, 0, 0, 0, 0, 0, 0, 35] ++
        0 :: ([] ++ ((Digest.of [0x68, 0x69]).bytes ++ [0x68, 0x69])) := ⟨_, rfl⟩
  obtain ⟨request, hrequest⟩ : ∃ request : Request,
      request = ⟨⟨"host", 4000, "ann", ⟨"secret"⟩, 5⟩, .get "notes" ⟨[0x61]⟩⟩ := ⟨_, rfl⟩
  have hpromised : promised frame = 35 := by
    rw [hframe]
    rfl
  have hlength : frame.length = 14 + promised frame := by
    rw [hpromised, hframe]
    simp [Digest.length_eq]
  have hbody : Wire.readFrame (frame.drop 14) request.expectsDigest =
      .ok (ResponseBody.mk "" (some (Digest.of [0x68, 0x69])) [0x68, 0x69]) := by
    have hsize : ([] : Bytes).length = (0 : UInt8).toNat := rfl
    have htext : Utf8.decode? [] = some "" := Utf8.decode?_eq_some_iff.mpr rfl
    rw [hframe, hrequest]
    exact ResponseBody.readFrame_of_digest hsize htext (Digest.of [0x68, 0x69]) [0x68, 0x69]
  have hread : read request frame = _ := read_of_length hlength (by rw [hpromised]; decide)
  rw [hbody] at hread
  have hparse := parse_of_read_ok hread ⟨⟨[], [], []⟩, "", []⟩
  rw [hrequest] at hparse
  obtain ⟨hsaves, -⟩ := save_download hparse
  have hplace : Disk.freePlace ⟨[0x61]⟩ ⟨[], [], []⟩ = .ok [[0x61]] := by
    refine Disk.freePlace_eq_ok_iff.mpr ⟨[], [0x61], ?_, by decide, rfl, rfl⟩
    refine Disk.resolveParent_eq_ok_iff.mpr ⟨[], rfl, ?_, by decide +kernel⟩
    rw [show (Disk.namesOf ⟨[0x61]⟩).dropLast = [] by decide +kernel, List.nil_append,
      Disk.walk_dot rfl, Disk.walk]
  obtain ⟨made, hcreate⟩ : ∃ made, Disk.createFile ⟨[0x61]⟩ ⟨[], [], []⟩ = .ok [[0x61]] made := by
    rw [Disk.createFile_apply, hplace]
    exact ⟨_, rfl⟩
  obtain ⟨after, hsave, hgains⟩ := (hsaves ⟨⟨[], [], []⟩, "", []⟩).written (Digest.of [0x68, 0x69])
    [[0x61]] made rfl (Digest.bytes_of [0x68, 0x69]) hcreate (by simp)
  exact ⟨frame, _, _, after, hparse, hsave, hgains⟩

end Response

end RemoteFiles
