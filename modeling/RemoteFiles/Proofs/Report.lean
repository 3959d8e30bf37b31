import RemoteFiles.Proofs.Disk.Entries
import RemoteFiles.Proofs.Remains
import RemoteFiles.Response.Report

/-!
# What showing a response does to the disk

A response that tells of a failure is shown and nothing else happens, whatever comes with it. One
that tells of success may be followed by work on the disk, and `Effect` says what work that should
be: for a download one new file with the payload, for a local action one new directory or one entry
less, and for everything else none. That is what is done, but for a download of which a write fails:
then a beginning of the payload stays (`CutShort`).

* `present_of_failure` -- the one line that is shown for a failure;
* `effect_or_cutShort`, `effect_run` -- what the work does;
* `effect_present_iff` -- both together, for every response to a request;
* `Effect.rooted` -- a tree stays a tree.
-/

namespace RemoteFiles

open ClientM

namespace Response

/-! ## 1. What should be done -/

/-- What showing a response should do to the disk, by the operation that it is the answer to. -/
inductive Effect (response : Response) (before after : Disk) : Operation → Prop
  /-- The tree is as it was. -/
  | idle {operation : Operation} (h : Disk.SameTree before after) :
    Effect response before after operation
  /-- The target is new and holds the payload, which has the digest that was sent. -/
  | saved {path : String} {target : Path} {place : Place} {digest : Digest}
    (hdigest : response.digest = some digest)
    (hverified : digest.bytes = Sha256.hash (response.payload.getD []))
    (hgains : Disk.Gains before after target (response.payload.getD []) place) :
    Effect response before after (.get path target)
  /-- A directory is new at the place that the path names, with nothing in it. -/
  | made {path : Path} {place : Place} (hfree : Disk.freePlace path before = .ok place)
    (hadds : Disk.Adds before after place .directory)
    (hempty : before.Rooted → after.children place = []) :
    Effect response before after (.onDisk .mkdir path)
  /-- The entry that the path names is gone. A link is not followed, and a directory had nothing in
      it. -/
  | removed {path : Path} {place : Place} {entry : Entry}
    (hnamed : Disk.named path before = .ok (place, entry))
    (hloses : Disk.Loses before after place)
    (hempty : entry = .directory → before.children place = []) :
    Effect response before after (.onDisk .delete path)

/-- A download is cut short: its digest is right and its file can be made, but a write fails before
    the payload has been written, when `stored` bytes of it are in the file. -/
structure CutShort (response : Response) (before : Disk) (target : Path) (place : Place)
    (stored : Nat) : Prop where
  get : ∃ path, response.request.operation = .get path target
  verified : ∃ digest, response.digest = some digest ∧
    digest.bytes = Sha256.hash (response.payload.getD [])
  created : ∃ created, Disk.createFile target before = .ok place created
  /-- The writes carried out after the file has been made are followed by one that is not. -/
  outage : ∃ count outage later,
    before.outages.tail = List.replicate count none ++ some outage :: later ∧
      stored = count * writeSize + min outage.stored writeSize
  short : stored < (response.payload.getD []).length

/-- **A tree stays a tree.** -/
theorem Effect.rooted {response : Response} {before after : Disk} {operation : Operation}
    (h : Effect response before after operation) (hrooted : before.Rooted) : after.Rooted := by
  cases h with
  | idle hsame =>
    have hpeek : after.peek = before.peek := by
      funext place
      rw [Disk.peek, Disk.peek, hsame.entries]
    rw [Disk.Rooted, hpeek]
    exact hrooted
  | saved _ _ hgains =>
    have hadds : Disk.Adds before after _ (.file _) := ⟨hgains.fresh, hgains.here, hgains.peek⟩
    exact hadds.rooted (Disk.directory_of_free hgains.named_before) hrooted
  | made hfree hadds => exact hadds.rooted (Disk.directory_of_free hfree) hrooted
  | removed hnamed hloses hempty =>
    obtain ⟨-, hentry⟩ := Disk.peek_of_named hnamed
    exact hloses.rooted hentry hempty hrooted

/-! ## 2. Failures -/

theorem successful_iff {response : Response} :
    response.successful = true ↔ response.header.code = 1 := by
  rw [successful, status, Status.isSuccess, Status.code_ofCode]
  exact beq_iff_eq

/-- **A failure is shown by its message**, and nothing is done. -/
theorem present_of_failure {response : Response} (h : response.header.code ≠ 1) (client : Client) :
    response.present client = .ok ()
      { client with
        console := client.console ++ ("[!] " ++ response.message ++ "\n")
        log := client.log ++ [⟨.debug, "status " ++ response.status.display⟩] } := by
  rw [present, if_neg (fun hsuccess => h (successful_iff.mp hsuccess))]
  rfl

/-! ## 3. Local actions -/

section Actions

variable {response : Response}

theorem leaves_list (directory : Path) : Leaves (LocalAction.list directory) := by
  have hrecords : Leaves (Listing.ofDirectory directory) :=
    (answers_ask _).leaves.bind fun entries =>
      (leaves_tell _).bind fun _ => (answers_pure _).leaves
  exact hrecords.bind fun records =>
    (answers_require _).leaves.bind fun items => (answers_pure _).leaves

theorem disk_makeDirectory (path : Path) (client : Client) :
    (Step.stateAfter (LocalAction.makeDirectory path client)).disk =
      Step.stateAfter (Disk.makeDirectory path client.disk) := by
  rw [LocalAction.makeDirectory, disk_bind_of_leaves fun _ => (answers_pure _).leaves,
    stateAfter_mapError, disk_change]

/-- What is no file is taken away as a directory. -/
theorem disk_remove (path : Path) (client : Client) :
    (Step.stateAfter (LocalAction.remove path client)).disk =
      if client.disk.isFile path then Step.stateAfter (Disk.removeFile path client.disk)
      else Step.stateAfter (Disk.removeDirectory path client.disk) := by
  rw [LocalAction.remove, Step.bind_of_ok (Step.get_apply client)]
  by_cases hfile : client.disk.isFile path = true
  · rw [if_pos hfile, if_pos hfile, disk_bind_of_leaves fun _ => (answers_pure _).leaves,
      stateAfter_mapError, disk_change]
  · rw [if_neg hfile, if_neg hfile, disk_bind_of_leaves fun _ => (answers_pure _).leaves,
      stateAfter_mapError, disk_change]

theorem effect_of_same {before after : Disk} {operation : Operation} (h : after = before) :
    Effect response before after operation := by
  rw [h]
  exact .idle (Disk.SameTree.refl before)

theorem effect_makeDirectory (path : Path) (disk : Disk) :
    Effect response disk (Step.stateAfter (Disk.makeDirectory path disk))
      (.onDisk .mkdir path) := by
  rcases Disk.makeDirectory_cases path disk with hsame | ⟨place, hfree, hadds⟩
  · exact effect_of_same hsame
  · exact .made hfree hadds hadds.children_eq_nil

theorem effect_removeFile (path : Path) (disk : Disk) :
    Effect response disk (Step.stateAfter (Disk.removeFile path disk)) (.onDisk .delete path) := by
  rcases Disk.removeFile_cases path disk with hsame | ⟨place, entry, hnamed, hother, hloses⟩
  · exact effect_of_same hsame
  · exact .removed hnamed hloses fun hdirectory => absurd hdirectory hother

theorem effect_removeDirectory (path : Path) (disk : Disk) :
    Effect response disk (Step.stateAfter (Disk.removeDirectory path disk))
      (.onDisk .delete path) := by
  rcases Disk.removeDirectory_cases path disk with hsame | ⟨place, hnamed, hempty, hloses⟩
  · exact effect_of_same hsame
  · exact .removed hnamed hloses fun _ => hempty

/-- **What a local action does**: a listing nothing, the others what they are for. -/
theorem effect_run (action : LocalAction) (path : Path) (client : Client) :
    Effect response client.disk (Step.stateAfter (action.run path client)).disk
      (.onDisk action path) := by
  unfold LocalAction.run
  rw [say_bind]
  cases action with
  | ls => exact effect_of_same (leaves_list path _)
  | mkdir =>
    simp only [disk_makeDirectory]
    exact effect_makeDirectory path client.disk
  | delete =>
    simp only [disk_remove]
    split
    · exact effect_removeFile path client.disk
    · exact effect_removeDirectory path client.disk

theorem disk_showLocal (action : LocalAction) (path : Path) (client : Client) :
    (Step.stateAfter (showLocal action path client)).disk =
      (Step.stateAfter (action.run path client)).disk := by
  rw [showLocal]
  cases action.run path client <;> rfl

end Actions

/-! ## 4. What is for the user's eyes -/

theorem leaves_showListing (response : Response) : Leaves response.showListing := by
  refine (leaves_print _).bind fun _ => ?_
  cases response.payloadText with
  | none => exact (answers_pure ()).leaves
  | some text => exact (answers_require _).leaves.bind fun items => leaves_print _

/-- Showing a download saves it, and what comes after that is for the user's eyes only. -/
theorem disk_showDownload (response : Response) (client : Client) :
    (Step.stateAfter (response.showDownload client)).disk =
      (Step.stateAfter (response.save client)).disk := by
  rw [showDownload, disk_bind_of_leaves fun _ => leaves_print _, stateAfter_mapError]

/-! ## 5. Downloads -/

section Downloads

variable {request : Request} {frame : Bytes} {response : Response} {target : Path}

/-- A download whose digest is right does to the disk what making its file does. -/
theorem disk_save_of_valid (hspelled : Spelled request frame response)
    (htarget : response.request.target? = some target) (h : response.validHash = true)
    (client : Client) :
    (Step.stateAfter (response.save client)).disk =
      Step.stateAfter (Disk.createWith writeSize target (response.payload.getD []) client.disk) := by
  rw [save_of_valid hspelled (hspelled.request_eq ▸ htarget) h]
  cases Disk.createWith writeSize target (response.payload.getD []) client.disk <;> rfl

/-- Without the right digest nothing is done. -/
theorem disk_save_of_not_valid (h : ¬ response.validHash = true) (client : Client) :
    (Step.stateAfter (response.save client)).disk = client.disk := by
  rcases save_cases response client with
    ⟨outcome, hsave, -⟩ | ⟨error, hsave⟩ | ⟨_, _, -, -, hvalid⟩
  · rw [hsave]
    rfl
  · rw [hsave]
    rfl
  · exact absurd hvalid h

/-- **A download that is cut short leaves a beginning of its payload.** -/
theorem gains_of_cutShort (hspelled : Spelled request frame response) {client : Client}
    {place : Place} {stored : Nat} (h : response.CutShort client.disk target place stored) :
    Disk.Gains client.disk (Step.stateAfter (response.save client)).disk target
      ((response.payload.getD []).take stored) place := by
  obtain ⟨path, hget⟩ := h.get
  obtain ⟨created, hcreate⟩ := h.created
  obtain ⟨count, outage, later, houtages, hstored⟩ := h.outage
  have hcount : count * writeSize < (response.payload.getD []).length :=
    Nat.lt_of_le_of_lt (hstored ▸ Nat.le_add_right _ _) h.short
  rw [hspelled.request_eq] at hget
  obtain ⟨after, hsave, hgains, -⟩ :=
    save_of_outage hspelled (validHash_iff.mpr h.verified) hget hcreate hcount houtages
  rw [hsave, hstored]
  exact hgains

/-- Half a file is not what a download should leave. -/
theorem not_effect_of_gains {before after : Disk} {path : String} {place : Place} {stored : Nat}
    (h : Disk.Gains before after target ((response.payload.getD []).take stored) place)
    (hshort : stored < (response.payload.getD []).length) :
    ¬ Effect response before after (.get path target) := by
  intro heffect
  cases heffect with
  | idle hsame => exact h.not_sameTree hsame
  | saved _ _ hgains =>
    have hwhole := congrArg List.length (h.content_unique hgains)
    rw [List.length_take] at hwhole
    omega

/-- **What saving does**: the payload is new at the target, once its digest has been found right, or
    it is cut short there. -/
theorem effect_or_cutShort (hspelled : Spelled request frame response) {path : String}
    (hget : response.request.operation = .get path target) (client : Client) :
    Effect response client.disk (Step.stateAfter (response.save client)).disk
        (.get path target) ∨
      ∃ place stored, response.CutShort client.disk target place stored := by
  have htarget : response.request.target? = some target := by rw [Request.target?, hget]
  by_cases hvalid : response.validHash = true
  · obtain ⟨digest, hdigest, hverified⟩ := validHash_iff.mp hvalid
    rw [disk_save_of_valid hspelled htarget hvalid]
    cases hcreate : Disk.createFile target client.disk with
    | error fault after =>
      rw [show Disk.createWith writeSize target _ client.disk = _ from
        Step.bind_of_error hcreate _]
      exact .inl (.idle (Disk.createFile_eq_error hcreate))
    | ok place created =>
      rcases Disk.createWith_whole_or_outage writeSize_pos (response.payload.getD []) hcreate with
        ⟨after, hwrite, hgains⟩ | ⟨count, outage, later, houtages, hcount⟩
      · rw [hwrite]
        exact .inl (.saved hdigest hverified hgains)
      · by_cases hshort :
          count * writeSize + min outage.stored writeSize < (response.payload.getD []).length
        · exact .inr ⟨place, _, ⟨path, hget⟩, ⟨digest, hdigest, hverified⟩, ⟨created, hcreate⟩,
            ⟨count, outage, later, houtages, rfl⟩, hshort⟩
        · -- the last write has stored all of its bytes before it fails
          obtain ⟨after, hfails, hgains⟩ :=
            Disk.createWith_of_outage writeSize_pos hcreate hcount houtages
          rw [List.take_of_length_le (Nat.le_of_not_lt hshort)] at hgains
          rw [hfails]
          exact .inl (.saved hdigest hverified hgains)
  · rw [disk_save_of_not_valid hvalid]
    exact .inl (.idle (Disk.SameTree.refl client.disk))

end Downloads

/-! ## 6. Every response -/

section Responses

variable {request : Request} {frame : Bytes} {response : Response} (client : Client)

/-- Showing the success of a download saves it, and what comes after that is for the user's eyes
    only. -/
theorem disk_present_get {path : String} {target : Path} (h : response.header.code = 1)
    (hget : response.request.operation = .get path target) :
    (Step.stateAfter (response.present client)).disk =
      (Step.stateAfter (response.save client)).disk := by
  rw [present, if_pos (successful_iff.mpr h), hget]
  exact disk_showDownload response client

/-- **What showing a success does.** -/
theorem effect_of_success (hspelled : Spelled request frame response)
    (h : response.header.code = 1)
    (hwhole : ∀ target place stored, ¬ response.CutShort client.disk target place stored) :
    Effect response client.disk (Step.stateAfter (response.present client)).disk
      response.request.operation := by
  cases hoperation : response.request.operation with
  | get path target =>
    rw [disk_present_get client h hoperation]
    rcases effect_or_cutShort hspelled hoperation client with heffect | ⟨place, stored, hcut⟩
    · exact heffect
    · exact absurd hcut (hwhole target place stored)
  | ls path =>
    rw [present, if_pos (successful_iff.mpr h), hoperation]
    exact effect_of_same (leaves_showListing response client)
  | onDisk action path =>
    rw [present, if_pos (successful_iff.mpr h), hoperation]
    simp only [disk_showLocal]
    exact effect_run action path client
  | authenticate | shell | mkdir | delete | put | account =>
    rw [present, if_pos (successful_iff.mpr h), hoperation]
    exact effect_of_same rfl

/-- **What showing a success of a download does that is cut short.** -/
theorem gains_of_success (hspelled : Spelled request frame response)
    (h : response.header.code = 1) {target : Path} {place : Place} {stored : Nat}
    (hcut : response.CutShort client.disk target place stored) :
    Disk.Gains client.disk (Step.stateAfter (response.present client)).disk target
      ((response.payload.getD []).take stored) place := by
  obtain ⟨path, hget⟩ := hcut.get
  rw [disk_present_get client h hget]
  exact gains_of_cutShort hspelled hcut

end Responses

/-- **What showing a response does.** A failure is shown in one line and nothing else happens. A
    success changes the tree at most as it should for the operation of the request, exactly if it is
    not the success of a download that is cut short; of that, a beginning of the payload stays. -/
theorem effect_present_iff {request : Request} {frame : Bytes} {start parsed : Client}
    {response : Response} (h : parse request frame start = .ok response parsed) (client : Client) :
    (response.header.code ≠ 1 → ∃ records, response.present client = .ok ()
      { client with
        console := client.console ++ ("[!] " ++ response.message ++ "\n")
        log := client.log ++ records }) ∧
    (response.header.code = 1 →
      (Effect response client.disk (Step.stateAfter (response.present client)).disk
          request.operation ↔
        ∀ target place stored, ¬ response.CutShort client.disk target place stored) ∧
      ∀ target place stored, response.CutShort client.disk target place stored →
        Disk.Gains client.disk (Step.stateAfter (response.present client)).disk target
          ((response.payload.getD []).take stored) place) := by
  have hspelled := spelled_of_parse h
  obtain rfl := hspelled.request_eq
  constructor
  · intro hcode
    exact ⟨_, present_of_failure hcode client⟩
  · intro hcode
    refine ⟨⟨fun heffect target place stored hcut => ?_, effect_of_success client hspelled hcode⟩,
      fun target place stored => gains_of_success client hspelled hcode⟩
    obtain ⟨path, hget⟩ := hcut.get
    rw [hget] at heffect
    exact not_effect_of_gains (gains_of_success client hspelled hcode hcut) hcut.short heffect

/-- A login succeeds, and a link is to be deleted that stands for a file. -/
theorem effect_present_link :
    ∃ response parsed,
      parse ⟨⟨"host", 4000, "ann", ⟨"secret"⟩, 5⟩, .onDisk .delete ⟨[0x61]⟩⟩
        [1, 0, 0, 0, 0, 5, 0, 0, 0, 0, 0, 0, 0, 3, 2, 0x6F, 0x6B] ⟨⟨[], [], []⟩, "", []⟩ =
          .ok response parsed ∧
      Effect response ⟨[([[0x61]], .link ⟨[0x62]⟩), ([[0x62]], .file [0])], [], []⟩
        (Step.stateAfter (response.present
          ⟨⟨[([[0x61]], .link ⟨[0x62]⟩), ([[0x62]], .file [0])], [], []⟩, "", []⟩)).disk
        (.onDisk .delete ⟨[0x61]⟩) := by
  have hspec := read_spec ⟨⟨"host", 4000, "ann", ⟨"secret"⟩, 5⟩, .onDisk .delete ⟨[0x61]⟩⟩
    [1, 0, 0, 0, 0, 5, 0, 0, 0, 0, 0, 0, 0, 3, 2, 0x6F, 0x6B]
  have hfault : fault ⟨⟨"host", 4000, "ann", ⟨"secret"⟩, 5⟩, .onDisk .delete ⟨[0x61]⟩⟩
      [1, 0, 0, 0, 0, 5, 0, 0, 0, 0, 0, 0, 0, 3, 2, 0x6F, 0x6B] = none := by decide
  rw [hfault] at hspec
  obtain ⟨response, hread, hspelled⟩ := hspec
  have hcode : response.header.code = 1 := (Option.some.inj hspelled.code).symm
  have hparse := parse_of_read_ok hread ⟨⟨[], [], []⟩, "", []⟩
  obtain ⟨-, hsuccess⟩ := effect_present_iff hparse
    ⟨⟨[([[0x61]], .link ⟨[0x62]⟩), ([[0x62]], .file [0])], [], []⟩, "", []⟩
  obtain ⟨heffect, -⟩ := hsuccess hcode
  refine ⟨response, _, hparse, heffect.mpr fun target place stored hcut => ?_⟩
  -- only a download can be cut short
  obtain ⟨path, hget⟩ := hcut.get
  rw [hspelled.request_eq] at hget
  cases hget

/-- The success of a download of two bytes is shown while the medium is full after one. The target
    is new then, and holds one byte, whose digest is not the one that was sent. -/
theorem present_two_bytes_full :
    ∃ frame response parsed after,
      parse ⟨⟨"host", 4000, "ann", ⟨"secret"⟩, 5⟩, .get "notes" ⟨[0x61]⟩⟩ frame
        ⟨⟨[], [], []⟩, "", []⟩ = .ok response parsed ∧ response.header.code = 1 ∧
      after =
        (Step.stateAfter (response.present ⟨⟨[], [], [none, some ⟨1, .full⟩]⟩, "", []⟩)).disk ∧
      Disk.peek ⟨[], [], [none, some ⟨1, .full⟩]⟩ [[0x61]] = none ∧
      after.peek [[0x61]] = some (.file [0x68]) ∧
      response.digest.map Digest.bytes ≠ some (Sha256.hash [0x68]) ∧
      ¬ Effect response ⟨[], [], [none, some ⟨1, .full⟩]⟩ after (.get "notes" ⟨[0x61]⟩) := by
  have hget : Request.action ⟨⟨"host", 4000, "ann", ⟨"secret"⟩, 5⟩, .get "notes" ⟨[0x61]⟩⟩ = .get :=
    rfl
  have hshort : 33 + ([0x68, 0x69] : Bytes).length ≤ promiseLimit := by decide
  obtain ⟨frame, response, parsed, hparse, hvalid, hpayload, hcode, hdigest⟩ :=
    exists_download hget hshort ⟨⟨[], [], []⟩, "", []⟩
  have hspelled := spelled_of_parse hparse
  obtain ⟨created, hcreate⟩ := exists_created_empty [some ⟨1, .full⟩]
  have hcut : response.CutShort ⟨[], [], [none, some ⟨1, .full⟩]⟩ ⟨[0x61]⟩ [[0x61]] 1 := by
    refine ⟨⟨"notes", congrArg Request.operation hspelled.request_eq⟩, validHash_iff.mp hvalid,
      ⟨created, hcreate⟩, ⟨0, ⟨1, .full⟩, [], rfl, by decide⟩, ?_⟩
    rw [hpayload]
    decide
  have hgains := gains_of_success ⟨⟨[], [], [none, some ⟨1, .full⟩]⟩, "", []⟩ hspelled hcode hcut
  have hfile := (hgains.peek [[0x61]]).trans (if_pos rfl)
  rw [hpayload] at hfile
  refine ⟨frame, response, parsed, _, hparse, hcode, rfl, rfl, hfile, ?_,
    not_effect_of_gains hgains hcut.short⟩
  rw [hdigest, Option.map_some, Digest.bytes_of]
  exact fun heq => absurd (Option.some.inj heq) (by decide +kernel)

end Response

end RemoteFiles
