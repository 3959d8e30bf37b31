import RemoteFiles.Proofs.Built
import RemoteFiles.Proofs.Download
import RemoteFiles.Proofs.Path
import RemoteFiles.Proofs.Validation

/-!
# The target of a download, checked and written

The check of a download asks what its target stands for, and follows a link there. The file is later
made only where no entry has the name, and a link is an entry like any other. The check and the write
agree about files and directories (`Disk.link_of_named`). About a link that leads nowhere they do
not: it passes the check, and the file that has come cannot be saved.

* `Disk.createWith_exists_iff` -- a new file is refused as one that exists exactly if an entry has
  its name;
* `Operation.Accepted` -- the moments at which a download is checked;
* `Operation.vacant_iff_not_link` -- what is accepted has a free target, and can be saved there,
  exactly if no link lies at the target.
-/

namespace RemoteFiles

namespace Disk

/-! ## 1. What a path names -/

section Named

variable {path : Path} {disk : Disk} {place : Place} {entry : Entry}

/-- What a path names does not depend on what the medium is about to do. -/
theorem SameTree.named_iff {before after : Disk} (h : SameTree before after) :
    named path before = .ok (place, entry) ↔ named path after = .ok (place, entry) :=
  ⟨named_mono h.extends, named_mono h.symm.extends⟩

/-- Nothing has the name that the path ends with, in the directory that the path leads to. -/
def Vacant (path : Path) (disk : Disk) : Prop :=
  ∀ place entry, named path disk ≠ .ok (place, entry)

/-- A symbolic link has the name that the path ends with. -/
def LinkAt (path : Path) (disk : Disk) : Prop :=
  ∃ place target, named path disk = .ok (place, .link target)

/-- **What is named and no link is reached**, unless the path asks for a directory by a slash at its
    end. -/
theorem reaches_of_named (h : named path disk = .ok (place, entry))
    (hlink : ∀ target, entry ≠ .link target) (hslash : endsWithSlash path = false) :
    disk.reaches path = true := by
  obtain ⟨parent, name, hresolve, hshort, rfl, hpeek⟩ := named_eq_ok_iff.mp h
  obtain ⟨start, hstart, hwalk, hlast⟩ := resolveParent_eq_ok_iff.mp hresolve
  obtain ⟨hnames, hdot, hdotDot⟩ := eq_dropLast_append_of_lastOf hlast.symm
  obtain ⟨hdirectory, left, hmiddle⟩ := walk_to_directory hwalk
  have hsteps : stepsOf path = (namesOf path).dropLast ++ [name] := by
    rw [stepsOf, hslash, if_neg Bool.false_ne_true, List.append_nil]
    exact hnames
  have hfound : disk.resolve path = .ok (parent ++ [name]) := by
    refine Step.result_bind_eq_ok_iff.mpr ⟨start, hstart, ?_⟩
    rw [hsteps, hmiddle, walk_of_entry hdirectory hdot hdotDot hshort hpeek hlink, walk]
  rw [reaches, find?, hfound]
  exact Option.isSome_iff_exists.mpr ⟨entry, hpeek⟩

/-- **What is named and not reached is a link.** -/
theorem link_of_named (h : named path disk = .ok (place, entry))
    (hreaches : ¬ disk.reaches path = true) (hslash : endsWithSlash path = false) :
    LinkAt path disk := by
  cases entry with
  | link target => exact ⟨place, target, h⟩
  | directory | file => exact absurd (reaches_of_named h nofun hslash) hreaches

/-- **Of what is not reached, only links are named.** -/
theorem exists_named_iff_linkAt (hreaches : ¬ disk.reaches path = true)
    (hslash : endsWithSlash path = false) :
    (∃ place entry, named path disk = .ok (place, entry)) ↔ LinkAt path disk := by
  constructor
  · rintro ⟨place, entry, hnamed⟩
    exact link_of_named hnamed hreaches hslash
  · rintro ⟨place, target, hnamed⟩
    exact ⟨place, _, hnamed⟩

end Named

/-! ## 2. Why a new file is refused -/

theorem walk_ne_alreadyExists (disk : Disk) (links : Nat) (place : Place) (names : List Name) :
    disk.walk links place names ≠ .error .alreadyExists := by
  fun_induction walk disk links place names with
  | case1 | case2 | case5 | case6 | case7 | case8 =>
    intro h
    cases h
  | case3 _ _ _ _ ih => exact ih
  | case4 _ _ _ _ _ ih => exact ih
  | case9 _ _ _ _ _ _ _ _ _ _ _ ih => exact ih
  | case10 _ _ _ _ _ _ _ _ _ _ _ ih => exact ih

theorem resolveParent_ne_alreadyExists (disk : Disk) (path : Path) :
    disk.resolveParent path ≠ .error .alreadyExists := by
  intro h
  rcases Step.result_bind_eq_error_iff.mp h with hstart | ⟨start, -, hrest⟩
  · unfold startOf at hstart
    split_ifs at hstart <;> cases hstart
  · rcases Step.result_bind_eq_error_iff.mp hrest with hwalk | ⟨parent, -, hfound⟩
    · exact walk_ne_alreadyExists disk _ _ _ hwalk
    · cases hfound

section Refusals

variable {path : Path} {name : Name} (hlast : lastOf (namesOf path) = .name name)

include hlast

/-- A place is refused as taken exactly if an entry has the name. -/
theorem freePlace_exists_iff (disk : Disk) :
    freePlace path disk = .error .alreadyExists ↔
      ∃ place entry, named path disk = .ok (place, entry) := by
  constructor
  · intro h
    rcases Step.result_bind_eq_error_iff.mp h with hresolve | ⟨⟨parent, last⟩, hresolve, hrest⟩
    · exact absurd hresolve (resolveParent_ne_alreadyExists disk path)
    · obtain ⟨start, -, -, rfl⟩ := resolveParent_eq_ok_iff.mp hresolve
      rw [hlast] at hresolve hrest
      simp only at hrest
      split_ifs at hrest with hlong htaken
      · cases hrest
      · obtain ⟨entry, hpeek⟩ := Option.isSome_iff_exists.mp htaken
        exact ⟨_, entry, named_eq_ok_iff.mpr ⟨parent, name, hresolve, hlong, rfl, hpeek⟩⟩
  · rintro ⟨place, entry, hnamed⟩
    obtain ⟨parent, found, hresolve, hshort, rfl, hpeek⟩ := named_eq_ok_iff.mp hnamed
    refine Step.result_bind_eq_error_iff.mpr (.inr ⟨_, hresolve, ?_⟩)
    simp [hshort, hpeek]

end Refusals

/-- **A file is refused as one that exists exactly if an entry has its name**, unless the medium says
    so of its own accord. -/
theorem createWith_exists_iff {path : Path} {name : Name} {disk : Disk}
    (hlast : lastOf (namesOf path) = .name name) (hslash : endsWithSlash path = false)
    (hmedium : ∀ outage, some outage ∈ disk.outages → outage.cause ≠ .alreadyExists)
    (size : Nat) (content : Bytes) :
    (∃ after, createWith size path content disk = .error .alreadyExists after) ↔
      ∃ place entry, named path disk = .ok (place, entry) := by
  rw [← freePlace_exists_iff hlast]
  constructor
  · rintro ⟨after, hfails⟩
    cases hcreate : createFile path disk with
    | error fault stopped =>
      have hwhole : createWith size path content disk = .error fault stopped :=
        Step.bind_of_error hcreate _
      rw [hwhole] at hfails
      cases hfails
      rcases createFile_refused hcreate with hfree | hends | ⟨outage, hmem, hcause⟩
      · exact hfree
      · rw [hslash] at hends
        cases hends
      · exact absurd hcause (hmedium outage hmem)
    | ok place created =>
      have hwhole : createWith size path content disk = _ := Step.bind_of_ok hcreate _
      rw [hwhole] at hfails
      obtain ⟨hfree, hcreated⟩ := createFile_eq_ok hcreate
      obtain ⟨-, hempty⟩ := onlyAt_createFile hcreate
      obtain ⟨outage, hmem, hcause⟩ := appendAll_refused (ne_nil_of_free hfree).1 hempty hfails
      rw [hcreated, outages_insert] at hmem
      exact absurd hcause (hmedium outage (List.mem_of_mem_tail hmem))
  · intro hfree
    exact ⟨disk, Step.bind_of_error (createFile_of_no_place hfree) _⟩

end Disk

/-- **A download whose digest is right is refused as one that exists exactly if an entry has the name
    of its target**, unless the medium says so of its own accord. -/
theorem Response.save_exists_iff {request : Request} {frame : Bytes} {start parsed client : Client}
    {response : Response} {target : Path} {name : Name}
    (hparse : parse request frame start = .ok response parsed) (hvalid : response.validHash = true)
    (htarget : request.target? = some target)
    (hlast : Disk.lastOf (Disk.namesOf target) = .name name)
    (hslash : Disk.endsWithSlash target = false)
    (hmedium : ∀ outage, some outage ∈ client.disk.outages → outage.cause ≠ .alreadyExists) :
    (∃ after, response.save client = .error (.disk .alreadyExists) after) ↔
      ∃ place entry, Disk.named target client.disk = .ok (place, entry) := by
  rw [save_of_valid (spelled_of_parse hparse) htarget hvalid client,
    ← Disk.createWith_exists_iff hlast hslash hmedium writeSize (response.payload.getD [])]
  cases Disk.createWith writeSize target (response.payload.getD []) client.disk with
  | ok done disk => simp
  | error fault disk => simp

/-! ## 3. The check and the write -/

namespace Operation

/-- The operation has passed its check on the disk of a client: it has just been built as a download
    from there, a request has just been made of it, or a request for it has just been written. -/
inductive Accepted (operation : Operation) (client : Client) : Prop
  | built {path : String} {directory : Path}
    (h : ofDownload client.disk path directory = .ok operation)
  | requested {session : Session} {request : Request} {after : Client}
    (h : session.request operation client = .ok request after)
  | sent {request : Request} {frame : Bytes} {after : Client}
    (hoperation : request.operation = operation) (h : request.toBytes client = .ok frame after)

theorem Accepted.check {operation : Operation} {client : Client} (h : operation.Accepted client) :
    operation.check client.disk = .ok () := by
  cases h with
  | built hbuilt => exact check_of_ofDownload hbuilt
  | requested hrequest =>
    obtain ⟨_, hcheck, -⟩ := ClientM.ask_bind_eq_ok_iff.mp hrequest
    exact hcheck
  | sent hoperation hsent =>
    obtain ⟨_, hcheck, -⟩ := ClientM.ask_bind_eq_ok_iff.mp hsent
    rw [← hoperation]
    exact hcheck

theorem not_reaches_of_check {disk : Disk} {path : String} {target : Path}
    (h : (get path target).check disk = .ok ()) : ¬ disk.reaches target = true := by
  intro hreaches
  rw [check, checkTarget, if_pos hreaches] at h
  cases h

/-- The target of a download is a name in a directory. -/
theorem target_of_ofDownload {disk : Disk} {path : String} {directory : Path}
    {operation : Operation} (h : ofDownload disk path directory = .ok operation) :
    ∃ name, Path.IsName name ∧ operation = get path (directory.join ⟨name⟩) := by
  obtain ⟨-, name, hname, -, hbuilt⟩ := ofDownload_eq_ok_iff.mp h
  exact ⟨name, Path.isName_of_fileName? hname, hbuilt⟩

/-- A download into the directory that the client works in. -/
theorem ofDownload_dot {disk : Disk} (path : String) {name : Name}
    (hhere : disk.peek disk.here = some .directory)
    (hname : (Path.ofString path).fileName? = some name)
    (hreaches : disk.reaches ((Path.mk Path.dot).join ⟨name⟩) = false) :
    ofDownload disk path ⟨Path.dot⟩ = .ok (get path ((Path.mk Path.dot).join ⟨name⟩)) := by
  have hdirectory : disk.isDirectory ⟨Path.dot⟩ = true := by
    rw [Disk.isDirectory, Disk.find?, Disk.resolve_dot hhere]
    exact beq_iff_eq.mpr hhere
  exact ofDownload_eq_ok_iff.mpr
    ⟨hdirectory, name, hname, fun hreached => Bool.false_ne_true (hreaches.symm.trans hreached), rfl⟩

/-- **A download that has been accepted finds its target free, and can be saved there, exactly if no
    link lies at the target.** The tree may be another one than it was built on, and is then the same
    until the download is saved. -/
theorem vacant_iff_not_link {earlier : Disk} {path : String} {directory : Path}
    {operation : Operation} {client : Client}
    (hbuilt : ofDownload earlier path directory = .ok operation)
    (haccepted : operation.Accepted client) :
    ∃ target, operation = get path target ∧
      (Disk.Vacant target client.disk ↔ ¬ Disk.LinkAt target client.disk) ∧
      ∀ {request : Request} {frame : Bytes} {start parsed later : Client} {response : Response},
        request.operation = operation →
        Response.parse request frame start = .ok response parsed → response.validHash = true →
        Disk.SameTree client.disk later.disk →
        (∀ outage, some outage ∈ later.disk.outages → outage.cause ≠ .alreadyExists) →
        ((∃ after, response.save later = .error (.disk .alreadyExists) after) ↔
          Disk.LinkAt target client.disk) := by
  obtain ⟨name, hname, rfl⟩ := target_of_ofDownload hbuilt
  have hreaches := not_reaches_of_check haccepted.check
  have hlast := Disk.lastOf_join hname directory
  have hslash := Disk.endsWithSlash_join hname directory
  have hlink := Disk.exists_named_iff_linkAt hreaches hslash
  refine ⟨_, rfl, ?_, ?_⟩
  · rw [← hlink]
    simp only [Disk.Vacant, not_exists, ne_eq]
  · intro request frame start parsed later response hoperation hparse hvalid hsame hmedium
    have htarget : request.target? = some (directory.join ⟨name⟩) := by
      rw [Request.target?, hoperation]
    rw [← hlink, Response.save_exists_iff hparse hvalid htarget hlast hslash hmedium]
    simp only [hsame.named_iff]

/-- A free name in the directory that the client works in. -/
theorem vacant_iff_not_link_free :
    ofDownload ⟨[], [], []⟩ "a" ⟨Path.dot⟩ = .ok (get "a" ⟨[0x2E, 0x2F, 0x61]⟩) ∧
      Accepted (get "a" ⟨[0x2E, 0x2F, 0x61]⟩) ⟨⟨[], [], []⟩, "", []⟩ ∧
      ∃ target, get "a" ⟨[0x2E, 0x2F, 0x61]⟩ = get "a" target ∧
        (Disk.Vacant target ⟨[], [], []⟩ ↔ ¬ Disk.LinkAt target ⟨[], [], []⟩) := by
  have hreaches : Disk.reaches ⟨[], [], []⟩ ⟨[0x2E, 0x2F, 0x61]⟩ = false := by
    have hsteps : Disk.stepsOf ⟨[0x2E, 0x2F, 0x61]⟩ = [Path.dot, [0x61]] := by decide +kernel
    have hwalk : Disk.walk ⟨[], [], []⟩ Disk.maxLinks [] [Path.dot, [0x61]] = .error .notFound := by
      rw [Disk.walk_dot rfl]
      exact Disk.walk_of_missing rfl (by decide) (by decide) (by decide) rfl
    exact Disk.not_reaches_of_walk rfl (hsteps ▸ hwalk)
  have hname : (Path.ofString "a").fileName? = some [0x61] := by decide +kernel
  have hbuilt := ofDownload_dot "a" rfl hname hreaches
  have haccepted : Accepted (get "a" ⟨[0x2E, 0x2F, 0x61]⟩) ⟨⟨[], [], []⟩, "", []⟩ := .built hbuilt
  obtain ⟨target, hget, hvacant, -⟩ := vacant_iff_not_link hbuilt haccepted
  exact ⟨hbuilt, haccepted, target, hget, hvacant⟩

/-- A link to nothing: the download is built, and its file is refused as one that exists. -/
theorem ofDownload_over_link :
    ofDownload ⟨[([[0x61]], .link ⟨[0x62]⟩)], [], []⟩ "a" ⟨Path.dot⟩ =
        .ok (get "a" ⟨[0x2E, 0x2F, 0x61]⟩) ∧
      Disk.named ⟨[0x2E, 0x2F, 0x61]⟩ ⟨[([[0x61]], .link ⟨[0x62]⟩)], [], []⟩ =
        .ok ([[0x61]], .link ⟨[0x62]⟩) ∧
      ∃ after, Disk.createFile ⟨[0x2E, 0x2F, 0x61]⟩ ⟨[([[0x61]], .link ⟨[0x62]⟩)], [], []⟩ =
        .error .alreadyExists after := by
  have hreaches : Disk.reaches ⟨[([[0x61]], .link ⟨[0x62]⟩)], [], []⟩ ⟨[0x2E, 0x2F, 0x61]⟩ =
      false := by
    have hsteps : Disk.stepsOf ⟨[0x2E, 0x2F, 0x61]⟩ = [Path.dot, [0x61]] := by decide +kernel
    have hlink : Disk.stepsOf ⟨[0x62]⟩ ++ [] = [[0x62]] := by decide +kernel
    have hwalk : Disk.walk ⟨[([[0x61]], .link ⟨[0x62]⟩)], [], []⟩ Disk.maxLinks []
        [Path.dot, [0x61]] = .error .notFound := by
      rw [Disk.walk_dot rfl, Disk.maxLinks,
        Disk.walk_of_link rfl (by decide) (by decide) (by decide) rfl (by decide), hlink]
      exact Disk.walk_of_missing rfl (by decide) (by decide) (by decide) rfl
    exact Disk.not_reaches_of_walk rfl (hsteps ▸ hwalk)
  have hname : (Path.ofString "a").fileName? = some [0x61] := by decide +kernel
  have hnamed : Disk.named ⟨[0x2E, 0x2F, 0x61]⟩ ⟨[([[0x61]], .link ⟨[0x62]⟩)], [], []⟩ =
      .ok ([[0x61]], .link ⟨[0x62]⟩) := by
    refine Disk.named_eq_ok_iff.mpr ⟨[], [0x61], ?_, by decide, rfl, rfl⟩
    refine Disk.resolveParent_eq_ok_iff.mpr ⟨[], rfl, ?_, by decide +kernel⟩
    rw [show (Disk.namesOf ⟨[0x2E, 0x2F, 0x61]⟩).dropLast ++ [Path.dot] = [Path.dot, Path.dot] by
      decide +kernel, Disk.walk_dot rfl, Disk.walk_dot rfl, Disk.walk]
  have hlast : Disk.lastOf (Disk.namesOf ⟨[0x2E, 0x2F, 0x61]⟩) = .name [0x61] := by decide +kernel
  have htaken := (Disk.freePlace_exists_iff hlast _).mpr ⟨_, _, hnamed⟩
  exact ⟨ofDownload_dot "a" rfl hname hreaches, hnamed, _, Disk.createFile_of_no_place htaken⟩

end Operation

end RemoteFiles
