import RemoteFiles.Proofs.Disk.Walk
import RemoteFiles.Response.Download

/-!
# New files

A new file is made where nothing is, and written piece by piece. Every write goes to its place alone
(`OnlyAt`), so whatever the medium does, the entries that were there before stay what they are
(`extends_createWith`). If the medium carries out the writes, the new file holds what was written
(`createWith_of_created`).
-/

namespace RemoteFiles

namespace Disk

/-! ## 1. Changes at one place -/

/-- The tree is the same; what the medium is about to do may be something else. -/
structure SameTree (before after : Disk) : Prop where
  entries : after.entries = before.entries
  here : after.here = before.here

theorem SameTree.refl (disk : Disk) : SameTree disk disk := ⟨rfl, rfl⟩

/-- Nothing has changed but at the place. -/
structure OnlyAt (place : Place) (before after : Disk) : Prop where
  here : after.here = before.here
  peek : ∀ p, p ≠ place → after.peek p = before.peek p

theorem OnlyAt.refl (place : Place) (disk : Disk) : OnlyAt place disk disk :=
  ⟨rfl, fun _ _ => rfl⟩

theorem OnlyAt.trans {place : Place} {first second third : Disk} (h : OnlyAt place first second)
    (h' : OnlyAt place second third) : OnlyAt place first third :=
  ⟨h'.here.trans h.here, fun p hp => (h'.peek p hp).trans (h.peek p hp)⟩

theorem SameTree.symm {before after : Disk} (h : SameTree before after) : SameTree after before :=
  ⟨h.entries.symm, h.here.symm⟩

theorem SameTree.extends {before after : Disk} (h : SameTree before after) :
    Extends before after :=
  ⟨h.here, fun hpeek => by rwa [peek, h.entries]⟩

/-- What changes only where nothing was grows. -/
theorem OnlyAt.extends {place : Place} {before after : Disk} (h : OnlyAt place before after)
    (hfree : before.peek place = none) : Extends before after where
  here := h.here
  peek {p entry} hpeek := by
    have hp : p ≠ place := by
      rintro rfl
      rw [hfree] at hpeek
      cases hpeek
    rw [h.peek p hp, hpeek]

@[simp] theorem here_insert (disk : Disk) (place : Place) (entry : Entry) :
    (disk.insert place entry).here = disk.here := by
  unfold insert
  split <;> rfl

@[simp] theorem outages_insert (disk : Disk) (place : Place) (entry : Entry) :
    (disk.insert place entry).outages = disk.outages := by
  unfold insert
  split <;> rfl

theorem onlyAt_insert (disk : Disk) {place : Place} (h : place ≠ []) (entry : Entry) :
    OnlyAt place disk (disk.insert place entry) :=
  ⟨here_insert disk place entry, fun p hp => by rw [peek_insert disk h, if_neg hp]⟩

/-! ## 2. Making a file -/

/-- What a disk is when the medium has done the next write. -/
def pastOutage (disk : Disk) : Disk := { disk with outages := disk.outages.tail }

theorem nextOutage_apply (disk : Disk) :
    nextOutage disk = .ok (disk.outages.headD none) disk.pastOutage := by
  obtain ⟨entries, here, outages⟩ := disk
  cases outages <;> rfl

theorem mem_of_next {disk : Disk} {outage : Outage} (h : disk.outages.headD none = some outage) :
    some outage ∈ disk.outages := by
  cases houtages : disk.outages with
  | nil =>
    rw [houtages] at h
    cases h
  | cons next rest =>
    rw [houtages] at h
    obtain rfl : next = some outage := h
    exact List.mem_cons_self

/-- Making a file, in one equation: the place must be free, the path must not end with a slash, and
    the medium must do its part. -/
theorem createFile_apply (path : Path) (disk : Disk) :
    createFile path disk =
      match freePlace path disk with
      | .error fault => .error fault disk
      | .ok place =>
        if endsWithSlash path then .error .isDirectory disk
        else
          match disk.outages.headD none with
          | some outage => .error outage.cause disk.pastOutage
          | none => .ok place (disk.pastOutage.insert place (.file [])) := by
  unfold createFile
  rw [Step.bind_apply, asks]
  cases freePlace path disk with
  | error fault => rfl
  | ok place =>
    simp only
    rw [Step.bind_apply, asks]
    simp only
    by_cases hslash : endsWithSlash path = true
    · rw [if_pos hslash, if_pos hslash]
      rfl
    · rw [if_neg hslash, if_neg hslash, Step.bind_of_ok (nextOutage_apply disk)]
      cases disk.outages.headD none <;> rfl

/-- **A file that is made is new and empty.** -/
theorem createFile_eq_ok {path : Path} {disk after : Disk} {place : Place}
    (h : createFile path disk = .ok place after) :
    freePlace path disk = .ok place ∧ after = disk.pastOutage.insert place (.file []) := by
  rw [createFile_apply] at h
  cases hfree : freePlace path disk with
  | error fault =>
    rw [hfree] at h
    cases h
  | ok found =>
    rw [hfree] at h
    simp only at h
    split at h
    · cases h
    · split at h
      · cases h
      · cases h
        exact ⟨rfl, rfl⟩

/-- **A file that is not made leaves the tree as it is.** -/
theorem createFile_eq_error {path : Path} {disk after : Disk} {fault : Fault}
    (h : createFile path disk = .error fault after) : SameTree disk after := by
  rw [createFile_apply] at h
  split at h
  · cases h
    exact SameTree.refl disk
  · split at h
    · cases h
      exact SameTree.refl disk
    · split at h
      · cases h
        exact ⟨rfl, rfl⟩
      · cases h

theorem createFile_of_no_place {path : Path} {disk : Disk} {fault : Fault}
    (h : freePlace path disk = .error fault) : createFile path disk = .error fault disk := by
  rw [createFile_apply, h]

/-- Why a file is not made: its place, a slash at the end, or the medium. -/
theorem createFile_refused {path : Path} {disk after : Disk} {fault : Fault}
    (h : createFile path disk = .error fault after) :
    freePlace path disk = .error fault ∨ endsWithSlash path = true ∨
      ∃ outage, some outage ∈ disk.outages ∧ outage.cause = fault := by
  rw [createFile_apply] at h
  cases hfree : freePlace path disk with
  | error refusal =>
    rw [hfree] at h
    cases h
    exact .inl rfl
  | ok place =>
    rw [hfree] at h
    simp only at h
    split at h
    · rename_i hslash
      exact .inr (.inl hslash)
    · split at h
      · rename_i outage houtage
        cases h
        exact .inr (.inr ⟨outage, mem_of_next houtage, rfl⟩)
      · cases h

/-- Where no place is free, no file is made. -/
theorem createFile_of_not_free {path : Path} {disk : Disk}
    (h : ∀ place, freePlace path disk ≠ .ok place) :
    ∃ fault after, createFile path disk = .error fault after := by
  cases hcreate : createFile path disk with
  | error fault after => exact ⟨fault, after, rfl⟩
  | ok place after => exact absurd (createFile_eq_ok hcreate).1 (h place)

/-! ## 3. Writing a file -/

section Writing

variable {disk : Disk} {place : Place} {content : Bytes}

/-- Adding to a file, in one equation. An outage lets a part of the bytes through. -/
theorem append_apply (hfile : disk.peek place = some (.file content)) (bytes : Bytes) :
    append place bytes disk =
      match disk.outages.headD none with
      | some outage => .error outage.cause
          (disk.pastOutage.insert place (.file (content ++ bytes.take outage.stored)))
      | none => .ok () (disk.pastOutage.insert place (.file (content ++ bytes))) := by
  have hpast : disk.pastOutage.peek place = some (.file content) := hfile
  unfold append
  simp only
  rw [Step.bind_of_ok (nextOutage_apply disk)]
  cases disk.outages.headD none with
  | none =>
    simp only [Step.modify_apply]
    rw [hpast]
  | some outage =>
    simp only
    rw [Step.bind_of_ok (Step.modify_apply _ _), hpast]
    rfl

/-- **Writing shows at its place only**, where the file grows by a beginning of what there is to
    write. -/
theorem onlyAt_appendAll (h : place ≠ []) (hfile : disk.peek place = some (.file content))
    (pieces : List Bytes) :
    OnlyAt place disk (Step.stateAfter (appendAll place pieces disk)) ∧
      ∃ written, written <+: pieces.flatten ∧
        (Step.stateAfter (appendAll place pieces disk)).peek place =
          some (.file (content ++ written)) := by
  induction pieces generalizing disk content with
  | nil => exact ⟨OnlyAt.refl place disk, [], List.nil_prefix, by rw [List.append_nil]; exact hfile⟩
  | cons piece later ih =>
    have hinsert (more : Bytes) :
        OnlyAt place disk (disk.pastOutage.insert place (.file more)) :=
      ⟨here_insert _ _ _, (onlyAt_insert disk.pastOutage h (.file more)).peek⟩
    have hpeek (more : Bytes) :
        (disk.pastOutage.insert place (.file more)).peek place = some (.file more) := by
      rw [peek_insert _ h, if_pos rfl]
    have hfirst := append_apply hfile piece
    cases houtage : disk.outages.headD none with
    | some outage =>
      rw [houtage] at hfirst
      rw [show appendAll place (piece :: later) disk = _ from Step.bind_of_error hfirst _]
      exact ⟨hinsert _, _, (List.take_prefix _ _).trans (List.prefix_append _ _), hpeek _⟩
    | none =>
      rw [houtage] at hfirst
      rw [show appendAll place (piece :: later) disk = _ from Step.bind_of_ok hfirst _]
      obtain ⟨honly, written, hprefix, hwritten⟩ := ih (hpeek _)
      refine ⟨(hinsert _).trans honly, piece ++ written, ?_, ?_⟩
      · exact (List.prefix_append_right_inj piece).mpr hprefix
      · rw [hwritten, List.append_assoc]

/-- **If the medium carries out the writes, the file holds what was written.** What it does with the
    writes after them makes no difference. -/
theorem appendAll_of_no_outages (h : place ≠ []) (hfile : disk.peek place = some (.file content))
    {pieces : List Bytes}
    (hwrites : ∀ outage ∈ disk.outages.take pieces.length, outage = none) :
    ∃ after, appendAll place pieces disk = .ok () after ∧
      after.peek place = some (.file (content ++ pieces.flatten)) := by
  induction pieces generalizing disk content with
  | nil => exact ⟨disk, rfl, by rw [List.flatten_nil, List.append_nil]; exact hfile⟩
  | cons piece later ih =>
    have hnext : disk.outages.headD none = none ∧
        ∀ outage ∈ disk.outages.tail.take later.length, outage = none := by
      cases houtages : disk.outages with
      | nil =>
        rw [List.tail_nil, List.take_nil]
        exact ⟨rfl, List.forall_mem_nil _⟩
      | cons next rest =>
        rw [houtages] at hwrites
        exact List.forall_mem_cons.mp hwrites
    have hfirst := append_apply hfile piece
    rw [hnext.1] at hfirst
    have hlater : ∀ outage ∈
        (disk.pastOutage.insert place (.file (content ++ piece))).outages.take later.length,
          outage = none := by
      rw [outages_insert]
      exact hnext.2
    obtain ⟨after, hrun, hwritten⟩ := ih (by rw [peek_insert _ h, if_pos rfl]) hlater
    refine ⟨after, Eq.trans (Step.bind_of_ok hfirst _) hrun, ?_⟩
    rw [hwritten, List.flatten_cons, List.append_assoc]

/-- A write fails for a reason of the medium. -/
theorem appendAll_refused {after : Disk} {fault : Fault} (h : place ≠ [])
    (hfile : disk.peek place = some (.file content)) {pieces : List Bytes}
    (hfails : appendAll place pieces disk = .error fault after) :
    ∃ outage, some outage ∈ disk.outages ∧ outage.cause = fault := by
  induction pieces generalizing disk content with
  | nil => cases hfails
  | cons piece later ih =>
    have hfirst := append_apply hfile piece
    cases houtage : disk.outages.headD none with
    | some outage =>
      rw [houtage] at hfirst
      rw [show appendAll place (piece :: later) disk = _ from Step.bind_of_error hfirst _] at hfails
      cases hfails
      exact ⟨outage, mem_of_next houtage, rfl⟩
    | none =>
      rw [houtage] at hfirst
      rw [show appendAll place (piece :: later) disk = _ from Step.bind_of_ok hfirst _] at hfails
      obtain ⟨outage, hmem, hcause⟩ := ih (by rw [peek_insert _ h, if_pos rfl]) hfails
      rw [outages_insert] at hmem
      exact ⟨outage, List.mem_of_mem_tail hmem, hcause⟩

end Writing

/-! ## 4. Making and writing -/

/-- A file with this content is new at the place, which is the one that the path names, and nothing
    else has changed. -/
structure Gains (before after : Disk) (path : Path) (content : Bytes) (place : Place) : Prop where
  named_before : freePlace path before = .ok place
  named_after : named path after = .ok (place, .file content)
  fresh : before.peek place = none
  here : after.here = before.here
  peek : ∀ p, after.peek p = if p = place then some (.file content) else before.peek p

theorem ne_nil_of_free {path : Path} {disk : Disk} {place : Place}
    (h : freePlace path disk = .ok place) : place ≠ [] ∧ disk.peek place = none := by
  obtain ⟨parent, name, -, -, rfl, hnone⟩ := freePlace_eq_ok_iff.mp h
  exact ⟨List.append_ne_nil_of_right_ne_nil _ (List.cons_ne_nil _ _), hnone⟩

/-- The file that has been made, before anything is written to it. -/
theorem onlyAt_createFile {path : Path} {disk created : Disk} {place : Place}
    (h : createFile path disk = .ok place created) :
    OnlyAt place disk created ∧ created.peek place = some (.file []) := by
  obtain ⟨hfree, rfl⟩ := createFile_eq_ok h
  obtain ⟨hplace, -⟩ := ne_nil_of_free hfree
  refine ⟨⟨here_insert _ _ _, (onlyAt_insert disk.pastOutage hplace (.file [])).peek⟩, ?_⟩
  rw [peek_insert _ hplace, if_pos rfl]

/-- **Whatever the medium does, the disk grows**, and a file that has been made is in the way. -/
theorem extends_createWith (size : Nat) (path : Path) (content : Bytes) (disk : Disk) :
    Extends disk (Step.stateAfter (createWith size path content disk)) ∧
      ∀ after, createWith size path content disk = .ok () after → Blocked path after := by
  cases hcreate : createFile path disk with
  | error fault after =>
    rw [show createWith size path content disk = _ from Step.bind_of_error hcreate _]
    exact ⟨(createFile_eq_error hcreate).extends, fun _ h => by cases h⟩
  | ok place created =>
    rw [show createWith size path content disk = _ from Step.bind_of_ok hcreate _]
    obtain ⟨hfree, -⟩ := createFile_eq_ok hcreate
    obtain ⟨hplace, hnone⟩ := ne_nil_of_free hfree
    obtain ⟨hmade, hempty⟩ := onlyAt_createFile hcreate
    obtain ⟨hwritten, written, -, hfile⟩ :=
      onlyAt_appendAll hplace hempty (Bytes.chunks size content)
    have hextends := (hmade.trans hwritten).extends hnone
    refine ⟨hextends, fun after h => ?_⟩
    rw [h] at hextends hfile
    obtain ⟨parent, name, hresolve, -, rfl, -⟩ := freePlace_eq_ok_iff.mp hfree
    exact ⟨parent, name, resolveParent_mono hextends hresolve, by
      rw [show after.peek (parent ++ [name]) = _ from hfile]
      rfl⟩

theorem gains_of_onlyAt {path : Path} {before after : Disk} {place : Place} {content : Bytes}
    (hfree : freePlace path before = .ok place) (honly : OnlyAt place before after)
    (hfile : after.peek place = some (.file content)) : Gains before after path content place := by
  obtain ⟨-, hnone⟩ := ne_nil_of_free hfree
  refine ⟨hfree, ?_, hnone, honly.here, ?_⟩
  · obtain ⟨parent, name, hresolve, hshort, rfl, -⟩ := freePlace_eq_ok_iff.mp hfree
    exact named_eq_ok_iff.mpr
      ⟨parent, name, resolveParent_mono (honly.extends hnone) hresolve, hshort, rfl, hfile⟩
  · intro p
    by_cases hp : p = place
    · rw [if_pos hp, hp, hfile]
    · rw [if_neg hp, honly.peek p hp]

/-- **A new file holds what was written**, if the writes to it are carried out. -/
theorem createWith_of_created {size : Nat} {path : Path} {disk created : Disk} {place : Place}
    {content : Bytes} (h : createFile path disk = .ok place created)
    (hwrites : ∀ outage ∈ disk.outages.tail.take (Bytes.chunks size content).length,
      outage = none) :
    ∃ after, createWith size path content disk = .ok () after ∧
      Gains disk after path content place := by
  obtain ⟨hfree, hcreated⟩ := createFile_eq_ok h
  obtain ⟨hplace, -⟩ := ne_nil_of_free hfree
  obtain ⟨hmade, hempty⟩ := onlyAt_createFile h
  have hleft : ∀ outage ∈ created.outages.take (Bytes.chunks size content).length,
      outage = none := by
    rw [hcreated, outages_insert]
    exact hwrites
  obtain ⟨after, hrun, hfile⟩ := appendAll_of_no_outages hplace hempty hleft
  obtain ⟨hwritten, -⟩ := onlyAt_appendAll hplace hempty (Bytes.chunks size content)
  rw [hrun] at hwritten
  rw [List.nil_append, Bytes.flatten_chunks] at hfile
  exact ⟨after, Eq.trans (Step.bind_of_ok h _) hrun,
    gains_of_onlyAt hfree (hmade.trans hwritten) hfile⟩

end Disk

end RemoteFiles
