import RemoteFiles.Proofs.Disk.Change

/-!
# One entry more, one entry less

A directory is made where nothing is, and what is taken away is a file, a link, or a directory
with nothing in it. Each of the three changes touches one place or none.

A disk is `Rooted` if all its entries lie in directories, as those of a tree do. On such a disk a
new directory has nothing in it, and a disk that is rooted stays so.

* `makeDirectory_cases`, `removeFile_cases`, `removeDirectory_cases` -- what becomes of the tree;
* `Adds.children_eq_nil` -- a new directory is empty;
* `Adds.rooted`, `Loses.rooted` -- a tree stays a tree.
-/

namespace RemoteFiles

namespace Disk

/-! ## 1. Entries and their directories -/

/-- An entry is new at the place, and nothing else has changed. -/
structure Adds (before after : Disk) (place : Place) (entry : Entry) : Prop where
  fresh : before.peek place = none
  here : after.here = before.here
  peek : ∀ p, after.peek p = if p = place then some entry else before.peek p

/-- What was at the place is gone, and nothing else has changed. -/
structure Loses (before after : Disk) (place : Place) : Prop where
  here : after.here = before.here
  peek : ∀ p, after.peek p = if p = place then none else before.peek p

/-- Every entry lies in a directory. -/
def Rooted (disk : Disk) : Prop :=
  ∀ place entry, place ≠ [] → disk.peek place = some entry →
    disk.peek place.dropLast = some .directory

theorem mem_children_iff {disk : Disk} {place : Place} {name : Name} {entry : Entry} :
    (name, entry) ∈ disk.children place ↔ (place ++ [name], entry) ∈ disk.entries := by
  rw [children, List.mem_filterMap]
  constructor
  · rintro ⟨⟨p, found⟩, hmem, hchild⟩
    cases hlast : p.getLast? with
    | none =>
      simp only [hlast] at hchild
      cases hchild
    | some last =>
      simp only [hlast] at hchild
      split at hchild
      · rename_i hplace
        cases hchild
        obtain ⟨front, rfl⟩ := List.getLast?_eq_some_iff.mp hlast
        rw [List.dropLast_concat] at hplace
        rw [← hplace]
        exact hmem
      · cases hchild
  · intro hmem
    refine ⟨_, hmem, ?_⟩
    simp

theorem peek_of_mem {disk : Disk} {place : Place} {entry : Entry} (hplace : place ≠ [])
    (h : (place, entry) ∈ disk.entries) : ∃ found, disk.peek place = some found := by
  have hsome : (disk.entries.lookup place).isSome = true :=
    List.lookup_isSome_iff.mpr ⟨(place, entry), h, beq_self_eq_true place⟩
  rw [peek, if_neg hplace]
  exact Option.isSome_iff_exists.mp hsome

theorem mem_of_peek {disk : Disk} {place : Place} {entry : Entry} (hplace : place ≠ [])
    (h : disk.peek place = some entry) : (place, entry) ∈ disk.entries := by
  rw [peek, if_neg hplace] at h
  obtain ⟨front, back, hentries, -⟩ := List.lookup_eq_some_iff.mp h
  rw [hentries]
  exact List.mem_append_right front List.mem_cons_self

theorem concat_ne_nil (place : Place) (name : Name) : place ++ [name] ≠ [] :=
  List.append_ne_nil_of_right_ne_nil place (List.cons_ne_nil name [])

/-- The directory that a path leads to is one. -/
theorem directory_of_free {path : Path} {disk : Disk} {place : Place}
    (h : freePlace path disk = .ok place) : disk.peek place.dropLast = some .directory := by
  obtain ⟨parent, name, hresolve, -, rfl, -⟩ := freePlace_eq_ok_iff.mp h
  obtain ⟨start, -, hwalk, -⟩ := resolveParent_eq_ok_iff.mp hresolve
  obtain ⟨hdirectory, -⟩ := walk_to_directory hwalk
  rw [List.dropLast_concat]
  exact hdirectory

/-- What a path names lies at a place below the root. -/
theorem peek_of_named {path : Path} {disk : Disk} {place : Place} {entry : Entry}
    (h : named path disk = .ok (place, entry)) : place ≠ [] ∧ disk.peek place = some entry := by
  obtain ⟨parent, name, -, -, rfl, hpeek⟩ := named_eq_ok_iff.mp h
  exact ⟨concat_ne_nil parent name, hpeek⟩

/-! ## 2. One change -/

theorem adds_insert {disk : Disk} {place : Place} (hplace : place ≠ [])
    (hfree : disk.peek place = none) (entry : Entry) :
    Adds disk (disk.insert place entry) place entry :=
  ⟨hfree, here_insert disk place entry, peek_insert disk hplace entry⟩

theorem loses_erase {disk : Disk} {place : Place} (hplace : place ≠ []) :
    Loses disk (disk.erase place) place :=
  ⟨rfl, peek_erase disk hplace⟩

theorem asks_of_ok {α : Type} {question : Disk → Except Fault α} {disk : Disk} {a : α}
    (h : question disk = .ok a) : asks question disk = .ok a disk := by
  rw [asks, h]

theorem asks_of_error {α : Type} {question : Disk → Except Fault α} {disk : Disk} {fault : Fault}
    (h : question disk = .error fault) : asks question disk = .error fault disk := by
  rw [asks, h]

/-- A change that is refused leaves the disk as it is. -/
theorem stateAfter_of_refused {α : Type} {x : Change α} {disk : Disk} {fault : Fault}
    (h : x disk = .error fault disk) : Step.stateAfter (x disk) = disk := by
  rw [h]
  rfl

/-- **A directory is made where nothing is**, or the tree stays as it is. -/
theorem makeDirectory_cases (path : Path) (disk : Disk) :
    Step.stateAfter (makeDirectory path disk) = disk ∨
      ∃ place, freePlace path disk = .ok place ∧
        Adds disk (Step.stateAfter (makeDirectory path disk)) place .directory := by
  cases hfree : freePlace path disk with
  | error fault => exact .inl (stateAfter_of_refused (Step.bind_of_error (asks_of_error hfree) _))
  | ok place =>
    have hmade : makeDirectory path disk = .ok () (disk.insert place .directory) :=
      Step.bind_of_ok (asks_of_ok hfree) _
    obtain ⟨hplace, hnone⟩ := ne_nil_of_free hfree
    rw [hmade]
    exact .inr ⟨place, rfl, adds_insert hplace hnone .directory⟩

/-- **A file or a link is taken away**, the one that the path names, or the tree stays as it is. -/
theorem removeFile_cases (path : Path) (disk : Disk) :
    Step.stateAfter (removeFile path disk) = disk ∨
      ∃ place entry, named path disk = .ok (place, entry) ∧ entry ≠ .directory ∧
        Loses disk (Step.stateAfter (removeFile path disk)) place := by
  cases hnamed : named path disk with
  | error fault => exact .inl (stateAfter_of_refused (Step.bind_of_error (asks_of_error hnamed) _))
  | ok found =>
    obtain ⟨place, entry⟩ := found
    obtain ⟨hplace, -⟩ := peek_of_named hnamed
    cases entry with
    | directory =>
      have hrefused : removeFile path disk = .error .isDirectory disk :=
        Step.bind_of_ok (asks_of_ok hnamed) _
      exact .inl (stateAfter_of_refused hrefused)
    | file | link =>
      have hremoved : removeFile path disk = .ok () (disk.erase place) :=
        Step.bind_of_ok (asks_of_ok hnamed) _
      rw [hremoved]
      exact .inr ⟨place, _, rfl, nofun, loses_erase hplace⟩

/-- **A directory with nothing in it is taken away**, or the tree stays as it is. -/
theorem removeDirectory_cases (path : Path) (disk : Disk) :
    Step.stateAfter (removeDirectory path disk) = disk ∨
      ∃ place, named path disk = .ok (place, .directory) ∧ disk.children place = [] ∧
        Loses disk (Step.stateAfter (removeDirectory path disk)) place := by
  cases hnamed : named path disk with
  | error fault => exact .inl (stateAfter_of_refused (Step.bind_of_error (asks_of_error hnamed) _))
  | ok found =>
    obtain ⟨place, entry⟩ := found
    obtain ⟨hplace, -⟩ := peek_of_named hnamed
    cases entry with
    | file | link =>
      have hrefused : removeDirectory path disk = .error .notDirectory disk :=
        Step.bind_of_ok (asks_of_ok hnamed) _
      exact .inl (stateAfter_of_refused hrefused)
    | directory =>
      have hasked : removeDirectory path disk = _ := Step.bind_of_ok (asks_of_ok hnamed) _
      by_cases hfull : (disk.children place != []) = true
      · have hrefused : removeDirectory path disk = .error .notEmpty disk :=
          hasked.trans (congrFun (if_pos hfull) disk)
        exact .inl (stateAfter_of_refused hrefused)
      · have hremoved : removeDirectory path disk = .ok () (disk.erase place) :=
          hasked.trans (congrFun (if_neg hfull) disk)
        have hempty : disk.children place = [] := by simpa using hfull
        rw [hremoved]
        exact .inr ⟨place, rfl, hempty, loses_erase hplace⟩

/-! ## 3. Trees stay trees -/

/-- **A new directory has nothing in it.** -/
theorem Adds.children_eq_nil {before after : Disk} {place : Place} {entry : Entry}
    (h : Adds before after place entry) (hrooted : before.Rooted) : after.children place = [] := by
  refine List.eq_nil_iff_forall_not_mem.mpr ?_
  rintro ⟨name, child⟩ hmem
  obtain ⟨found, hfound⟩ := peek_of_mem (concat_ne_nil place name) (mem_children_iff.mp hmem)
  have hother : place ++ [name] ≠ place := by simp
  rw [h.peek, if_neg hother] at hfound
  have hdirectory := hrooted _ _ (concat_ne_nil place name) hfound
  rw [List.dropLast_concat, h.fresh] at hdirectory
  cases hdirectory

/-- **A tree stays a tree** when an entry is made in a directory. -/
theorem Adds.rooted {before after : Disk} {place : Place} {entry : Entry}
    (h : Adds before after place entry) (hparent : before.peek place.dropLast = some .directory)
    (hrooted : before.Rooted) : after.Rooted := by
  intro p found hp hfound
  have hbefore : before.peek p.dropLast = some .directory := by
    rw [h.peek] at hfound
    by_cases hplace : p = place
    · rw [hplace]
      exact hparent
    · rw [if_neg hplace] at hfound
      exact hrooted p found hp hfound
  -- nothing was at the place, so it is not a directory that was there before
  have hother : p.dropLast ≠ place := by
    intro hplace
    rw [hplace, h.fresh] at hbefore
    cases hbefore
  rw [h.peek, if_neg hother, hbefore]

/-- **A tree stays a tree** when an entry goes that has nothing in it. -/
theorem Loses.rooted {before after : Disk} {place : Place} {entry : Entry}
    (h : Loses before after place) (hentry : before.peek place = some entry)
    (hempty : entry = .directory → before.children place = []) (hrooted : before.Rooted) :
    after.Rooted := by
  intro p found hp hfound
  rw [h.peek] at hfound
  by_cases hplace : p = place
  · rw [if_pos hplace] at hfound
    cases hfound
  rw [if_neg hplace] at hfound
  have hdirectory := hrooted p found hp hfound
  have hother : p.dropLast ≠ place := by
    intro hparent
    rw [hparent, hentry] at hdirectory
    cases hdirectory
    obtain ⟨front, name, rfl⟩ : ∃ front name, p = front ++ [name] :=
      ⟨_, _, (List.dropLast_concat_getLast hp).symm⟩
    rw [List.dropLast_concat] at hparent
    rw [hparent] at hfound
    have hchild := mem_children_iff.mpr (mem_of_peek (concat_ne_nil place name) hfound)
    rw [hempty rfl] at hchild
    cases hchild
  rw [h.peek, if_neg hother, hdirectory]

end Disk

end RemoteFiles
