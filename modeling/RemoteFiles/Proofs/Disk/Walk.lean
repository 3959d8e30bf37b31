import RemoteFiles.Disk.Change
import RemoteFiles.Proofs.Step

/-!
# Walks on a disk that grows

A walk only asks for entries that it finds, so it ends where it did when further entries are made
(`walk_mono`). And it does not know what comes behind the names it has walked (`walk_splits`), so a
path leads through the directory of its last name: whatever can be reached by a path lies under its
last name in that directory, or the path goes on from a link there (`blocked_of_reaches`).
-/

namespace RemoteFiles

namespace Disk

/-! ## 1. Growing -/

/-- All entries are still there, and nothing has moved. -/
structure Extends (before after : Disk) : Prop where
  here : after.here = before.here
  peek : ∀ {place : Place} {entry : Entry}, before.peek place = some entry →
    after.peek place = some entry

theorem Extends.refl (disk : Disk) : Extends disk disk := ⟨rfl, fun h => h⟩

theorem Extends.trans {first second third : Disk} (h : Extends first second)
    (h' : Extends second third) : Extends first third :=
  ⟨h'.here.trans h.here, fun hpeek => h'.peek (h.peek hpeek)⟩

/-! ## 2. One name of a walk -/

section Names

variable {disk : Disk} {links : Nat} {place : Place} {name : Name} {rest : List Name}

theorem walk_of_not_directory (h : disk.peek place ≠ some .directory) :
    disk.walk links place (name :: rest) = .error .notDirectory := by
  rw [walk, if_pos h]

variable (h : disk.peek place = some .directory)

include h

theorem walk_dot : disk.walk links place (Path.dot :: rest) = disk.walk links place rest := by
  rw [walk, if_neg (not_not_intro h), if_pos rfl]

theorem walk_dotDot :
    disk.walk links place (Path.dotDot :: rest) = disk.walk links place.dropLast rest := by
  rw [walk, if_neg (not_not_intro h), if_neg (by decide), if_pos rfl]

variable (hdot : ¬ name = Path.dot) (hdotDot : ¬ name = Path.dotDot)

include hdot hdotDot

theorem walk_of_long (hlong : maxName < name.length) :
    disk.walk links place (name :: rest) = .error .nameTooLong := by
  rw [walk, if_neg (not_not_intro h), if_neg hdot, if_neg hdotDot, if_pos hlong]

variable (hshort : ¬ maxName < name.length)

include hshort

theorem walk_of_missing (hpeek : disk.peek (place ++ [name]) = none) :
    disk.walk links place (name :: rest) = .error .notFound := by
  rw [walk, if_neg (not_not_intro h), if_neg hdot, if_neg hdotDot, if_neg hshort, hpeek]

theorem walk_of_entry {entry : Entry} (hpeek : disk.peek (place ++ [name]) = some entry)
    (hlink : ∀ target, entry ≠ .link target) :
    disk.walk links place (name :: rest) = disk.walk links (place ++ [name]) rest := by
  rw [walk, if_neg (not_not_intro h), if_neg hdot, if_neg hdotDot, if_neg hshort, hpeek]
  cases entry with
  | directory => rfl
  | file content => rfl
  | link target => exact absurd rfl (hlink target)

variable {target : Path} (hpeek : disk.peek (place ++ [name]) = some (.link target))

include hpeek

theorem walk_of_no_links : disk.walk 0 place (name :: rest) = .error .tooManyLinks := by
  rw [walk, if_neg (not_not_intro h), if_neg hdot, if_neg hdotDot, if_neg hshort, hpeek]

theorem walk_of_empty_link (htarget : target.bytes = []) :
    disk.walk (links + 1) place (name :: rest) = .error .notFound := by
  rw [walk, if_neg (not_not_intro h), if_neg hdot, if_neg hdotDot, if_neg hshort, hpeek]
  exact if_pos htarget

theorem walk_of_link (htarget : ¬ target.bytes = []) :
    disk.walk (links + 1) place (name :: rest) =
      disk.walk links (if target.isAbsolute then [] else place) (stepsOf target ++ rest) := by
  rw [walk, if_neg (not_not_intro h), if_neg hdot, if_neg hdotDot, if_neg hshort, hpeek]
  exact if_neg htarget

end Names

/-! ## 3. Whole walks -/

/-- **A walk ends where it did** when the disk grows. -/
theorem walk_mono {before after : Disk} (h : Extends before after) {links : Nat}
    {place final : Place} {names : List Name} (hwalk : before.walk links place names = .ok final) :
    after.walk links place names = .ok final := by
  fun_induction walk before links place names with
  | case1 =>
    rw [walk]
    exact hwalk
  | case2 => cases hwalk
  | case3 links place rest hdir ih =>
    rw [walk_dot (h.peek (Classical.not_not.mp hdir))]
    exact ih hwalk
  | case4 links place rest hdir _ ih =>
    rw [walk_dotDot (h.peek (Classical.not_not.mp hdir))]
    exact ih hwalk
  | case5 => cases hwalk
  | case6 => cases hwalk
  | case7 => cases hwalk
  | case8 => cases hwalk
  | case9 place name rest hdir hdot hdotDot hshort target hpeek links htarget ih =>
    rw [walk_of_link (h.peek (Classical.not_not.mp hdir)) hdot hdotDot hshort (h.peek hpeek)
      htarget]
    exact ih hwalk
  | case10 links place name rest hdir hdot hdotDot hshort entry hlink hpeek ih =>
    rw [walk_of_entry (h.peek (Classical.not_not.mp hdir)) hdot hdotDot hshort (h.peek hpeek) hlink]
    exact ih hwalk

/-- **What a walk does with some names does not depend on what comes behind them**: it gets
    somewhere, with some links left, or it fails. -/
theorem walk_splits (disk : Disk) (links : Nat) (place : Place) (names : List Name) :
    (∃ middle left, ∀ behind,
        disk.walk links place (names ++ behind) = disk.walk left middle behind) ∨
      ∃ fault, ∀ behind, disk.walk links place (names ++ behind) = .error fault := by
  fun_induction walk disk links place names with
  | case1 links place => exact .inl ⟨place, links, fun _ => rfl⟩
  | case2 links place name rest hdir =>
    exact .inr ⟨_, fun _ => walk_of_not_directory hdir⟩
  | case3 links place rest hdir ih =>
    simpa only [List.cons_append, walk_dot (Classical.not_not.mp hdir)] using ih
  | case4 links place rest hdir _ ih =>
    simpa only [List.cons_append, walk_dotDot (Classical.not_not.mp hdir)] using ih
  | case5 links place name rest hdir hdot hdotDot hlong =>
    exact .inr ⟨_, fun _ => walk_of_long (Classical.not_not.mp hdir) hdot hdotDot hlong⟩
  | case6 links place name rest hdir hdot hdotDot hshort hpeek =>
    exact .inr ⟨_, fun _ => walk_of_missing (Classical.not_not.mp hdir) hdot hdotDot hshort hpeek⟩
  | case7 place name rest hdir hdot hdotDot hshort target hpeek =>
    exact .inr ⟨_, fun _ =>
      walk_of_no_links (Classical.not_not.mp hdir) hdot hdotDot hshort hpeek⟩
  | case8 place name rest hdir hdot hdotDot hshort target hpeek links htarget =>
    exact .inr ⟨_, fun _ =>
      walk_of_empty_link (Classical.not_not.mp hdir) hdot hdotDot hshort hpeek htarget⟩
  | case9 place name rest hdir hdot hdotDot hshort target hpeek links htarget ih =>
    -- the names of the link come before those that are left
    have hlink (behind : List Name) :
        disk.walk (links + 1) place (name :: (rest ++ behind)) = disk.walk links _ _ :=
      walk_of_link (Classical.not_not.mp hdir) hdot hdotDot hshort hpeek htarget
    rcases ih with ⟨middle, left, hmiddle⟩ | ⟨fault, hfault⟩
    · refine .inl ⟨middle, left, fun behind => ?_⟩
      rw [List.cons_append, hlink, ← List.append_assoc]
      exact hmiddle behind
    · refine .inr ⟨fault, fun behind => ?_⟩
      rw [List.cons_append, hlink, ← List.append_assoc]
      exact hfault behind
  | case10 links place name rest hdir hdot hdotDot hshort entry hlink hpeek ih =>
    simpa only [List.cons_append,
      walk_of_entry (Classical.not_not.mp hdir) hdot hdotDot hshort hpeek hlink] using ih

/-- A dot stands for the directory that the client works in. -/
theorem resolve_dot {disk : Disk} (h : disk.peek disk.here = some .directory) :
    disk.resolve ⟨Path.dot⟩ = .ok disk.here := by
  have hsteps : stepsOf ⟨Path.dot⟩ = [Path.dot] := by decide +kernel
  refine Step.result_bind_eq_ok_iff.mpr ⟨disk.here, rfl, ?_⟩
  rw [hsteps, walk_dot h, walk]

/-! ## 4. What is in the way -/

/-- The directory and the last name of a path, as the walk finds them. -/
theorem resolveParent_eq_ok_iff {disk : Disk} {path : Path} {parent : Place} {last : Last} :
    disk.resolveParent path = .ok (parent, last) ↔
      ∃ start, disk.startOf path = .ok start ∧
        disk.walk maxLinks start ((namesOf path).dropLast ++ [Path.dot]) = .ok parent ∧
        last = lastOf (namesOf path) := by
  constructor
  · intro h
    obtain ⟨start, hstart, hrest⟩ := Step.result_bind_eq_ok_iff.mp h
    obtain ⟨found, hwalk, hfound⟩ := Step.result_bind_eq_ok_iff.mp hrest
    cases hfound
    exact ⟨start, hstart, hwalk, rfl⟩
  · rintro ⟨start, hstart, hwalk, rfl⟩
    exact Step.result_bind_eq_ok_iff.mpr ⟨start, hstart,
      Step.result_bind_eq_ok_iff.mpr ⟨parent, hwalk, rfl⟩⟩

theorem resolveParent_mono {before after : Disk} (h : Extends before after) {path : Path}
    {parent : Place} {last : Last} (hresolve : before.resolveParent path = .ok (parent, last)) :
    after.resolveParent path = .ok (parent, last) := by
  obtain ⟨start, hstart, hwalk, hlast⟩ := resolveParent_eq_ok_iff.mp hresolve
  refine resolveParent_eq_ok_iff.mpr ⟨start, ?_, walk_mono h hwalk, hlast⟩
  rw [startOf, h.here]
  exact hstart

theorem eq_dropLast_append_of_lastOf {names : List Name} {name : Name}
    (h : lastOf names = .name name) :
    names = names.dropLast ++ [name] ∧ ¬ name = Path.dot ∧ ¬ name = Path.dotDot := by
  unfold lastOf at h
  cases hlast : names.getLast? with
  | none =>
    rw [hlast] at h
    cases h
  | some found =>
    rw [hlast] at h
    simp only at h
    split at h
    · cases h
    · split at h
      · cases h
      · rename_i hdot hdotDot
        cases h
        obtain ⟨front, rfl⟩ := List.getLast?_eq_some_iff.mp hlast
        exact ⟨by rw [List.dropLast_concat], hdot, hdotDot⟩

/-- A place is free under the last name of a path, and nowhere else. -/
theorem freePlace_eq_ok_iff {path : Path} {disk : Disk} {place : Place} :
    freePlace path disk = .ok place ↔
      ∃ parent name, disk.resolveParent path = .ok (parent, .name name) ∧
        ¬ maxName < name.length ∧ place = parent ++ [name] ∧ disk.peek place = none := by
  constructor
  · intro h
    obtain ⟨⟨parent, last⟩, hresolve, hrest⟩ := Step.result_bind_eq_ok_iff.mp h
    cases last with
    | root => cases hrest
    | dot => cases hrest
    | dotDot => cases hrest
    | name name =>
      simp only at hrest
      split at hrest
      · cases hrest
      · rename_i hshort
        split at hrest
        · cases hrest
        · rename_i hfree
          cases hrest
          exact ⟨parent, name, hresolve, hshort, rfl, Option.not_isSome_iff_eq_none.mp hfree⟩
  · rintro ⟨parent, name, hresolve, hshort, rfl, hfree⟩
    refine Step.result_bind_eq_ok_iff.mpr ⟨_, hresolve, ?_⟩
    simp [hshort, hfree]

/-- An entry is named under the last name of a path, and nowhere else. -/
theorem named_eq_ok_iff {path : Path} {disk : Disk} {place : Place} {entry : Entry} :
    named path disk = .ok (place, entry) ↔
      ∃ parent name, disk.resolveParent path = .ok (parent, .name name) ∧
        ¬ maxName < name.length ∧ place = parent ++ [name] ∧ disk.peek place = some entry := by
  constructor
  · intro h
    obtain ⟨⟨parent, last⟩, hresolve, hrest⟩ := Step.result_bind_eq_ok_iff.mp h
    cases last with
    | root | dot | dotDot => cases hrest
    | name name =>
      simp only at hrest
      split at hrest
      · cases hrest
      · rename_i hshort
        split at hrest
        · rename_i found hpeek
          cases hrest
          exact ⟨parent, name, hresolve, hshort, rfl, hpeek⟩
        · cases hrest
  · rintro ⟨parent, name, hresolve, hshort, rfl, hpeek⟩
    refine Step.result_bind_eq_ok_iff.mpr ⟨_, hresolve, ?_⟩
    simp [hshort, hpeek]

theorem named_mono {before after : Disk} (h : Extends before after) {path : Path} {place : Place}
    {entry : Entry} (hnamed : named path before = .ok (place, entry)) :
    named path after = .ok (place, entry) := by
  obtain ⟨parent, name, hresolve, hshort, hplace, hpeek⟩ := named_eq_ok_iff.mp hnamed
  exact named_eq_ok_iff.mpr
    ⟨parent, name, resolveParent_mono h hresolve, hshort, hplace, h.peek hpeek⟩

/-- Something lies under the last name of the path, in the directory that the path leads to. -/
def Blocked (path : Path) (disk : Disk) : Prop :=
  ∃ parent name, disk.resolveParent path = .ok (parent, .name name) ∧
    (disk.peek (parent ++ [name])).isSome = true

/-- **What is in the way stays in the way** when the disk grows. -/
theorem Blocked.mono {before after : Disk} (h : Extends before after) {path : Path}
    (hblocked : Blocked path before) : Blocked path after := by
  obtain ⟨parent, name, hresolve, hsome⟩ := hblocked
  obtain ⟨entry, hpeek⟩ := Option.isSome_iff_exists.mp hsome
  exact ⟨parent, name, resolveParent_mono h hresolve, by rw [h.peek hpeek]; rfl⟩

theorem not_free_of_blocked {path : Path} {disk : Disk} (h : Blocked path disk) (place : Place) :
    freePlace path disk ≠ .ok place := by
  intro hfree
  obtain ⟨parent, name, hresolve, -, rfl, hnone⟩ := freePlace_eq_ok_iff.mp hfree
  obtain ⟨parent', name', hresolve', hsome⟩ := h
  rw [hresolve] at hresolve'
  cases hresolve'
  rw [hnone] at hsome
  cases hsome

/-- A walk that ends with a dot ends in a directory, and goes on from there with whatever else comes
    behind. -/
theorem walk_to_directory {disk : Disk} {links : Nat} {start parent : Place} {names : List Name}
    (h : disk.walk links start (names ++ [Path.dot]) = .ok parent) :
    disk.peek parent = some .directory ∧
      ∃ left, ∀ behind, disk.walk links start (names ++ behind) = disk.walk left parent behind := by
  rcases walk_splits disk links start names with ⟨middle, left, hmiddle⟩ | ⟨fault, hfault⟩
  · rw [hmiddle] at h
    by_cases hdirectory : disk.peek middle = some .directory
    · rw [walk_dot hdirectory, walk] at h
      cases h
      exact ⟨hdirectory, left, hmiddle⟩
    · rw [walk_of_not_directory hdirectory] at h
      cases h
  · rw [hfault] at h
    cases h

/-- **What can be reached by a path is in its way**: the walk comes by the directory of the last
    name, and looks that name up there. -/
theorem blocked_of_reaches {path : Path} {disk : Disk} {parent : Place} {name : Name}
    (hresolve : disk.resolveParent path = .ok (parent, .name name))
    (hshort : ¬ maxName < name.length) (hreaches : disk.reaches path = true) :
    (disk.peek (parent ++ [name])).isSome = true := by
  obtain ⟨start, hstart, hwalk, hlast⟩ := resolveParent_eq_ok_iff.mp hresolve
  obtain ⟨hnames, hdot, hdotDot⟩ := eq_dropLast_append_of_lastOf hlast.symm
  obtain ⟨final, hfinal⟩ : ∃ final, disk.walk maxLinks start (stepsOf path) = .ok final := by
    unfold reaches find? at hreaches
    cases hfound : disk.resolve path with
    | error fault =>
      rw [hfound] at hreaches
      cases hreaches
    | ok final =>
      obtain ⟨start', hstart', hwhole⟩ := Step.result_bind_eq_ok_iff.mp hfound
      rw [hstart] at hstart'
      cases hstart'
      exact ⟨final, hwhole⟩
  obtain ⟨hdirectory, left, hmiddle⟩ := walk_to_directory hwalk
  rw [stepsOf, hnames, List.append_assoc, hmiddle] at hfinal
  cases hpeek : disk.peek (parent ++ [name]) with
  | some entry => rfl
  | none =>
    rw [List.singleton_append, walk_of_missing hdirectory hdot hdotDot hshort hpeek] at hfinal
    cases hfinal

/-- What no walk gets to is not reached. -/
theorem not_reaches_of_walk {disk : Disk} {path : Path} {start : Place} {fault : Fault}
    (hstart : disk.startOf path = .ok start)
    (hwalk : disk.walk maxLinks start (stepsOf path) = .error fault) :
    disk.reaches path = false := by
  have hfails : disk.resolve path = .error fault :=
    Step.result_bind_eq_error_iff.mpr (.inr ⟨start, hstart, hwalk⟩)
  rw [reaches, find?, hfails]
  rfl

/-- Some entry is there: the path names one, or stands for one at the end of a link. -/
def Occupied (path : Path) (disk : Disk) : Prop :=
  (∃ entry, named path disk = .ok entry) ∨ disk.reaches path = true

/-- **No place is free where an entry is.** -/
theorem not_free_of_occupied {path : Path} {disk : Disk} (h : Occupied path disk) (place : Place) :
    freePlace path disk ≠ .ok place := by
  intro hfree
  obtain ⟨parent, name, hresolve, hshort, rfl, hnone⟩ := freePlace_eq_ok_iff.mp hfree
  rcases h with ⟨⟨place, entry⟩, hnamed⟩ | hreaches
  · obtain ⟨_, _, hresolve', -, rfl, hpeek⟩ := named_eq_ok_iff.mp hnamed
    rw [hresolve] at hresolve'
    cases hresolve'
    rw [hnone] at hpeek
    cases hpeek
  · have hsome := blocked_of_reaches hresolve hshort hreaches
    rw [hnone] at hsome
    cases hsome

end Disk

end RemoteFiles
