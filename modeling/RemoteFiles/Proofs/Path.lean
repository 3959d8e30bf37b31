import RemoteFiles.Disk.Walk
import RemoteFiles.Proofs.Text.Separator

/-!
# Names in a directory

The last name of a path is a name that a directory can hold, whatever else the path is made of
(`isName_of_fileName?`). A directory joined with such a name is walked as the directory is, and then
by that name (`Disk.namesOf_join`).
-/

namespace RemoteFiles

namespace Path

/-- A name that a directory can hold: it is one step, and it goes down. -/
structure IsName (name : Bytes) : Prop where
  ne_nil : name ≠ []
  noSlash : slash ∉ name
  ne_dot : name ≠ dot
  ne_dotDot : name ≠ dotDot

theorem stepOf_eq_name_iff {part name : Bytes} :
    stepOf part = some (.name name) ↔
      part = name ∧ name ≠ [] ∧ name ≠ dot ∧ name ≠ dotDot := by
  unfold stepOf
  constructor
  · intro h
    split_ifs at h with hsilent hparent
    · cases h
    · cases h
      exact ⟨rfl, fun hnil => hsilent (.inl hnil), fun hdot => hsilent (.inr hdot), hparent⟩
  · rintro ⟨rfl, hnil, hdot, hparent⟩
    rw [if_neg (not_or.mpr ⟨hnil, hdot⟩), if_neg hparent]

/-- **The last name of a path is a name that a directory can hold.** -/
theorem isName_of_fileName? {path : Path} {name : Bytes} (h : path.fileName? = some name) :
    IsName name := by
  unfold fileName? at h
  split at h
  · rename_i found hlast
    cases h
    rcases List.mem_append.mp (List.mem_of_getLast? hlast) with hlead | hpart
    · -- what a path leads with is no name
      split_ifs at hlead <;> simp at hlead
    · obtain ⟨part, hmem, hstep⟩ := List.mem_filterMap.mp hpart
      obtain ⟨rfl, hnil, hdot, hdotDot⟩ := stepOf_eq_name_iff.mp hstep
      exact ⟨hnil, not_mem_of_mem_splitOn hmem, hdot, hdotDot⟩
  · cases h

section Names

variable {name : Bytes} (h : IsName name)

include h

theorem IsName.not_isAbsolute : (⟨name⟩ : Path).isAbsolute = false := by
  cases name with
  | nil => rfl
  | cons first rest =>
    have hfirst : first ≠ slash := fun heq => h.noSlash (heq ▸ List.mem_cons_self)
    simpa [isAbsolute] using hfirst

/-- A directory joined with a name ends with the name. -/
theorem IsName.suffix_join (directory : Path) : name <:+ (directory.join ⟨name⟩).bytes := by
  unfold join
  rw [h.not_isAbsolute, if_neg Bool.false_ne_true]
  split
  · exact List.suffix_append _ _
  · exact (List.suffix_cons slash name).trans (List.suffix_append _ _)

end Names

end Path

namespace Disk

open RemoteFiles.Path

theorem namesOf_append_slash (front back : Bytes) :
    namesOf ⟨front ++ slash :: back⟩ = namesOf ⟨front⟩ ++ namesOf ⟨back⟩ := by
  rw [namesOf, parts, List.splitOn_append_cons_self, List.filter_append]
  rfl

section Names

variable {name : Bytes} (h : IsName name) (directory : Path)

include h

theorem namesOf_name : namesOf ⟨name⟩ = [name] := by
  rw [namesOf, parts, List.splitOn_eq_singleton h.noSlash]
  simp [h.ne_nil]

/-- **A directory joined with a name is walked as the directory, and then by the name.** -/
theorem namesOf_join : namesOf (directory.join ⟨name⟩) = namesOf directory ++ [name] := by
  obtain ⟨bytes⟩ := directory
  unfold join
  rw [h.not_isAbsolute, if_neg Bool.false_ne_true]
  split_ifs with hend
  · rcases hend with hnil | hslash
    · obtain rfl : bytes = [] := hnil
      exact namesOf_name h
    · obtain ⟨front, rfl⟩ := List.getLast?_eq_some_iff.mp hslash
      rw [List.append_assoc, List.singleton_append, namesOf_append_slash, namesOf_append_slash,
        namesOf_name h]
      exact congrArg (· ++ [name]) (List.append_nil _).symm
  · rw [namesOf_append_slash, namesOf_name h]

theorem lastOf_join : lastOf (namesOf (directory.join ⟨name⟩)) = .name name := by
  rw [namesOf_join h, lastOf, List.getLast?_concat]
  simp only
  rw [if_neg h.ne_dot, if_neg h.ne_dotDot]

theorem endsWithSlash_join : endsWithSlash (directory.join ⟨name⟩) = false := by
  obtain ⟨front, hbytes⟩ := h.suffix_join directory
  obtain ⟨before, last, rfl⟩ : ∃ before last, name = before ++ [last] :=
    ⟨_, _, (List.dropLast_concat_getLast h.ne_nil).symm⟩
  have hlast : last ≠ slash :=
    fun heq => h.noSlash (heq ▸ List.mem_append_right before List.mem_cons_self)
  rw [endsWithSlash, ← hbytes, ← List.append_assoc, List.getLast?_concat]
  simpa using hlast

end Names

end Disk

end RemoteFiles
