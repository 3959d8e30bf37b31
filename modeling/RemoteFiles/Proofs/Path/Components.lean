import RemoteFiles.Proofs.Path

/-!
# The components of joined and shortened paths

A path is spelled by its lead and the parts behind it, and many spellings have the same components.
A name that is joined to a directory is one component more, however the directory is spelled. The
parent of a path is one component less, however many silent parts stand before and behind the last
one.

* `LeadsWith` -- a lead and parts that are read back as such when they stand behind each other;
* `components_join` -- **a directory joined with a name has the name as its last component**;
* `components_of_parent?` -- **the parent has all components but the last**;
* `parent?_join` -- the parent of what has been joined has the components of the directory.
-/

namespace RemoteFiles

namespace Path

/-! ## 1. Leads and parts -/

/-- The path behind its lead. -/
def body (path : Path) : Bytes := path.bytes.drop path.lead.length

/-- The parts may follow the lead: they do not run into it, and do not look like one. The lead then
    stands for `steps`. -/
inductive LeadsWith : Bytes → List Component → List Bytes → Prop
  | root {parts : List Bytes} : LeadsWith [slash] [.root] parts
  | current {parts : List Bytes} (h : parts.head? = some []) : LeadsWith dot [.current] parts
  | nothing {parts : List Bytes} (hdot : parts.head? ≠ some dot)
    (hempty : parts.head? = some [] → parts = [[]]) : LeadsWith [] [] parts

/-- Whatever may follow a lead may also be cut short. -/
theorem LeadsWith.of_prefix {lead : Bytes} {steps : List Component} {parts kept : List Bytes}
    (h : LeadsWith lead steps parts) (hkept : kept <+: parts) (hne : kept ≠ []) :
    LeadsWith lead steps kept := by
  obtain ⟨cut, rfl⟩ := hkept
  obtain ⟨part, kept, rfl⟩ := List.exists_cons_of_ne_nil hne
  cases h with
  | root => exact .root
  | current h => exact .current h
  | nothing hdot hempty =>
    refine .nothing hdot fun h => ?_
    have hsingle := hempty h
    rw [List.cons_append, List.cons.injEq, List.append_eq_nil_iff] at hsingle
    rw [hsingle.1, hsingle.2.1]

theorem LeadsWith.of_nil {lead : Bytes} {steps : List Component} {parts : List Bytes}
    (h : LeadsWith lead steps parts) : LeadsWith lead steps [[]] := by
  cases h with
  | root => exact .root
  | current => exact .current rfl
  | nothing => exact .nothing (by decide) fun _ => rfl

/-- What a path leads with is no name. -/
theorem LeadsWith.getLast?_ne_name {lead : Bytes} {steps : List Component} {parts : List Bytes}
    (h : LeadsWith lead steps parts) (name : Bytes) : steps.getLast? ≠ some (.name name) := by
  cases h <;> exact nofun

theorem isAbsolute_iff {path : Path} :
    path.isAbsolute = true ↔ ∃ rest, path.bytes = slash :: rest := by
  rw [isAbsolute, beq_iff_eq, List.head?_eq_some_iff]

/-- **A lead and parts are read back** from the bytes that they spell. -/
theorem LeadsWith.components_eq {lead : Bytes} {steps : List Component} {parts : List Bytes}
    (h : LeadsWith lead steps parts) (hne : parts ≠ []) (hslash : ∀ part ∈ parts, slash ∉ part) :
    (⟨lead ++ List.intercalate [slash] parts⟩ : Path).components =
      steps ++ parts.filterMap stepOf := by
  have hparts := List.splitOn_intercalate slash hslash hne
  cases h with
  | root =>
    have hcut : Path.parts ⟨[slash] ++ List.intercalate [slash] parts⟩ = [] :: parts := by
      rw [Path.parts, List.singleton_append, List.splitOn_cons_eq_if_modifyHead,
        if_pos (beq_self_eq_true slash), hparts]
    have habsolute : (⟨[slash] ++ List.intercalate [slash] parts⟩ : Path).isAbsolute = true :=
      isAbsolute_iff.mpr ⟨_, rfl⟩
    rw [components, hcut, if_pos habsolute]
    rfl
  | current hhead =>
    obtain ⟨parts, rfl⟩ := List.head?_eq_some_iff.mp hhead
    have hcut : Path.parts ⟨dot ++ List.intercalate [slash] ([] :: parts)⟩ = dot :: parts := by
      cases parts with
      | nil => rfl
      | cons part parts =>
        have hlater := List.splitOn_intercalate slash
          (fun other hmem => hslash other (List.mem_cons_of_mem [] hmem))
          (List.cons_ne_nil part parts)
        rw [Path.parts, List.intercalate_cons_cons, List.nil_append, List.singleton_append,
          List.splitOn_append_cons_self_of_not_mem (by decide), hlater]
    have hrelative : ¬ (⟨dot ++ List.intercalate [slash] ([] :: parts)⟩ : Path).isAbsolute = true :=
      Bool.false_ne_true
    have hstart : (⟨dot ++ List.intercalate [slash] ([] :: parts)⟩ : Path).startsAtDot = true := by
      rw [startsAtDot, hcut]
      rfl
    rw [components, hcut, if_neg hrelative, if_pos hstart]
    rfl
  | nothing hdot hempty =>
    have hcut : Path.parts ⟨[] ++ List.intercalate [slash] parts⟩ = parts := hparts
    have hrelative : ¬ (⟨[] ++ List.intercalate [slash] parts⟩ : Path).isAbsolute = true := by
      intro habsolute
      -- the first part would be empty, and then it would be the only one
      obtain ⟨rest, hbytes⟩ := isAbsolute_iff.mp habsolute
      have hbytes : List.intercalate [slash] parts = slash :: rest := hbytes
      rw [hbytes, List.splitOn_cons_eq_if_modifyHead, if_pos (beq_self_eq_true slash)] at hparts
      rw [hempty (by rw [← hparts]; rfl)] at hbytes
      cases hbytes
    have hstart : ¬ (⟨[] ++ List.intercalate [slash] parts⟩ : Path).startsAtDot = true := by
      rw [startsAtDot, hcut, beq_iff_eq]
      exact hdot
    rw [components, hcut, if_neg hrelative, if_neg hstart]

/-- **Every path is a lead and the parts of its body.** -/
theorem exists_leadsWith (path : Path) :
    ∃ steps, LeadsWith path.lead steps (path.body.splitOn slash) ∧
      path.components = steps ++ (path.body.splitOn slash).filterMap stepOf := by
  have hbuilt : ∀ {steps}, LeadsWith path.lead steps (path.body.splitOn slash) →
      path.bytes = path.lead ++ path.body →
        path.components = steps ++ (path.body.splitOn slash).filterMap stepOf := by
    intro steps hleads hbytes
    have hread := hleads.components_eq (List.splitOn_ne_nil slash path.body)
      fun part hmem => not_mem_of_mem_splitOn hmem
    rwa [List.intercalate_splitOn, ← hbytes] at hread
  by_cases habsolute : path.isAbsolute = true
  · obtain ⟨rest, hbytes⟩ := isAbsolute_iff.mp habsolute
    have hlead : path.lead = [slash] := by rw [lead, if_pos habsolute]
    have hleads : LeadsWith path.lead [.root] (path.body.splitOn slash) := hlead ▸ .root
    exact ⟨_, hleads, hbuilt hleads (by rw [body, hlead, hbytes]; rfl)⟩
  by_cases hstart : path.startsAtDot = true
  · obtain ⟨later, hparts⟩ := List.head?_eq_some_iff.mp (beq_iff_eq.mp hstart)
    have hlead : path.lead = dot := by rw [lead, if_neg habsolute, if_pos hstart]
    have hwhole : path.bytes = List.intercalate [slash] (dot :: later) := by
      rw [← hparts, parts, List.intercalate_splitOn]
    have hbytes : path.bytes = path.lead ++ path.body := by
      rw [body, hlead, hwhole]
      cases later <;> rfl
    have hhead : (path.body.splitOn slash).head? = some [] := by
      rw [body, hlead, hwhole]
      cases later with
      | nil => rfl
      | cons part later =>
        rw [List.intercalate_cons_cons, List.append_assoc, List.drop_left, List.singleton_append,
          List.splitOn_cons_eq_if_modifyHead, if_pos (beq_self_eq_true slash)]
        rfl
    have hleads : LeadsWith path.lead [.current] (path.body.splitOn slash) :=
      hlead ▸ .current hhead
    exact ⟨_, hleads, hbuilt hleads hbytes⟩
  · have hlead : path.lead = [] := by rw [lead, if_neg habsolute, if_neg hstart]
    have hbody : path.body = path.bytes := by rw [body, hlead]; rfl
    have hleads : LeadsWith path.lead [] (path.body.splitOn slash) := by
      rw [hlead, hbody]
      refine .nothing (fun hdot => hstart (beq_iff_eq.mpr hdot)) fun hhead => ?_
      obtain ⟨later, hparts⟩ := List.head?_eq_some_iff.mp hhead
      cases later with
      | nil => exact hparts
      | cons part later =>
        -- an empty part with one behind it is a slash at the front
        refine absurd (isAbsolute_iff.mpr ⟨List.intercalate [slash] (part :: later), ?_⟩) habsolute
        have hwhole : path.bytes = List.intercalate [slash] ([] :: part :: later) := by
          rw [← hparts, List.intercalate_splitOn]
        rw [hwhole, List.intercalate_cons_cons]
        rfl
    exact ⟨_, hleads, hbuilt hleads (by rw [hlead, hbody]; rfl)⟩

/-! ## 2. Joining a name -/

theorem parts_append_slash (front back : Bytes) :
    parts ⟨front ++ slash :: back⟩ = parts ⟨front⟩ ++ parts ⟨back⟩ :=
  List.splitOn_append_cons_self front back

theorem parts_ne_nil (path : Path) : path.parts ≠ [] := List.splitOn_ne_nil slash path.bytes

/-- What is behind a slash adds its steps, whatever the front is led by. -/
theorem components_append_slash (front back : Bytes) :
    components ⟨front ++ slash :: back⟩ =
      components ⟨front ++ [slash]⟩ ++ (parts ⟨back⟩).filterMap stepOf := by
  have habsolute : isAbsolute ⟨front ++ slash :: back⟩ = isAbsolute ⟨front ++ [slash]⟩ := by
    cases front <;> rfl
  have hstart : startsAtDot ⟨front ++ slash :: back⟩ = startsAtDot ⟨front ++ [slash]⟩ := by
    rw [startsAtDot, startsAtDot, parts_append_slash, parts_append_slash,
      List.head?_append_of_ne_nil _ (parts_ne_nil _),
      List.head?_append_of_ne_nil _ (parts_ne_nil _)]
  have hnone : (parts ⟨[]⟩).filterMap stepOf = [] := rfl
  rw [components, components, habsolute, hstart, parts_append_slash, parts_append_slash,
    List.filterMap_append, List.filterMap_append, hnone, List.append_nil, List.append_assoc]

/-- A slash at the end says nothing, unless it is the root. -/
theorem components_concat_slash {front : Bytes} (h : front ≠ []) :
    components ⟨front ++ [slash]⟩ = components ⟨front⟩ := by
  have habsolute : isAbsolute ⟨front ++ [slash]⟩ = isAbsolute ⟨front⟩ := by
    obtain ⟨first, front, rfl⟩ := List.exists_cons_of_ne_nil h
    rfl
  have hstart : startsAtDot ⟨front ++ [slash]⟩ = startsAtDot ⟨front⟩ := by
    rw [startsAtDot, startsAtDot, parts_append_slash,
      List.head?_append_of_ne_nil _ (parts_ne_nil _)]
  have hnone : (parts ⟨[]⟩).filterMap stepOf = [] := rfl
  rw [components, components, habsolute, hstart, parts_append_slash, List.filterMap_append, hnone,
    List.append_nil]

section Names

variable {name : Bytes} (h : IsName name)

include h

theorem IsName.filterMap_parts : (parts ⟨name⟩).filterMap stepOf = [.name name] := by
  have hstep := stepOf_eq_name_iff.mpr ⟨rfl, h.ne_nil, h.ne_dot, h.ne_dotDot⟩
  rw [parts, List.splitOn_eq_singleton h.noSlash, List.filterMap_cons_some hstep,
    List.filterMap_nil]

theorem IsName.components_eq : components ⟨name⟩ = [.name name] := by
  have hstart : ¬ startsAtDot ⟨name⟩ = true := by
    rw [startsAtDot, parts, List.splitOn_eq_singleton h.noSlash, List.head?_cons, beq_iff_eq,
      Option.some.injEq]
    exact h.ne_dot
  rw [components, h.not_isAbsolute, if_neg Bool.false_ne_true, if_neg hstart, h.filterMap_parts]
  rfl

/-- **A directory joined with a name has the name as its last component**, and is otherwise the
    directory. -/
theorem components_join (directory : Path) :
    (directory.join ⟨name⟩).components = directory.components ++ [.name name] := by
  obtain ⟨bytes⟩ := directory
  rw [join, h.not_isAbsolute, if_neg Bool.false_ne_true]
  split_ifs with hend
  · rcases hend with hnil | hslash
    · obtain rfl : bytes = [] := hnil
      exact h.components_eq
    · obtain ⟨front, rfl⟩ := List.getLast?_eq_some_iff.mp hslash
      show components ⟨front ++ [slash] ++ name⟩ = _
      rw [List.append_assoc, List.singleton_append, components_append_slash, h.filterMap_parts]
  · have hne : bytes ≠ [] := fun hnil => hend (.inl hnil)
    rw [components_append_slash, components_concat_slash hne, h.filterMap_parts]

end Names

theorem fileName?_eq_some_iff {path : Path} {name : Bytes} :
    path.fileName? = some name ↔ path.components.getLast? = some (.name name) := by
  unfold fileName?
  split
  · rename_i found hlast
    rw [hlast, Option.some.injEq, Option.some.injEq, Component.name.injEq]
  · rename_i hother
    exact ⟨nofun, fun hlast => absurd hlast (hother name)⟩

theorem fileName?_eq_none_iff {path : Path} :
    path.fileName? = none ↔ ∀ name, path.components.getLast? ≠ some (.name name) := by
  rw [Option.eq_none_iff_forall_ne_some]
  exact forall_congr' fun name => not_congr fileName?_eq_some_iff

/-! ## 3. Taking the last component off -/

theorem dropSilent_suffix (parts : List Bytes) : dropSilent parts <:+ parts :=
  List.dropWhile_suffix _

theorem filterMap_dropSilent (parts : List Bytes) :
    (dropSilent parts).filterMap stepOf = parts.filterMap stepOf := by
  induction parts with
  | nil => rfl
  | cons part parts ih =>
    rw [dropSilent, List.dropWhile_cons]
    split_ifs with hsilent
    · rw [List.filterMap_cons_none (Option.isNone_iff_eq_none.mp hsilent)]
      exact ih
    · rfl

/-- What is left when the silent parts are gone starts with a step. -/
theorem exists_stepOf_of_dropSilent {parts before : List Bytes} {last : Bytes}
    (h : dropSilent parts = last :: before) : ∃ step, stepOf last = some step := by
  have hhead := List.head?_dropWhile_not (fun part => (stepOf part).isNone) parts
  rw [show parts.dropWhile _ = last :: before from h] at hhead
  exact Option.ne_none_iff_exists'.mp fun hnone => by simp [hnone] at hhead

section Parent

variable {path : Path}

theorem parent?_of_cons {last : Bytes} {before : List Bytes}
    (h : dropSilent (path.body.splitOn slash).reverse = last :: before) :
    path.parent? =
      some ⟨path.lead ++ List.intercalate [slash] (dropSilent before).reverse⟩ := by
  rw [body] at h
  simp only [parent?, h]

theorem parent?_of_nil (h : dropSilent (path.body.splitOn slash).reverse = []) :
    path.parent? = if path.lead = dot then some ⟨[]⟩ else none := by
  rw [body] at h
  simp only [parent?, h]

/-- The steps of the parts that are not silent, last to first. -/
theorem filterMap_dropSilent_reverse (parts : List Bytes) :
    (dropSilent parts.reverse).filterMap stepOf = (parts.filterMap stepOf).reverse := by
  rw [filterMap_dropSilent, List.filterMap_reverse]

/-- **The parent has all components but the last.** -/
theorem components_of_parent? {parent : Path} (h : path.parent? = some parent) :
    parent.components = path.components.dropLast := by
  obtain ⟨steps, hleads, hcomponents⟩ := path.exists_leadsWith
  have hsteps := filterMap_dropSilent_reverse (path.body.splitOn slash)
  cases hbody : dropSilent (path.body.splitOn slash).reverse with
  | nil =>
    rw [parent?_of_nil hbody] at h
    split_ifs at h with hlead
    cases h
    rw [hbody, List.filterMap_nil, eq_comm, List.reverse_eq_nil_iff] at hsteps
    rw [hlead] at hleads
    cases hleads
    rw [hcomponents, hsteps]
    rfl
  | cons last before =>
    rw [parent?_of_cons hbody] at h
    cases h
    obtain ⟨step, hstep⟩ := exists_stepOf_of_dropSilent hbody
    rw [hbody, List.filterMap_cons_some hstep, ← List.reverse_eq_iff, List.reverse_cons] at hsteps
    -- what is kept are the first parts of the body, and the lead goes before them as before
    have hkept : (dropSilent before).reverse <+: path.body.splitOn slash := by
      have hsuffix := (dropSilent_suffix before).trans (List.suffix_cons last before)
      rw [← List.reverse_reverse (path.body.splitOn slash), List.reverse_prefix]
      exact hsuffix.trans (hbody ▸ dropSilent_suffix _)
    have hsteps' : (dropSilent before).reverse.filterMap stepOf =
        (before.filterMap stepOf).reverse := by
      rw [List.filterMap_reverse, filterMap_dropSilent]
    rw [hcomponents, ← hsteps, ← List.append_assoc, List.dropLast_concat, ← hsteps']
    by_cases hempty : (dropSilent before).reverse = []
    · rw [hempty]
      exact hleads.of_nil.components_eq (List.cons_ne_nil _ _) (by simp)
    · exact (hleads.of_prefix hkept hempty).components_eq hempty
        fun part hmem => not_mem_of_mem_splitOn (hkept.mem hmem)

/-- A path that ends with a name has a parent. -/
theorem exists_parent? {name : Bytes} (h : path.fileName? = some name) :
    ∃ parent, path.parent? = some parent := by
  obtain ⟨steps, hleads, hcomponents⟩ := path.exists_leadsWith
  cases hbody : dropSilent (path.body.splitOn slash).reverse with
  | nil =>
    have hsteps := filterMap_dropSilent_reverse (path.body.splitOn slash)
    rw [hbody, List.filterMap_nil, eq_comm, List.reverse_eq_nil_iff] at hsteps
    rw [fileName?_eq_some_iff, hcomponents, hsteps, List.append_nil] at h
    exact absurd h (hleads.getLast?_ne_name name)
  | cons last before => exact ⟨_, parent?_of_cons hbody⟩

end Parent

/-- **The parent of a directory joined with a name** has the components of the directory. -/
theorem parent?_join {name : Bytes} (h : IsName name) (directory : Path) :
    ∃ parent, (directory.join ⟨name⟩).parent? = some parent ∧
      parent.components = directory.components := by
  have hjoined := components_join h directory
  have hname : (directory.join ⟨name⟩).fileName? = some name := by
    rw [fileName?_eq_some_iff, hjoined, List.getLast?_concat]
  obtain ⟨parent, hparent⟩ := exists_parent? hname
  refine ⟨parent, hparent, ?_⟩
  rw [components_of_parent? hparent, hjoined, List.dropLast_concat]

end Path

end RemoteFiles
