import RemoteFiles.Action.Selection
import Mathlib.Data.List.Nodup
import Mathlib.Data.List.Pairwise

/-!
# What flags select and what an action lacks

A caller sets flags, one for each kind of action that has one. `Sets` says which kinds they are;
with it, choosing among them is said without the order in which the flags are looked at.

* `select_of_unset`, `select_of_several`, `select_of_selects` -- no kind, more than one, just one;
  `selects_cases` says that there is no fourth case;
* `check_of_lacks`, `check_of_not_lacks` -- a rule is broken exactly if a field it asks for is
  absent, and the error names the command;
* `ofSelected_of_lacks`, `ofSelected_of_not_lacks` -- both for the action of a selected kind.
-/

namespace RemoteFiles

/-! ## 1. Flags -/

namespace Flags

/-- The flag of a kind is set. An empty name of an account sets nothing. -/
def Sets (flags : Flags) : ActionKind → Prop
  | .shell => flags.shell = true
  | .ls => flags.ls = true
  | .get => flags.get = true
  | .put => flags.put = true
  | .mkdir => flags.mkdir = true
  | .delete => flags.delete = true
  | .localLs => flags.localLs = true
  | .localDelete => flags.localDelete = true
  | .localMkdir => flags.localMkdir = true
  | .createUser => ∃ name, flags.createUser = some name ∧ name ≠ ""
  | .deleteUser => ∃ name, flags.deleteUser = some name ∧ name ≠ ""
  | .noOp | .userOp | .localOp => False

/-- The account that goes with the flag of a kind. -/
def accountOf (flags : Flags) : ActionKind → Option String
  | .createUser => flags.createUser
  | .deleteUser => flags.deleteUser
  | _ => .none

/-- The flag of this kind is set and no other. -/
def Selects (flags : Flags) (kind : ActionKind) : Prop :=
  flags.Sets kind ∧ ∀ other, flags.Sets other → other = kind

theorem mem_plain {isSet : Bool} {kind : ActionKind} {selection : Selection} :
    selection ∈ plain isSet kind ↔ isSet = true ∧ selection = ⟨kind, .none⟩ := by
  unfold plain
  cases isSet <;> simp

theorem mem_forAccount {name : Option String} {kind : ActionKind} {selection : Selection} :
    selection ∈ forAccount name kind ↔
      (∃ text, name = some text ∧ text ≠ "") ∧ selection = ⟨kind, name⟩ := by
  unfold forAccount
  cases name with
  | none => simp
  | some text => by_cases h : text = "" <;> simp [h]

/-- **What is selected is what is set**, with the account that goes with it. -/
theorem mem_selected_iff {flags : Flags} {selection : Selection} :
    selection ∈ flags.selected ↔
      flags.Sets selection.kind ∧ selection.account = flags.accountOf selection.kind := by
  obtain ⟨kind, account⟩ := selection
  simp only [selected, List.mem_append, mem_plain, mem_forAccount, Selection.mk.injEq]
  cases kind <;> simp [Sets, accountOf]

/-- The kinds that have a flag, in the order in which the flags are looked at. -/
def flagged : List ActionKind :=
  [.shell, .ls, .get, .put, .mkdir, .delete, .localLs, .localDelete, .localMkdir, .createUser,
    .deleteUser]

theorem plain_sublist (isSet : Bool) (kind : ActionKind) :
    ((plain isSet kind).map Selection.kind).Sublist [kind] := by
  unfold plain
  cases isSet <;> simp

theorem forAccount_sublist (name : Option String) (kind : ActionKind) :
    ((forAccount name kind).map Selection.kind).Sublist [kind] := by
  unfold forAccount
  cases name with
  | none => simp
  | some text => by_cases h : text = "" <;> simp [h]

/-- **No kind is selected twice.** -/
theorem nodup_selected (flags : Flags) : (flags.selected.map Selection.kind).Nodup := by
  have hsublist : (flags.selected.map Selection.kind).Sublist flagged := by
    simp only [selected, List.map_append]
    have hplain := plain_sublist
    have haccount := forAccount_sublist
    exact ((((((((((hplain _ _).append (hplain _ _)).append (hplain _ _)).append
      (hplain _ _)).append (hplain _ _)).append (hplain _ _)).append (hplain _ _)).append
      (hplain _ _)).append (hplain _ _)).append (haccount _ _)).append (haccount _ _)
  exact hsublist.nodup (by decide)

theorem mem_selected_of_sets {flags : Flags} {kind : ActionKind} (h : flags.Sets kind) :
    ⟨kind, flags.accountOf kind⟩ ∈ flags.selected :=
  mem_selected_iff.mpr ⟨h, rfl⟩

/-- With no flag set nothing is selected. -/
theorem select_of_unset {flags : Flags} (h : ∀ kind, ¬ flags.Sets kind) :
    flags.select = .error .noAction := by
  have hnone : flags.selected = [] := by
    rw [List.eq_nil_iff_forall_not_mem]
    intro selection hmem
    exact h selection.kind (mem_selected_iff.mp hmem).1
  rw [select, hnone]

/-- **Two flags are one too many.** -/
theorem select_of_several {flags : Flags} {kind other : ActionKind} (h : flags.Sets kind)
    (h' : flags.Sets other) (hne : kind ≠ other) : flags.select = .error .multipleActions := by
  have hmem := mem_selected_of_sets h
  have hmem' := mem_selected_of_sets h'
  unfold select
  split
  · rename_i hnone
    rw [hnone] at hmem
    cases hmem
  · rename_i selection hone
    rw [hone, List.mem_singleton] at hmem hmem'
    have heq : (⟨kind, flags.accountOf kind⟩ : Selection) = ⟨other, flags.accountOf other⟩ :=
      hmem.trans hmem'.symm
    exact absurd (congrArg Selection.kind heq) hne
  · rfl

/-- **The one flag that is set selects its kind**, and the account that goes with it. -/
theorem select_of_selects {flags : Flags} {kind : ActionKind} (h : flags.Selects kind) :
    flags.select = .ok ⟨kind, flags.accountOf kind⟩ := by
  obtain ⟨hset, hothers⟩ := h
  have hmem := mem_selected_of_sets hset
  have hkinds : ∀ selection ∈ flags.selected, selection = ⟨kind, flags.accountOf kind⟩ := by
    rintro ⟨other, account⟩ hselected
    obtain ⟨hsets, haccount⟩ := mem_selected_iff.mp hselected
    obtain rfl := hothers other hsets
    exact congrArg (Selection.mk other) haccount
  unfold select
  split
  · rename_i hnone
    rw [hnone] at hmem
    cases hmem
  · rename_i selection hone
    exact congrArg Except.ok (hkinds selection (by rw [hone]; exact List.mem_singleton_self _))
  · rename_i hnone hone
    -- a list with two members or more holds one kind twice
    have hnodup := flags.nodup_selected
    cases hselected : flags.selected with
    | nil => exact absurd hselected hnone
    | cons first rest =>
      cases rest with
      | nil => exact absurd hselected (hone first)
      | cons second later =>
        rw [hselected] at hnodup hkinds
        have hfirst := hkinds first (by simp)
        have hsecond := hkinds second (by simp)
        rw [hfirst, hsecond, List.map_cons, List.map_cons, List.nodup_cons] at hnodup
        exact absurd List.mem_cons_self hnodup.1

/-- Either no flag is set, or there are two that are, or one is set alone. -/
theorem selects_cases (flags : Flags) :
    (∀ kind, ¬ flags.Sets kind) ∨
      (∃ kind other, flags.Sets kind ∧ flags.Sets other ∧ kind ≠ other) ∨
      ∃ kind, flags.Selects kind := by
  by_cases hnone : ∀ kind, ¬ flags.Sets kind
  · exact .inl hnone
  obtain ⟨kind, hkind⟩ := not_forall_not.mp hnone
  by_cases hone : ∀ other, flags.Sets other → other = kind
  · exact .inr (.inr ⟨kind, hkind, hone⟩)
  obtain ⟨other, hother⟩ := not_forall.mp hone
  obtain ⟨hset, hne⟩ := Classical.not_imp.mp hother
  exact .inr (.inl ⟨other, kind, hset, hkind, hne⟩)

end Flags

/-! ## 2. Dependencies -/

namespace Dependency

/-- A field that the rule asks for is absent. -/
def Lacks (rule : Dependency) (fields : Fields) : Prop :=
  match rule with
  | nothing => False
  | source => fields.source = none
  | destination => fields.destination = none
  | both => fields.source = none ∨ fields.destination = none
  | permission => fields.permission = none

/-- With both paths there, nothing is lacking that a transfer asks for. -/
theorem not_lacks_both {fields : Fields} {source : Path} {destination : String}
    (h : fields.source = some source) (h' : fields.destination = some destination) :
    ¬ both.Lacks fields := by
  intro hlacks
  rcases hlacks with hnone | hnone
  · rw [h] at hnone
    cases hnone
  · rw [h'] at hnone
    cases hnone

/-- What the rule asks for, in the words of the message. -/
def needs : Dependency → String
  | nothing => ""
  | source => "\"--src\""
  | destination => "\"--dst\""
  | both => "\"--src\" and \"--dst\""
  | permission => "\"--perm\""

/-- **A rule is broken by the absence of a field that it asks for**, and by nothing else. -/
theorem missing_of_lacks {rule : Dependency} {fields : Fields} (h : rule.Lacks fields) :
    rule.missing fields = some rule.needs := by
  cases rule with
  | nothing => exact h.elim
  | source | destination | permission => exact if_pos (Option.isNone_iff_eq_none.mpr h)
  | both =>
    refine if_pos ?_
    rcases h with h | h <;> simp [h]

theorem missing_of_not_lacks {rule : Dependency} {fields : Fields} (h : ¬ rule.Lacks fields) :
    rule.missing fields = none := by
  cases rule with
  | nothing => rfl
  | source | destination | permission =>
    exact if_neg fun hnone => h (Option.isNone_iff_eq_none.mp hnone)
  | both =>
    refine if_neg fun hnone => h ?_
    rw [Bool.or_eq_true, Option.isNone_iff_eq_none, Option.isNone_iff_eq_none] at hnone
    exact hnone

theorem check_of_lacks {rule : Dependency} {fields : Fields} (h : rule.Lacks fields)
    (kind : ActionKind) :
    rule.check kind fields = .error (.missingField kind.name rule.needs) := by
  rw [check, missing_of_lacks h]

theorem check_of_not_lacks {rule : Dependency} {fields : Fields} (h : ¬ rule.Lacks fields)
    (kind : ActionKind) : rule.check kind fields = .ok () := by
  rw [check, missing_of_not_lacks h]

end Dependency

/-! ## 3. The action of a selected kind -/

namespace Action

/-- **A kind whose flag can be set has an action**, and that action is of this kind. -/
theorem exists_ofKind {flags : Flags} {kind : ActionKind} (h : flags.Sets kind) :
    ∃ action, ofKind kind = .ok action ∧ action.kind = kind := by
  cases kind with
  | noOp | userOp | localOp => exact h.elim
  | shell | ls | get | put | mkdir | delete | localLs | localDelete | localMkdir | createUser
  | deleteUser => exact ⟨_, rfl, rfl⟩

section Selected

variable {action : Action} {kind : ActionKind} {fields : Fields}

theorem ofSelected_of_lacks (haction : ofKind kind = .ok action)
    (h : kind.dependency.Lacks fields) :
    ofSelected kind fields = .error (.missingField kind.name kind.dependency.needs) := by
  have hkind : action.kind = kind := kind_of_ofKind haction
  rw [ofSelected, haction]
  show (action.dependency.check kind fields >>= fun _ => .ok action) = _
  rw [dependency, hkind, Dependency.check_of_lacks h]
  rfl

theorem ofSelected_of_not_lacks (haction : ofKind kind = .ok action)
    (h : ¬ kind.dependency.Lacks fields) : ofSelected kind fields = .ok action := by
  have hkind : action.kind = kind := kind_of_ofKind haction
  rw [ofSelected, haction]
  show (action.dependency.check kind fields >>= fun _ => .ok action) = _
  rw [dependency, hkind, Dependency.check_of_not_lacks h]
  rfl

end Selected

end Action

end RemoteFiles
