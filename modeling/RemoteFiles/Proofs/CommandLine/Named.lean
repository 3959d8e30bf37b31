import RemoteFiles.Proofs.Action.Selection
import RemoteFiles.Proofs.CommandLine.Options

/-!
# Flags by name

The flags are connected with the actions in two places: by the names of the options, and by the fields
of `Flags`. What connects them here is neither. The option of a command is the name of the command
behind two hyphens (`flagName`, `commandOf?`), and flags are the typed ones if each command has its
flag exactly if its option is there (`Flags.NamedBy`).

* `Flags.NamedBy.unique` -- what is typed leaves no choice of flags;
* `Flags.NamedBy.select_of_askedAlone` -- a command that is typed alone is the one selected.
-/

namespace RemoteFiles

open CommandLine

/-! ## 1. Names of commands -/

/-- The option that is the flag of a kind. -/
def flagName (kind : ActionKind) : String := "--" ++ Error.flagSpelling kind.name

/-- The command that an option is for: the one with the name behind the hyphens, where `-` is
    written for `_`. -/
def commandOf? (name : String) : Option ActionKind :=
  match name.toList with
  | '-' :: '-' :: command =>
    ActionKind.all.find? fun kind =>
      kind.name.toList == command.map fun c => if c = '-' then '_' else c
  | _ => none

theorem commandOf?_flagName (kind : ActionKind) : commandOf? (flagName kind) = some kind := by
  cases kind <;> decide

theorem commandOf?_longName (name : String) :
    commandOf? (Typed.longName name) = commandOf? name := by
  unfold Typed.longName
  split <;> rfl

namespace CommandLine

/-- The option is the flag of a kind, with its account. -/
def Typed.Commands (option : Typed) (selection : Selection) : Prop :=
  commandOf? option.name = some selection.kind ∧ option.value = selection.account

theorem Typed.commands_long {option : Typed} {selection : Selection} :
    option.long.Commands selection ↔ option.Commands selection := by
  rw [Commands, Commands, long, commandOf?_longName]

/-- One command is asked for and no other. An account without a name counts for nothing. -/
def AskedAlone (typed : List Typed) (selection : Selection) : Prop :=
  ∀ other : Selection,
    (∃ option ∈ typed, option.Commands other) ∧ other.account ≠ some "" ↔ other = selection

end CommandLine

namespace Flags

/-! ## 2. Flags as they are typed -/

/-- The flag of a kind is given, if only with an empty name. -/
def has (flags : Flags) : ActionKind → Bool
  | .shell => flags.shell
  | .ls => flags.ls
  | .get => flags.get
  | .put => flags.put
  | .mkdir => flags.mkdir
  | .delete => flags.delete
  | .localLs => flags.localLs
  | .localDelete => flags.localDelete
  | .localMkdir => flags.localMkdir
  | .createUser => flags.createUser.isSome
  | .deleteUser => flags.deleteUser.isSome
  | .noOp | .userOp | .localOp => false

/-- The flag of a kind is given, with its account if it takes one. -/
def Gives (flags : Flags) (selection : Selection) : Prop :=
  flags.has selection.kind = true ∧ selection.account = flags.accountOf selection.kind

/-- With an account goes its flag. -/
theorem gives_some_iff {flags : Flags} {kind : ActionKind} {name : String} :
    flags.Gives ⟨kind, some name⟩ ↔ flags.accountOf kind = some name := by
  constructor
  · intro h
    exact h.2.symm
  · intro h
    refine ⟨?_, h.symm⟩
    cases kind <;> simp_all [accountOf, has]

/-- The flag of a kind as it is typed, if it is given. -/
def typedFor (flags : Flags) (kind : ActionKind) : List Typed :=
  if flags.has kind then [⟨flagName kind, flags.accountOf kind⟩] else []

/-- The flags as they are typed. -/
def typed (flags : Flags) : List Typed := flagged.flatMap flags.typedFor

theorem mem_flagged_of_has {flags : Flags} {kind : ActionKind} (h : flags.has kind = true) :
    kind ∈ flagged := by
  cases kind with
  | noOp | userOp | localOp => cases h
  | shell | ls | get | put | mkdir | delete | localLs | localDelete | localMkdir | createUser
  | deleteUser => decide

/-- The flags that are given are those that are typed, and no others. -/
def NamedBy (flags : Flags) (typed : List Typed) : Prop :=
  ∀ selection, flags.Gives selection ↔ ∃ option ∈ typed, option.Commands selection

theorem namedBy_typed (flags : Flags) : flags.NamedBy flags.typed := by
  intro selection
  constructor
  · intro h
    obtain ⟨hhas, haccount⟩ := h
    refine ⟨⟨flagName selection.kind, flags.accountOf selection.kind⟩, ?_,
      commandOf?_flagName selection.kind, haccount.symm⟩
    exact List.mem_flatMap.mpr ⟨selection.kind, mem_flagged_of_has hhas, by simp [typedFor, hhas]⟩
  · intro h
    obtain ⟨option, hoption, hkind, haccount⟩ := h
    obtain ⟨kind, -, hmem⟩ := List.mem_flatMap.mp hoption
    cases hhas : flags.has kind with
    | false => simp [typedFor, hhas] at hmem
    | true =>
      obtain rfl : option = ⟨flagName kind, flags.accountOf kind⟩ := by
        simpa [typedFor, hhas] using hmem
      obtain rfl : kind = selection.kind :=
        Option.some.inj ((commandOf?_flagName kind).symm.trans hkind)
      exact ⟨hhas, haccount.symm⟩

/-- **What is typed leaves no choice of flags.** -/
theorem NamedBy.unique {flags other : Flags} {typed : List Typed} (h : flags.NamedBy typed)
    (h' : other.NamedBy typed) : flags = other := by
  have hgives : ∀ selection, flags.Gives selection ↔ other.Gives selection := fun selection =>
    (h selection).trans (h' selection).symm
  have hplain : ∀ kind, (∀ flags : Flags, flags.accountOf kind = .none) →
      flags.has kind = other.has kind := by
    intro kind hnone
    have hboth := hgives ⟨kind, .none⟩
    rw [Gives, Gives, hnone, hnone] at hboth
    exact Bool.eq_iff_iff.mpr (by simpa using hboth)
  have haccount : ∀ kind, flags.accountOf kind = other.accountOf kind := by
    intro kind
    refine Option.ext fun name => ?_
    rw [← gives_some_iff, ← gives_some_iff]
    exact hgives ⟨kind, some name⟩
  obtain ⟨_, _, _, _, _, _, _, _, _, _, _⟩ := flags
  obtain ⟨_, _, _, _, _, _, _, _, _, _, _⟩ := other
  rw [Flags.mk.injEq]
  exact ⟨hplain .shell fun _ => rfl, hplain .ls fun _ => rfl, hplain .get fun _ => rfl,
    hplain .put fun _ => rfl, hplain .mkdir fun _ => rfl, hplain .delete fun _ => rfl,
    hplain .localLs fun _ => rfl, hplain .localDelete fun _ => rfl,
    hplain .localMkdir fun _ => rfl, haccount .createUser, haccount .deleteUser⟩

/-! ## 3. What is selected -/

theorem exists_name_iff {account : Option String} :
    (∃ name, account = some name ∧ name ≠ "") ↔ account.isSome = true ∧ account ≠ some "" := by
  cases account <;> simp

theorem sets_iff {flags : Flags} {kind : ActionKind} :
    flags.Sets kind ↔ flags.has kind = true ∧ flags.accountOf kind ≠ some "" := by
  cases kind with
  | noOp | userOp | localOp => simp [Sets, has]
  | shell | ls | get | put | mkdir | delete | localLs | localDelete | localMkdir =>
    simp [Sets, has, accountOf]
  | createUser | deleteUser => exact exists_name_iff

/-- **The only command that is typed is the one selected.** -/
theorem NamedBy.select_of_askedAlone {flags : Flags} {typed : List Typed} {selection : Selection}
    (h : flags.NamedBy typed) (halone : AskedAlone typed selection) :
    flags.select = .ok selection := by
  have hsets : ∀ kind, flags.Sets kind ↔ ⟨kind, flags.accountOf kind⟩ = selection := by
    intro kind
    rw [← halone, ← h, sets_iff, Gives]
    simp
  have haccount : ⟨selection.kind, flags.accountOf selection.kind⟩ = selection := by
    have hgives := ((halone selection).mpr rfl).1
    rw [← h] at hgives
    exact congrArg (Selection.mk selection.kind) hgives.2.symm
  rw [← haccount]
  refine select_of_selects ⟨(hsets selection.kind).mpr haccount, ?_⟩
  intro kind hset
  exact congrArg Selection.kind ((hsets kind).mp hset)

end Flags

end RemoteFiles
