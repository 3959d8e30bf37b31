import Mathlib.Data.List.Perm.Basic
import RemoteFiles.Proofs.CommandLine.Named
import RemoteFiles.Request

/-!
# What is typed is what is done

`Choice` is everything that can be asked for on a command line, and `Choice.options` is how it is
typed. Its options say what it asks for (`says_options`), so in any order they are read as that
(`parse_choice`), whatever the values look like.
-/

namespace RemoteFiles

namespace CommandLine

/-! ## 1. Choices -/

/-- A number below a bound, as a text writes it. -/
structure Numeral (bound : Nat) where
  text : String
  value : Nat
  writes : Decimal.Writes text value
  value_lt : value < bound

/-- A tier, as a text spells it. -/
structure TierName where
  text : String
  tier : Permission
  spelled : tier.SpelledAs text

/-- Everything that can be asked for. -/
structure Choice where
  debug : Bool
  trace : Bool
  tracefile : Option String
  host : String
  port : Numeral UInt16.size
  username : String
  source : Option String
  destination : Option String
  permission : Option TierName
  timeout : Option (Numeral UInt64.size)
  flags : Flags

/-- A switch, if it is on. -/
def Typed.ifOn (name : String) (isOn : Bool) : List Typed :=
  if isOn then [⟨name, none⟩] else []

/-- A setting, if it has a value. -/
def Typed.ifGiven (name : String) (text : Option String) : List Typed :=
  text.toList.map fun text => ⟨name, some text⟩

namespace Choice

/-- The options that are not flags, as they are typed. -/
def settings (choice : Choice) : List Typed :=
  Typed.ifOn "--debug" choice.debug ++ Typed.ifOn "--trace" choice.trace ++
  Typed.ifGiven "--tracefile" choice.tracefile ++ Typed.ifGiven "--host" (some choice.host) ++
  Typed.ifGiven "--port" (some choice.port.text) ++
  Typed.ifGiven "--username" (some choice.username) ++ Typed.ifGiven "--src" choice.source ++
  Typed.ifGiven "--dst" choice.destination ++
  Typed.ifGiven "--perm" (choice.permission.map TierName.text) ++
  Typed.ifGiven "--timeout" (choice.timeout.map Numeral.text)

/-- All options, as they are typed. -/
def options (choice : Choice) : List Typed := choice.settings ++ choice.flags.typed

/-- The fields of the request. -/
def fields (choice : Choice) : Fields :=
  { source := choice.source.map Path.ofString, destination := choice.destination
    permission := choice.permission.map TierName.tier }

/-- The draft that holds what is asked for. -/
def draft (choice : Choice) : Draft :=
  { debug := choice.debug, trace := choice.trace, tracefile := choice.tracefile
    host := some choice.host, port := some (.ofNat choice.port.value)
    username := some choice.username, fields := choice.fields
    timeout := choice.timeout.map fun timeout => .ofNat timeout.value, flags := choice.flags }

/-- What is asked for, as a command line; ten seconds are waited for the server if nothing else is
    said. -/
def line (choice : Choice) : CommandLine :=
  { debug := choice.debug, trace := choice.trace, tracefile := choice.tracefile
    host := choice.host, port := .ofNat choice.port.value, username := choice.username
    fields := choice.fields
    timeout := (choice.timeout.map fun timeout => .ofNat timeout.value).getD 10
    flags := choice.flags }

end Choice

/-! ## 2. What the options say -/

/-- A value is read as what its text is meant for. -/
theorem map_read {α : Type} {setting : Setting} {written : α → String}
    {meant : α → setting.Value} (h : ∀ given, setting.read (written given) = .ok (meant given))
    (given : Option α) : (given.map written).map setting.read = (given.map meant).map .ok := by
  cases given with
  | none => rfl
  | some given => exact congrArg some (h given)

theorem Numeral.number_eq {bound : Nat} (numeral : Numeral bound) :
    Draft.number bound numeral.text = .ok numeral.value := by
  rw [Draft.number, Decimal.read_of_writes numeral.writes numeral.value_lt]
  rfl

theorem Numeral.read_port (numeral : Numeral UInt16.size) :
    Setting.port.read numeral.text = .ok (.ofNat numeral.value) := by
  rw [Setting.read, numeral.number_eq]
  rfl

theorem Numeral.read_timeout (numeral : Numeral UInt64.size) :
    Setting.timeout.read numeral.text = .ok (.ofNat numeral.value) := by
  rw [Setting.read, numeral.number_eq]
  rfl

theorem TierName.read_permission (name : TierName) :
    Setting.permission.read name.text = .ok name.tier := by
  rw [Setting.read, Permission.parse_eq_ok_iff.mpr name.spelled]
  rfl

theorem says_ifOn {draft : Draft} {name : String} {switch : Switch} {isOn : Bool}
    (h : Switch.ofSpelling? name = some switch) (hon : draft.isOn switch = isOn) :
    List.Forall₂ Typed.Says (Typed.ifOn name isOn) (draft.entriesOf (.switch switch)) := by
  rw [Typed.ifOn, Draft.entriesOf, hon]
  cases isOn with
  | false => exact .nil
  | true => exact .cons (.on h) .nil

theorem says_ifGiven {draft : Draft} {name : String} {setting : Setting} {text : Option String}
    (hno : Switch.ofSpelling? name = none) (h : Setting.ofSpelling? name = some setting)
    (hread : text.map setting.read = (draft.value? setting).map .ok) :
    List.Forall₂ Typed.Says (Typed.ifGiven name text) (draft.entriesOf (.setting setting)) := by
  rw [Typed.ifGiven, Draft.entriesOf]
  cases text with
  | none =>
    rw [Option.map_none, eq_comm, Option.map_eq_none_iff] at hread
    rw [hread]
    exact .nil
  | some text =>
    rw [Option.map_some, eq_comm, Option.map_eq_some_iff] at hread
    obtain ⟨value, hvalue, hread⟩ := hread
    rw [hvalue]
    exact .cons (.value hno h hread.symm) .nil

theorem says_settings (choice : Choice) :
    List.Forall₂ Typed.Says choice.settings (Key.plain.flatMap choice.draft.entriesOf) := by
  simp only [Choice.settings, Key.plain, List.flatMap_cons, List.flatMap_nil, List.append_assoc,
    List.append_nil]
  refine List.rel_append ?debug <| List.rel_append ?trace <| List.rel_append ?tracefile <|
    List.rel_append ?host <| List.rel_append ?port <| List.rel_append ?username <|
    List.rel_append ?source <| List.rel_append ?destination <|
    List.rel_append ?permission ?timeout
  case debug | trace => exact says_ifOn rfl rfl
  case host | username | tracefile | destination => exact says_ifGiven rfl rfl rfl
  case source =>
    exact says_ifGiven rfl rfl (Option.map_map Except.ok Path.ofString choice.source).symm
  case port => exact says_ifGiven rfl rfl (map_read Numeral.read_port (some choice.port))
  case permission =>
    exact says_ifGiven rfl rfl (map_read TierName.read_permission choice.permission)
  case timeout => exact says_ifGiven rfl rfl (map_read Numeral.read_timeout choice.timeout)

theorem says_plainFlag {draft : Draft} {kind : ActionKind} {switch : Switch}
    (h : Switch.ofSpelling? (flagName kind) = some switch)
    (hon : draft.flags.has kind = draft.isOn switch) (hnone : draft.flags.accountOf kind = none) :
    List.Forall₂ Typed.Says (draft.flags.typedFor kind) (draft.entriesOf (.switch switch)) := by
  rw [Flags.typedFor, hnone]
  exact says_ifOn h hon.symm

theorem says_accountFlag {draft : Draft} {kind : ActionKind} {setting : Setting}
    (hno : Switch.ofSpelling? (flagName kind) = none)
    (h : Setting.ofSpelling? (flagName kind) = some setting)
    (hsome : draft.flags.has kind = (draft.flags.accountOf kind).isSome)
    (hread : (draft.flags.accountOf kind).map setting.read = (draft.value? setting).map .ok) :
    List.Forall₂ Typed.Says (draft.flags.typedFor kind) (draft.entriesOf (.setting setting)) := by
  have hsays := says_ifGiven hno h hread
  rw [Flags.typedFor, hsome]
  cases haccount : draft.flags.accountOf kind with
  | none => rwa [haccount] at hsays
  | some account => rwa [haccount] at hsays

theorem says_flags (draft : Draft) :
    List.Forall₂ Typed.Says draft.flags.typed (Key.flags.flatMap draft.entriesOf) := by
  have hplain := @says_plainFlag draft
  have haccount := @says_accountFlag draft
  have hflags : List.Forall₂
      (fun kind key => List.Forall₂ Typed.Says (draft.flags.typedFor kind) (draft.entriesOf key))
      Flags.flagged Key.flags :=
    .cons (hplain rfl rfl rfl) <| .cons (hplain rfl rfl rfl) <| .cons (hplain rfl rfl rfl) <|
    .cons (hplain rfl rfl rfl) <| .cons (hplain rfl rfl rfl) <| .cons (hplain rfl rfl rfl) <|
    .cons (hplain rfl rfl rfl) <| .cons (hplain rfl rfl rfl) <| .cons (hplain rfl rfl rfl) <|
    .cons (haccount rfl rfl rfl rfl) <| .cons (haccount rfl rfl rfl rfl) .nil
  exact List.rel_flatMap hflags fun _ _ h => h

/-- **What is typed says what is asked for.** -/
theorem says_options (choice : Choice) :
    List.Forall₂ Typed.Says choice.options choice.draft.entries := by
  rw [Choice.options, Draft.entries, Key.all, List.flatMap_append]
  exact List.rel_append (says_settings choice) (says_flags choice.draft)

/-! ## 3. Any order -/

section AnyOrder

variable {choice : Choice} {typed : List Typed}

/-- **In any order the same is read.** -/
theorem read_choice (h : (typed.map Typed.long).Perm choice.options) :
    read .empty false (typed.flatMap Typed.arguments) = .ok (choice.draft, false) := by
  obtain ⟨entries, hsays, hperm⟩ := List.perm_comp_forall₂ h (says_options choice)
  have hshort : List.Forall₂ Typed.Says typed entries :=
    (List.forall₂_map_left_iff.mp hsays).imp fun _ _ => Typed.Says.of_long
  have hdistinct : (entries.map Entry.key).Nodup :=
    (hperm.map Entry.key).nodup_iff.mpr choice.draft.nodup_entries
  have hlacks : ∀ entry ∈ entries, Draft.empty.Lacks entry.key := fun _ _ held hheld =>
    absurd hheld (Draft.not_holds_empty held)
  obtain ⟨after, hread, hholds⟩ := exists_read hshort hdistinct hlacks
  have hafter : after = choice.draft := by
    refine Draft.eq_of_holds fun entry => ?_
    rw [hholds, hperm.mem_iff, Draft.mem_entries_iff]
    exact or_iff_left (Draft.not_holds_empty entry)
  rw [hread, hafter]

theorem Typed.name_of_mem_ifOn {option : Typed} {name : String} {isOn : Bool}
    (h : option ∈ ifOn name isOn) : option.name = name := by
  cases isOn with
  | false => cases h
  | true => rw [List.mem_singleton.mp h]

theorem Typed.name_of_mem_ifGiven {option : Typed} {name : String} {text : Option String}
    (h : option ∈ ifGiven name text) : option.name = name := by
  obtain ⟨text, -, rfl⟩ := List.mem_map.mp h
  rfl

/-- None of the other options has the name of a command. -/
theorem commandOf?_of_mem_settings {option : Typed} (h : option ∈ choice.settings) :
    commandOf? option.name = none := by
  simp only [Choice.settings, List.mem_append, or_assoc] at h
  rcases h with h | h | h | h | h | h | h | h | h | h
  · rw [Typed.name_of_mem_ifOn h]
    decide
  · rw [Typed.name_of_mem_ifOn h]
    decide
  all_goals
    rw [Typed.name_of_mem_ifGiven h]
    decide

theorem Choice.namedBy_options (choice : Choice) : choice.flags.NamedBy choice.options := by
  intro selection
  rw [choice.flags.namedBy_typed selection]
  constructor
  · intro h
    obtain ⟨option, hoption, hcommands⟩ := h
    exact ⟨option, List.mem_append_right _ hoption, hcommands⟩
  · intro h
    obtain ⟨option, hoption, hcommands⟩ := h
    rcases List.mem_append.mp hoption with hsetting | hflag
    · exact absurd ((commandOf?_of_mem_settings hsetting).symm.trans hcommands.1) nofun
    · exact ⟨option, hflag, hcommands⟩

/-- The flags that are asked for are those that are typed, in any order. -/
theorem namedBy_of_perm (h : (typed.map Typed.long).Perm choice.options) :
    choice.flags.NamedBy typed := by
  intro selection
  rw [choice.namedBy_options selection]
  constructor
  · intro hoptions
    obtain ⟨option, hoption, hcommands⟩ := hoptions
    obtain ⟨short, hshort, rfl⟩ := List.mem_map.mp (h.mem_iff.mpr hoption)
    exact ⟨short, hshort, Typed.commands_long.mp hcommands⟩
  · intro htyped
    obtain ⟨option, hoption, hcommands⟩ := htyped
    exact ⟨option.long, h.mem_iff.mp (List.mem_map_of_mem hoption),
      Typed.commands_long.mpr hcommands⟩

/-- **Options in any order are read as what they ask for.** The flags are those that are typed, so
    resolving them is resolving the flags that are typed; and a command that is the only one typed is
    the one selected. -/
theorem parse_choice (h : (typed.map Typed.long).Perm choice.options) :
    parse (typed.flatMap Typed.arguments) = .ok choice.line ∧ choice.flags.NamedBy typed ∧
      (∀ flags : Flags, flags.NamedBy typed →
        choice.line.flags.resolve choice.line.fields = flags.resolve choice.fields) ∧
      ∀ selection, AskedAlone typed selection → choice.line.flags.select = .ok selection := by
  have hnamed := namedBy_of_perm h
  refine ⟨?_, hnamed, ?_, ?_⟩
  · rw [parse, read_choice h]
    rfl
  · intro flags hother
    rw [hother.unique hnamed]
    rfl
  · intro selection halone
    exact hnamed.select_of_askedAlone halone

end AnyOrder

/-- A choice with values that look like options. -/
def lookalikes : Choice :=
  { debug := true, trace := false, tracefile := some "--help", host := "--ls"
    port :=
      { text := "+08022", value := 8022, value_lt := by decide
        writes := ⟨['0', '8', '0', '2', '2'], by decide, List.all_eq_true.mp rfl, by decide, .inr rfl⟩ }
    username := "-v", source := some "--", destination := some ""
    permission := some
      { text := "Read-Write", tier := .readWrite, spelled := Permission.spelledAs_iff.mpr rfl }
    timeout := some
      { text := "0030", value := 30, value_lt := by decide
        writes := ⟨['0', '0', '3', '0'], by decide, List.all_eq_true.mp rfl, by decide, .inl rfl⟩ }
    flags := { Flags.only .createUser (some "--delete-user") with deleteUser := some "" } }

/-- The same choice as it may be typed. -/
def lookalikesTyped : List Typed :=
  [⟨"--create-user", some "--delete-user"⟩, ⟨"-u", some "-v"⟩, ⟨"--perm", some "Read-Write"⟩,
    ⟨"--src", some "--"⟩, ⟨"-v", none⟩, ⟨"--delete-user", some ""⟩, ⟨"-i", some "--ls"⟩,
    ⟨"--timeout", some "0030"⟩, ⟨"--port", some "+08022"⟩, ⟨"--dst", some ""⟩,
    ⟨"--tracefile", some "--help"⟩]

theorem parse_lookalikes :
    (lookalikesTyped.map Typed.long).Perm lookalikes.options ∧
      parse ["--create-user", "--delete-user", "-u", "-v", "--perm", "Read-Write", "--src", "--",
        "-v", "--delete-user", "", "-i", "--ls", "--timeout", "0030", "--port", "+08022", "--dst",
        "", "--tracefile", "--help"] = .ok lookalikes.line ∧
      lookalikes.line.flags.select = .ok ⟨.createUser, some "--delete-user"⟩ := by
  have h : (lookalikesTyped.map Typed.long).Perm lookalikes.options := by decide
  have halone : AskedAlone lookalikesTyped ⟨.createUser, some "--delete-user"⟩ := by
    intro other
    rw [← namedBy_of_perm h other]
    obtain ⟨kind, account⟩ := other
    cases kind with
    | createUser =>
      simp only [Flags.Gives, Flags.has, Flags.accountOf, lookalikes, Flags.only, Option.isSome_some,
        true_and, Selection.mk.injEq]
      exact and_iff_left_of_imp fun haccount => haccount ▸ by decide
    | _ => simp [Flags.Gives, Flags.has, Flags.accountOf, lookalikes, Flags.only, Flags.none]
  exact ⟨h, (parse_choice h).1, (parse_choice h).2.2.2 _ halone⟩

end CommandLine

end RemoteFiles
