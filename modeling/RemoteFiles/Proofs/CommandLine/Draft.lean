import RemoteFiles.CommandLine

/-!
# Drafts as sets of entries

What has been read of a command line is a record with a field for each option. What is proved of it is
said by `Holds` instead: which switches are on, and which settings have which value. A draft is
determined by the entries that it holds (`eq_of_holds`), and what an option adds to it is its entry
and nothing else (`holds_enter`). So the order in which options are read leaves no trace.
-/

namespace RemoteFiles

namespace CommandLine

/-! ## 1. Values of settings -/

/-- The values that a setting can have. -/
def Setting.Value : Setting → Type
  | .port => UInt16
  | .source => Path
  | .permission => Permission
  | .timeout => UInt64
  | .tracefile | .host | .username | .destination | .createUser | .deleteUser => String

/-- The value that a text writes. -/
def Setting.read : (setting : Setting) → String → Except String setting.Value
  | .port, text => (Draft.number UInt16.size text).map UInt16.ofNat
  | .source, text => .ok (Path.ofString text)
  | .permission, text => (Permission.parse text).mapError Error.message
  | .timeout, text => (Draft.number UInt64.size text).map UInt64.ofNat
  | .tracefile, text => .ok text
  | .host, text => .ok text
  | .username, text => .ok text
  | .destination, text => .ok text
  | .createUser, text => .ok text
  | .deleteUser, text => .ok text

namespace Draft

/-- The switch is on. -/
def isOn (draft : Draft) : Switch → Bool
  | .debug => draft.debug
  | .trace => draft.trace
  | .ls => draft.flags.ls
  | .get => draft.flags.get
  | .put => draft.flags.put
  | .mkdir => draft.flags.mkdir
  | .delete => draft.flags.delete
  | .shell => draft.flags.shell
  | .localLs => draft.flags.localLs
  | .localDelete => draft.flags.localDelete
  | .localMkdir => draft.flags.localMkdir

/-- The value of a setting, if it has one. -/
def value? (draft : Draft) : (setting : Setting) → Option setting.Value
  | .tracefile => draft.tracefile
  | .host => draft.host
  | .port => draft.port
  | .username => draft.username
  | .source => draft.fields.source
  | .destination => draft.fields.destination
  | .permission => draft.fields.permission
  | .timeout => draft.timeout
  | .createUser => draft.flags.createUser
  | .deleteUser => draft.flags.deleteUser

/-- The draft with another value of a setting. -/
def withValue (draft : Draft) : (setting : Setting) → Option setting.Value → Draft
  | .tracefile, value => { draft with tracefile := value }
  | .host, value => { draft with host := value }
  | .port, value => { draft with port := value }
  | .username, value => { draft with username := value }
  | .source, value => { draft with fields.source := value }
  | .destination, value => { draft with fields.destination := value }
  | .permission, value => { draft with fields.permission := value }
  | .timeout, value => { draft with timeout := value }
  | .createUser, value => { draft with flags.createUser := value }
  | .deleteUser, value => { draft with flags.deleteUser := value }

variable {draft : Draft}

theorem isOn_turnOn (draft : Draft) (switch other : Switch) :
    (draft.turnOn switch).isOn other = (decide (other = switch) || draft.isOn other) := by
  cases switch <;> cases other <;> rfl

theorem value?_turnOn (draft : Draft) (switch : Switch) (setting : Setting) :
    (draft.turnOn switch).value? setting = draft.value? setting := by
  cases switch <;> cases setting <;> rfl

theorem isOn_withValue (draft : Draft) (setting : Setting) (value : Option setting.Value)
    (switch : Switch) : (draft.withValue setting value).isOn switch = draft.isOn switch := by
  cases setting <;> cases switch <;> rfl

theorem value?_withValue (draft : Draft) (setting : Setting) (value : Option setting.Value) :
    (draft.withValue setting value).value? setting = value := by
  cases setting <;> rfl

theorem value?_withValue_of_ne {setting other : Setting} (h : other ≠ setting) (draft : Draft)
    (value : Option setting.Value) :
    (draft.withValue setting value).value? other = draft.value? other := by
  cases setting <;> cases other <;> first | rfl | exact absurd rfl h

/-- A setting takes the value that its text writes, unless it has one. -/
theorem set_eq (draft : Draft) (setting : Setting) (text : String) :
    draft.set setting text =
      draft.withValue setting <$> fill (draft.value? setting) (setting.read text) := by
  cases setting <;> exact bind_pure_comp _ _

theorem set_of_read {setting : Setting} {text : String} {value : setting.Value}
    (h : draft.value? setting = none) (hread : setting.read text = .ok value) :
    draft.set setting text = .ok (draft.withValue setting (some value)) := by
  rw [set_eq, h, hread]
  rfl

end Draft

/-! ## 2. Entries -/

/-- An option, without its value. -/
inductive Key where
  | switch (switch : Switch)
  | setting (setting : Setting)
  deriving DecidableEq

/-- The options that are not flags. -/
def Key.plain : List Key :=
  [.switch .debug, .switch .trace, .setting .tracefile, .setting .host, .setting .port,
    .setting .username, .setting .source, .setting .destination, .setting .permission,
    .setting .timeout]

/-- The options that are flags. -/
def Key.flags : List Key :=
  [.switch .shell, .switch .ls, .switch .get, .switch .put, .switch .mkdir, .switch .delete,
    .switch .localLs, .switch .localDelete, .switch .localMkdir, .setting .createUser,
    .setting .deleteUser]

/-- Every option. -/
def Key.all : List Key := plain ++ flags

theorem Key.mem_all (key : Key) : key ∈ all := by
  cases key with
  | switch switch => cases switch <;> decide
  | setting setting => cases setting <;> decide

/-- What an option says: that its switch is on, or what the value of its setting is. -/
inductive Entry where
  | on (switch : Switch)
  | value (setting : Setting) (value : setting.Value)

/-- The option that an entry is about. -/
def Entry.key : Entry → Key
  | on switch => .switch switch
  | value setting _ => .setting setting

namespace Draft

/-- The entry has been read. -/
def Holds (draft : Draft) : Entry → Prop
  | .on switch => draft.isOn switch = true
  | .value setting value => draft.value? setting = some value

/-- Nothing has been read about an option. -/
def Lacks (draft : Draft) (key : Key) : Prop := ∀ entry, draft.Holds entry → entry.key ≠ key

/-- The draft with one more entry. -/
def enter (draft : Draft) : Entry → Draft
  | .on switch => draft.turnOn switch
  | .value setting value => draft.withValue setting (some value)

section Entries

variable {draft other : Draft} {entry : Entry}

theorem not_holds_empty (entry : Entry) : ¬ empty.Holds entry := by
  cases entry with
  | on switch => cases switch <;> exact Bool.false_ne_true
  | value setting value => cases setting <;> exact nofun

theorem value?_of_lacks {setting : Setting} (h : draft.Lacks (.setting setting)) :
    draft.value? setting = none := by
  cases hvalue : draft.value? setting with
  | none => rfl
  | some value => exact absurd rfl (h (.value setting value) hvalue)

/-- **A new entry comes to those that are there**, and none of them is changed. -/
theorem holds_enter (h : draft.Lacks entry.key) (later : Entry) :
    (draft.enter entry).Holds later ↔ later = entry ∨ draft.Holds later := by
  cases entry with
  | on switch =>
    cases later with
    | on other => simp [enter, Holds, isOn_turnOn]
    | value setting value => simp [enter, Holds, value?_turnOn]
  | value setting value =>
    cases later with
    | on switch => simp [enter, Holds, isOn_withValue]
    | value other value' =>
      have hnone := value?_of_lacks h
      by_cases hsame : other = setting
      · subst hsame
        simp [enter, Holds, value?_withValue, hnone, eq_comm]
      · simp [enter, Holds, value?_withValue_of_ne hsame, hsame]

/-- **A draft is what it holds.** -/
theorem eq_of_holds (h : ∀ entry, draft.Holds entry ↔ other.Holds entry) : draft = other := by
  have hon : ∀ switch, draft.isOn switch = other.isOn switch := fun switch =>
    Bool.eq_iff_iff.mpr (h (.on switch))
  have hvalue : ∀ setting, draft.value? setting = other.value? setting := fun setting =>
    Option.ext fun value => h (.value setting value)
  obtain ⟨_, _, _, _, _, _, ⟨_, _, _⟩, _, ⟨_, _, _, _, _, _, _, _, _, _, _⟩⟩ := draft
  obtain ⟨_, _, _, _, _, _, ⟨_, _, _⟩, _, ⟨_, _, _, _, _, _, _, _, _, _, _⟩⟩ := other
  rw [Draft.mk.injEq, Fields.mk.injEq, Flags.mk.injEq]
  exact ⟨hon .debug, hon .trace, hvalue .tracefile, hvalue .host, hvalue .port, hvalue .username,
    ⟨hvalue .source, hvalue .destination, hvalue .permission⟩, hvalue .timeout, hon .shell, hon .ls,
    hon .get, hon .put, hon .mkdir, hon .delete, hon .localLs, hon .localDelete, hon .localMkdir,
    hvalue .createUser, hvalue .deleteUser⟩

/-! ## 3. All entries of a draft -/

/-- The entries about one option: one, if anything has been read about it. -/
def entriesOf (draft : Draft) : Key → List Entry
  | .switch switch => if draft.isOn switch then [.on switch] else []
  | .setting setting => (draft.value? setting).toList.map (.value setting)

/-- What a draft holds, in the order of the options. -/
def entries (draft : Draft) : List Entry := Key.all.flatMap draft.entriesOf

theorem mem_entriesOf_iff {key : Key} :
    entry ∈ draft.entriesOf key ↔ entry.key = key ∧ draft.Holds entry := by
  cases key with
  | switch switch =>
    cases entry with
    | on other =>
      simp only [entriesOf, Entry.key, Holds, Key.switch.injEq]
      by_cases h : other = switch
      · subst h
        cases draft.isOn other <;> simp
      · cases draft.isOn switch <;> simp [h]
    | value other value => cases h : draft.isOn switch <;> simp [entriesOf, Entry.key, h]
  | setting setting =>
    cases entry with
    | on other => simp [entriesOf, Entry.key]
    | value other value =>
      simp only [entriesOf, Entry.key, Holds, Key.setting.injEq, List.mem_map, Option.mem_toList]
      by_cases h : other = setting
      · subst h
        simp
      · simp [h, Ne.symm h]

theorem mem_entries_iff : entry ∈ draft.entries ↔ draft.Holds entry := by
  simp [entries, mem_entriesOf_iff, Key.mem_all]

theorem keys_sublist (draft : Draft) (keys : List Key) :
    ((keys.flatMap draft.entriesOf).map Entry.key).Sublist keys := by
  induction keys with
  | nil => simp
  | cons key keys ih =>
    have hfirst : ((draft.entriesOf key).map Entry.key).Sublist [key] := by
      cases key with
      | switch switch => cases h : draft.isOn switch <;> simp [entriesOf, Entry.key, h]
      | setting setting => cases h : draft.value? setting <;> simp [entriesOf, Entry.key, h]
    rw [List.flatMap_cons, List.map_append]
    exact hfirst.append ih

/-- No two entries are about the same option. -/
theorem nodup_entries (draft : Draft) : (draft.entries.map Entry.key).Nodup :=
  (keys_sublist draft Key.all).nodup (by decide)

end Entries

end Draft

end CommandLine

end RemoteFiles
