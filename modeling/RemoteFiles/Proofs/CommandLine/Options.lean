import Mathlib.Data.List.Perm.Basic
import RemoteFiles.Proofs.CommandLine.Draft
import RemoteFiles.Proofs.Listing.Records

/-!
# Options as they are typed

An option is typed as its name, and as the value behind it if it takes one. `Typed.Says` is what it
says then. What is read from options is what they say, be the values what they like: an option takes
the argument behind it before anything looks at that argument.

* `Decimal.read_of_writes`, `Permission.parse_eq_ok_iff` -- the values that are more than texts;
* `read_option` -- one option, whatever follows;
* `exists_read` -- any number of them, each about another thing.
-/

namespace RemoteFiles

/-! ## 1. Numbers and tiers -/

namespace Decimal

/-- The text is digits that write the number, with a plus sign before them or without. -/
def Writes (text : String) (n : Nat) : Prop :=
  ∃ digits, digits ≠ [] ∧ (∀ c ∈ digits, isDigit c = true) ∧ Nat.ofDigitChars 10 digits 0 = n ∧
    (text.toList = digits ∨ text.toList = '+' :: digits)

theorem read_of_writes {text : String} {n bound : Nat} (h : Writes text n) (hbound : n < bound) :
    read bound text = .ok n := by
  obtain ⟨digits, hnonempty, hdigits, rfl, htext⟩ := h
  have hread := readDigits_of_digits hdigits hbound
  obtain ⟨first, rest, rfl⟩ := List.exists_cons_of_ne_nil hnonempty
  rcases htext with hplain | hsigned
  · have hfirst : first ≠ '+' := by
      rintro rfl
      exact absurd (hdigits '+' List.mem_cons_self) (by decide)
    rw [read, hplain]
    split
    · rename_i hnone
      cases hnone
    · rename_i hplus
      exact absurd (List.cons.inj hplus).1 hfirst
    · rename_i hplus
      exact absurd (List.cons.inj hplus).1 hfirst
    · exact hread
  · rw [read, hsigned]
    exact hread

end Decimal

namespace Permission

/-- The text is the name of the tier, in letters of either case, and with a hyphen or an
    underscore. -/
def SpelledAs (tier : Permission) (text : String) : Prop :=
  List.Forall₂ (fun written meant => written.toUpper = meant ∨ written = '-' ∧ meant = '_')
    text.toList tier.name.toList

/-- The character that a written one counts as. -/
theorem canonical_eq_iff {written meant : Char} (h : meant ≠ '-') :
    (if written = '-' then '_' else written.toUpper) = meant ↔
      written.toUpper = meant ∨ written = '-' ∧ meant = '_' := by
  by_cases hhyphen : written = '-'
  · subst hhyphen
    have hupper : '-'.toUpper ≠ meant := fun heq => h (heq.symm.trans (by decide))
    simp only [if_true, true_and, hupper, false_or]
    exact eq_comm
  · simp only [hhyphen, if_false, false_and, or_false]

theorem spelledAs_iff {tier : Permission} {text : String} :
    tier.SpelledAs text ↔
      text.toList.map (fun c => if c = '-' then '_' else c.toUpper) = tier.name.toList := by
  have hhyphen : '-' ∉ tier.name.toList := by cases tier <;> decide
  rw [SpelledAs, ← List.forall₂_eq_eq_eq, List.forall₂_map_left_iff]
  generalize tier.name.toList = name at hhyphen ⊢
  generalize text.toList = written
  induction written generalizing name with
  | nil => cases name <;> simp
  | cons first rest ih =>
    cases name with
    | nil => simp
    | cons meant name =>
      rw [List.mem_cons, not_or] at hhyphen
      rw [List.forall₂_cons, List.forall₂_cons, canonical_eq_iff (Ne.symm hhyphen.1)]
      exact and_congr_right fun _ => ih name hhyphen.2

/-- **A tier is known by its name** in any spelling, and by nothing else. -/
theorem parse_eq_ok_iff {tier : Permission} {text : String} :
    parse text = .ok tier ↔ tier.SpelledAs text := by
  rw [spelledAs_iff, parse]
  constructor
  · intro h
    split at h
    · rename_i found hfound
      cases h
      have hname := List.find?_some hfound
      exact (eq_of_beq hname).symm
    · cases h
  · intro h
    rw [h]
    cases tier <;> rfl

end Permission

namespace CommandLine

/-! ## 2. Options -/

/-- An option as it is typed: its name, and the value behind it. -/
structure Typed where
  name : String
  value : Option String
  deriving DecidableEq, Repr

namespace Typed

/-- The arguments that it consists of. -/
def arguments (typed : Typed) : List String := typed.name :: typed.value.toList

/-- What an option says: that a switch is on, or which value a setting has. -/
inductive Says : Typed → Entry → Prop where
  | on {name : String} {switch : Switch} (h : Switch.ofSpelling? name = some switch) :
    Says ⟨name, none⟩ (.on switch)
  | value {name text : String} {setting : Setting} {value : setting.Value}
    (hno : Switch.ofSpelling? name = none) (h : Setting.ofSpelling? name = some setting)
    (hread : setting.read text = .ok value) : Says ⟨name, some text⟩ (.value setting value)

/-- The long form of a name, for those that have a short one. -/
def longName : String → String
  | "-v" => "--debug"
  | "-i" => "--host"
  | "-p" => "--port"
  | "-u" => "--username"
  | name => name

/-- The option with its name in the long form. -/
def long (typed : Typed) : Typed := { typed with name := longName typed.name }

theorem switch_longName (name : String) :
    Switch.ofSpelling? (longName name) = Switch.ofSpelling? name := by
  unfold longName
  split <;> rfl

theorem setting_longName (name : String) :
    Setting.ofSpelling? (longName name) = Setting.ofSpelling? name := by
  unfold longName
  split <;> rfl

/-- The short form says what the long form says. -/
theorem Says.of_long {typed : Typed} {entry : Entry} (h : Says typed.long entry) :
    Says typed entry := by
  obtain ⟨name, value⟩ := typed
  cases h with
  | on h => exact .on (by rwa [switch_longName] at h)
  | value hno h hread =>
    rw [switch_longName] at hno
    rw [setting_longName] at h
    exact .value hno h hread

end Typed

/-- The name of an option is neither a call for help, nor the end of the options, nor something that
    is no option. -/
structure IsOption (name : String) : Prop where
  noHelp : asksForHelp name = false
  noEnd : name ≠ "--"
  dashed : looksLikeOption name = true

theorem isOption_of_switch {name : String} {switch : Switch}
    (h : Switch.ofSpelling? name = some switch) : IsOption name := by
  unfold Switch.ofSpelling? at h
  split at h <;> first | exact ⟨by decide, by decide, by decide⟩ | cases h

theorem isOption_of_setting {name : String} {setting : Setting}
    (h : Setting.ofSpelling? name = some setting) : IsOption name := by
  unfold Setting.ofSpelling? at h
  split at h <;> first | exact ⟨by decide, by decide, by decide⟩ | cases h

section Reading

variable {draft : Draft}

theorem read_switch {name : String} {switch : Switch} (h : Switch.ofSpelling? name = some switch)
    (rest : List String) :
    read draft false (name :: rest) = read (draft.turnOn switch) false rest := by
  obtain ⟨hhelp, hend, hdash⟩ := isOption_of_switch h
  rw [read.eq_def]
  simp [hhelp, hend, hdash, h]

theorem read_setting {name text : String} {setting : Setting} {after : Draft}
    (hno : Switch.ofSpelling? name = none) (h : Setting.ofSpelling? name = some setting)
    (hset : draft.set setting text = .ok after) (rest : List String) :
    read draft false (name :: text :: rest) = read after false rest := by
  obtain ⟨hhelp, hend, hdash⟩ := isOption_of_setting h
  rw [read.eq_def]
  simp [hhelp, hend, hdash, hno, h, hset]

/-- **An option that says something new adds what it says**, and reading goes on behind its
    value. -/
theorem read_option {typed : Typed} {entry : Entry} (h : typed.Says entry)
    (hlacks : draft.Lacks entry.key) (rest : List String) :
    read draft false (typed.arguments ++ rest) = read (draft.enter entry) false rest := by
  cases h with
  | on h => exact read_switch h rest
  | value hno h hread =>
    exact read_setting hno h (Draft.set_of_read (Draft.value?_of_lacks hlacks) hread) rest

/-- **Options that say different things are all read**: what is held then is what they say, and what
    was held before. -/
theorem exists_read {typed : List Typed} {entries : List Entry}
    (h : List.Forall₂ Typed.Says typed entries) (hdistinct : (entries.map Entry.key).Nodup)
    (hlacks : ∀ entry ∈ entries, draft.Lacks entry.key) :
    ∃ after, read draft false (typed.flatMap Typed.arguments) = .ok (after, false) ∧
      ∀ entry, after.Holds entry ↔ entry ∈ entries ∨ draft.Holds entry := by
  induction h generalizing draft with
  | nil => exact ⟨draft, rfl, fun entry => by simp⟩
  | @cons option entry later entries hsays _ ih =>
    rw [List.map_cons, List.nodup_cons] at hdistinct
    obtain ⟨hnew, hdistinct⟩ := hdistinct
    have hfirst := hlacks entry List.mem_cons_self
    have hstill : ∀ next ∈ entries, (draft.enter entry).Lacks next.key := by
      intro next hnext held hheld
      rcases (Draft.holds_enter hfirst held).mp hheld with rfl | hbefore
      · intro hkey
        exact hnew (hkey ▸ List.mem_map_of_mem hnext)
      · exact hlacks next (List.mem_cons_of_mem entry hnext) held hbefore
    obtain ⟨after, hread, hholds⟩ := ih hdistinct hstill
    refine ⟨after, ?_, ?_⟩
    · rw [List.flatMap_cons, read_option hsays hfirst, hread]
    · intro held
      rw [hholds, Draft.holds_enter hfirst, List.mem_cons]
      tauto

end Reading

end CommandLine

end RemoteFiles
