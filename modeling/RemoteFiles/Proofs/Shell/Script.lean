import RemoteFiles.Proofs.Shell.Run
import RemoteFiles.Proofs.Text.Separator

/-!
# Scripts that are gone through

A run is meant to go through the whole script, whatever goes wrong with a line: what a command
fails of is shown, and the next line is run. `GoesThrough` says so line by line, without the loop.
The loop keeps to it but for one thing: a line is read before its command is run, and a line that is
no text ends the run where it stands.

* `madeOf_linesOf` -- the lines are the whole script, the last one also without a line feed;
* `goesThrough_of_runLines`, `runLines_cases` -- a run that does not fail has gone through its
  lines, and there is one way to fail;
* `run_goesThrough_iff` -- a script is gone through exactly if all lines that are reached are text.
-/

namespace RemoteFiles

namespace Shell

/-! ## 1. The lines of a script -/

/-- The lines that a script is made of. A line feed ends each of them but for the last, which may
    also end with the script, unless it is empty. -/
structure MadeOf (script : Bytes) (lines : List Bytes) : Prop where
  unbroken : ∀ line ∈ lines, 0x0A ∉ line
  whole : (lines.flatMap fun line => line ++ [0x0A]) = script ∨
    ((lines.flatMap fun line => line ++ [0x0A]) = script ++ [0x0A] ∧ lines.getLast? ≠ some [])

/-- **Every byte of a script is in one of its lines**, or ends one. -/
theorem madeOf_linesOf (script : Bytes) : MadeOf script (linesOf script) := by
  have hwhole := flatMap_splitOn_concat (0x0A : UInt8) script
  unfold linesOf
  by_cases hlast : (script.splitOn 0x0A).getLast? = some []
  · obtain ⟨front, hfront⟩ := List.getLast?_eq_some_iff.mp hlast
    simp only [if_pos hlast]
    refine ⟨fun line hmem => not_mem_of_mem_splitOn ((List.dropLast_sublist _).mem hmem), .inl ?_⟩
    rw [hfront, List.flatMap_append] at hwhole
    rw [hfront, List.dropLast_concat]
    exact List.append_cancel_right hwhole
  · simp only [if_neg hlast]
    exact ⟨fun line hmem => not_mem_of_mem_splitOn hmem, .inr ⟨hwhole, hlast⟩⟩

/-! ## 2. Going through the lines -/

/-- What a line does: its command is run, and if the command fails, the failure is shown. -/
inductive Runs (text : String) (before : Shell) : Shell → Prop
  | done {flow : Flow} {after : Shell} (h : command text before = .ok flow after) :
    Runs text before after
  | failed {failure : Failure} {told : Shell} (h : command text before = .error failure told) :
    Runs text before
      { told with client.console := told.client.console ++ ("[!] " ++ failure.message ++ "\n") }

/-- Lines are gone through: each is run from where the one before has ended, up to the first that
    makes the shell leave, or else up to the last. -/
inductive GoesThrough : List Bytes → Shell → Shell → Prop
  | over (shell : Shell) :
    GoesThrough [] shell
      { shell with client.console := shell.client.console ++ (prompt ++ "\n") }
  | goOn {line : Bytes} {later : List Bytes} {shell after last : Shell} {text : String}
    (htext : Utf8.encode text = line) (hruns : Runs text (prompted shell) after)
    (hstays : ¬ Ends text (prompted shell)) (hlater : GoesThrough later after last) :
    GoesThrough (line :: later) shell last
  | leave {line : Bytes} {later : List Bytes} {shell after : Shell} {text : String}
    (htext : Utf8.encode text = line) (hruns : Runs text (prompted shell) after)
    (hends : Ends text (prompted shell)) : GoesThrough (line :: later) shell after

theorem runs_of_report {text : String} {before after : Shell} {flow : Flow}
    (h : report text before = .ok flow after) : Runs text before after := by
  unfold report at h
  cases hcommand : command text before with
  | ok flow told =>
    rw [hcommand] at h
    cases h
    exact .done hcommand
  | error failure told =>
    rw [hcommand] at h
    cases h
    exact .failed hcommand

/-- A run that does not fail has gone through its lines. -/
theorem goesThrough_of_runLines {lines : List Bytes} {shell last : Shell}
    (h : runLines lines shell = .ok () last) : GoesThrough lines shell last := by
  induction lines generalizing shell with
  | nil =>
    cases h
    exact .over shell
  | cons line later ih =>
    cases htext : Utf8.decode? line with
    | none =>
      rw [runLines_of_not_text htext] at h
      cases h
    | some text =>
      have hencode := Utf8.decode?_eq_some_iff.mp htext
      obtain ⟨flow, after, hreport, -⟩ := report_eq text (prompted shell)
      cases flow with
      | goOn =>
        rw [runLines_of_goOn htext hreport] at h
        exact .goOn hencode (runs_of_report hreport) (not_ends_of_goOn hreport) (ih h)
      | exit =>
        rw [runLines_of_exit htext hreport] at h
        cases h
        exact .leave hencode (runs_of_report hreport) (ends_of_report hreport)

/-- **A run fails in one way only.** -/
theorem runLines_cases (lines : List Bytes) (shell : Shell) :
    (∃ last, runLines lines shell = .ok () last) ∨
      ∃ last, runLines lines shell = .error .inputNotText last := by
  induction lines generalizing shell with
  | nil => exact .inl ⟨_, rfl⟩
  | cons line later ih =>
    cases htext : Utf8.decode? line with
    | none => exact .inr ⟨_, runLines_of_not_text htext⟩
    | some text =>
      obtain ⟨flow, after, hreport, -⟩ := report_eq text (prompted shell)
      cases flow with
      | goOn =>
        rw [runLines_of_goOn htext hreport]
        exact ih after
      | exit => exact .inl ⟨_, runLines_of_exit htext hreport⟩

/-! ## 3. The lines that are reached -/

/-- The line behind some others is reached: none of them makes the shell leave. -/
def Reached (front : List Bytes) (shell : Shell) : Prop :=
  ∀ turn ∈ history front shell, ¬ turn.Ends

theorem reached_nil (shell : Shell) : Reached [] shell := by
  intro turn hturn
  cases hturn

section Reached

variable {line : Bytes} {front : List Bytes} {shell after : Shell} {text : String}

theorem reached_cons_of_goOn (h : Utf8.decode? line = some text)
    (hreport : report text (prompted shell) = .ok .goOn after) :
    Reached (line :: front) shell ↔ Reached front after := by
  rw [Reached, history_of_goOn h hreport, List.forall_mem_cons]
  exact and_iff_right (not_ends_of_goOn hreport)

theorem not_reached_cons_of_exit (h : Utf8.decode? line = some text)
    (hreport : report text (prompted shell) = .ok .exit after) :
    ¬ Reached (line :: front) shell := by
  rw [Reached, history_of_exit h hreport]
  intro hstays
  exact hstays _ (List.mem_singleton_self _) (ends_of_report hreport)

end Reached

/-- All lines that are reached are text. -/
def Readable (lines : List Bytes) (shell : Shell) : Prop :=
  ∀ front line back, lines = front ++ line :: back → Reached front shell →
    ByteArray.IsValidUTF8 line.toByteArray

theorem readable_cons_iff {line : Bytes} {later : List Bytes} {shell : Shell} :
    Readable (line :: later) shell ↔
      ByteArray.IsValidUTF8 line.toByteArray ∧
        ∀ front found back, later = front ++ found :: back → Reached (line :: front) shell →
          ByteArray.IsValidUTF8 found.toByteArray := by
  constructor
  · intro h
    refine ⟨h [] line later rfl (reached_nil shell), fun front found back hlater => ?_⟩
    exact h (line :: front) found back (by rw [hlater, List.cons_append])
  · rintro ⟨hline, hlater⟩ front found back hlines hreached
    cases front with
    | nil =>
      cases hlines
      exact hline
    | cons first front =>
      obtain ⟨rfl, hrest⟩ := List.cons.inj hlines
      exact hlater front found back hrest hreached

/-- **A run does not fail exactly if all lines that it reaches are text.** -/
theorem runLines_ok_iff {lines : List Bytes} {shell : Shell} :
    (∃ last, runLines lines shell = .ok () last) ↔ Readable lines shell := by
  induction lines generalizing shell with
  | nil =>
    refine ⟨fun _ front line back hlines => ?_, fun _ => ⟨_, rfl⟩⟩
    cases front <;> cases hlines
  | cons line later ih =>
    rw [readable_cons_iff, ← Utf8.decode?_isSome_iff]
    cases htext : Utf8.decode? line with
    | none => simp [runLines_of_not_text htext]
    | some text =>
      obtain ⟨flow, after, hreport, -⟩ := report_eq text (prompted shell)
      cases flow with
      | goOn =>
        rw [runLines_of_goOn htext hreport, ih]
        simp only [reached_cons_of_goOn htext hreport, Option.isSome_some, true_and]
        exact Iff.rfl
      | exit =>
        simp [runLines_of_exit htext hreport, not_reached_cons_of_exit htext hreport]

/-- **A script is gone through to its end, or up to the line that makes the shell leave, exactly if
    all lines up to there are text.** Nothing else that goes wrong ends it early. -/
theorem run_goesThrough_iff (script : Bytes) (shell : Shell) :
    MadeOf script (linesOf script) ∧
      ((∃ last, run script shell = .ok () last) ∨
        ∃ last, run script shell = .error .inputNotText last) ∧
      ((∃ last, run script shell = .ok () last ∧ GoesThrough (linesOf script) shell last) ↔
        Readable (linesOf script) shell) := by
  refine ⟨madeOf_linesOf script, runLines_cases _ shell, ?_⟩
  rw [← runLines_ok_iff]
  constructor
  · rintro ⟨last, hrun, -⟩
    exact ⟨last, hrun⟩
  · rintro ⟨last, hrun⟩
    exact ⟨last, hrun, goesThrough_of_runLines hrun⟩

/-- Behind a line that is no text the directory `d` is not created: the run ends at the prompt. -/
theorem run_not_text :
    linesOf [0xFF, 0x0A, 0x6C, 0x5F, 0x6D, 0x6B, 0x64, 0x69, 0x72, 0x20, 0x64, 0x0A] =
        [[0xFF], [0x6C, 0x5F, 0x6D, 0x6B, 0x64, 0x69, 0x72, 0x20, 0x64]] ∧
      ∃ last,
        run [0xFF, 0x0A, 0x6C, 0x5F, 0x6D, 0x6B, 0x64, 0x69, 0x72, 0x20, 0x64, 0x0A]
          ⟨⟨⟨[], [], []⟩, "", []⟩, ⟨"host", 4000, "ann", ⟨"secret"⟩, 5⟩, .fresh []⟩ =
            .error .inputNotText last ∧
          last.client.disk = ⟨[], [], []⟩ := by
  have hlines :
      linesOf [0xFF, 0x0A, 0x6C, 0x5F, 0x6D, 0x6B, 0x64, 0x69, 0x72, 0x20, 0x64, 0x0A] =
        [[0xFF], [0x6C, 0x5F, 0x6D, 0x6B, 0x64, 0x69, 0x72, 0x20, 0x64]] := by decide +kernel
  rw [run, hlines]
  exact ⟨rfl, _, runLines_of_not_text (by decide +kernel), rfl⟩

end Shell

end RemoteFiles
