import RemoteFiles.Proofs.Shell.Turn

/-!
# Whole runs of the shell

A run is the lines that are executed, each from where the one before has ended. `history` lists them
as `Turn`s. What the whole run does to connection and session follows from the turns by induction on
the lines; the step is `dealt_report`.

* `threaded_history` -- requests, replies and session ids go through a run as the turns say;
* `runLines_append` -- behind a line that ends the shell nothing is executed;
* `run_threads` -- both, for a whole script, with the lines that hand over nothing.
-/

namespace RemoteFiles

/-- A line that is executed, with the shell before and after it. -/
structure Turn where
  line : String
  before : Shell
  after : Shell

/-- What the line hands over, and what comes back for it. -/
def Turn.deal (turn : Turn) : Deal := Shell.deal turn.line turn.before

/-- The line makes the shell leave. -/
def Turn.Ends (turn : Turn) : Prop := Shell.Ends turn.line turn.before

namespace Shell

/-! ## 1. The lines that are executed -/

/-- The shell with the prompt shown. -/
def prompted (shell : Shell) : Shell :=
  { shell with client.console := shell.client.console ++ prompt }

/-- The lines that a run executes, in order. -/
def history : List Bytes → Shell → List Turn
  | [], _ => []
  | line :: later, shell =>
    match Utf8.decode? line with
    | none => []
    | some text =>
      match report text (prompted shell) with
      | .ok .goOn after => ⟨text, prompted shell, after⟩ :: history later after
      | .ok .exit after => [⟨text, prompted shell, after⟩]
      | .error _ _ => []

theorem keeps_prompted (shell : Shell) : Keeps shell (prompted shell) := ⟨rfl, rfl⟩

section Equations

variable {line : Bytes} {later : List Bytes} {shell after : Shell} {text : String}

theorem runLines_of_not_text (h : Utf8.decode? line = none) :
    runLines (line :: later) shell = .error .inputNotText (prompted shell) := by
  show (match Utf8.decode? line with | none => _ | some line => _ : ShellM Unit) _ = _
  rw [h]
  rfl

theorem runLines_of_goOn (h : Utf8.decode? line = some text)
    (hreport : report text (prompted shell) = .ok .goOn after) :
    runLines (line :: later) shell = runLines later after := by
  show (match Utf8.decode? line with | none => _ | some line => _ : ShellM Unit) _ = _
  rw [h]
  exact Step.bind_of_ok hreport _

theorem runLines_of_exit (h : Utf8.decode? line = some text)
    (hreport : report text (prompted shell) = .ok .exit after) :
    runLines (line :: later) shell = .ok () after := by
  show (match Utf8.decode? line with | none => _ | some line => _ : ShellM Unit) _ = _
  rw [h]
  exact Step.bind_of_ok hreport _

theorem history_of_not_text (h : Utf8.decode? line = none) :
    history (line :: later) shell = [] := by
  rw [history, h]

theorem history_of_goOn (h : Utf8.decode? line = some text)
    (hreport : report text (prompted shell) = .ok .goOn after) :
    history (line :: later) shell = ⟨text, prompted shell, after⟩ :: history later after := by
  rw [history, h]
  simp only [hreport]

theorem history_of_exit (h : Utf8.decode? line = some text)
    (hreport : report text (prompted shell) = .ok .exit after) :
    history (line :: later) shell = [⟨text, prompted shell, after⟩] := by
  rw [history, h]
  simp only [hreport]

end Equations

/-! ## 2. Threading -/

/-- Requests, replies and session ids go through the turns. -/
structure Threaded (turns : List Turn) (before after : Shell) : Prop where
  requests : after.link.requests =
    before.link.requests ++ turns.filterMap fun turn => turn.deal.request?
  replies : ∃ taken, before.link.replies = taken ++ after.link.replies ∧
    taken.filterMap Except.toOption = turns.filterMap fun turn => turn.deal.reply?
  session : after.session =
    { before.session with id := lastId before.session.id (turns.map Turn.deal) }
  carried : ∀ earlier turn later request, turns = earlier ++ turn :: later →
    turn.deal.request? = some request →
    request.session =
      { before.session with id := lastId before.session.id (earlier.map Turn.deal) }

theorem threaded_nil {before after : Shell} (h : Keeps before after) :
    Threaded [] before after where
  requests := by rw [h.link]; exact (List.append_nil _).symm
  replies := ⟨[], by rw [h.link]; rfl, rfl⟩
  session := h.session
  carried earlier turn later request hturns _ := by
    cases earlier <;> cases hturns

theorem filterMap_cons_eq_toList_append {α β : Type} (f : α → Option β) (a : α) (rest : List α) :
    (a :: rest).filterMap f = (f a).toList ++ rest.filterMap f := by
  cases h : f a <;> simp [h]

/-- **One turn more**: what has been threaded through it goes on from there. -/
theorem Threaded.cons {turn : Turn} {turns : List Turn} {before between after : Shell}
    (h : Dealt turn.deal before between) (hlater : Threaded turns between after) :
    Threaded (turn :: turns) before after where
  requests := by
    rw [hlater.requests, h.requests, filterMap_cons_eq_toList_append, List.append_assoc]
  replies := by
    obtain ⟨first, hfirst, hcame⟩ := h.replies
    obtain ⟨rest, hrest, hcame'⟩ := hlater.replies
    refine ⟨first ++ rest, ?_, ?_⟩
    · rw [hfirst, hrest, List.append_assoc]
    · rw [List.filterMap_append, hcame, hcame', filterMap_cons_eq_toList_append]
  session := by
    rw [hlater.session, h.session, List.map_cons, lastId_cons _ _ (turns.map Turn.deal)]
  carried earlier this later request hturns hrequest := by
    cases earlier with
    | nil =>
      cases hturns
      exact h.carried request hrequest
    | cons first earlier =>
      obtain ⟨rfl, htail⟩ := List.cons.inj hturns
      rw [hlater.carried earlier this later request htail hrequest, h.session, List.map_cons,
        lastId_cons _ _ (earlier.map Turn.deal)]

/-- **The run lemma**: requests, replies and session ids go through a run as its turns say. -/
theorem threaded_history (lines : List Bytes) (shell : Shell) :
    Threaded (history lines shell) shell (Step.stateAfter (runLines lines shell)) := by
  induction lines generalizing shell with
  | nil => exact threaded_nil (quiet_onClient _ shell)
  | cons line later ih =>
    cases htext : Utf8.decode? line with
    | none =>
      rw [runLines_of_not_text htext, history_of_not_text htext]
      exact threaded_nil (keeps_prompted shell)
    | some text =>
      obtain ⟨flow, after, hreport, -⟩ := report_eq text (prompted shell)
      have hdealt : Dealt (deal text (prompted shell)) shell after :=
        (dealt_report hreport).before_eq (keeps_prompted shell)
      cases flow with
      | goOn =>
        rw [runLines_of_goOn htext hreport, history_of_goOn htext hreport]
        exact Threaded.cons hdealt (ih after)
      | exit =>
        rw [runLines_of_exit htext hreport, history_of_exit htext hreport]
        exact Threaded.cons hdealt (threaded_nil (Keeps.refl after))

/-! ## 3. The end of a run -/

/-- **Behind a line that ends the shell nothing is executed**: further lines make no difference. -/
theorem runLines_append {lines : List Bytes} {shell : Shell}
    (h : ∃ turn ∈ history lines shell, turn.Ends) (later : List Bytes) :
    runLines (lines ++ later) shell = runLines lines shell ∧
      history (lines ++ later) shell = history lines shell := by
  induction lines generalizing shell with
  | nil =>
    obtain ⟨turn, hturn, -⟩ := h
    cases hturn
  | cons line lines ih =>
    rw [List.cons_append]
    obtain ⟨turn, hturn, hends⟩ := h
    cases htext : Utf8.decode? line with
    | none =>
      rw [history_of_not_text htext] at hturn
      cases hturn
    | some text =>
      obtain ⟨flow, after, hreport, -⟩ := report_eq text (prompted shell)
      cases flow with
      | goOn =>
        rw [history_of_goOn htext hreport] at hturn
        have hlater : turn ∈ history lines after := by
          rcases List.mem_cons.mp hturn with rfl | hlater
          · exact absurd hends (not_ends_of_goOn hreport)
          · exact hlater
        obtain ⟨hrun, hhistory⟩ := ih ⟨turn, hlater, hends⟩
        rw [runLines_of_goOn htext hreport, runLines_of_goOn htext hreport,
          history_of_goOn htext hreport, history_of_goOn htext hreport, hrun, hhistory]
        exact ⟨rfl, rfl⟩
      | exit =>
        rw [runLines_of_exit htext hreport, runLines_of_exit htext hreport,
          history_of_exit htext hreport, history_of_exit htext hreport]
        exact ⟨rfl, rfl⟩

/-! ## 4. Scripts -/

/-- What holds of the turns of a run: which hand over nothing, and which is the last. -/
structure WellTurned (turns : List Turn) : Prop where
  /-- The silent lines hand over nothing, and leave connection and session as they are. -/
  silent : ∀ turn ∈ turns, Silent turn.before.client.disk (Text.words turn.line) →
    turn.deal = .nothing ∧ turn.after.link = turn.before.link ∧
      turn.after.session = turn.before.session
  /-- All others hand over a request. -/
  asks : ∀ turn ∈ turns, ¬ Silent turn.before.client.disk (Text.words turn.line) →
    turn.deal.request?.isSome = true
  /-- A line that ends the shell is the last one. -/
  last : ∀ earlier turn later, turns = earlier ++ turn :: later → turn.Ends → later = []

theorem wellTurned_nil : WellTurned [] where
  silent _ hturn := by cases hturn
  asks _ hturn := by cases hturn
  last earlier _ _ hturns := by cases earlier <;> cases hturns

theorem WellTurned.cons {turn : Turn} {turns : List Turn}
    (hreport : ∃ flow, report turn.line turn.before = .ok flow turn.after)
    (hlast : turn.Ends → turns = []) (h : WellTurned turns) : WellTurned (turn :: turns) where
  silent := by
    intro this hthis hsilent
    rcases List.mem_cons.mp hthis with rfl | hlater
    · obtain ⟨flow, hreport⟩ := hreport
      have hnothing : this.deal = .nothing := deal_eq_nothing_iff.mpr hsilent
      have hkeeps := keeps_of_nothing hnothing hreport
      exact ⟨hnothing, hkeeps.link, hkeeps.session⟩
    · exact h.silent this hlater hsilent
  asks := by
    intro this hthis hasks
    rcases List.mem_cons.mp hthis with rfl | hlater
    · cases hdeal : this.deal with
      | nothing => exact absurd (deal_eq_nothing_iff.mp hdeal) hasks
      | unanswered request => rfl
      | answered request reply => rfl
    · exact h.asks this hlater hasks
  last := by
    intro earlier this later hturns hends
    cases earlier with
    | nil =>
      cases hturns
      exact hlast hends
    | cons first earlier =>
      obtain ⟨rfl, htail⟩ := List.cons.inj hturns
      exact h.last earlier this later htail hends

theorem wellTurned_history (lines : List Bytes) (shell : Shell) :
    WellTurned (history lines shell) := by
  induction lines generalizing shell with
  | nil => exact wellTurned_nil
  | cons line later ih =>
    cases htext : Utf8.decode? line with
    | none =>
      rw [history_of_not_text htext]
      exact wellTurned_nil
    | some text =>
      obtain ⟨flow, after, hreport, -⟩ := report_eq text (prompted shell)
      cases flow with
      | goOn =>
        rw [history_of_goOn htext hreport]
        exact WellTurned.cons ⟨_, hreport⟩
          (fun hends => absurd hends (not_ends_of_goOn hreport)) (ih after)
      | exit =>
        rw [history_of_exit htext hreport]
        exact WellTurned.cons ⟨_, hreport⟩ (fun _ => rfl) wellTurned_nil

/-- **Sessions are threaded through every run.** Each request that is handed over carries the
    session, with the id of the last reply before it that was read as a response; and so does the
    session when the run is over. Silent lines touch neither connection nor session. Behind a line
    that ends the shell nothing is executed, whatever the script goes on with. -/
theorem run_threads (script : Bytes) (shell : Shell) :
    Threaded (history (linesOf script) shell) shell (Step.stateAfter (run script shell)) ∧
      WellTurned (history (linesOf script) shell) ∧
      ∀ front back, linesOf script = front ++ back →
        (∃ turn ∈ history front shell, turn.Ends) →
          run script shell = runLines front shell ∧
            history (linesOf script) shell = history front shell := by
  refine ⟨threaded_history _ shell, wellTurned_history _ shell, ?_⟩
  intro front back hlines hends
  rw [run, hlines]
  exact runLines_append hends back

end Shell

end RemoteFiles
