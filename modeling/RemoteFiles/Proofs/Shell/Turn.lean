import RemoteFiles.Proofs.Built
import RemoteFiles.Proofs.Shell.Steps

/-!
# One line of the shell

What a line does to connection and session is said by its `Deal`: nothing is handed over, or a
request that stays unanswered, or a request that a reply comes back for. The deal is what the parts
of the command do, one after the other; `Dealt` says what follows from it, whatever else goes wrong.

* `dealt_report` -- the step lemma: requests and replies go through the connection as the deal says,
  and the session takes the id of a reply that has been read;
* `Silent`, `deal_eq_nothing_iff` -- the lines that hand over nothing, by what they say;
* `report_of_ends`, `ends_of_report` -- what makes the shell leave, and nothing else does.
-/

namespace RemoteFiles

/-- What a line hands over, and what comes back for it. -/
inductive Deal where
  | nothing
  | unanswered (request : Request)
  | answered (request : Request) (reply : Bytes)

namespace Deal

/-- The request that has been handed over. -/
def request? : Deal → Option Request
  | nothing => none
  | unanswered request | answered request _ => some request

/-- The reply that has come back. -/
def reply? : Deal → Option Bytes
  | answered _ reply => some reply
  | _ => none

/-- The response that the reply is, if it can be read as one. The client accepts no others
    (`Response.parse_of_read_ok`, `Response.parse_of_read_error`). -/
def accepted? : Deal → Option Response
  | answered request reply => (Response.read request reply).toOption
  | _ => none

end Deal

namespace Shell

/-- What a line hands over: it begins, and if it asks for something, that is exchanged. -/
def deal (line : String) (shell : Shell) : Deal :=
  match begin line shell with
  | .ok (.asks request) told =>
    match exchange request told with
    | .ok reply _ => .answered request reply
    | .error _ _ => .unanswered request
  | _ => .nothing

theorem deal_of_unanswered {line : String} {shell told after : Shell} {request : Request}
    {failure : Failure} (hbegin : begin line shell = .ok (.asks request) told)
    (hexchange : exchange request told = .error failure after) :
    deal line shell = .unanswered request := by
  simp only [deal, hbegin, hexchange]

theorem deal_of_answered {line : String} {shell told after : Shell} {request : Request}
    {reply : Bytes} (hbegin : begin line shell = .ok (.asks request) told)
    (hexchange : exchange request told = .ok reply after) :
    deal line shell = .answered request reply := by
  simp only [deal, hbegin, hexchange]

theorem deal_of_not_asks {line : String} {shell : Shell}
    (h : ∀ request told, begin line shell ≠ .ok (.asks request) told) :
    deal line shell = .nothing := by
  unfold deal
  split
  · rename_i request told hbegin
    exact absurd hbegin (h request told)
  · rfl

theorem deal_ne_nothing {line : String} {shell told : Shell} {request : Request}
    (hbegin : begin line shell = .ok (.asks request) told) : deal line shell ≠ .nothing := by
  intro h
  cases hexchange : exchange request told with
  | ok reply after =>
    rw [deal_of_answered hbegin hexchange] at h
    cases h
  | error failure after =>
    rw [deal_of_unanswered hbegin hexchange] at h
    cases h

/-! ## 1. What a deal does -/

/-- The session id after some deals: that of the last response that was read, and the first id if
    there was none. -/
def lastId (id : UInt32) (deals : List Deal) : UInt32 :=
  ((deals.filterMap Deal.accepted?).getLast?.map fun response => response.header.session).getD id

theorem lastId_cons (id : UInt32) (deal : Deal) (later : List Deal) :
    lastId id (deal :: later) = lastId (lastId id [deal]) later := by
  unfold lastId
  cases h : deal.accepted? with
  | none => simp [h]
  | some response =>
    simp only [List.filterMap_cons, h, List.filterMap_nil, List.getLast?_singleton]
    cases later.filterMap Deal.accepted? with
    | nil => rfl
    | cons first rest =>
      rw [List.getLast?_cons_cons, List.getLast?_eq_some_getLast (List.cons_ne_nil first rest)]
      rfl

/-- What a deal does to the shell. -/
structure Dealt (deal : Deal) (before after : Shell) : Prop where
  requests : after.link.requests = before.link.requests ++ deal.request?.toList
  replies : ∃ taken, before.link.replies = taken ++ after.link.replies ∧
    taken.filterMap Except.toOption = deal.reply?.toList
  session : after.session = { before.session with id := lastId before.session.id [deal] }
  carried : ∀ request, deal.request? = some request → request.session = before.session

theorem dealt_nothing {before after : Shell} (h : Keeps before after) :
    Dealt .nothing before after where
  requests := by rw [h.link]; exact (List.append_nil _).symm
  replies := ⟨[], by rw [h.link]; rfl, rfl⟩
  session := h.session
  carried _ hrequest := by cases hrequest

theorem Dealt.before_eq {deal : Deal} {first before after : Shell} (h : Dealt deal before after)
    (hkeeps : Keeps first before) : Dealt deal first after := by
  obtain ⟨hrequests, hreplies, hsession, hcarried⟩ := h
  rw [hkeeps.link] at hrequests hreplies
  rw [hkeeps.session] at hsession hcarried
  exact ⟨hrequests, hreplies, hsession, hcarried⟩

theorem Dealt.after_eq {deal : Deal} {before after last : Shell} (h : Dealt deal before after)
    (hkeeps : Keeps after last) : Dealt deal before last := by
  obtain ⟨hrequests, hreplies, hsession, hcarried⟩ := h
  rw [← hkeeps.link] at hrequests hreplies
  rw [← hkeeps.session] at hsession
  exact ⟨hrequests, hreplies, hsession, hcarried⟩

/-- What settling does to the session. -/
theorem settled (request : Request) (reply : Bytes) (shell : Shell) :
    (Step.stateAfter (settle request reply shell)).link = shell.link ∧
      (Step.stateAfter (settle request reply shell)).session =
        { shell.session with id := lastId shell.session.id [.answered request reply] } := by
  cases h : Response.read request reply with
  | error rejection =>
    obtain ⟨after, hsettle, hkeeps⟩ := settle_of_rejected h shell
    rw [hsettle]
    refine ⟨hkeeps.link, hkeeps.session.trans ?_⟩
    simp [lastId, Deal.accepted?, h, Except.toOption]
  | ok response =>
    obtain ⟨renewed, hsettle, hlink, hsession⟩ := settle_of_accepted h shell
    have hkeeps := quiet_conclude response { shell.session with id := response.header.session }
      renewed
    rw [hsettle]
    refine ⟨hkeeps.link.trans hlink, (hkeeps.session.trans hsession).trans ?_⟩
    simp [lastId, Deal.accepted?, h, Except.toOption]

/-- A line that asks for nothing is done when it has begun. -/
theorem keeps_command {line : String} {shell : Shell}
    (h : ∀ request told, begin line shell ≠ .ok (.asks request) told) :
    Keeps shell (Step.stateAfter (command line shell)) := by
  have hbegun := quiet_begin line shell
  cases hbegin : begin line shell with
  | error failure told =>
    have hcommand : command line shell = .error failure told := Step.bind_of_error hbegin _
    rw [hbegin] at hbegun
    rw [hcommand]
    exact hbegun
  | ok begun told =>
    cases begun with
    | done flow =>
      have hcommand : command line shell = .ok flow told := Step.bind_of_ok hbegin _
      rw [hbegin] at hbegun
      rw [hcommand]
      exact hbegun
    | asks request => exact absurd hbegin (h request told)

/-- **The step lemma**: whatever a line says and whatever comes back, its deal is what it does to
    connection and session. -/
theorem dealt_command (line : String) (shell : Shell) :
    Dealt (deal line shell) shell (Step.stateAfter (command line shell)) := by
  by_cases hasks : ∃ request told, begin line shell = .ok (.asks request) told
  · obtain ⟨request, told, hbegin⟩ := hasks
    have hcommand : command line shell = (exchange request >>= settle request) told :=
      Step.bind_of_ok hbegin _
    have hbegun : Keeps shell told := by
      have hquiet := quiet_begin line shell
      rw [hbegin] at hquiet
      exact hquiet
    have hsession : request.session = told.session :=
      (session_of_begin hbegin).trans hbegun.session.symm
    rw [hcommand]
    refine Dealt.before_eq ?_ hbegun
    obtain ⟨hkept, hrequests, hreplies⟩ := answered_exchange request told
    cases hexchange : exchange request told with
    | error failure after =>
      rw [hexchange] at hkept hrequests hreplies
      rw [Step.bind_of_error hexchange, deal_of_unanswered hbegin hexchange]
      exact ⟨hrequests, hreplies, hkept, fun _ h => by cases h; exact hsession⟩
    | ok reply after =>
      rw [hexchange] at hkept hrequests hreplies
      rw [Step.bind_of_ok hexchange, deal_of_answered hbegin hexchange]
      obtain ⟨hlink, hid⟩ := settled request reply after
      refine ⟨?_, ?_, ?_, fun _ h => by cases h; exact hsession⟩
      · rw [hlink]
        exact hrequests
      · rw [hlink]
        exact hreplies
      · rw [show after.session = told.session from hkept] at hid
        exact hid
  · have hdone : ∀ request told, begin line shell ≠ .ok (.asks request) told :=
      fun request told hbegin => hasks ⟨request, told, hbegin⟩
    rw [deal_of_not_asks hdone]
    exact dealt_nothing (keeps_command hdone)

/-- A line whose failure is reported; the report shows on the console only. -/
theorem report_eq (line : String) (shell : Shell) :
    ∃ flow after, report line shell = .ok flow after ∧
      Keeps (Step.stateAfter (command line shell)) after := by
  unfold report
  cases command line shell with
  | ok flow after => exact ⟨flow, after, rfl, Keeps.refl after⟩
  | error failure after => exact ⟨.goOn, _, rfl, rfl, rfl⟩

theorem dealt_report {line : String} {shell after : Shell} {flow : Flow}
    (h : report line shell = .ok flow after) : Dealt (deal line shell) shell after := by
  obtain ⟨_, _, hreport, hkeeps⟩ := report_eq line shell
  rw [hreport] at h
  cases h
  exact (dealt_command line shell).after_eq hkeeps

/-- A line that hands over nothing leaves connection and session as they are. -/
theorem keeps_of_nothing {line : String} {shell after : Shell} {flow : Flow}
    (h : deal line shell = .nothing) (hreport : report line shell = .ok flow after) :
    Keeps shell after := by
  obtain ⟨_, _, hreported, hkeeps⟩ := report_eq line shell
  rw [hreported] at hreport
  cases hreport
  exact (keeps_command fun _ _ hbegin => deal_ne_nothing hbegin h).trans hkeeps

/-! ## 2. Lines that hand over nothing -/

/-- The kinds of action that have a command in the shell. -/
def usable : List ActionKind :=
  [.ls, .mkdir, .delete, .get, .put, .localLs, .localMkdir, .localDelete]

/-- How many arguments a command cannot do without. -/
def needed : ActionKind → Nat
  | .mkdir | .delete | .localMkdir | .localDelete => 1
  | .get | .put => 2
  | _ => 0

/-- The words of a line that hands over nothing, the disk being as it is. -/
inductive Silent (disk : Disk) : List String → Prop
  | blank : Silent disk []
  | help (name : String) (arguments : List String) (h : name = "help" ∨ name = "?") :
    Silent disk (name :: arguments)
  | leave (name : String) (arguments : List String) (h : name = "exit" ∨ name = "quit") :
    Silent disk (name :: arguments)
  | unknown (name : String) (arguments : List String) (cause : Error)
    (h : ActionKind.parse name = .error cause) : Silent disk (name :: arguments)
  | unusable (name : String) (arguments : List String) (kind : ActionKind)
    (h : ActionKind.parse name = .ok kind) (hkind : kind ∉ usable) : Silent disk (name :: arguments)
  | missing (name : String) (arguments : List String) (kind : ActionKind)
    (h : ActionKind.parse name = .ok kind) (hcount : arguments.length < needed kind) :
    Silent disk (name :: arguments)
  | onDisk (name : String) (arguments : List String) (kind : ActionKind)
    (h : ActionKind.parse name = .ok kind)
    (hkind : kind = .localLs ∨ kind = .localMkdir ∨ kind = .localDelete) :
    Silent disk (name :: arguments)
  | getRefused (name path directory : String) (rest : List String) (cause : Error)
    (h : ActionKind.parse name = .ok .get)
    (hcheck : Operation.ofDownload disk path (.ofString directory) = .error cause) :
    Silent disk (name :: path :: directory :: rest)
  | putRefused (name source directory : String) (rest : List String) (cause : Error)
    (h : ActionKind.parse name = .ok .put)
    (hcheck : Operation.ofUpload (.ofString source) directory = .error cause) :
    Silent disk (name :: source :: directory :: rest)

/-- A command of which all checks are passed. -/
def Passes (disk : Disk) : RemoteCommand → Prop
  | .get path directory => ∃ operation, Operation.ofDownload disk path directory = .ok operation
  | .put source directory => ∃ operation, Operation.ofUpload source directory = .ok operation
  | .ls _ | .mkdir _ | .delete _ => True

/-- **A request is built exactly if all checks are passed.** -/
theorem requestOf_isOk_iff {session : Session} {command : RemoteCommand} {client : Client} :
    (∃ request after, requestOf session command client = .ok request after) ↔
      Passes client.disk command := by
  cases command with
  | ls path => exact ⟨fun _ => trivial, fun _ => ⟨_, _, rfl⟩⟩
  | mkdir path => exact ⟨fun _ => trivial, fun _ => ⟨_, _, rfl⟩⟩
  | delete path => exact ⟨fun _ => trivial, fun _ => ⟨_, _, rfl⟩⟩
  | get path directory =>
    constructor
    · rintro ⟨request, after, h⟩
      obtain ⟨operation, hbuilt, -⟩ := ClientM.ask_bind_eq_ok_iff.mp h
      exact ⟨operation, hbuilt⟩
    · rintro ⟨operation, hbuilt⟩
      exact ⟨_, _, ClientM.ask_bind_eq_ok_iff.mpr
        ⟨operation, hbuilt, Session.request_of_check (Operation.check_of_ofDownload hbuilt)⟩⟩
  | put source directory =>
    constructor
    · rintro ⟨request, after, h⟩
      obtain ⟨operation, hbuilt, -⟩ := ClientM.require_bind_eq_ok_iff.mp h
      exact ⟨operation, hbuilt⟩
    · rintro ⟨operation, hbuilt⟩
      exact ⟨_, _, ClientM.require_bind_eq_ok_iff.mpr
        ⟨operation, hbuilt, Session.request_of_check (Operation.check_of_ofUpload hbuilt _)⟩⟩

/-- **A line asks for something exactly if it is a command of which all checks are passed.** -/
theorem begin_asks_iff {line : String} {shell : Shell} :
    (∃ request told, begin line shell = .ok (.asks request) told) ↔
      ∃ command, Command.parse line = .ok (.remote command) ∧
        Passes shell.client.disk command := by
  constructor
  · rintro ⟨request, told, hbegin⟩
    obtain ⟨command, client, hparse, hrequest, -⟩ := begin_eq_asks_iff.mp hbegin
    exact ⟨command, hparse, requestOf_isOk_iff.mp ⟨request, client, hrequest⟩⟩
  · rintro ⟨command, hparse, hpasses⟩
    obtain ⟨request, client, hrequest⟩ := requestOf_isOk_iff.mpr hpasses
    exact ⟨request, _, begin_eq_asks_iff.mpr ⟨command, client, hparse, hrequest, rfl⟩⟩

/-- A name that is none of the shell's own words names a kind of action. -/
theorem ofWords_cons {name : String} (arguments : List String)
    (hhelp : ¬ (name = "help" ∨ name = "?")) (hleave : ¬ (name = "exit" ∨ name = "quit")) :
    Command.ofWords (name :: arguments) =
      match ActionKind.parse name with
      | .ok kind => Command.ofKind kind name arguments
      | .error cause => .error (.request cause) := by
  refine (if_neg hhelp).trans ((if_neg hleave).trans ?_)
  cases ActionKind.parse name <;> rfl

theorem ofKind_of_missing {kind : ActionKind} {arguments : List String}
    (h : arguments.length < needed kind) (name : String) :
    Command.ofKind kind name arguments = .error (.missingArguments name) := by
  match kind, arguments, h with
  | .mkdir, [], _ => rfl
  | .delete, [], _ => rfl
  | .localMkdir, [], _ => rfl
  | .localDelete, [], _ => rfl
  | .get, [], _ => rfl
  | .get, [_], _ => rfl
  | .put, [], _ => rfl
  | .put, [_], _ => rfl

theorem ofKind_of_unusable {kind : ActionKind} (h : kind ∉ usable) (name : String)
    (arguments : List String) :
    Command.ofKind kind name arguments = .error (.notInShell name) := by
  cases kind with
  | ls | mkdir | delete | get | put | localLs | localMkdir | localDelete =>
    exact absurd (by decide) h
  | noOp | userOp | localOp | shell | createUser | deleteUser => rfl

theorem ofWords_eq_remote {words : List String} {command : RemoteCommand}
    (h : Command.ofWords words = .ok (.remote command)) :
    ∃ name arguments kind, words = name :: arguments ∧ ¬ (name = "help" ∨ name = "?") ∧
      ¬ (name = "exit" ∨ name = "quit") ∧ ActionKind.parse name = .ok kind ∧
      Command.ofKind kind name arguments = .ok (.remote command) := by
  cases words with
  | nil => cases h
  | cons name arguments =>
    by_cases hhelp : name = "help" ∨ name = "?"
    · rw [Command.ofWords, if_pos hhelp] at h
      cases h
    by_cases hleave : name = "exit" ∨ name = "quit"
    · rw [Command.ofWords, if_neg hhelp, if_pos hleave] at h
      cases h
    rw [ofWords_cons arguments hhelp hleave] at h
    cases hkind : ActionKind.parse name with
    | error cause =>
      rw [hkind] at h
      cases h
    | ok kind =>
      rw [hkind] at h
      exact ⟨name, arguments, kind, rfl, hhelp, hleave, hkind, h⟩

/-- What a silent line asks for is refused. -/
theorem not_passes_of_silent {disk : Disk} {words : List String} {command : RemoteCommand}
    (hsilent : Silent disk words) (h : Command.ofWords words = .ok (.remote command)) :
    ¬ Passes disk command := by
  obtain ⟨name, arguments, kind, rfl, hhelp, hleave, hkind, hcommand⟩ := ofWords_eq_remote h
  intro hpasses
  cases hsilent with
  | help _ _ hname => exact hhelp hname
  | leave _ _ hname => exact hleave hname
  | unknown _ _ cause hname =>
    rw [hname] at hkind
    cases hkind
  | unusable _ _ _ hname hnone =>
    rw [hname] at hkind
    cases hkind
    rw [ofKind_of_unusable hnone] at hcommand
    cases hcommand
  | missing _ _ _ hname hcount =>
    rw [hname] at hkind
    cases hkind
    rw [ofKind_of_missing hcount] at hcommand
    cases hcommand
  | onDisk _ _ _ hname hlocal =>
    rw [hname] at hkind
    cases hkind
    rcases hlocal with rfl | rfl | rfl
    · cases hcommand
    · cases arguments <;> cases hcommand
    · cases arguments <;> cases hcommand
  | getRefused _ path directory rest cause hname hcheck =>
    rw [hname] at hkind
    cases hkind
    cases hcommand
    obtain ⟨operation, hbuilt⟩ := hpasses
    rw [hcheck] at hbuilt
    cases hbuilt
  | putRefused _ source directory rest cause hname hcheck =>
    rw [hname] at hkind
    cases hkind
    cases hcommand
    obtain ⟨operation, hbuilt⟩ := hpasses
    rw [hcheck] at hbuilt
    cases hbuilt

/-- A line that is not silent asks for something that is not refused. -/
theorem passes_of_not_silent {disk : Disk} {words : List String} (h : ¬ Silent disk words) :
    ∃ command, Command.ofWords words = .ok (.remote command) ∧ Passes disk command := by
  match words with
  | [] => exact absurd .blank h
  | name :: arguments =>
    by_cases hhelp : name = "help" ∨ name = "?"
    · exact absurd (.help name arguments hhelp) h
    by_cases hleave : name = "exit" ∨ name = "quit"
    · exact absurd (.leave name arguments hleave) h
    rw [ofWords_cons arguments hhelp hleave]
    cases hkind : ActionKind.parse name with
    | error cause => exact absurd (.unknown name arguments cause hkind) h
    | ok kind =>
      -- the kinds that ask the server, with all their arguments, are what is left
      match kind, arguments with
      | .ls, arguments => exact ⟨.ls (arguments.headD Command.currentDirectory), rfl, trivial⟩
      | .mkdir, path :: _ => exact ⟨.mkdir path, rfl, trivial⟩
      | .delete, path :: _ => exact ⟨.delete path, rfl, trivial⟩
      | .get, path :: directory :: rest =>
        cases hcheck : Operation.ofDownload disk path (.ofString directory) with
        | error cause => exact absurd (.getRefused name path directory rest cause hkind hcheck) h
        | ok operation => exact ⟨.get path (.ofString directory), rfl, operation, hcheck⟩
      | .put, source :: directory :: rest =>
        cases hcheck : Operation.ofUpload (.ofString source) directory with
        | error cause => exact absurd (.putRefused name source directory rest cause hkind hcheck) h
        | ok operation => exact ⟨.put (.ofString source) directory, rfl, operation, hcheck⟩
      | .mkdir, [] | .delete, [] | .get, [] | .get, [_] | .put, [] | .put, [_] =>
        exact absurd (.missing name _ _ hkind (by simp [needed])) h
      | .localLs, arguments | .localMkdir, arguments | .localDelete, arguments =>
        exact absurd (.onDisk name arguments _ hkind (by decide)) h
      | .noOp, arguments | .userOp, arguments | .localOp, arguments | .createUser, arguments
      | .deleteUser, arguments | .shell, arguments =>
        exact absurd (.unusable name arguments _ hkind (by decide)) h

theorem silent_iff {disk : Disk} {line : String} :
    Silent disk (Text.words line) ↔
      ¬ ∃ command, Command.parse line = .ok (.remote command) ∧ Passes disk command := by
  constructor
  · rintro hsilent ⟨command, hparse, hpasses⟩
    exact not_passes_of_silent hsilent hparse hpasses
  · intro h
    by_contra hsilent
    exact h (passes_of_not_silent hsilent)

/-- **The lines that hand over nothing**, by what they say. -/
theorem deal_eq_nothing_iff {line : String} {shell : Shell} :
    deal line shell = .nothing ↔ Silent shell.client.disk (Text.words line) := by
  rw [silent_iff, ← begin_asks_iff]
  constructor
  · rintro h ⟨request, told, hbegin⟩
    exact deal_ne_nothing hbegin h
  · intro h
    exact deal_of_not_asks fun request told hbegin => h ⟨request, told, hbegin⟩

/-! ## 3. Leaving -/

/-- The line makes the shell leave: it says so, or the server has answered that the session is over,
    which is return code 2. -/
def Ends (line : String) (shell : Shell) : Prop :=
  (Text.words line).head? = some "exit" ∨ (Text.words line).head? = some "quit" ∨
    ∃ response, (deal line shell).accepted? = some response ∧ response.header.code = 2

/-- A response that ends the session is shown, which cannot fail, and then the shell leaves. -/
theorem conclude_of_code {response : Response} (h : response.header.code = 2) (session : Session)
    (shell : Shell) : ∃ after, conclude response session shell = .ok .exit after := by
  have hstatus : response.status = .sessionError := by
    rw [Response.status, h]
    rfl
  have hfailed : ¬ response.successful = true := by
    rw [Response.successful, hstatus]
    decide
  have hends : response.status.endsSession = true := by
    rw [hstatus]
    rfl
  unfold conclude Response.present
  rw [if_neg hfailed, if_pos hends]
  exact ⟨_, rfl⟩

theorem command_of_leave {line : String}
    (h : (Text.words line).head? = some "exit" ∨ (Text.words line).head? = some "quit")
    (shell : Shell) : command line shell = .ok .exit shell := by
  have hparse : Command.parse line = .ok .leave := by
    unfold Command.parse
    cases hwords : Text.words line with
    | nil =>
      rw [hwords] at h
      rcases h with h | h <;> cases h
    | cons name arguments =>
      rw [hwords, List.head?_cons, Option.some.injEq, Option.some.injEq] at h
      have hhelp : ¬ (name = "help" ∨ name = "?") := by
        rcases h with rfl | rfl <;> decide
      rw [Command.ofWords, if_neg hhelp, if_pos h]
  have hbegin : begin line shell = .ok (.done .exit) shell :=
    Step.bind_of_ok (parsed_apply hparse shell) _
  exact Step.bind_of_ok hbegin _

theorem deal_eq_answered {line : String} {shell : Shell} {request : Request} {reply : Bytes}
    (h : deal line shell = .answered request reply) :
    ∃ told after, begin line shell = .ok (.asks request) told ∧
      exchange request told = .ok reply after := by
  unfold deal at h
  split at h
  · rename_i asked told hbegin
    split at h
    · rename_i came after hexchange
      cases h
      exact ⟨told, after, hbegin, hexchange⟩
    · cases h
  · cases h

theorem command_of_accepted {line : String} {shell : Shell} {response : Response}
    (h : (deal line shell).accepted? = some response) (hcode : response.header.code = 2) :
    ∃ after, command line shell = .ok .exit after := by
  cases hdeal : deal line shell with
  | nothing =>
    rw [hdeal] at h
    cases h
  | unanswered request =>
    rw [hdeal] at h
    cases h
  | answered request reply =>
    obtain ⟨told, answered, hbegin, hexchange⟩ := deal_eq_answered hdeal
    have hread : Response.read request reply = .ok response := by
      rw [hdeal, Deal.accepted?] at h
      cases hread : Response.read request reply with
      | ok found =>
        rw [hread] at h
        cases h
        rfl
      | error rejection =>
        rw [hread] at h
        cases h
    obtain ⟨renewed, hsettle, -, -⟩ := settle_of_accepted hread answered
    obtain ⟨after, hconclude⟩ := conclude_of_code hcode
      { answered.session with id := response.header.session } renewed
    refine ⟨after, Eq.trans (Step.bind_of_ok hbegin _) ?_⟩
    exact Eq.trans (Step.bind_of_ok hexchange _) (hsettle.trans hconclude)

/-- **A line that ends the shell is the last one.** -/
theorem report_of_ends {line : String} {shell : Shell} (h : Ends line shell) :
    ∃ after, report line shell = .ok .exit after := by
  obtain ⟨after, hcommand⟩ : ∃ after, command line shell = .ok .exit after := by
    rcases h with hexit | hquit | ⟨response, haccepted, hcode⟩
    · exact ⟨shell, command_of_leave (.inl hexit) shell⟩
    · exact ⟨shell, command_of_leave (.inr hquit) shell⟩
    · exact command_of_accepted haccepted hcode
  rw [report, hcommand]
  exact ⟨after, rfl⟩

theorem not_ends_of_goOn {line : String} {shell after : Shell}
    (h : report line shell = .ok .goOn after) : ¬ Ends line shell := by
  intro hends
  obtain ⟨_, hexit⟩ := report_of_ends hends
  rw [h] at hexit
  cases hexit

/-- Only a response with return code 2 ends the session. -/
theorem code_of_endsSession {response : Response} (h : response.status.endsSession = true) :
    response.header.code = 2 := by
  have hstatus : response.status = .sessionError := beq_iff_eq.mp h
  have hcode : response.status.code = response.header.code := Status.code_ofCode _
  rw [← hcode, hstatus]
  rfl

theorem code_of_conclude {response : Response} {session : Session} {shell after : Shell}
    (h : conclude response session shell = .ok .exit after) : response.header.code = 2 := by
  obtain ⟨_, told, -, hrest⟩ := Step.bind_eq_ok_iff.mp h
  by_cases hends : response.status.endsSession = true
  · exact code_of_endsSession hends
  · rw [if_neg hends] at hrest
    cases hrest

theorem ofKind_ne_leave (kind : ActionKind) (name : String) (arguments : List String) :
    Command.ofKind kind name arguments ≠ .ok .leave := by
  unfold Command.ofKind
  split <;> nofun

/-- Of all words only the shell's own two make it leave. -/
theorem head_of_ofWords {words : List String} (h : Command.ofWords words = .ok .leave) :
    words.head? = some "exit" ∨ words.head? = some "quit" := by
  cases words with
  | nil => cases h
  | cons name arguments =>
    rw [List.head?_cons, Option.some.injEq, Option.some.injEq]
    by_contra hleave
    by_cases hhelp : name = "help" ∨ name = "?"
    · rw [Command.ofWords, if_pos hhelp] at h
      cases h
    rw [ofWords_cons arguments hhelp hleave] at h
    cases hkind : ActionKind.parse name with
    | error cause =>
      rw [hkind] at h
      cases h
    | ok kind =>
      rw [hkind] at h
      exact ofKind_ne_leave kind name arguments h

theorem head_of_begin {line : String} {shell told : Shell}
    (h : begin line shell = .ok (.done .exit) told) :
    (Text.words line).head? = some "exit" ∨ (Text.words line).head? = some "quit" := by
  obtain ⟨command, _, hcommand, hrest⟩ := Step.bind_eq_ok_iff.mp h
  obtain ⟨client, hsaid, rfl⟩ := onClient_eq_ok_iff.mp hcommand
  obtain ⟨hparse, rfl⟩ := ClientM.require_eq_ok_iff.mp hsaid
  cases command with
  | leave => exact head_of_ofWords hparse
  | nothing => cases hrest
  | help =>
    obtain ⟨_, _, -, hdone⟩ := Step.bind_eq_ok_iff.mp hrest
    cases hdone
  | onDisk action path =>
    obtain ⟨_, _, -, hprint⟩ := Step.bind_eq_ok_iff.mp hrest
    obtain ⟨_, _, -, hdone⟩ := Step.bind_eq_ok_iff.mp hprint
    cases hdone
  | remote command =>
    obtain ⟨_, _, -, hbuild⟩ := Step.bind_eq_ok_iff.mp hrest
    obtain ⟨_, _, -, hasks⟩ := Step.bind_eq_ok_iff.mp hbuild
    cases hasks

/-- A command that leaves either says so or has been answered by the end of the session. -/
theorem ends_of_command {line : String} {shell after : Shell}
    (h : command line shell = .ok .exit after) : Ends line shell := by
  obtain ⟨begun, told, hbegin, hrest⟩ := Step.bind_eq_ok_iff.mp h
  cases begun with
  | done flow =>
    cases hrest
    rcases head_of_begin hbegin with hexit | hquit
    · exact .inl hexit
    · exact .inr (.inl hquit)
  | asks request =>
    obtain ⟨reply, answered, hexchange, hsettle⟩ := Step.bind_eq_ok_iff.mp hrest
    cases hread : Response.read request reply with
    | error rejection =>
      obtain ⟨_, hrejected, -⟩ := settle_of_rejected hread answered
      rw [hrejected] at hsettle
      cases hsettle
    | ok response =>
      obtain ⟨renewed, hconclude, -, -⟩ := settle_of_accepted hread answered
      rw [hconclude] at hsettle
      refine .inr (.inr ⟨response, ?_, code_of_conclude hsettle⟩)
      rw [deal_of_answered hbegin hexchange, Deal.accepted?, hread]
      rfl

/-- **Only a line that ends the shell is the last one.** -/
theorem ends_of_report {line : String} {shell after : Shell}
    (h : report line shell = .ok .exit after) : Ends line shell := by
  unfold report at h
  cases hcommand : command line shell with
  | ok flow told =>
    rw [hcommand] at h
    cases h
    exact ends_of_command hcommand
  | error failure told =>
    rw [hcommand] at h
    cases h

end Shell

end RemoteFiles
