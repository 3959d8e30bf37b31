import RemoteFiles.Proofs.Response
import RemoteFiles.Shell.Basic

/-!
# The steps of a command

A command of the shell has three parts: it begins, it hands over a request and waits, and it settles
what has come back. Only the second touches the connection and only the third the session, and both
do it in one place. The rest works on the client alone and leaves both as they are (`Quiet`).

* `quiet_begin`, `session_of_begin` -- before the request, which carries the session as it is;
* `Exchanged`, `exchanged` -- the request is handed over whatever comes back;
* `settle_of_rejected`, `settle_of_accepted` -- the session takes the id of a response that has been
  read, before anything else is done about the response.
-/

namespace RemoteFiles

namespace Shell

variable {α β : Type}

/-! ## 1. Steps that leave connection and session alone -/

/-- Nothing has happened to the connection, and the session is the same. -/
structure Keeps (before after : Shell) : Prop where
  link : after.link = before.link
  session : after.session = before.session

theorem Keeps.refl (shell : Shell) : Keeps shell shell := ⟨rfl, rfl⟩

theorem Keeps.trans {first second third : Shell} (h : Keeps first second)
    (h' : Keeps second third) : Keeps first third :=
  ⟨h'.link.trans h.link, h'.session.trans h.session⟩

/-- A step that keeps connection and session, be it successful or not. -/
def Quiet (x : ShellM α) : Prop := ∀ shell, Keeps shell (Step.stateAfter (x shell))

theorem quiet_pure (a : α) : Quiet (pure a) := fun shell => Keeps.refl shell

theorem quiet_get : Quiet (get : ShellM Shell) := fun shell => Keeps.refl shell

theorem quiet_onClient (x : ClientM Failure α) : Quiet (onClient x) := by
  intro shell
  unfold onClient
  cases x shell.client with
  | ok a client => exact ⟨rfl, rfl⟩
  | error failure client => exact ⟨rfl, rfl⟩

theorem Quiet.bind {x : ShellM α} {f : α → ShellM β} (hx : Quiet x) (hf : ∀ a, Quiet (f a)) :
    Quiet (x >>= f) := by
  intro shell
  have hkeeps := hx shell
  cases h : x shell with
  | ok a after =>
    rw [h] at hkeeps
    rw [Step.bind_of_ok h]
    exact hkeeps.trans (hf a after)
  | error failure after =>
    rw [h] at hkeeps
    rw [Step.bind_of_error h]
    exact hkeeps

theorem onClient_eq_ok_iff {x : ClientM Failure α} {shell after : Shell} {a : α} :
    onClient x shell = .ok a after ↔
      ∃ client, x shell.client = .ok a client ∧ after = { shell with client := client } := by
  unfold onClient
  cases x shell.client with
  | ok b client => simp [eq_comm]
  | error failure client => simp

theorem onRequest_of_ok {x : ClientM Error α} {shell : Shell} {client : Client} {a : α}
    (h : x shell.client = .ok a client) :
    onRequest x shell = .ok a { shell with client := client } := by
  rw [onRequest, onClient, ClientM.mapError_apply, h]

theorem onRequest_of_error {x : ClientM Error α} {shell : Shell} {client : Client} {error : Error}
    (h : x shell.client = .error error client) :
    onRequest x shell = .error (.request error) { shell with client := client } := by
  rw [onRequest, onClient, ClientM.mapError_apply, h]

/-! ## 2. Up to the request -/

/-- **No command touches connection or session before its request.** -/
theorem quiet_begin (line : String) : Quiet (begin line) := by
  refine (quiet_onClient _).bind fun command => ?_
  cases command with
  | nothing => exact quiet_pure _
  | help => exact (quiet_onClient _).bind fun _ => quiet_pure _
  | leave => exact quiet_pure _
  | onDisk action path =>
    exact (quiet_onClient _).bind fun _ => (quiet_onClient _).bind fun _ => quiet_pure _
  | remote command =>
    exact quiet_get.bind fun _ => (quiet_onClient _).bind fun _ => quiet_pure _

/-- A request is built under the session that it is built from. -/
theorem session_of_requestOf {session : Session} {command : RemoteCommand} {client after : Client}
    {request : Request} (h : requestOf session command client = .ok request after) :
    request.session = session := by
  have hchecked : ∀ {operation : Operation} {client : Client},
      session.request operation client = .ok request after → request.session = session := by
    intro operation client hrequest
    obtain ⟨_, -, hbuilt⟩ := ClientM.ask_bind_eq_ok_iff.mp hrequest
    cases hbuilt
    rfl
  cases command with
  | ls path => cases h; rfl
  | mkdir path => cases h; rfl
  | delete path => cases h; rfl
  | get path directory =>
    obtain ⟨operation, -, hrequest⟩ := ClientM.ask_bind_eq_ok_iff.mp h
    exact hchecked hrequest
  | put source directory =>
    obtain ⟨operation, -, hrequest⟩ := ClientM.require_bind_eq_ok_iff.mp h
    exact hchecked hrequest

theorem parsed_apply {line : String} {command : Command} (h : Command.parse line = .ok command)
    (shell : Shell) :
    onClient (ClientM.require (Command.parse line)) shell = .ok command shell := by
  rw [h]
  rfl

/-- **A line asks for something if it is a command for the server** and a request can be built from
    it, under the session as it is. -/
theorem begin_eq_asks_iff {line : String} {shell told : Shell} {request : Request} :
    begin line shell = .ok (.asks request) told ↔
      ∃ command client, Command.parse line = .ok (.remote command) ∧
        requestOf shell.session command shell.client = .ok request client ∧
        told = { shell with client := client } := by
  constructor
  · intro h
    obtain ⟨command, _, hcommand, hrest⟩ := Step.bind_eq_ok_iff.mp h
    obtain ⟨client, hsaid, rfl⟩ := onClient_eq_ok_iff.mp hcommand
    obtain ⟨hparse, rfl⟩ := ClientM.require_eq_ok_iff.mp hsaid
    cases command with
    | nothing => cases hrest
    | help => cases hrest
    | leave => cases hrest
    | onDisk action path =>
      obtain ⟨_, _, -, hprint⟩ := Step.bind_eq_ok_iff.mp hrest
      obtain ⟨_, _, -, hdone⟩ := Step.bind_eq_ok_iff.mp hprint
      cases hdone
    | remote command =>
      obtain ⟨_, _, hget, hbuild⟩ := Step.bind_eq_ok_iff.mp hrest
      cases hget
      obtain ⟨_, _, hbuilt, hasks⟩ := Step.bind_eq_ok_iff.mp hbuild
      cases hasks
      obtain ⟨after, hrequest, htold⟩ := onClient_eq_ok_iff.mp hbuilt
      exact ⟨command, after, hparse, ClientM.mapError_eq_ok_iff.mp hrequest, htold⟩
  · rintro ⟨command, client, hparse, hrequest, rfl⟩
    refine Step.bind_eq_ok_iff.mpr ⟨_, _, parsed_apply hparse shell, ?_⟩
    refine Step.bind_eq_ok_iff.mpr ⟨shell, shell, rfl, ?_⟩
    exact Step.bind_eq_ok_iff.mpr ⟨request, _, onRequest_of_ok hrequest, rfl⟩

/-- **The request of a command carries the session as it is.** -/
theorem session_of_begin {line : String} {shell told : Shell} {request : Request}
    (h : begin line shell = .ok (.asks request) told) : request.session = shell.session := by
  obtain ⟨command, client, -, hrequest, -⟩ := begin_eq_asks_iff.mp h
  exact session_of_requestOf hrequest

/-! ## 3. The exchange -/

/-- The shell with a request handed over. -/
def handed (request : Request) (shell : Shell) : Shell :=
  { shell with link.requests := shell.link.requests ++ [request] }

/-- The reply that has come back, if one has. -/
def reply? : EStateM.Result Failure Shell Bytes → Option Bytes
  | .ok reply _ => some reply
  | .error _ _ => none

/-- How the wait for an answer ends: the next of the replies comes back, or it was a failure, or it
    never came to that. -/
structure Answered (before : Shell) (result : EStateM.Result Failure Shell Bytes) : Prop where
  session : (Step.stateAfter result).session = before.session
  requests : (Step.stateAfter result).link.requests = before.link.requests
  replies : ∃ taken, before.link.replies = taken ++ (Step.stateAfter result).link.replies ∧
    taken.filterMap Except.toOption = (reply? result).toList

/-- Waits for the answer to a request that has been sent. -/
def await : ShellM Bytes := do
  match (← get).link.replies with
  | [] => throw (.transport "no reply")
  | reply :: later => do
    modify fun shell => { shell with link.replies := later }
    onClient (ClientM.require reply)

theorem answered_await (shell : Shell) : Answered shell (await shell) := by
  obtain ⟨client, session, ⟨replies, requests, sent⟩⟩ := shell
  cases replies with
  | nil => exact ⟨rfl, rfl, [], rfl, rfl⟩
  | cons reply later =>
    cases reply with
    | ok frame => exact ⟨rfl, rfl, [.ok frame], rfl, rfl⟩
    | error failure => exact ⟨rfl, rfl, [.error failure], rfl, rfl⟩

/-- **Whatever comes back, the request has been handed over**, and the session is the same. -/
theorem answered_exchange (request : Request) (shell : Shell) :
    Answered (handed request shell) (exchange request shell) := by
  have hkeeps : Keeps (handed request shell)
      (Step.stateAfter (onRequest request.toBytes (handed request shell))) := quiet_onClient _ _
  cases h : onRequest request.toBytes (handed request shell) with
  | error failure told =>
    have hfailed : exchange request shell = .error failure told := Step.bind_of_error h _
    rw [h] at hkeeps
    rw [hfailed]
    exact ⟨hkeeps.session, congrArg _ hkeeps.link, [], congrArg _ hkeeps.link.symm, rfl⟩
  | ok frame told =>
    have hsent : exchange request shell =
        await { told with link.sent := told.link.sent ++ [frame] } := Step.bind_of_ok h _
    rw [h] at hkeeps
    rw [hsent]
    obtain ⟨hsession, hrequests, taken, hreplies, htaken⟩ :=
      answered_await { told with link.sent := told.link.sent ++ [frame] }
    have htold : told.link = (handed request shell).link := hkeeps.link
    have hhanded : told.link.requests = (handed request shell).link.requests := by rw [htold]
    have hcoming : (handed request shell).link.replies = told.link.replies := by rw [htold]
    exact ⟨hsession.trans hkeeps.session, hrequests.trans hhanded, taken, hcoming.trans hreplies,
      htaken⟩

/-! ## 4. From the answer on -/

/-- What is done about a response once the session has been renewed. -/
def conclude (response : Response) (session : Session) : ShellM Flow := do
  onClient response.present
  if response.status.endsSession then
    onClient (ClientM.say .info ("server ended session " ++ session.id.toNat.repr))
    onClient (ClientM.print "Session ended\n")
    return .exit
  else return .goOn

theorem quiet_conclude (response : Response) (session : Session) :
    Quiet (conclude response session) := by
  refine (quiet_onClient _).bind fun _ => ?_
  by_cases h : response.status.endsSession = true
  · rw [if_pos h]
    exact (quiet_onClient _).bind fun _ => (quiet_onClient _).bind fun _ => quiet_pure _
  · rw [if_neg h]
    exact quiet_pure _

/-- **A reply that cannot be read changes nothing** but the log. -/
theorem settle_of_rejected {request : Request} {reply : Bytes} {rejection : Rejection}
    (h : Response.read request reply = .error rejection) (shell : Shell) :
    ∃ after, settle request reply shell = .error (.request rejection.toError) after ∧
      Keeps shell after := by
  have hparse := onRequest_of_error (Response.parse_of_read_error h shell.client)
  exact ⟨_, Step.bind_of_error hparse _, rfl, rfl⟩

/-- The session takes the id, and the log says so if it is another one. -/
theorem update_apply (session : Session) (id : UInt32) (client : Client) :
    ∃ after, (session.update id : ClientM Failure Session) client =
      .ok { session with id := id } after := by
  unfold Session.update
  by_cases h : id ≠ session.id
  · rw [if_pos h]
    exact ⟨_, rfl⟩
  · rw [if_neg h]
    exact ⟨_, rfl⟩

/-- **A response that has been read renews the session first.** -/
theorem settle_of_accepted {request : Request} {reply : Bytes} {response : Response}
    (h : Response.read request reply = .ok response) (shell : Shell) :
    ∃ renewed, settle request reply shell =
        conclude response { shell.session with id := response.header.session } renewed ∧
      renewed.link = shell.link ∧
      renewed.session = { shell.session with id := response.header.session } := by
  have hparse := onRequest_of_ok (Response.parse_of_read_ok h shell.client)
  obtain ⟨after, hupdate⟩ := update_apply shell.session response.header.session
    { shell.client with
      log := shell.client.log ++ (Response.arrival reply ++ Response.verdict response) }
  refine ⟨{ shell with
    client := after
    session := { shell.session with id := response.header.session } }, ?_, rfl, rfl⟩
  refine Eq.trans (Step.bind_of_ok hparse _) ?_
  refine Eq.trans (Step.bind_of_ok (Step.get_apply _) _) ?_
  refine Eq.trans (Step.bind_of_ok (onClient_eq_ok_iff.mpr ⟨after, hupdate, rfl⟩) _) ?_
  rfl

end Shell

end RemoteFiles
