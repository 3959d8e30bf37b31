import RemoteFiles.Proofs.Built
import RemoteFiles.Proofs.Text.Utf8
import RemoteFiles.Proofs.Validation

/-!
# Two routes to a request

A command line names its action by a flag and supplies fields; a session has one function for each
kind of operation, and one for any operation that passes its check. Some of these functions check
nothing, and the command line has rules of its own. All the same they lead to one and the same
request, so whatever is read off a request or sent for it later does not depend on the route.

* `Session.answers_request`, `answers_get`, `answers_put` -- what the functions of a session ask the
  disk;
* `Params.Rebuilt` -- the request comes by way of its session as well;
* `ofParams_rebuilt` -- this holds of every request from a command line, and transfers fail alike.
-/

namespace RemoteFiles

/-! ## 1. The functions of a session -/

namespace Session

variable (session : Session)

theorem answers_request (operation : Operation) :
    ClientM.Answers (session.request operation) fun disk =>
      (operation.check disk).map fun _ => session.build operation := by
  refine ((ClientM.answers_ask operation.check).bind
    fun _ => ClientM.answers_pure (session.build operation)).congr ?_
  intro disk
  cases operation.check disk <;> rfl

/-- A download fails as its operation does: the second check adds nothing to the first. -/
theorem answers_get (path : String) (directory : Path) :
    ClientM.Answers (session.get path directory) fun disk =>
      (Operation.ofDownload disk path directory).map session.build := by
  refine ((ClientM.answers_ask _).bind fun operation => answers_request session operation).congr ?_
  intro disk
  cases hbuilt : Operation.ofDownload disk path directory with
  | error error => rfl
  | ok operation =>
    show (operation.check disk).map _ = _
    rw [Operation.check_of_ofDownload hbuilt]
    rfl

/-- An upload fails as its operation does. -/
theorem answers_put (source : Path) (directory : String) :
    ClientM.Answers (session.put source directory) fun _ =>
      (Operation.ofUpload source directory).map session.build := by
  refine ((ClientM.answers_require _).bind
    fun operation => answers_request session operation).congr ?_
  intro disk
  cases hbuilt : Operation.ofUpload source directory with
  | error error => rfl
  | ok operation =>
    show (operation.check disk).map _ = _
    rw [Operation.check_of_ofUpload hbuilt disk]
    rfl

end Session

namespace Request

/-! ## 2. The same request by way of its session -/

/-- On every client with this disk the step answers the request. -/
def Yields (disk : Disk) (step : ClientM Error Request) (request : Request) : Prop :=
  ∀ client : Client, client.disk = disk → Step.outcome (step client) = .ok request

theorem yields_of_answers {disk : Disk} {step : ClientM Error Request} {request : Request}
    {question : Disk → Except Error Request} (h : ClientM.Answers step question)
    (hanswer : question disk = .ok request) : Yields disk step request := by
  rintro client rfl
  rw [(h client).1, hanswer]

/-- An operation that passes its check is the operation of a request. -/
theorem yields_of_check {session : Session} {operation : Operation} {disk : Disk}
    (h : operation.check disk = .ok ()) :
    Yields disk (session.request operation) (session.build operation) := by
  refine yields_of_answers (session.answers_request operation) ?_
  rw [h]
  rfl

/-- The function of a session that is meant for the action answers the request, given the fields that
    the command line has supplied. -/
def Params.Direct (params : Params) (disk : Disk) (request : Request) : Prop :=
  match request.action with
  | .authenticate => False
  | .shell => Yields disk (params.session.request .shell) request
  | .ls => ∃ path, params.fields.destination = some path ∧ params.session.ls path = request
  | .mkdir => ∃ path, params.fields.destination = some path ∧ params.session.mkdir path = request
  | .delete => ∃ path, params.fields.destination = some path ∧ params.session.delete path = request
  | .get => ∃ path directory, params.fields.destination = some path ∧
      params.fields.source = some directory ∧
      Yields disk (params.session.get path directory) request
  | .put => ∃ source directory, params.fields.source = some source ∧
      params.fields.destination = some directory ∧
      Yields disk (params.session.put source directory) request
  | .account action => ∃ name operation, params.flags.accountOf action.kind = some name ∧
      Operation.ofAccount action name (params.fields.permission.getD .default)
        params.newPassword = .ok operation ∧
      Yields disk (params.session.request operation) request
  | .onDisk action => ∃ path, params.fields.source = some path ∧
      params.session.onDisk action path = request

/-- The request is the one that its session makes of the same parameters: of the operation that they
    resolve to, and by the function for its action. -/
structure Params.Rebuilt (params : Params) (disk : Disk) (request : Request) : Prop where
  selected : params.flags.Selects request.action.kind
  resolved : ∃ operation,
    Operation.resolve disk request.action (params.flags.accountOf request.action.kind)
      params.newPassword params.fields = .ok operation ∧
    Yields disk (params.session.request operation) request
  direct : params.Direct disk request

/-- Resolving the management of an account, once its fields are there. -/
theorem resolve_account {disk : Disk} {action : AccountAction} {fields : Fields}
    (hfields : ¬ action.kind.dependency.Lacks fields) (name : String) (password : Option Secret) :
    Operation.resolve disk (.account action) (some name) password fields =
      Operation.ofAccount action name (fields.permission.getD .default) password := by
  have hcheck : (Action.account action).dependency.check (Action.account action).kind fields =
      .ok () := Dependency.check_of_not_lacks hfields _
  unfold Operation.resolve
  rw [hcheck]
  rfl

/-- **What the rules grant is made by the function of the session that is meant for it.** -/
theorem direct_of_grants {params : Params} {disk : Disk} {operation : Operation}
    (hfields : ¬ operation.action.kind.dependency.Lacks params.fields)
    (hgrants : params.Grants disk operation)
    (hresolve : Operation.resolve disk operation.action
      (params.flags.accountOf operation.action.kind) params.newPassword params.fields =
        .ok operation) :
    params.Direct disk ⟨params.session, operation⟩ := by
  cases operation with
  | authenticate => exact hgrants.elim
  | shell => exact yields_of_check rfl
  | ls path | mkdir path | delete path | onDisk action path => exact ⟨path, hgrants, rfl⟩
  | get path target =>
    obtain ⟨hpath, directory, -, hdirectory, -⟩ := hgrants
    rw [Operation.action, Operation.resolve_get hpath hdirectory] at hresolve
    refine ⟨path, directory, hpath, hdirectory, yields_of_answers (Session.answers_get _ _ _) ?_⟩
    rw [hresolve]
    rfl
  | put source directory =>
    obtain ⟨hsource, hdirectory, -⟩ := hgrants
    rw [Operation.action, Operation.resolve_put hsource hdirectory] at hresolve
    refine ⟨source, directory, hsource, hdirectory,
      yields_of_answers (Session.answers_put _ _ _) ?_⟩
    rw [hresolve]
    rfl
  | account change =>
    obtain ⟨hname, -⟩ := hgrants
    rw [Operation.action, Action.kind, hname, resolve_account hfields] at hresolve
    exact ⟨change.username, _, hname, hresolve,
      yields_of_check (Operation.check_of_ofAccount hresolve disk)⟩

theorem rebuilt_of_ofParams {params : Params} {client after : Client} {request : Request}
    (h : ofParams params client = .ok request after) : params.Rebuilt client.disk request := by
  have hjudged : params.Judged client.disk (.ok request) :=
    outcome_eq_iff_judged.mp (congrArg Step.outcome h)
  cases hjudged with
  | accepted operation hkind hfields hgrants =>
    have hresolve := Operation.resolve_of_grants hkind.1 hfields hgrants
    exact ⟨hkind, ⟨operation, hresolve, yields_of_check (Operation.check_of_resolve hresolve)⟩,
      direct_of_grants hfields hgrants hresolve⟩

/-- **A request from a command line is the request that its session makes**, of whatever else the
    command line supplies. And with both paths there, a transfer is refused on the one route exactly
    if it is on the other, for the same reason. -/
theorem ofParams_rebuilt (params : Params) :
    (∀ client after request, ofParams params client = .ok request after →
      params.Rebuilt client.disk request) ∧
    (∀ path directory, params.flags.Selects .get → params.fields.destination = some path →
      params.fields.source = some directory →
      ∀ client other : Client, other.disk = client.disk →
        Step.outcome (params.session.get path directory other) =
          Step.outcome (ofParams params client)) ∧
    ∀ source directory, params.flags.Selects .put → params.fields.source = some source →
      params.fields.destination = some directory →
      ∀ client other : Client, other.disk = client.disk →
        Step.outcome (params.session.put source directory other) =
          Step.outcome (ofParams params client) := by
  refine ⟨fun client after request h => rebuilt_of_ofParams h, ?_, ?_⟩
  · intro path directory hkind hpath hdirectory client other hdisk
    rw [ofParams_get hkind hpath hdirectory, ← hdisk]
    exact (Session.answers_get params.session path directory other).1
  · intro source directory hkind hsource hdirectory client other hdisk
    rw [ofParams_put hkind hsource hdirectory]
    exact (Session.answers_put params.session source directory other).1

/-- An upload by its flag, and by the function of the session. -/
theorem ofParams_rebuilt_upload :
    ∃ request after,
      ofParams ⟨⟨"host", 4000, "ann", ⟨"secret"⟩, 5⟩, Flags.only .put none,
        ⟨some ⟨[0x61]⟩, some "docs", none⟩, none⟩ ⟨⟨[], [], []⟩, "", []⟩ = .ok request after ∧
      Params.Rebuilt ⟨⟨"host", 4000, "ann", ⟨"secret"⟩, 5⟩, Flags.only .put none,
        ⟨some ⟨[0x61]⟩, some "docs", none⟩, none⟩ ⟨[], [], []⟩ request ∧
      Step.outcome (Session.put ⟨"host", 4000, "ann", ⟨"secret"⟩, 5⟩ ⟨[0x61]⟩ "docs"
        ⟨⟨[], [], []⟩, "", []⟩) = .ok request := by
  have hkind : (Flags.only .put none).Selects .put := by
    refine ⟨rfl, fun other hset => ?_⟩
    cases other with
    | put => rfl
    | createUser | deleteUser =>
      obtain ⟨_, ⟨⟩, -⟩ := hset
    | _ => cases hset
  have hname : Path.fileName? ⟨[0x61]⟩ = some [0x61] := by decide +kernel
  have htext : Utf8.decode? [0x61] = some "a" := Utf8.decode?_eq_some_iff.mpr (by decide +kernel)
  obtain ⟨params, hparams⟩ : ∃ params : Params,
      params = ⟨⟨"host", 4000, "ann", ⟨"secret"⟩, 5⟩, Flags.only .put none,
        ⟨some ⟨[0x61]⟩, some "docs", none⟩, none⟩ := ⟨_, rfl⟩
  obtain ⟨hrebuilt, -, hput⟩ := ofParams_rebuilt params
  rw [hparams] at hrebuilt hput
  have hsame := hput ⟨[0x61]⟩ "docs" hkind rfl rfl ⟨⟨[], [], []⟩, "", []⟩ _ rfl
  have hbuilt : Operation.ofUpload ⟨[0x61]⟩ "docs" = .ok (.put ⟨[0x61]⟩ "docs") := by
    rw [Operation.ofUpload_eq, hname]
    simp only [htext]
  have hdirect := (Session.answers_put ⟨"host", 4000, "ann", ⟨"secret"⟩, 5⟩ ⟨[0x61]⟩ "docs"
    ⟨⟨[], [], []⟩, "", []⟩).1
  rw [hbuilt] at hdirect
  obtain ⟨after, hmade⟩ := Step.exists_of_outcome (hsame.symm.trans hdirect)
  exact ⟨_, after, hmade, hrebuilt _ _ _ hmade, hdirect⟩

end Request

end RemoteFiles
