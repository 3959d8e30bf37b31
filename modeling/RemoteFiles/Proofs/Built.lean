import RemoteFiles.Proofs.Step
import RemoteFiles.Request

/-!
# Requests that have been built

There are several ways to a request, and all of them check the operation first, where there is
something to check. What the check asks of the disk may change before the request is sent; what it
asks of the operation alone is kept for good (`Operation.Sound`).

* `check_of_resolve` -- an operation that is built from an action passes its check;
* `Request.Built` -- the ways to a request;
* `check_of_sound` -- of a request that has been built only the target of a download can still be
  in question.
-/

namespace RemoteFiles

namespace Operation

variable {disk : Disk} {operation : Operation}

/-! ## 1. Building passes the check -/

/-- What is built for a download is checked again, and passes. -/
theorem check_of_ofDownload {path : String} {directory : Path}
    (h : ofDownload disk path directory = .ok operation) : operation.check disk = .ok () := by
  by_cases hdirectory : (!disk.isDirectory directory) = true
  · rw [ofDownload, if_pos hdirectory] at h
    cases h
  · rw [ofDownload, if_neg hdirectory] at h
    obtain ⟨target, -, hrest⟩ := Step.result_bind_eq_ok_iff.mp h
    obtain ⟨_, hcheck, hbuilt⟩ := Step.result_bind_eq_ok_iff.mp hrest
    cases hbuilt
    exact hcheck

theorem check_of_ofUpload {source : Path} {directory : String}
    (h : ofUpload source directory = .ok operation) (disk : Disk) :
    operation.check disk = .ok () := by
  obtain ⟨path, hpath, hbuilt⟩ := Step.result_bind_eq_ok_iff.mp h
  cases hbuilt
  exact Step.result_bind_eq_ok_iff.mpr ⟨path, hpath, rfl⟩

theorem check_of_ofAccount {action : AccountAction} {username : String} {permission : Permission}
    {password : Option Secret} (h : ofAccount action username permission password = .ok operation)
    (disk : Disk) : operation.check disk = .ok () := by
  obtain ⟨_, hcheck, hbuilt⟩ := Step.result_bind_eq_ok_iff.mp h
  cases hbuilt
  exact hcheck

/-- **An operation that is built from an action passes its check.** -/
theorem check_of_resolve {action : Action} {username : Option String} {password : Option Secret}
    {fields : Fields} (h : resolve disk action username password fields = .ok operation) :
    operation.check disk = .ok () := by
  unfold resolve at h
  obtain ⟨_, -, hmade⟩ := Step.result_bind_eq_ok_iff.mp h
  cases action with
  | authenticate | shell =>
    cases hmade
    rfl
  | ls | mkdir | delete | onDisk =>
    obtain ⟨path, -, hpath⟩ := Step.result_bind_eq_ok_iff.mp hmade
    cases hpath
    rfl
  | get =>
    obtain ⟨path, -, hpath⟩ := Step.result_bind_eq_ok_iff.mp hmade
    obtain ⟨directory, -, hdownload⟩ := Step.result_bind_eq_ok_iff.mp hpath
    exact check_of_ofDownload hdownload
  | put =>
    obtain ⟨source, -, hsource⟩ := Step.result_bind_eq_ok_iff.mp hmade
    obtain ⟨directory, -, hupload⟩ := Step.result_bind_eq_ok_iff.mp hsource
    exact check_of_ofUpload hupload disk
  | account change => exact check_of_ofAccount hmade disk

/-! ## 2. What is kept for good -/

/-- What the check asks of an operation, whatever the disk is. -/
def Sound : Operation → Prop
  | .put source directory => ∃ path, uploadPath source directory = .ok path
  | .account change => change.username ≠ ""
  | _ => True

theorem sound_of_check (h : operation.check disk = .ok ()) : operation.Sound := by
  cases operation with
  | authenticate | shell | ls | mkdir | delete | get | onDisk => exact trivial
  | put source directory =>
    obtain ⟨path, hpath, -⟩ := Step.result_bind_eq_ok_iff.mp h
    exact ⟨path, hpath⟩
  | account change =>
    intro hempty
    have hrefused : change.username.isEmpty = true := by
      rw [hempty]
      rfl
    rw [check, checkAccount, if_pos hrefused] at h
    cases h

/-- What the check asks of the disk: that the target of a download is free at this moment. -/
def targetFree (disk : Disk) : Operation → Except Error Unit
  | .get _ target => if disk.reaches target then .error (.fileExists target) else .ok ()
  | _ => .ok ()

/-- **Only the target of a download can still be in question.** -/
theorem check_of_sound (h : operation.Sound) (disk : Disk) :
    operation.check disk = operation.targetFree disk := by
  cases operation with
  | authenticate | shell | ls | mkdir | delete | get | onDisk => rfl
  | put source directory =>
    obtain ⟨path, hpath⟩ := h
    exact Step.result_bind_eq_ok_iff.mpr ⟨path, hpath, rfl⟩
  | account change =>
    have hname : ¬ change.username.isEmpty = true := by
      intro hempty
      exact h (String.isEmpty_iff.mp hempty)
    rw [check, checkAccount, if_neg hname]
    rfl

end Operation

/-! ## 3. The ways to a request -/

/-- A request whose operation is checked is built if the check is passed. -/
theorem Session.request_of_check {session : Session} {operation : Operation} {client : Client}
    (h : operation.check client.disk = .ok ()) :
    session.request operation client = .ok (session.build operation) client :=
  ClientM.ask_bind_eq_ok_iff.mpr ⟨(), h, rfl⟩

namespace Request

/-- The ways to a request: from a command line, from any operation that passes its check, or from
    one of the functions of a session. -/
inductive Built : Request → Prop
  | ofParams {params : Params} {client after : Client} {request : Request}
    (h : ofParams params client = .ok request after) : Built request
  | request {session : Session} {operation : Operation} {client after : Client} {request : Request}
    (h : session.request operation client = .ok request after) : Built request
  | authenticate (session : Session) : Built session.authenticate
  | ls (session : Session) (path : String) : Built (session.ls path)
  | mkdir (session : Session) (path : String) : Built (session.mkdir path)
  | delete (session : Session) (path : String) : Built (session.delete path)
  | get {session : Session} {path : String} {directory : Path} {client after : Client}
    {request : Request} (h : session.get path directory client = .ok request after) : Built request
  | put {session : Session} {source : Path} {directory : String} {client after : Client}
    {request : Request} (h : session.put source directory client = .ok request after) :
    Built request
  | onDisk (session : Session) (action : LocalAction) (path : Path) :
    Built (session.onDisk action path)

theorem sound_of_request {session : Session} {operation : Operation} {client after : Client}
    {request : Request} (h : session.request operation client = .ok request after) :
    request.operation.Sound := by
  obtain ⟨_, hcheck, hbuilt⟩ := ClientM.ask_bind_eq_ok_iff.mp h
  cases hbuilt
  exact Operation.sound_of_check hcheck

/-- **A request that has been built is sound**, whichever way it has come. -/
theorem Built.sound {request : Request} (h : request.Built) : request.operation.Sound := by
  cases h with
  | ofParams hparams =>
    obtain ⟨selection, -, hselected⟩ := ClientM.require_bind_eq_ok_iff.mp hparams
    obtain ⟨action, middle, -, haction⟩ := Step.bind_eq_ok_iff.mp hselected
    obtain ⟨operation, hresolve, hbuilt⟩ := ClientM.ask_bind_eq_ok_iff.mp haction
    cases hbuilt
    exact Operation.sound_of_check (Operation.check_of_resolve hresolve)
  | request hrequest => exact sound_of_request hrequest
  | authenticate | ls | mkdir | delete | onDisk => exact trivial
  | get hget =>
    obtain ⟨operation, -, hrequest⟩ := ClientM.ask_bind_eq_ok_iff.mp hget
    exact sound_of_request hrequest
  | put hput =>
    obtain ⟨operation, -, hrequest⟩ := ClientM.require_bind_eq_ok_iff.mp hput
    exact sound_of_request hrequest

end Request

end RemoteFiles
