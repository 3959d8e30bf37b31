import RemoteFiles.Action.Kind

/-!
# Actions

An action is what a request does. On the wire it is an operation code and a flag: managing accounts
and working on the local disk share one operation code each, and the flag says which of them is
meant (`Action.opcode`, `Action.userFlag`).
-/

namespace RemoteFiles

/-- What is done to an account. -/
inductive AccountAction where
  | create
  | delete
  deriving DecidableEq, Repr

/-- What is done on the local disk once the server has let the client in. -/
inductive LocalAction where
  | ls
  | delete
  | mkdir
  deriving DecidableEq, Repr

/-- What a request does. -/
inductive Action where
  /-- Logs in, and nothing else. -/
  | authenticate
  | shell
  | ls
  | get
  | put
  | mkdir
  | delete
  | account (action : AccountAction)
  | onDisk (action : LocalAction)
  deriving DecidableEq, Repr

/-- The kind of an action on an account. -/
def AccountAction.kind : AccountAction → ActionKind
  | create => .createUser
  | delete => .deleteUser

/-- The kind of an action on the local disk. -/
def LocalAction.kind : LocalAction → ActionKind
  | ls => .localLs
  | delete => .localDelete
  | mkdir => .localMkdir

instance : Inspect AccountAction where
  inspect
    | .create => "Create"
    | .delete => "Delete"

instance : Inspect LocalAction where
  inspect
    | .ls => "Ls"
    | .delete => "Delete"
    | .mkdir => "Mkdir"

namespace Action

instance : Inspect Action where
  inspect
    | authenticate => "Authenticate"
    | shell => "Shell"
    | ls => "Ls"
    | get => "Get"
    | put => "Put"
    | mkdir => "Mkdir"
    | delete => "Delete"
    | account action => Inspect.tuple "User" [inspect action]
    | onDisk action => Inspect.tuple "Local" [inspect action]

/-- The action of a kind. A wrapper's code alone is no action, but that of the local wrapper is a
    login. -/
def ofKind : ActionKind → Except Error Action
  | .noOp => .error .noAction
  | .userOp => .error (.unknownCommand ActionKind.userOp.name)
  | .localOp => .ok authenticate
  | .shell => .ok shell
  | .ls => .ok ls
  | .get => .ok get
  | .put => .ok put
  | .mkdir => .ok mkdir
  | .delete => .ok delete
  | .createUser => .ok (account .create)
  | .deleteUser => .ok (account .delete)
  | .localLs => .ok (onDisk .ls)
  | .localDelete => .ok (onDisk .delete)
  | .localMkdir => .ok (onDisk .mkdir)

/-- The kind of an action, before wrapping. -/
def kind : Action → ActionKind
  | authenticate => .localOp
  | shell => .shell
  | ls => .ls
  | get => .get
  | put => .put
  | mkdir => .mkdir
  | delete => .delete
  | account action => action.kind
  | onDisk action => action.kind

/-- The operation code that is sent. A shell logs in first. -/
def opcode : Action → ActionKind
  | authenticate | shell | onDisk _ => .localOp
  | account _ => .userOp
  | action => action.kind

/-- The flag that is sent: what a wrapper wraps. -/
def userFlag : Action → ActionKind
  | account action => action.kind
  | onDisk action => action.kind
  | _ => .noOp

/-- What an action depends on. -/
def dependency (action : Action) : Dependency := action.kind.dependency

/-- **Every action is the action of its kind.** -/
theorem ofKind_kind (action : Action) : ofKind action.kind = .ok action := by
  rcases action with _ | _ | _ | _ | _ | _ | _ | (_ | _) | (_ | _ | _) <;> rfl

/-- **A kind that has an action is the kind of it.** -/
theorem kind_of_ofKind {kind : ActionKind} {action : Action} (h : ofKind kind = .ok action) :
    action.kind = kind := by
  cases kind <;> simp [ofKind] at h <;> subst h <;> rfl

end Action

end RemoteFiles
