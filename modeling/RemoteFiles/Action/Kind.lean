import RemoteFiles.Error

/-!
# Kinds of action

Client and server know the actions by a code. Each kind also has the name of its command, in two
spellings (`ls`, `create_user` or `create-user`), and a rule that says what it depends on.

* `ActionKind.ofCode?` finds exactly the kind with a code (`ofCode?_eq_some_iff`);
* `ActionKind.parse` finds the kind of a command name, in any case and either spelling.
-/

namespace RemoteFiles

/-- What a request is for, as one code says it. -/
inductive ActionKind where
  | noOp
  /-- Wraps the management of accounts. -/
  | userOp
  | delete
  | ls
  | get
  | mkdir
  | put
  /-- Wraps what the client does by itself once the server has let it in. -/
  | localOp
  | createUser
  | deleteUser
  | shell
  | localLs
  | localDelete
  | localMkdir
  deriving DecidableEq, Repr

/-- What an action cannot do without. -/
inductive Dependency where
  | nothing
  | source
  | destination
  | both
  | permission
  deriving DecidableEq, Repr

namespace Dependency

/-- The name of a rule. -/
def name : Dependency → String
  | nothing => "None"
  | source => "Source"
  | destination => "Destination"
  | both => "Both"
  | permission => "Permission"

end Dependency

namespace ActionKind

/-! ## 1. The table of kinds -/

/-- Every kind, in the order of the codes. -/
def all : List ActionKind :=
  [noOp, userOp, delete, ls, get, mkdir, put, localOp, createUser, deleteUser, shell, localLs,
    localDelete, localMkdir]

/-- The code of a kind. -/
def code : ActionKind → UInt8
  | noOp => 0
  | userOp => 1
  | delete => 2
  | ls => 3
  | get => 4
  | mkdir => 5
  | put => 6
  | localOp => 7
  | createUser => 10
  | deleteUser => 20
  | shell => 21
  | localLs => 22
  | localDelete => 23
  | localMkdir => 24

/-- The command name of a kind. -/
def name : ActionKind → String
  | noOp => "no_op"
  | userOp => "user_op"
  | delete => "delete"
  | ls => "ls"
  | get => "get"
  | mkdir => "mkdir"
  | put => "put"
  | localOp => "local_op"
  | createUser => "create_user"
  | deleteUser => "delete_user"
  | shell => "shell"
  | localLs => "l_ls"
  | localDelete => "l_delete"
  | localMkdir => "l_mkdir"

/-- What a kind depends on. -/
def dependency : ActionKind → Dependency
  | noOp | userOp | localOp | deleteUser | shell => .nothing
  | delete | ls | mkdir => .destination
  | get | put => .both
  | createUser => .permission
  | localLs | localDelete | localMkdir => .source

instance : Inspect ActionKind where
  inspect
    | noOp => "NoOp"
    | userOp => "UserOp"
    | delete => "Delete"
    | ls => "Ls"
    | get => "Get"
    | mkdir => "Mkdir"
    | put => "Put"
    | localOp => "LocalOp"
    | createUser => "CreateUser"
    | deleteUser => "DeleteUser"
    | shell => "Shell"
    | localLs => "LocalLs"
    | localDelete => "LocalDelete"
    | localMkdir => "LocalMkdir"

/-! ## 2. Finding a kind -/

/-- The kind with a code. -/
def ofCode? (code : UInt8) : Option ActionKind :=
  all.find? fun kind => kind.code == code

/-- The kind with a code, or the error that there is none. -/
def ofCode (code : UInt8) : Except Error ActionKind :=
  match ofCode? code with
  | some kind => .ok kind
  | none => .error (.unknownAction code)

/-- The kind of a command name. The case of ASCII letters does not matter, and `-` counts as
    `_`. -/
def parse (name : String) : Except Error ActionKind :=
  let canonical := name.toList.map fun c => if c = '-' then '_' else c.toLower
  match all.find? fun kind => kind.name.toList == canonical with
  | some kind => .ok kind
  | none => .error (.unknownCommand name)

/-- **A code belongs to one kind at most**, and `ofCode?` finds it. -/
theorem ofCode?_eq_some_iff {code : UInt8} {kind : ActionKind} :
    ofCode? code = some kind ↔ kind.code = code := by
  constructor
  · intro h
    simpa using List.find?_some h
  · rintro rfl
    cases kind <;> rfl

end ActionKind

end RemoteFiles
