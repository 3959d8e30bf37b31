import RemoteFiles.Action.Selection
import RemoteFiles.Disk.Walk

/-!
# Operations

An operation is an action together with all it needs. Three of them are checked when they are
built, and again before they are sent, since the disk may have changed.

* a download: its directory must be one, and its target must not exist (`ofDownload`);
* an upload: a remote name must be formed from the name of its source (`ofUpload`);
* the management of an account: the account must have a name (`ofAccount`).

`Operation.resolve` builds the operation of an action from the fields a caller has supplied.
-/

namespace RemoteFiles

/-- A text that is not to be shown: it is carried and sent, but it has no diagnostic form. -/
structure Secret where
  text : String
  deriving DecidableEq

/-- What is done to which account. -/
structure AccountChange where
  action : AccountAction
  permission : Permission
  username : String
  /-- Sent only when the account is created. -/
  password : Option Secret
  deriving DecidableEq

/-- The diagnostic form shows that there is a password, and not which. -/
instance : Inspect AccountChange where
  inspect change := Inspect.record "UserOperation"
    [("action", inspect change.action), ("perm", inspect change.permission),
      ("username", inspect change.username),
      ("password", inspect (change.password.map fun _ => "..."))]

/-- An action with all it needs. -/
inductive Operation where
  | authenticate
  | shell
  | ls (path : String)
  | mkdir (path : String)
  | delete (path : String)
  /-- The remote file `path` goes to the local file `target`. -/
  | get (path : String) (target : Path)
  /-- The local file `source` goes into the remote directory `directory`. -/
  | put (source : Path) (directory : String)
  | account (change : AccountChange)
  | onDisk (action : LocalAction) (path : Path)
  deriving DecidableEq

namespace Operation

instance : Inspect Operation where
  inspect
    | authenticate => "Authenticate"
    | shell => "Shell"
    | ls path => Inspect.record "Ls" [("path", inspect path)]
    | mkdir path => Inspect.record "Mkdir" [("path", inspect path)]
    | delete path => Inspect.record "Delete" [("path", inspect path)]
    | get path target => Inspect.record "Get" [("path", inspect path), ("target", inspect target)]
    | put source directory =>
      Inspect.record "Put" [("source", inspect source), ("dir", inspect directory)]
    | account change => Inspect.tuple "User" [inspect change]
    | onDisk action path =>
      Inspect.record "Local" [("action", inspect action), ("path", inspect path)]

/-- The action of an operation. -/
def action : Operation → Action
  | authenticate => .authenticate
  | shell => .shell
  | ls _ => .ls
  | mkdir _ => .mkdir
  | delete _ => .delete
  | get _ _ => .get
  | put _ _ => .put
  | account change => .account change.action
  | onDisk action _ => .onDisk action

/-! ## 1. Names -/

/-- A remote directory and a name in it, joined by a slash unless the directory is empty or ends
    with one. -/
def remoteJoin (directory name : String) : String :=
  if directory.isEmpty || directory.toList.getLast? == some '/' then directory ++ name
  else directory ++ "/" ++ name

/-- The remote path of an upload: the directory and the last name of the source. -/
def uploadPath (source : Path) (directory : String) : Except Error String :=
  match source.fileName? with
  | none => .error (.noFileName source.display)
  | some name =>
    match Utf8.decode? name with
    | none => .error .badString
    | some name => .ok (remoteJoin directory name)

/-- The local file of a download: the last name of the remote path, in the directory. -/
def downloadTarget (path : String) (directory : Path) : Except Error Path :=
  match (Path.ofString path).fileName? with
  | none => .error (.noFileName path)
  | some name => .ok (directory.join ⟨name⟩)

/-! ## 2. Checks -/

/-- The target of a download is free. -/
def checkTarget (disk : Disk) (target : Path) : Except Error Unit :=
  if disk.reaches target then .error (.fileExists target) else .ok ()

/-- The account has a name. -/
def checkAccount (change : AccountChange) : Except Error Unit :=
  if change.username.isEmpty then .error (.missingField change.action.kind.name "a username")
  else .ok ()

/-- What has to hold whenever the operation is sent. -/
def check (operation : Operation) (disk : Disk) : Except Error Unit :=
  match operation with
  | get _ target => checkTarget disk target
  | put source directory => do
    let _ ← uploadPath source directory
  | account change => checkAccount change
  | _ => .ok ()

/-! ## 3. Building -/

/-- The download of a remote file into a local directory. -/
def ofDownload (disk : Disk) (path : String) (directory : Path) : Except Error Operation := do
  if !disk.isDirectory directory then throw (.notDirectory directory)
  let target ← downloadTarget path directory
  checkTarget disk target
  return get path target

/-- The upload of a local file into a remote directory. The file is read when it is sent. -/
def ofUpload (source : Path) (directory : String) : Except Error Operation := do
  let _ ← uploadPath source directory
  return put source directory

/-- The management of an account. A password is kept only if the account is created. -/
def ofAccount (action : AccountAction) (username : String) (permission : Permission)
    (password : Option Secret) : Except Error Operation := do
  let kept :=
    match action with
    | .create => password
    | .delete => none
  let change : AccountChange := ⟨action, permission, username, kept⟩
  checkAccount change
  return account change

/-- A field that the dependencies have been checked for. -/
def field {α : Type} : Option α → Except Error α
  | some a => .ok a
  | none => .error .bug

/-- The operation of an action. `username` names the account that the action is about, and
    `password` is the password of an account that is created. -/
def resolve (disk : Disk) (action : Action) (username : Option String)
    (password : Option Secret) (fields : Fields) : Except Error Operation := do
  action.dependency.check action.kind fields
  match action with
  | .authenticate => return authenticate
  | .shell => return shell
  | .ls => return ls (← field fields.destination)
  | .mkdir => return mkdir (← field fields.destination)
  | .delete => return delete (← field fields.destination)
  | .get => do
    let path ← field fields.destination
    let directory ← field fields.source
    ofDownload disk path directory
  | .put => do
    let source ← field fields.source
    let directory ← field fields.destination
    ofUpload source directory
  | .account change =>
    ofAccount change (username.getD "") (fields.permission.getD .default) password
  | .onDisk action => return onDisk action (← field fields.source)

end Operation

end RemoteFiles
