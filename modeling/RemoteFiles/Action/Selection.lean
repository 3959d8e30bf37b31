import RemoteFiles.Action.Basic
import RemoteFiles.Action.Permission

/-!
# Selecting an action

A caller names an action by setting one of eleven flags, and supplies fields. `Flags.select` finds
the one flag that is set, and `Dependency.check` sees to it that the fields the action depends on
are there.
-/

namespace RemoteFiles

/-- The fields that actions depend on. -/
structure Fields where
  /-- A local path. -/
  source : Option Path
  /-- A remote path. -/
  destination : Option String
  permission : Option Permission
  deriving DecidableEq, Repr

/-- No field supplied. -/
def Fields.none : Fields := ⟨.none, .none, .none⟩

/-! ## 1. Dependencies -/

/-- What is missing, in the words of the message. -/
def Dependency.missing (rule : Dependency) (fields : Fields) : Option String :=
  match rule with
  | nothing => none
  | source => if fields.source.isNone then some "\"--src\"" else none
  | destination => if fields.destination.isNone then some "\"--dst\"" else none
  | both =>
    if fields.source.isNone || fields.destination.isNone then some "\"--src\" and \"--dst\""
    else none
  | permission => if fields.permission.isNone then some "\"--perm\"" else none

/-- The fields hold all that the rule asks for, on behalf of the command of a kind. -/
def Dependency.check (rule : Dependency) (kind : ActionKind) (fields : Fields) :
    Except Error Unit :=
  match rule.missing fields with
  | some needs => .error (.missingField kind.name needs)
  | none => .ok ()

/-! ## 2. Flags -/

/-- One flag for each command. The flags for accounts carry the name of the account, and an empty
    name counts as no flag. -/
structure Flags where
  shell : Bool
  ls : Bool
  get : Bool
  put : Bool
  mkdir : Bool
  delete : Bool
  localLs : Bool
  localDelete : Bool
  localMkdir : Bool
  createUser : Option String
  deleteUser : Option String
  deriving DecidableEq, Repr

/-- A selected kind, with the account that it is about if it is about one. -/
structure Selection where
  kind : ActionKind
  account : Option String
  deriving DecidableEq, Repr

namespace Flags

/-- No flag set. -/
def none : Flags :=
  ⟨false, false, false, false, false, false, false, false, false, .none, .none⟩

/-- The flag of one kind alone; the kinds for accounts take the name of the account. A kind that
    has no flag sets none. -/
def only (kind : ActionKind) (account : Option String) : Flags :=
  match kind with
  | .shell => { none with shell := true }
  | .ls => { none with ls := true }
  | .get => { none with get := true }
  | .put => { none with put := true }
  | .mkdir => { none with mkdir := true }
  | .delete => { none with delete := true }
  | .localLs => { none with localLs := true }
  | .localDelete => { none with localDelete := true }
  | .localMkdir => { none with localMkdir := true }
  | .createUser => { none with createUser := account }
  | .deleteUser => { none with deleteUser := account }
  | .noOp | .userOp | .localOp => none

/-- What a plain flag selects. -/
def plain (isSet : Bool) (kind : ActionKind) : List Selection :=
  if isSet then [⟨kind, .none⟩] else []

/-- What the flag for an account selects. -/
def forAccount (name : Option String) (kind : ActionKind) : List Selection :=
  match name with
  | some name => if name.isEmpty then [] else [⟨kind, some name⟩]
  | .none => []

/-- What the flags that are set select. -/
def selected (flags : Flags) : List Selection :=
  plain flags.shell .shell ++ plain flags.ls .ls ++ plain flags.get .get ++
  plain flags.put .put ++ plain flags.mkdir .mkdir ++ plain flags.delete .delete ++
  plain flags.localLs .localLs ++ plain flags.localDelete .localDelete ++
  plain flags.localMkdir .localMkdir ++ forAccount flags.createUser .createUser ++
  forAccount flags.deleteUser .deleteUser

/-- The one selection; it is an error if there is none or more than one. -/
def select (flags : Flags) : Except Error Selection :=
  match flags.selected with
  | [] => .error .noAction
  | [selection] => .ok selection
  | _ => .error .multipleActions

end Flags

/-! ## 3. Resolving -/

/-- The action of a kind, provided that the fields it depends on are there. -/
def Action.ofSelected (kind : ActionKind) (fields : Fields) : Except Error Action := do
  let action ← Action.ofKind kind
  action.dependency.check kind fields
  return action

end RemoteFiles
