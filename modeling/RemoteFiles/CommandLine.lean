import RemoteFiles.Action.Selection
import RemoteFiles.Text.Decimal

/-!
# The command line

Arguments are taken from left to right. A switch stands alone; a setting takes the next argument,
whatever it looks like, and may be given once. `help` and `--help` are remembered, and answered once
all arguments have been found good. After `--` there are no options any more, and there is nothing
else that an argument could be.

* `CommandLine.parse` -- what the arguments say, or the `EarlyExit` that they lead to;
* `CommandLine.flags` and `CommandLine.fields` -- the flags and fields of the request.
-/

namespace RemoteFiles

namespace CommandLine

/-! ## 1. Options -/

/-- Options that stand alone. -/
inductive Switch where
  | debug
  | trace
  | ls
  | get
  | put
  | mkdir
  | delete
  | shell
  | localLs
  | localDelete
  | localMkdir
  deriving DecidableEq, Repr

/-- Options that take a value. -/
inductive Setting where
  | tracefile
  | host
  | port
  | username
  | source
  | destination
  | permission
  | timeout
  | createUser
  | deleteUser
  deriving DecidableEq, Repr

/-- The switch with a spelling. -/
def Switch.ofSpelling? (spelling : String) : Option Switch :=
  match spelling with
  | "-v" | "--debug" => some debug
  | "--trace" => some trace
  | "--ls" => some ls
  | "--get" => some get
  | "--put" => some put
  | "--mkdir" => some mkdir
  | "--delete" => some delete
  | "--shell" => some shell
  | "--l-ls" => some localLs
  | "--l-delete" => some localDelete
  | "--l-mkdir" => some localMkdir
  | _ => none

/-- The setting with a spelling. -/
def Setting.ofSpelling? (spelling : String) : Option Setting :=
  match spelling with
  | "--tracefile" => some tracefile
  | "-i" | "--host" => some host
  | "-p" | "--port" => some port
  | "-u" | "--username" => some username
  | "--src" => some source
  | "--dst" => some destination
  | "--perm" => some permission
  | "--timeout" => some timeout
  | "--create-user" => some createUser
  | "--delete-user" => some deleteUser
  | _ => none

/-! ## 2. What has been read so far -/

/-- The values of the options that have been read. -/
structure Draft where
  debug : Bool
  trace : Bool
  tracefile : Option String
  host : Option String
  port : Option UInt16
  username : Option String
  fields : Fields
  timeout : Option UInt64
  flags : Flags
  deriving DecidableEq, Repr

namespace Draft

/-- Nothing has been read. -/
def empty : Draft :=
  { debug := false, trace := false, tracefile := none, host := none, port := none
    username := none, fields := .none, timeout := none, flags := .none }

/-- The draft after a switch. -/
def turnOn (draft : Draft) : Switch → Draft
  | .debug => { draft with debug := true }
  | .trace => { draft with trace := true }
  | .ls => { draft with flags.ls := true }
  | .get => { draft with flags.get := true }
  | .put => { draft with flags.put := true }
  | .mkdir => { draft with flags.mkdir := true }
  | .delete => { draft with flags.delete := true }
  | .shell => { draft with flags.shell := true }
  | .localLs => { draft with flags.localLs := true }
  | .localDelete => { draft with flags.localDelete := true }
  | .localMkdir => { draft with flags.localMkdir := true }

/-- A value for a setting that has `old` for its value; there must be none yet. -/
def fill {α : Type} (old : Option α) (value : Except String α) : Except String (Option α) :=
  match old with
  | some _ => .error "duplicate values provided"
  | none => value.map some

/-- The number below a bound that a value writes. -/
def number (bound : Nat) (value : String) : Except String Nat :=
  (Decimal.read bound value).mapError Decimal.Fault.message

/-- The draft after a setting, or what is wrong with the value. -/
def set (draft : Draft) (setting : Setting) (value : String) : Except String Draft :=
  match setting with
  | .tracefile => do return { draft with tracefile := ← fill draft.tracefile (.ok value) }
  | .host => do return { draft with host := ← fill draft.host (.ok value) }
  | .port => do
    let port := (number UInt16.size value).map UInt16.ofNat
    return { draft with port := ← fill draft.port port }
  | .username => do return { draft with username := ← fill draft.username (.ok value) }
  | .source => do
    let source := .ok (Path.ofString value)
    return { draft with fields.source := ← fill draft.fields.source source }
  | .destination => do
    return { draft with fields.destination := ← fill draft.fields.destination (.ok value) }
  | .permission => do
    let permission := (Permission.parse value).mapError Error.message
    return { draft with fields.permission := ← fill draft.fields.permission permission }
  | .timeout => do
    let timeout := (number UInt64.size value).map UInt64.ofNat
    return { draft with timeout := ← fill draft.timeout timeout }
  | .createUser => do
    return { draft with flags.createUser := ← fill draft.flags.createUser (.ok value) }
  | .deleteUser => do
    return { draft with flags.deleteUser := ← fill draft.flags.deleteUser (.ok value) }

end Draft

/-! ## 3. Early exits -/

/-- The program ends before it has begun. -/
structure EarlyExit where
  success : Bool
  output : String
  deriving DecidableEq, Repr

namespace EarlyExit

/-- Something is wrong with the arguments. -/
def wrong (output : String) : EarlyExit := ⟨false, output⟩

/-- An argument that is no option. -/
def unrecognized (argument : String) : EarlyExit :=
  wrong ("Unrecognized argument: " ++ argument ++ "\n")

/-- An option after a call for help. -/
def trailing : EarlyExit := wrong "Trailing arguments are not allowed after `help`."

/-- A setting at the end of the arguments. -/
def noValue (option : String) : EarlyExit :=
  wrong ("No value provided for option '" ++ option ++ "'.\n")

/-- A setting with a value that it does not take. -/
def badValue (option value reason : String) : EarlyExit :=
  wrong ("Error parsing option '" ++ option ++ "' with value '" ++ value ++ "': " ++ reason ++
    "\n")

/-- Settings that must be given and are not. -/
def missing (options : List String) : EarlyExit :=
  wrong ("Required options not provided:\n" ++
    String.join (options.map fun option => "    " ++ option ++ "\n"))

end EarlyExit

/-- The answer to a call for help. -/
def helpText : String :=
  "Usage: rfmc [-v] [--trace] [--tracefile <tracefile>] -i <host> -p <port> -u <username> " ++
  "[--src <src>] [--dst <dst>] [--perm <perm>] [--timeout <timeout>] [--ls] [--get] [--put] " ++
  "[--mkdir] [--delete] [--create-user <create-user>] [--delete-user <delete-user>] [--shell] " ++
  "[--l-ls] [--l-delete] [--l-mkdir]\n" ++
  "\n" ++
  "RFM remote file management client.\n" ++
  "Exactly one command flag must be given.\n" ++
  "\n" ++
  "Options:\n" ++
  "  -v, --debug       verbose debug logging\n" ++
  "  --trace           more verbose\n" ++
  "  --tracefile       log to a file\n" ++
  "  -i, --host        server address\n" ++
  "  -p, --port        server port\n" ++
  "  -u, --username    username\n" ++
  "  --src             local path\n" ++
  "  --dst             remote path\n" ++
  "  --perm            permission for a new account: read, read_write or admin\n" ++
  "  --timeout         network timeout in seconds\n" ++
  "  --ls              list the remote directory --dst\n" ++
  "  --get             download remote file --dst into local directory --src\n" ++
  "  --put             upload local file --src into remote directory --dst\n" ++
  "  --mkdir           create the remote directory --dst\n" ++
  "  --delete          delete the remote file or directory --dst\n" ++
  "  --create-user     create an account with permission --perm\n" ++
  "  --delete-user     delete an account\n" ++
  "  --shell           log in and start an interactive shell\n" ++
  "  --l-ls            list the local directory --src\n" ++
  "  --l-delete        delete the local file or directory --src\n" ++
  "  --l-mkdir         create the local directory --src\n" ++
  "  --help, help      display usage information\n"

/-! ## 4. Reading -/

/-- A call for help. -/
def asksForHelp (argument : String) : Bool := argument == "--help" || argument == "help"

/-- An argument that must be an option. -/
def looksLikeOption (argument : String) : Bool := argument.toList.head? == some '-'

/-- Reads arguments, `help` telling whether help has been called for. Answers the draft, and whether
    help has been called for at the end. -/
def read (draft : Draft) (help : Bool) : List String → Except EarlyExit (Draft × Bool)
  | [] => .ok (draft, help)
  | argument :: rest =>
    if asksForHelp argument then read draft true rest
    else if argument = "--" then
      match rest with
      | [] => .ok (draft, help)
      | next :: _ => .error (.unrecognized next)
    else if !looksLikeOption argument then .error (.unrecognized argument)
    else if help then .error .trailing
    else
      match Switch.ofSpelling? argument with
      | some switch => read (draft.turnOn switch) help rest
      | none =>
        match Setting.ofSpelling? argument with
        | none => .error (.unrecognized argument)
        | some setting =>
          match rest with
          | [] => .error (.noValue argument)
          | value :: rest =>
            match draft.set setting value with
            | .ok draft => read draft help rest
            | .error reason => .error (.badValue argument value reason)

end CommandLine

/-- What a command line says. -/
structure CommandLine where
  debug : Bool
  trace : Bool
  tracefile : Option String
  host : String
  port : UInt16
  username : String
  fields : Fields
  /-- How long to wait for the server, in seconds. -/
  timeout : UInt64
  flags : Flags
  deriving DecidableEq, Repr

namespace CommandLine

/-- How long to wait for the server if nothing else is said, in seconds. -/
def defaultTimeout : UInt64 := 10

/-- The settings that a draft lacks. -/
def Draft.missing (draft : Draft) : List String :=
  (if draft.host.isNone then ["--host"] else []) ++
  (if draft.port.isNone then ["--port"] else []) ++
  (if draft.username.isNone then ["--username"] else [])

/-- The command line that a draft amounts to. -/
def Draft.finish (draft : Draft) : Except EarlyExit CommandLine :=
  match draft.host, draft.port, draft.username with
  | some host, some port, some username =>
    .ok { debug := draft.debug, trace := draft.trace, tracefile := draft.tracefile, host, port
          username, fields := draft.fields, timeout := draft.timeout.getD defaultTimeout
          flags := draft.flags }
  | _, _, _ => .error (.missing draft.missing)

/-- What the arguments say. -/
def parse (arguments : List String) : Except EarlyExit CommandLine := do
  let (draft, help) ← read .empty false arguments
  if help then .error ⟨true, helpText⟩ else draft.finish

end CommandLine

end RemoteFiles
