import RemoteFiles.Action.Basic
import RemoteFiles.Failure

/-!
# The commands of the shell

A line is a command name and arguments, with white space between them, of which Unicode knows more
than ASCII does. Lines that ask for something of the server are `RemoteCommand`s. Arguments beyond
those that a command takes are ignored.

* `Text.words` -- the words of a line;
* `Command.parse` -- what a line says.
-/

namespace RemoteFiles

namespace Text

/-- The property White_Space of Unicode. -/
def isBlank (c : Char) : Bool :=
  let n := c.toNat
  (0x09 ≤ n && n ≤ 0x0D) || n == 0x20 || n == 0x85 || n == 0xA0 || n == 0x1680 ||
  (0x2000 ≤ n && n ≤ 0x200A) || n == 0x2028 || n == 0x2029 || n == 0x202F || n == 0x205F ||
  n == 0x3000

/-- The longest stretches without white space, in order. -/
def words (line : String) : List String :=
  ((line.toList.splitOnP isBlank).filter fun word => !word.isEmpty).map String.ofList

end Text

/-- What a line asks of the server. -/
inductive RemoteCommand where
  | ls (path : String)
  | mkdir (path : String)
  | delete (path : String)
  | get (path : String) (directory : Path)
  | put (source : Path) (directory : String)
  deriving DecidableEq, Repr

/-- What a line says. -/
inductive Command where
  | nothing
  | help
  | leave
  | onDisk (action : LocalAction) (path : Path)
  | remote (command : RemoteCommand)
  deriving DecidableEq, Repr

namespace Command

/-- The directory that a listing is of when none is named. -/
def currentDirectory : String := "."

/-- What a command of some kind says with its arguments, `name` being how it was written. -/
def ofKind (kind : ActionKind) (name : String) (arguments : List String) :
    Except Failure Command :=
  match kind, arguments with
  | .ls, arguments => .ok (remote (.ls (arguments.headD currentDirectory)))
  | .mkdir, path :: _ => .ok (remote (.mkdir path))
  | .delete, path :: _ => .ok (remote (.delete path))
  | .get, path :: directory :: _ => .ok (remote (.get path (.ofString directory)))
  | .put, source :: directory :: _ => .ok (remote (.put (.ofString source) directory))
  | .localLs, arguments => .ok (onDisk .ls (.ofString (arguments.headD currentDirectory)))
  | .localMkdir, path :: _ => .ok (onDisk .mkdir (.ofString path))
  | .localDelete, path :: _ => .ok (onDisk .delete (.ofString path))
  | .mkdir, _ | .delete, _ | .get, _ | .put, _ | .localMkdir, _ | .localDelete, _ =>
    .error (.missingArguments name)
  | _, _ => .error (.notInShell name)

/-- What a list of words says. -/
def ofWords : List String → Except Failure Command
  | [] => .ok nothing
  | name :: arguments =>
    if name = "help" ∨ name = "?" then .ok help
    else if name = "exit" ∨ name = "quit" then .ok leave
    else
      match ActionKind.parse name with
      | .ok kind => ofKind kind name arguments
      | .error cause => .error (.request cause)

/-- What a line says. -/
def parse (line : String) : Except Failure Command := ofWords (Text.words line)

/-- The answer to a call for help. -/
def helpText : String :=
  "Commands:\n" ++
  "  ls [DIR]                 list a remote directory\n" ++
  "  mkdir DIR                create a remote directory\n" ++
  "  delete PATH              delete a remote file or empty directory\n" ++
  "  get REMOTE LOCALDIR      download a file\n" ++
  "  put LOCALFILE REMOTEDIR  upload a file\n" ++
  "  l_ls [DIR]               list a local directory\n" ++
  "  l_mkdir DIR              create a local directory\n" ++
  "  l_delete PATH            delete a local file or empty directory\n" ++
  "  help                     show this text\n" ++
  "  exit, quit               leave the shell\n"

end Command

end RemoteFiles
