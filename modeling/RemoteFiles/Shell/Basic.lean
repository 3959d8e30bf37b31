import RemoteFiles.Response.Report
import RemoteFiles.Shell.Command

/-!
# The shell

The shell runs commands one after the other under one session. Each answer of the server hands out
the session id that the next request carries. A command that fails is reported and the shell goes
on; it ends with the input, with `exit` or `quit`, or when the server ends the session.

* `Shell.begin` and `Shell.settle` -- a command up to its request, and from the answer on;
* `Shell.command` -- a whole command over a `Link`, which holds the answers to come;
* `Shell.run` -- a whole script.
-/

namespace RemoteFiles

/-- A connection as the shell sees it: what has gone into it, and what will come back. -/
structure Link where
  /-- The answers to come, the next one first; a failure stands for an exchange that breaks. -/
  replies : List (Except Failure Bytes)
  /-- The requests that have been handed over, sent or not. -/
  requests : List Request
  /-- The frames that have been sent. -/
  sent : List Bytes

/-- A connection that nothing has gone into. -/
def Link.fresh (replies : List (Except Failure Bytes)) : Link := ⟨replies, [], []⟩

/-- What the shell works on. -/
structure Shell where
  client : Client
  session : Session
  link : Link

/-- A step of the shell. -/
abbrev ShellM := EStateM Failure Shell

/-- What comes after a command. -/
inductive Flow where
  | goOn
  | exit
  deriving DecidableEq, Repr

/-- How far a command gets before the server is asked. -/
inductive Begun where
  /-- The command is done, and this comes after it. -/
  | done (flow : Flow)
  /-- The server is to be asked. -/
  | asks (request : Request)

namespace Shell

/-- What the user sees when a command is awaited. -/
def prompt : String := "rfm> "

/-- A step of the client. -/
def onClient {α : Type} (x : ClientM Failure α) : ShellM α := fun shell =>
  match x shell.client with
  | .ok a client => .ok a { shell with client := client }
  | .error failure client => .error failure { shell with client := client }

/-- A step of the client that fails as requests do. -/
def onRequest {α : Type} (x : ClientM Error α) : ShellM α :=
  onClient (ClientM.mapError .request x)

/-- The request that a command asks for. -/
def requestOf (session : Session) : RemoteCommand → ClientM Error Request
  | .ls path => return session.ls path
  | .mkdir path => return session.mkdir path
  | .delete path => return session.delete path
  | .get path directory => session.get path directory
  | .put source directory => session.put source directory

/-- A command up to the request that it sends, if it sends one. -/
def begin (line : String) : ShellM Begun := do
  let command ← onClient (ClientM.require (Command.parse line))
  match command with
  | .nothing => return .done .goOn
  | .help => do
    onClient (ClientM.print Command.helpText)
    return .done .goOn
  | .leave => return .done .exit
  | .onDisk action path => do
    let text ← onClient (action.run path)
    onClient (ClientM.print (endLine text))
    return .done .goOn
  | .remote command => do
    let request ← onRequest (requestOf (← get).session command)
    return .asks request

/-- Hands over a request and waits for the answer. -/
def exchange (request : Request) : ShellM Bytes := do
  modify fun shell => { shell with link.requests := shell.link.requests ++ [request] }
  let frame ← onRequest request.toBytes
  modify fun shell => { shell with link.sent := shell.link.sent ++ [frame] }
  match (← get).link.replies with
  | [] => throw (.transport "no reply")
  | reply :: later => do
    modify fun shell => { shell with link.replies := later }
    onClient (ClientM.require reply)

/-- A command from the answer of the server on. -/
def settle (request : Request) (reply : Bytes) : ShellM Flow := do
  let response ← onRequest (Response.parse request reply)
  let session ← onClient ((← get).session.update response.header.session)
  modify fun shell => { shell with session := session }
  onClient response.present
  if response.status.endsSession then
    onClient (ClientM.say .info ("server ended session " ++ session.id.toNat.repr))
    onClient (ClientM.print "Session ended\n")
    return .exit
  else return .goOn

/-- Runs one line. -/
def command (line : String) : ShellM Flow := do
  match ← begin line with
  | .done flow => return flow
  | .asks request => do
    let reply ← exchange request
    settle request reply

/-- Runs one line and reports its failure, if it fails. -/
def report (line : String) : ShellM Flow := fun shell =>
  match command line shell with
  | .ok flow shell => .ok flow shell
  | .error failure shell =>
    (do onClient (ClientM.print (badLine failure.message)); return .goOn : ShellM Flow) shell

/-- The lines of a script. What follows the last line end is a line unless it is empty. -/
def linesOf (script : Bytes) : List Bytes :=
  let lines := script.splitOn 0x0A
  if lines.getLast? = some [] then lines.dropLast else lines

/-- Runs lines until the input or the shell ends. A line that is no text ends it with a failure. -/
def runLines : List Bytes → ShellM Unit
  | [] => onClient (ClientM.print (prompt ++ "\n"))
  | line :: later => do
    onClient (ClientM.print prompt)
    match Utf8.decode? line with
    | none => throw .inputNotText
    | some line =>
      match ← report line with
      | .exit => return
      | .goOn => runLines later

/-- Runs a whole script. -/
def run (script : Bytes) : ShellM Unit := runLines (linesOf script)

end Shell

end RemoteFiles
