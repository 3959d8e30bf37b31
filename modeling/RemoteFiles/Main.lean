import RemoteFiles.CommandLine
import RemoteFiles.Program.Connection
import RemoteFiles.Program.Survey
import RemoteFiles.Shell.Basic

/-!
# The program

The program reads its command line, asks for the passwords, sends the request and shows the answer;
with `--shell`, it goes on with the commands that the user types. What is to be decided is decided
by the library: a step is performed on a survey of the disk, its log is written down, its changes
are carried out, and what it shows is printed.
-/

namespace RemoteFiles.Program

/-- Where the log goes, and how long the server may take. -/
structure Setting where
  level : Log.Level
  tracefile : Option IO.FS.Handle
  /-- How long to wait for the server, in seconds. -/
  timeout : UInt64

/-- A step of the program. -/
abbrev ProgramM := ReaderT Setting (ExceptT Failure (StateT Shell IO))

namespace ProgramM

/-- An action of the machine. It fails as the machine says, with the context before it. -/
def attempt {α : Type} (x : IO α) (context : String) : ProgramM α := fun _ => ExceptT.mk do
  match ← x.toBaseIO with
  | .ok a => return .ok a
  | .error e => return .error (.transport (context ++ e.toString))

/-- Writes records down. The tracefile gets all of them. -/
def record (log : Log) : ProgramM Unit := do
  for entry in log.atLeast (← read).level do
    IO.eprint entry.line
  match (← read).tracefile with
  | none => return
  | some file =>
    for entry in log do
      file.putStr entry.line
    file.flush

/-- Prints a text. -/
def print (text : String) : ProgramM Unit := do
  let stdout ← IO.getStdout
  stdout.putStr text
  stdout.flush

/-- Performs a step of the shell that asks for what is wanted. -/
def perform {α : Type} (wanted : Wanted) (x : ShellM α) : ProgramM α := do
  let disk ← attempt (survey wanted) ""
  let (result, shell) :=
    match x { ← get with client := ⟨disk, "", []⟩ } with
    | .ok a shell => (Except.ok a, shell)
    | .error failure shell => (Except.error failure, shell)
  set shell
  record shell.client.log
  attempt (carryOut disk shell.client.disk) ""
  print shell.client.console
  match result with
  | .ok a => return a
  | .error failure => throw failure

/-- Sends a request and waits for the answer. -/
def exchange (request : Request) : ProgramM Bytes := do
  let frame ← perform (.ofOperation request.operation) (Shell.onRequest request.toBytes)
  let session := request.session
  let socket := session.host ++ ":" ++ session.port.toNat.repr
  let pieces ← attempt (Program.exchange session.host session.port (← read).timeout frame)
    ("Request to " ++ socket ++ ": ")
  let (reply, _) ← perform [] (Shell.onClient (Source.receive pieces))
  match reply with
  | .ok bytes => return bytes
  | .error failure => throw failure

/-- Runs one line of the shell. -/
def command (line : String) : ProgramM Flow := do
  match ← perform (.ofLine line) (Shell.begin line) with
  | .done flow => return flow
  | .asks request => do
    let reply ← exchange request
    perform (.ofOperation request.operation) (Shell.settle request reply)

/-- Runs one line of the shell and reports its failure, if it fails. -/
def report (line : String) : ProgramM Flow := do
  try command line
  catch failure => do
    print (badLine failure.message)
    return .goOn

/-- Runs the lines that the user types. -/
partial def converse : ProgramM Unit := do
  print Shell.prompt
  let line ← attempt (do (← IO.getStdin).getLine) ""
  if line.isEmpty then print "\n"
  else
    match ← report line with
    | .exit => return
    | .goOn => converse

/-- Asks for a password at the terminal, which is told to conceal it. -/
def askPassword (prompt : String) : ProgramM Secret :=
  attempt (do
    let output ← IO.FS.Handle.mk "/dev/tty" .write
    output.putStr (prompt ++ "\x1b[8m")
    output.flush
    let line ← (← IO.FS.Handle.mk "/dev/tty" .read).getLine
    output.putStr "\x1b[0m"
    output.flush
    return ⟨line.dropEndWhile (· == '\n') |>.toString⟩) "Reading password: "

/-- Does what a command line asks for. -/
def run (line : CommandLine) : ProgramM Unit := do
  let _ ← perform [] (Shell.onRequest (line.flags.resolve line.fields))
  let password ← askPassword ("password for " ++ line.username ++ ": ")
  let newPassword ←
    match line.flags.createUser with
    | none | some "" => pure none
    | some name => some <$> askPassword ("password for new user " ++ name ++ ": ")
  let session := { (← get).session with password }
  modify fun shell => { shell with session }
  let request ← perform (.ofFields line.fields)
    (Shell.onRequest (Request.ofParams ⟨session, line.flags, line.fields, newPassword⟩))
  let reply ← exchange request
  let response ← perform [] (Shell.onRequest (Response.parse request reply))
  if request.opensShell && response.successful then
    print (goodLine response.message)
    let session ← perform [] (Shell.onClient (session.update response.header.session))
    modify fun shell => { shell with session }
    converse
  else perform (.ofOperation request.operation) (Shell.onClient response.present)

end ProgramM

/-- How the program works under a command line. -/
def Setting.ofCommandLine (line : CommandLine) : IO Setting := do
  let level : Log.Level := if line.trace then .trace else if line.debug then .debug else .warn
  let tracefile ← line.tracefile.mapM fun name => IO.FS.Handle.mk name .write
  return ⟨level, tracefile, line.timeout⟩

/-- The shell before the first request. The password is still to be asked for. -/
def opening (line : CommandLine) (disk : Disk) : Shell :=
  { client := ⟨disk, "", []⟩
    session := ⟨line.host, line.port, line.username, ⟨""⟩, 0⟩
    link := .fresh [] }

/-- Does what a command line asks for, and answers the exit code. -/
def execute (line : CommandLine) : IO UInt32 := do
  let setting ← Setting.ofCommandLine line
  let shell := opening line (← unexplored)
  match ← ((ProgramM.run line setting).run shell) with
  | (.ok (), _) => return 0
  | (.error failure, _) =>
    IO.eprint (badLine failure.message)
    return 1

/-- Answers an exit code: zero if all went well. -/
def start (arguments : List String) : IO UInt32 := do
  match CommandLine.parse arguments with
  | .ok line =>
    try execute line
    catch e =>
      IO.eprint (badLine e.toString)
      return 1
  | .error exit =>
    if exit.success then
      IO.println exit.output
      return 0
    else
      IO.eprintln (exit.output ++ "\nRun rfmc --help for more information.")
      return 1

end RemoteFiles.Program

/-- Runs the program on its arguments. -/
def main (arguments : List String) : IO UInt32 :=
  RemoteFiles.Program.start arguments
