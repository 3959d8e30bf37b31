/-!
# The log

What the client does is told in records, each with a level. A log is the list of its records in
the order they were written.

* `Record.line` -- a record as it is written down;
* `Log.atLeast` -- the records that matter enough.
-/

namespace RemoteFiles

namespace Log

/-- How much a record matters, the least first. -/
inductive Level where
  | trace
  | debug
  | info
  | warn
  | error
  deriving DecidableEq, Repr

/-- The name of a level. -/
def Level.name : Level → String
  | .trace => "TRACE"
  | .debug => "DEBUG"
  | .info => "INFO"
  | .warn => "WARN"
  | .error => "ERROR"

/-- The rank of a level, that of the least being zero. -/
def Level.rank : Level → Nat
  | .trace => 0
  | .debug => 1
  | .info => 2
  | .warn => 3
  | .error => 4

/-- One record. -/
structure Record where
  level : Level
  text : String
  deriving DecidableEq, Repr

/-- A record as it is written down. -/
def Record.line (record : Record) : String :=
  "[" ++ record.level.name ++ "] " ++ record.text ++ "\n"

end Log

/-- The records of a run, in the order they were written. -/
abbrev Log := List Log.Record

/-- The records of a level and of those that matter more. -/
def Log.atLeast (level : Log.Level) (log : Log) : Log :=
  log.filter fun record => level.rank ≤ record.level.rank

end RemoteFiles
