import Switchboard.Log.Priority

/-!
# The log of a process

The log is set up once in a process, with a filter and the name of the process, and goes to the standard error stream or to a
pipe; setting it up again is an error and changes nothing. A record that the filter admits becomes a line: the time, the
priority, the name of the process, the place in the source if it is known, and the message.
-/

namespace Switchboard

/-- Where the log is written. -/
inductive LogTarget where
  | stderr
  | pipe
deriving DecidableEq, Repr

/-- How the log is set up. -/
structure LogConfig where
  filter : PriorityFilter
  processName : String
  target : LogTarget
deriving DecidableEq, Repr

/-- A record with the place it comes from. -/
structure LogRecord where
  level : Level
  file : Option String
  line : Option UInt32
  message : String
deriving DecidableEq, Repr

/-- What is said of a log that is set up a second time. -/
def alreadyInstalled : String :=
  "a logger is already installed: attempted to set a logger after the logging system was already initialized"

/-- The log of a process: how it was set up, if it was, and the lines that were written. -/
structure ProcessLog where
  config : Option LogConfig
  lines : List String
deriving DecidableEq, Repr

namespace LogConfig

/-- The filter of a log that is not configured. -/
def defaultFilter : PriorityFilter :=
  .priority .info

/-- The name of a process that has no better one. -/
def defaultName : String := "sysshim"

/-- The last component of a path. Empty components and single dots count for nothing; a path that ends in two dots has no last
component. -/
def lastComponent? (path : String) : Option String :=
  match ((path.splitOn "/").filter fun c => c != "" && c != ".").getLast? with
  | some ".." => none
  | last => last

/-- The name of a process by the path that it was started with. -/
def nameOf (path : String) : String :=
  (lastComponent? path).getD defaultName

end LogConfig

/-- The line of a record. -/
def LogRecord.render (time processName : String) (r : LogRecord) : String :=
  let place := match r.file, r.line with
    | none, _ => ""
    | some file, none => ": " ++ file
    | some file, some line => ": " ++ file ++ ":" ++ toString line
  "[" ++ time ++ " " ++ r.level.priority.name ++ " " ++ processName ++ place ++ "] " ++ r.message ++ "\n"

namespace ProcessLog

def new : ProcessLog :=
  ⟨none, []⟩

/-- The levels that are written; none before the log is set up. -/
def threshold (l : ProcessLog) : Threshold :=
  l.config.bind (·.filter.threshold)

/-- Sets the log up. -/
def install (config : LogConfig) (l : ProcessLog) : Except String Unit × ProcessLog :=
  match l.config with
  | some _ => (.error alreadyInstalled, l)
  | none => (.ok (), { l with config := some config })

/-- Writes a record. -/
def write (time : String) (r : LogRecord) (l : ProcessLog) : ProcessLog :=
  match l.config with
  | none => l
  | some config =>
    if config.filter.threshold.admits r.level then { l with lines := l.lines ++ [r.render time config.processName] } else l

/-- Sets the log up so many times with the same configuration; returns what came of each. -/
def installAll (config : LogConfig) : Nat → ProcessLog → List (Except String Unit) × ProcessLog
  | 0, l => ([], l)
  | times + 1, l =>
    let (first, l) := l.install config
    let (others, l) := installAll config times l
    (first :: others, l)

/-- The lines at a target, as a reader sees them. -/
def shown (l : ProcessLog) (target : LogTarget) : List String :=
  if l.config.any (·.target == target) then
    let text := String.join l.lines
    if text.isEmpty then [] else (text.dropEnd 1).toString.splitOn "\n"
  else []

end ProcessLog

end Switchboard
