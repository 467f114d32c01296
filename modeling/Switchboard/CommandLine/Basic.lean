import Switchboard.CommandLine.Grammar
import Switchboard.Settings.Basic

/-!
# The command line

The flags, which come first, and one of three subcommands with its arguments. The words for the shell of capture sessions are
handed on as they are: once the first of them is read, none is taken for a flag.
-/

namespace Switchboard

/-- The flags. -/
structure Flags where
  /-- The file with the settings. -/
  file : Option String
  /-- The settings that are given on the command line. -/
  given : GivenSettings
deriving DecidableEq, Repr

def Flags.none : Flags :=
  ⟨.none, .none⟩

/-- What the program is asked to do. -/
inductive Subcommand where
  /-- A command for the shell of capture sessions. -/
  | intelligence (words : List String)
  | powerstats (query : PowerQuery) (ids : List Int32)
  /-- Serve, with sessions to begin with. -/
  | serve (sessions : List String)
deriving DecidableEq, Repr

/-- A command line. -/
structure CommandLine where
  flags : Flags
  subcommand : Subcommand
deriving DecidableEq, Repr

/-- Why a command line is not followed. -/
inductive CommandExit where
  | help (page : String)
  | misuse (m : Misuse)
deriving DecidableEq, Repr

/-- What is printed instead of following the command line. -/
def CommandExit.message : CommandExit → String
  | .help page => page
  | .misuse m => m.message

namespace CommandLine

/-- The value of a flag that is given once. -/
def once {α : Type} (read : String → Except ValueFault α) (old : Option α) (value : String) :
    Except ValueFault (Option α) :=
  match old with
  | some _ => .error .duplicate
  | none => (read value).map some

/-- Text as it is. -/
def plain (value : String) : Except ValueFault String :=
  .ok value

/-- A time in milliseconds. -/
def milliseconds (value : String) : Except ValueFault UInt64 :=
  match readNat 0xffffffffffffffff value with
  | .ok n => .ok (UInt64.ofNat n)
  | .error fault => .error (.integer fault)

/-- An id. -/
def itemId (value : String) : Except ValueFault Int32 :=
  match readInt 0x7fffffff value with
  | .ok n => .ok (Int32.ofInt n)
  | .error fault => .error (.integer fault)

/-- A query about power. -/
def query (value : String) : Except ValueFault PowerQuery :=
  match PowerQuery.ofWord? value with
  | some q => .ok q
  | none => .error (.query value)

/-- The name of the program. -/
def programName : String := "sysshim"

/-! ## The grammars -/

/-- The words for the shell. -/
def intelligenceGrammar : Grammar (List String) where
  command := programName ++ " intelligence"
  about := "Run an intelligence service shell command (try `help`)"
  flags := []
  positionals := [
    { name := "args", label := "args", about := "shell command and its arguments", repeats := true, greedy := true,
      put := fun value words => .ok (words ++ [value]) }]
  subcommands := []

/-- A query, which has to be there, and its ids. -/
def powerstatsGrammar : Grammar (Option PowerQuery × List Int32) where
  command := programName ++ " powerstats"
  about := "Query the power stats HAL and print the result as JSON"
  flags := []
  positionals := [
    { name := "query", label := "QUERY", repeats := false, greedy := false,
      about := "entities, residency, consumers, consumed, meters or readings",
      put := fun value s => (query value).map fun q => (some q, s.2) },
    { name := "ids", label := "ID", repeats := true, greedy := false,
      about := "ids to restrict residency, consumed and readings to; none means all",
      put := fun value s => (itemId value).map fun id => (s.1, s.2 ++ [id]) }]
  subcommands := []

/-- The sessions to begin with. -/
def serveGrammar : Grammar (List String) where
  command := programName ++ " serve"
  about := "Host in-memory power stats and intelligence services until stdin is closed"
  flags := [
    { name := "--session", placeholder := "USER:ID", about := "add a pending session, may be repeated", repeats := true,
      put := fun value sessions => .ok (sessions ++ [value]) }]
  positionals := []
  subcommands := []

/-- The flags that come before the subcommand. -/
def grammar : Grammar Flags where
  command := programName
  about := "Command line tools and development hosts for system service shims."
  flags := [
    { name := "--cfg", placeholder := "PATH", about := "JSON file with default values for the options below",
      repeats := false,
      put := fun value s => (once plain s.file value).map fun file => { s with file } },
    { name := "--service-dir", placeholder := "DIR", about := "directory holding the service sockets", repeats := false,
      put := fun value s => (once plain s.given.serviceDir value).map fun serviceDir =>
        { s with given := { s.given with serviceDir } } },
    { name := "--service-wait-timeout-ms", placeholder := "MS", about := "how long to wait for a service to appear",
      repeats := false,
      put := fun value s => (once milliseconds s.given.waitTimeoutMs value).map fun waitTimeoutMs =>
        { s with given := { s.given with waitTimeoutMs } } },
    { name := "--log-level", placeholder := "LEVEL", repeats := false,
      about := "log level: a priority name or number, S to silence or * for everything",
      put := fun value s => (once plain s.given.logLevel value).map fun logLevel =>
        { s with given := { s.given with logLevel } } },
    { name := "--session-command-timeout-ms", placeholder := "MS", repeats := false,
      about := "how long session commands wait for the service to answer",
      put := fun value s => (once milliseconds s.given.commandTimeoutMs value).map fun commandTimeoutMs =>
        { s with given := { s.given with commandTimeoutMs } } }]
  positionals := []
  subcommands := [
    { name := "intelligence", about := intelligenceGrammar.about },
    { name := "powerstats", about := powerstatsGrammar.about },
    { name := "serve", about := serveGrammar.about }]

/-! ## Reading -/

/-- Reads the arguments of a command that has no subcommands. -/
def readLast {σ : Type} (g : Grammar σ) (state : σ) (args : List String) : Except CommandExit σ :=
  match g.read state args with
  | .error m => .error (.misuse m)
  | .ok .help => .error (.help g.help)
  | .ok (.complete state) | .ok (.subcommand state _ _) => .ok state

end CommandLine

namespace Subcommand

open CommandLine

/-- The subcommand of that name with its arguments. -/
def ofArgs (name : String) (args : List String) : Except CommandExit Subcommand :=
  if name = "intelligence" then (readLast intelligenceGrammar [] args).map .intelligence
  else if name = "powerstats" then
    match readLast powerstatsGrammar (none, []) args with
    | .error e => .error e
    | .ok (none, _) => .error (.misuse (.missingPositionals ["QUERY"]))
    | .ok (some q, ids) => .ok (.powerstats q ids)
  else (readLast serveGrammar [] args).map .serve

end Subcommand

namespace CommandLine

/-- Reads a command line. -/
def ofArgs (args : List String) : Except CommandExit CommandLine :=
  match grammar.read Flags.none args with
  | .error m => .error (.misuse m)
  | .ok .help => .error (.help grammar.help)
  | .ok (.complete _) => .error (.misuse (.missingCommand (grammar.subcommands.map (·.name))))
  | .ok (.subcommand flags name args) => (Subcommand.ofArgs name args).map fun subcommand => ⟨flags, subcommand⟩

end CommandLine

end Switchboard
