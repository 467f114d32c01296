import Switchboard.Power.Query
import Switchboard.Text.Integer
import Switchboard.CommandLine.HelpPage

/-!
# The grammar of a command line

A command takes flags, each with the next argument for its value, then positional arguments or the name of a subcommand. Its
arguments are read from left to right into a state of the command's own.

* `--` ends the flags: whatever follows is positional. A greedy positional argument ends them too.
* `--help` and `help` ask for help, unless they are the value of a flag or the flags have ended. Reading goes on, so that a fault
  further on is reported first, and a subcommand explains itself.
* Reading stops at a subcommand, which is named or stands there by its letter; the arguments behind it are left to it. The first
  subcommand that fits is meant.
-/

namespace Switchboard

/-- What is wrong with the value of a flag or with a positional argument. -/
inductive ValueFault where
  /-- The flag has a value already. -/
  | duplicate
  | integer (fault : IntegerFault)
  | query (word : String)
deriving DecidableEq, Repr

def ValueFault.message : ValueFault → String
  | .duplicate => "duplicate values provided"
  | .integer fault => fault.message
  | .query word => PowerQuery.wordError word

/-- Why a command line is refused. -/
inductive Misuse where
  | unrecognized (arg : String)
  | noValue (flag : String)
  | badFlag (flag value : String) (fault : ValueFault)
  | badPositional (name value : String) (fault : ValueFault)
  | afterHelp
  | missingPositionals (labels : List String)
  | missingCommand (names : List String)
deriving DecidableEq, Repr

namespace Misuse

/-- Names on lines of their own. -/
def listed (names : List String) : String :=
  String.join (names.map fun name => "    " ++ name ++ "\n")

def message : Misuse → String
  | .unrecognized arg => "Unrecognized argument: " ++ arg ++ "\n"
  | .noValue flag => "No value provided for option '" ++ flag ++ "'.\n"
  | .badFlag flag value fault =>
    "Error parsing option '" ++ flag ++ "' with value '" ++ value ++ "': " ++ fault.message ++ "\n"
  | .badPositional name value fault =>
    "Error parsing positional argument '" ++ name ++ "' with value '" ++ value ++ "': " ++ fault.message ++ "\n"
  | .afterHelp => "Trailing arguments are not allowed after `help`."
  | .missingPositionals labels => "Required positional arguments not provided:\n" ++ listed labels
  | .missingCommand names => "One of the following subcommands must be present:\n" ++ listed ("help" :: names)

end Misuse

/-- A flag, and how its value goes into the state. -/
structure Flag (σ : Type) where
  name : String
  /-- What stands for the value on a help page. -/
  placeholder : String
  about : String
  repeats : Bool
  put : String → σ → Except ValueFault σ

/-- A positional argument, and how it goes into the state. One that repeats is the last. -/
structure Positional (σ : Type) where
  name : String
  /-- What stands for it on a help page. -/
  label : String
  about : String
  repeats : Bool
  /-- Whether nothing behind it is a flag any more. -/
  greedy : Bool
  put : String → σ → Except ValueFault σ

/-- A subcommand. -/
structure CommandEntry where
  name : String
  about : String
  /-- The letter that stands for it. A subcommand without a letter of its own has the null. -/
  letter : Char := '\x00'
deriving DecidableEq, Repr

/-- Whether an argument means a subcommand. -/
def CommandEntry.fits (c : CommandEntry) (arg : String) : Bool :=
  c.name = arg || arg.toList = [c.letter]

/-- What a command takes. -/
structure Grammar (σ : Type) where
  /-- The command as it is typed. -/
  command : String
  about : String
  flags : List (Flag σ)
  positionals : List (Positional σ)
  subcommands : List CommandEntry

/-- How the reading of arguments comes to its end. -/
inductive Reading (σ : Type) where
  | complete (state : σ)
  /-- At a subcommand, with its arguments. -/
  | subcommand (state : σ) (name : String) (args : List String)
  | help
deriving Repr

/-- Where reading stands. -/
structure Reader (σ : Type) where
  state : σ
  /-- Whether help was asked for. -/
  help : Bool
  /-- Whether the flags have ended. -/
  ended : Bool
  /-- The positional arguments that may still come. -/
  positionals : List (Positional σ)

/-- Whether an argument asks for help. -/
def asksForHelp (arg : String) : Bool :=
  arg == "--help" || arg == "help"

/-- Whether an argument looks like a flag. -/
def isDashed (arg : String) : Bool :=
  arg.toList.head? == some '-'

namespace Grammar

variable {σ : Type}

def flag? (g : Grammar σ) (name : String) : Option (Flag σ) :=
  g.flags.find? (·.name == name)

def subcommand? (g : Grammar σ) (arg : String) : Option CommandEntry :=
  g.subcommands.find? (·.fits arg)

/-- Reads arguments from where reading stands. -/
def readFrom (g : Grammar σ) (r : Reader σ) : List String → Except Misuse (Reading σ)
  | [] => .ok (if r.help then .help else .complete r.state)
  | arg :: rest =>
    if asksForHelp arg && !r.ended then g.readFrom { r with help := true } rest
    else if isDashed arg && !r.ended then
      if arg = "--" then g.readFrom { r with ended := true } rest
      else if r.help then .error .afterHelp
      else
        match g.flag? arg with
        | none => .error (.unrecognized arg)
        | some flag =>
          match rest with
          | [] => .error (.noValue arg)
          | value :: rest =>
            match flag.put value r.state with
            | .error fault => .error (.badFlag arg value fault)
            | .ok state => g.readFrom { r with state } rest
    else
      match g.subcommand? arg, r.positionals with
      | some c, _ => .ok (.subcommand r.state c.name (if r.help then "help" :: rest else rest))
      | none, [] => .error (.unrecognized arg)
      | none, p :: others =>
        match p.put arg r.state with
        | .error fault => .error (.badPositional p.name arg fault)
        | .ok state =>
          g.readFrom
            { r with state, ended := r.ended || p.greedy, positionals := if p.repeats then p :: others else others }
            rest

/-- Reads all arguments of a command. -/
def read (g : Grammar σ) (state : σ) (args : List String) : Except Misuse (Reading σ) :=
  g.readFrom ⟨state, false, false, g.positionals⟩ args

/-! ## The help page -/

end Grammar

/-- A flag on the usage line. -/
def Flag.usage {σ : Type} (f : Flag σ) : String :=
  "[" ++ f.name ++ " <" ++ f.placeholder ++ (if f.repeats then "..." else "") ++ ">]"

/-- A positional argument on the usage line. -/
def Positional.usage {σ : Type} (p : Positional σ) : String :=
  let shown := p.label ++ if p.repeats then "..." else ""
  let shown := if p.greedy then shown else "<" ++ shown ++ ">"
  if p.repeats then "[" ++ shown ++ "]" else shown

namespace Grammar

variable {σ : Type}

/-- The positional arguments that are explained: greedy ones are not. -/
def explained (g : Grammar σ) : List (Positional σ) :=
  g.positionals.filter (!·.greedy)

/-- The first line of the help page. -/
def usage (g : Grammar σ) : String :=
  " ".intercalate <|
    "Usage:" :: g.command :: g.flags.map Flag.usage ++
      (if g.explained.isEmpty then [] else ["[--]"]) ++ g.positionals.map Positional.usage ++
      (if g.subcommands.isEmpty then [] else ["<command>", "[<args>]"])

/-- The help page. -/
def help (g : Grammar σ) : String :=
  HelpPage.ofLines <|
    [g.usage, "", g.about] ++
      HelpPage.part "Positional Arguments" (g.explained.map fun p => (p.label, p.about)) ++
      HelpPage.part "Options" (g.flags.map (fun f => (f.name, f.about)) ++
        [("--help, help", "display usage information")]) ++
      HelpPage.part "Commands" (g.subcommands.map fun c => (c.name, c.about))

end Grammar

end Switchboard
