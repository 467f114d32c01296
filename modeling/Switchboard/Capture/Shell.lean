import Switchboard.Capture.Service
import Switchboard.Text.Case

/-!
# A shell for capture sessions

A command is a list of words. `ShellCommand.ofWords` says what a command asks for, without asking it: an act on the service, or
a message and no act. `ShellCommand.report` performs it and says what is to be printed; `exec` prints. The exit code is zero
only when the service was asked and answered in time.
-/

namespace Switchboard

/-- What the shell asks of the service, or only says. -/
inductive ShellCommand where
  | list (user : UserId)
  | destroy (user : UserId)
  | getAllowed
  | setAllowed (b : Bool)
  /-- Nothing is asked: a text is printed, and that counts as a failure. -/
  | say (text : String)
deriving DecidableEq, Repr

/-- What is wrong with the words of a command. -/
inductive ShellError where
  | badUser (e : BadUserNumber)
  /-- A word is missing after the last one. -/
  | missingArgument (last : String)
deriving DecidableEq, Repr

def ShellError.message : ShellError → String
  | .badUser e => e.message
  | .missingArgument last => "Argument expected after \"" ++ last ++ "\""

namespace ShellCommand

def help : String :=
  "Intelligence Service (intelligence) commands:\n" ++
  "  help\n" ++
  "    Prints this help text.\n" ++
  "\n" ++
  "  get bind-instant-service-allowed\n" ++
  "    Gets whether binding to services provided by instant apps is allowed\n" ++
  "\n" ++
  "  set bind-instant-service-allowed [true | false]\n" ++
  "    Sets whether binding to services provided by instant apps is allowed\n" ++
  "\n" ++
  "  list sessions [--user USER_ID]\n" ++
  "    Lists all pending sessions.\n" ++
  "\n" ++
  "  destroy sessions [--user USER_ID]\n" ++
  "    Destroys all pending sessions.\n" ++
  "\n"

/-- The word for the flag of the service. -/
def flagWord : String := "bind-instant-service-allowed"

/-- A message on a line of its own. -/
def sayLine (text : String) : ShellCommand :=
  .say (text ++ "\n")

/-- The user whose sessions are meant, by the words after `sessions`. Words that are not `--user` are passed over, and mean all
users. -/
def userOfWords : List String → Except ShellError UserId
  | "--user" :: [] => .error (.missingArgument "--user")
  | "--user" :: user :: _ => (UserId.ofText user).mapError .badUser
  | _ => .ok .all

/-- A command on sessions, by the words after its verb. -/
def sessionsOfWords (verb : String) (command : UserId → ShellCommand) : List String → Except ShellError ShellCommand
  | [] => .error (.missingArgument verb)
  | "sessions" :: rest => (userOfWords rest).map command
  | _ :: _ => .ok (sayLine "Error: invalid list type")

/-- The mode that a word sets the flag to, in any case. -/
def modeOfWord? (mode : String) : Option Bool :=
  if lowerText mode = "true" then some true
  else if lowerText mode = "false" then some false
  else none

/-- What a command asks for. -/
def ofWords : List String → Except ShellError ShellCommand
  | [] | "help" :: _ | "-h" :: _ => .ok (.say help)
  | "list" :: rest => sessionsOfWords "list" .list rest
  | "destroy" :: rest => sessionsOfWords "destroy" .destroy rest
  | "get" :: [] => .error (.missingArgument "get")
  | "get" :: what :: _ => .ok (if what = flagWord then .getAllowed else sayLine ("Invalid set: " ++ what))
  | "set" :: [] => .error (.missingArgument "set")
  | "set" :: what :: rest =>
    if what = flagWord then
      match rest with
      | [] => .error (.missingArgument what)
      | mode :: _ =>
        match modeOfWord? mode with
        | some b => .ok (.setAllowed b)
        | none => .ok (sayLine ("Invalid mode: " ++ mode))
    else .ok (sayLine ("Invalid set: " ++ what))
  | verb :: _ => .ok (sayLine ("Unknown command: " ++ verb))

/-- What is printed, and the exit code. -/
structure Report where
  text : String
  code : Int32
deriving DecidableEq, Repr

/-- A time in words; a part of a second is given in whole milliseconds. -/
def timeText (nanoseconds : Nat) : String :=
  if nanoseconds % 1000000000 = 0 then toString (nanoseconds / 1000000000) ++ " seconds"
  else toString (nanoseconds / 1000000) ++ " ms"

/-- What is reported of a command on sessions. Without an answer the shell waits until its time is over. -/
def reportDelivery (timeout : Nat) (lines : ResultData → List String) : Delivery → Report
  | .answered _ data => ⟨String.join ((lines data).map (· ++ "\n")), 0⟩
  | .dropped | .kept => ⟨"Timed out after " ++ timeText timeout ++ "\n", -1⟩

variable {σ : Type}

/-- Performs a command; `timeout` is how many nanoseconds the shell waits for an answer. -/
def report (service : CaptureService σ) (timeout : Nat) : ShellCommand → Act σ Report
  | .list user => reportDelivery timeout (·.sessions.getD []) <$> service.list user
  | .destroy user => reportDelivery timeout (fun _ => []) <$> service.destroy user
  | .getAllowed => (fun b => ⟨(if b then "true" else "false") ++ "\n", 0⟩) <$> service.allowed
  | .setAllowed b => (fun () => ⟨"", 0⟩) <$> service.setAllowed b
  | .say text => pure ⟨text, -1⟩

/-- A stream of output: what was written to it, and how many bytes it takes. -/
structure Sink where
  limit : Option Nat
  written : List UInt8
deriving Repr

namespace Sink

/-- Writes a text, as far as the stream takes it; returns whether it took the whole. -/
def write (text : String) (s : Sink) : Bool × Sink :=
  let bytes := text.toUTF8.toList
  match s.limit with
  | none => (true, { s with written := s.written ++ bytes })
  | some limit =>
    let room := limit - s.written.length
    (bytes.length ≤ room, { s with written := s.written ++ bytes.take room })

end Sink

/-- What running a command comes to: the exit code and the two streams. -/
structure ShellRun where
  code : Int32
  out : Sink
  err : Sink
deriving Repr

/-- Runs a command. Errors in its words go to the second stream, which may be full; that the first stream is full is logged,
and a failure. -/
def exec (service : CaptureService σ) (timeout : Nat) (words : List String) (out err : Sink) : Act σ ShellRun := do
  match ofWords words with
  | .error e => pure ⟨-1, out, (err.write ("Error: " ++ e.message ++ "\n")).2⟩
  | .ok command => do
    let report ← command.report service timeout
    match out.write report.text with
    | (true, out) => pure ⟨report.code, out, err⟩
    | (false, out) => do
      Act.log .error "intelligence shell: sink is full"
      pure ⟨-1, out, err⟩

end ShellCommand

end Switchboard
