import Switchboard.Capture.Shell
import Switchboard.CommandLine.Basic
import Switchboard.Power.Facade
import Switchboard.Program.Sessions
import Switchboard.Settings.Basic
import Switchboard.World.Backend
import Switchboard.Text.Utf8

/-!
# Running the program

A run reads the command line, the settings and the filter for the log, in this order, and then does what the subcommand asks. A
client looks its service up in the service directory; a server publishes a sample device and a store of sessions there, and shuts
them down when its input ends. Whatever fails is reported on the error stream, and the exit code is one.
-/

namespace Switchboard

/-- Why a run fails. -/
inductive ProgramError where
  | settings (e : SettingsError)
  /-- A service does not appear in the service directory. -/
  | unavailable (service dir : String)
  | session (arg : String) (fault : SessionFault)
  /-- A service cannot be published; `what` names it. -/
  | notPublished (what : String) (e : ServiceError)
deriving Repr

def ProgramError.message : ProgramError → String
  | .settings e => e.message
  | .unavailable service dir => service ++ " is not available in " ++ dir
  | .session arg fault => fault.message arg
  | .notPublished what e => "failed to publish " ++ what ++ ": " ++ e.message

/-- What a run prints, and its exit code. -/
structure RunReport where
  code : UInt8
  out : String
  err : String
deriving DecidableEq, Repr

namespace RunReport

/-- The report of a command line that is not followed. -/
def ofExit : CommandExit → RunReport
  | .help page => ⟨0, page ++ "\n", ""⟩
  | .misuse m =>
    ⟨1, "", m.message ++ "\nRun " ++ CommandLine.programName ++ " --help for more information.\n"⟩

def ofError (e : ProgramError) : RunReport :=
  ⟨1, "", CommandLine.programName ++ ": " ++ e.message ++ "\n"⟩

/-- The report of a command of the shell. Of the exit code the lowest byte counts. -/
def ofShell (r : ShellCommand.ShellRun) : RunReport :=
  ⟨r.code.toUInt32.toUInt8, textOfBytes r.out.written, textOfBytes r.err.written⟩

end RunReport

/-- A run that is ready to do what it is asked. -/
structure Plan where
  settings : Settings
  filter : PriorityFilter
  subcommand : Subcommand
deriving DecidableEq, Repr

/-- Makes a run ready; if that fails, the run ends with a report. -/
def Plan.ofArgs (contentOf : String → Except FileFault (List UInt8)) (args : List String) : Except RunReport Plan :=
  match CommandLine.ofArgs args with
  | .error e => .error (.ofExit e)
  | .ok line =>
    match Settings.load contentOf line.flags.file line.flags.given with
    | .error e => .error (.ofError (.settings e))
    | .ok settings =>
      match settings.logFilter with
      | .error e => .error (.ofError (.settings e))
      | .ok filter => .ok ⟨settings, filter, line.subcommand⟩

/-- The two services of a server, by their hosts. -/
structure ServerHosts where
  power : Nat
  capture : Nat
deriving DecidableEq, Repr

namespace Program

/-! ## Clients -/

/-- Asks a query and prints the answer. -/
def powerstats (s : Settings) (q : PowerQuery) (ids : List Int32) :
    Act (World Backend) (Except ProgramError RunReport) := do
  let (connected, facade) ← (PowerFacade.new .sockets).connect
  if connected then do
    let items ← facade.ask q ids
    pure (.ok ⟨0, (Parcel.encode items).indented ++ "\n", ""⟩)
  else pure (.error (.unavailable powerServiceName s.serviceDir))

/-- Runs a command of the shell. -/
def intelligence (s : Settings) (words : List String) : Act (World Backend) (Except ProgramError RunReport) := do
  match ← World.lookup .sockets CaptureService.serviceName with
  | none => pure (.error (.unavailable (CaptureService.serviceName ++ " service") s.serviceDir))
  | some object => do
    let service := CaptureService.proxy (World.transact object)
    let timeout := s.commandTimeoutMs.toNat * 1000000
    let run ← ShellCommand.exec service timeout words ⟨none, []⟩ ⟨none, []⟩
    pure (.ok (.ofShell run))

/-! ## The server -/

/-- The sessions of a server. -/
def storeOf (sessions : List String) : Except ProgramError SessionStore :=
  ((SessionStore.new ⟨0⟩).addAll sessions).mapError fun (arg, fault) => .session arg fault

/-- What the services of a server are called in its reports. -/
def powerTitle : String := "power stats"

def captureTitle : String := "intelligence"

/-- The report of a server whose service directory cannot be made. -/
def noDirectory (dir : String) (e : SystemError) : ProgramError :=
  .notPublished powerTitle (.publish (socketPath dir powerServiceName) e)

/-- Sets a service up and publishes it in the service directory. -/
def publish (title name : String) (offer : Offer) : Act (World Backend) (Except ProgramError Nat) := do
  let service ← World.onBackend (Backend.install offer)
  match ← World.onSite (Site.publish name service) with
  | .error e => pure (.error (.notPublished title e))
  | .ok h => pure (.ok h)

/-- Publishes the services of a server in a directory that is there. -/
def serve (dir : String) (store : SessionStore) : Act (World Backend) (Except ProgramError ServerHosts) := do
  match ← publish powerTitle powerServiceName (.power Device.sample) with
  | .error e => pure (.error e)
  | .ok power => do
    match ← publish captureTitle CaptureService.serviceName (.capture store) with
    | .error e => do
      World.onSite (Site.shutdown power)
      pure (.error e)
    | .ok capture => do
      Act.log .info ("serving in " ++ dir)
      pure (.ok ⟨power, capture⟩)

/-- Shuts the services of a server down. -/
def close (served : ServerHosts) : Act (World Backend) Unit := do
  Act.log .info "stdin closed, shutting down"
  World.onSite (Site.shutdown served.power)
  World.onSite (Site.shutdown served.capture)

end Program

end Switchboard
