import Switchboard.Files.Basic
import Switchboard.Log.Priority
import Switchboard.Socket.Path

/-!
# Settings

Where services are looked for, how long, and what is logged. A setting that is given on the command line counts before one that
is given in a file, and that before the built-in one; each setting is settled on its own.
-/

namespace Switchboard

/-- The settings of the program. -/
structure Settings where
  /-- The directory of the sockets. -/
  serviceDir : String
  /-- How long to wait for a service to appear. -/
  waitTimeoutMs : UInt64
  /-- What is logged, as it was given. -/
  logLevel : String
  /-- How long to wait for an answer to a command on sessions. -/
  commandTimeoutMs : UInt64
deriving DecidableEq, Repr

/-- Settings as far as they are given. -/
structure GivenSettings where
  serviceDir : Option String
  waitTimeoutMs : Option UInt64
  logLevel : Option String
  commandTimeoutMs : Option UInt64
deriving DecidableEq, Repr

/-- Nothing is given. -/
def GivenSettings.none : GivenSettings :=
  ⟨.none, .none, .none, .none⟩

/-- In a file any of the settings may be left out, and nothing else may be there. -/
instance : Parcel GivenSettings where
  shape := .record "struct Config" true <|
    .cons "service_dir" .defaulted (.text "path string") <|
      .cons "service_wait_timeout_ms" .defaulted (.int .u64) <|
        .cons "log_level" .defaulted (.text "a string") <|
          .cons "session_command_timeout_ms" .defaulted (.int .u64) .nil
  toCarrier x := (x.serviceDir, x.waitTimeoutMs, x.logLevel, x.commandTimeoutMs, ())
  ofCarrier c := ⟨c.1, c.2.1, c.2.2.1, c.2.2.2.1⟩
  ofCarrier_toCarrier _ := rfl

/-- Why there are no settings. -/
inductive SettingsError where
  | cannotOpen (path : String) (e : SystemError)
  | cannotRead (path : String) (e : SystemError)
  | cannotParse (path : String) (fault : ParcelFault)
  | badLogLevel (text : String)
deriving Repr

namespace SettingsError

def message : SettingsError → String
  | .cannotOpen path e => "failed to open config file " ++ path ++ ": " ++ e.message
  | .cannotRead path e => "failed to parse config file " ++ path ++ ": " ++ e.message
  | .cannotParse path fault => "failed to parse config file " ++ path ++ ": " ++ fault.message
  | .badLogLevel text => "invalid log level " ++ quoted text ++ ": " ++ PriorityFilter.parseError

end SettingsError

namespace GivenSettings

/-- The settings that a file gives, by what reading it came to. -/
def ofFile (path : String) : Except FileFault (List UInt8) → Except SettingsError GivenSettings
  | .error (.cannotOpen e) => .error (.cannotOpen path e)
  | .error (.cannotRead e) => .error (.cannotRead path e)
  | .ok content => (Parcel.ofBytes content).mapError (.cannotParse path)

end GivenSettings

namespace Settings

/-- The settings when nothing is given. -/
def default : Settings :=
  ⟨defaultServiceDir, 5000, "info", 5000⟩

/-- The settings after some are given. -/
def override (s : Settings) (given : GivenSettings) : Settings where
  serviceDir := given.serviceDir.getD s.serviceDir
  waitTimeoutMs := given.waitTimeoutMs.getD s.waitTimeoutMs
  logLevel := given.logLevel.getD s.logLevel
  commandTimeoutMs := given.commandTimeoutMs.getD s.commandTimeoutMs

/-- The settings by a file, if one is named, and by what is given on the command line. -/
def load (contentOf : String → Except FileFault (List UInt8)) (file : Option String) (given : GivenSettings) :
    Except SettingsError Settings :=
  match file with
  | none => .ok (default.override given)
  | some path => (GivenSettings.ofFile path (contentOf path)).map fun fromFile => (default.override fromFile).override given

/-- What is let through to the log. -/
def logFilter (s : Settings) : Except SettingsError PriorityFilter :=
  match PriorityFilter.ofText? s.logLevel with
  | some f => .ok f
  | none => .error (.badLogLevel s.logLevel)

end Settings

end Switchboard
