import Switchboard.Capture.Service
import Switchboard.Service.Basic

/-!
# Capture sessions over transactions

The stub serves an implementation, the proxy reaches it. The answer to a command is what was delivered, without its code. The
proxy gives a command to a thread of its own, and gives up the receiver when the transaction fails; for the flag, a failure is
logged and counts as "not allowed".
-/

namespace Switchboard

/-- The transactions on the service of capture sessions. -/
inductive CaptureCode where
  | listSessions
  | destroySessions
  | getAllowed
  | setAllowed
deriving DecidableEq, Repr

namespace CaptureCode

def code : CaptureCode → UInt32
  | .listSessions => 1
  | .destroySessions => 2
  | .getAllowed => 3
  | .setAllowed => 4

def all : List CaptureCode :=
  [.listSessions, .destroySessions, .getAllowed, .setAllowed]

def ofCode? (code : UInt32) : Option CaptureCode :=
  all.find? (·.code == code)

def name : CaptureCode → String
  | .listSessions => "ListSessions"
  | .destroySessions => "DestroySessions"
  | .getAllowed => "GetAllowInstantService"
  | .setAllowed => "SetAllowInstantService"

end CaptureCode

namespace CaptureService

variable {σ : Type}

/-- Waits for the answer to a command. A receiver that is kept is waited for in vain. -/
def await : Delivery → Except ServiceError Json
  | .answered _ data => .ok (Parcel.toJson data)
  | .dropped =>
    .error (.failedTransaction "no result from service: channel is empty and sending half is closed")
  | .kept => .error (.failedTransaction "no result from service: timed out waiting on channel")

/-- Serves an implementation. Nothing is asked of it unless the code is known and the payload is of the kind it takes. -/
def stub (service : CaptureService σ) : Service σ :=
  fun code data =>
    match CaptureCode.ofCode? code with
    | none => pure (.error (.unknownTransaction code))
    | some .listSessions =>
      match readParcel UserId data with
      | .error e => pure (.error e)
      | .ok user => await <$> service.list user
    | some .destroySessions =>
      match readParcel UserId data with
      | .error e => pure (.error e)
      | .ok user => await <$> service.destroy user
    | some .getAllowed => (fun b => .ok (Parcel.toJson b)) <$> service.allowed
    | some .setAllowed =>
      match readParcel Bool data with
      | .error e => pure (.error e)
      | .ok b => (fun () => .ok (Parcel.toJson ())) <$> service.setAllowed b

/-- What the receiver gets from a transaction on another thread. -/
def deliver : Option (Except ServiceError ResultData) → Delivery
  | some (.ok data) => .answered 0 data
  | some (.error _) => .dropped
  | none => .kept

/-- A command as a transaction on a thread of its own. -/
def command (remote : Service σ) (code : CaptureCode) (user : UserId) : Act σ Delivery :=
  deliver <$> Act.elsewhere (remote.transact code.code user ResultData)

/-- The service behind a remote object. -/
def proxy (remote : Service σ) : CaptureService σ where
  list user := command remote .listSessions user
  destroy user := command remote .destroySessions user
  allowed := do
    match ← remote.transact CaptureCode.getAllowed.code () Bool with
    | .ok b => pure b
    | .error e =>
      Act.log .error (CaptureCode.getAllowed.name ++ " failed: " ++ e.message)
      pure false
  setAllowed b := do
    match ← remote.transact CaptureCode.setAllowed.code b Unit with
    | .ok () => pure ()
    | .error e => Act.log .error (CaptureCode.setAllowed.name ++ " failed: " ++ e.message)

end CaptureService

end Switchboard
