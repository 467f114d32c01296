import Switchboard.Power.Device
import Switchboard.Power.Remote
import Switchboard.Capture.Store
import Switchboard.Capture.Remote
import Switchboard.Service.Plain

/-!
# The services of a world

The state of all services that are set up: counters, devices and stores of sessions, each by its number. `Offer` says
which service is set up, and `install` does it.
-/

namespace Switchboard

/-- What a service that never answers was asked. -/
inductive CaptureCall where
  | list (user : UserId)
  | destroy (user : UserId)
  | getAllowed
  | setAllowed (b : Bool)
deriving DecidableEq, Repr

/-- The state of all services. -/
structure Backend where
  totals : List UInt64
  devices : List Device
  stores : List SessionStore
  /-- What the service that never answers was asked, the oldest first. -/
  silentCalls : List CaptureCall
deriving Repr

/-- A service to set up. -/
inductive Offer where
  | echo
  | counter
  | failing
  | fixed (answer : Json)
  | power (device : Device)
  | capture (store : SessionStore)
  /-- A store that is there already. -/
  | sharedCapture (store : Nat)
  | droppingCapture
  | scriptedCapture (code : Int32) (data : ResultData) (allow : Bool)
deriving Repr

namespace Backend

variable {α : Type}

def empty : Backend :=
  ⟨[], [], [], []⟩

/-- Does something on a counter. -/
def onTotal (n : Nat) (x : Act UInt64 α) : Act Backend α :=
  Act.within (fun b => (b.totals[n]?).getD 0) (fun total b => { b with totals := b.totals.set n total }) x

/-- Does something on a device. -/
def onDevice (n : Nat) (x : Act Device α) : Act Backend α :=
  Act.within (fun b => (b.devices[n]?).getD .empty) (fun d b => { b with devices := b.devices.set n d }) x

/-- Does something on a store of sessions. -/
def onStore (n : Nat) (x : Act SessionStore α) : Act Backend α :=
  Act.within (fun b => (b.stores[n]?).getD (.new ⟨0⟩)) (fun s b => { b with stores := b.stores.set n s }) x

/-- The power statistics of a device. -/
def power (n : Nat) : PowerStats Backend :=
  fun q ids => onDevice n (Device.stats q ids)

/-- The capture sessions of a store. -/
def capture (n : Nat) : CaptureService Backend where
  list user := onStore n (SessionStore.service.list user)
  destroy user := onStore n (SessionStore.service.destroy user)
  allowed := onStore n SessionStore.service.allowed
  setAllowed b := onStore n (SessionStore.service.setAllowed b)

/-- Keeps a record of a call on the service that never answers. -/
def noteSilent (call : CaptureCall) : Act Backend Unit :=
  Act.modify fun b => { b with silentCalls := b.silentCalls ++ [call] }

/-- A service of capture sessions that never answers. -/
def silent : CaptureService Backend where
  list user := do
    noteSilent (.list user)
    pure .kept
  destroy user := do
    noteSilent (.destroy user)
    pure .kept
  allowed := do
    noteSilent .getAllowed
    pure false
  setAllowed b := noteSilent (.setAllowed b)

/-- Sets a service up. -/
def install : Offer → Act Backend (Service Backend)
  | .echo => pure .echo
  | .counter => Act.update fun b =>
    ((fun code data => onTotal b.totals.length (Service.counter code data)), { b with totals := b.totals ++ [0] })
  | .failing => pure .failing
  | .fixed answer => pure (.fixed answer)
  | .power device => Act.update fun b =>
    (PowerStats.stub (power b.devices.length), { b with devices := b.devices ++ [device] })
  | .capture store => Act.update fun b =>
    (CaptureService.stub (capture b.stores.length), { b with stores := b.stores ++ [store] })
  | .sharedCapture n => pure (CaptureService.stub (capture n))
  | .droppingCapture => pure (CaptureService.stub .dropping)
  | .scriptedCapture code data allow => pure (CaptureService.stub (.scripted code data allow))

end Backend

/-- The calls of a service on a part of the state. -/
def CaptureService.lift {σ τ : Type} (f : {α : Type} → Act σ α → Act τ α) (s : CaptureService σ) : CaptureService τ where
  list user := f (s.list user)
  destroy user := f (s.destroy user)
  allowed := f s.allowed
  setAllowed b := f (s.setAllowed b)

end Switchboard
