import Switchboard.Power.Remote
import Switchboard.World.Basic

/-!
# Power statistics for the rest of the system

The facade never fails: without a connection, and whenever a query fails, the answer is empty and the error is logged. It is
connected by resolving a new cache once; the cache stays, whatever becomes of the queries, until the facade is connected again.
-/

namespace Switchboard

/-- The name that the power statistics are found by. -/
def powerServiceName : String := "android.hardware.power.stats.IPowerStats/default"

/-- Where the facade looks the power statistics up, and the cache that it is connected by. -/
structure PowerFacade where
  registrar : Registrar
  cache : Option Nat
deriving DecidableEq, Repr

namespace PowerFacade

variable {σ : Type}

def new (registrar : Registrar) : PowerFacade :=
  ⟨registrar, none⟩

/-- Connects with a new cache, and drops the old one. Returns whether the connection was made. -/
def connect (f : PowerFacade) : Act (World σ) (Bool × PowerFacade) := do
  let cache ← World.addCache f.registrar powerServiceName
  let connected := (← World.cacheGet cache).isSome
  if let some old := f.cache then World.dropCache old
  if connected then do
    Act.log .info "Connected to PowerStats HAL"
    pure (true, { f with cache := some cache })
  else do
    World.dropCache cache
    Act.log .error "Unable to connect to PowerStats HAL"
    pure (false, { f with cache := none })

/-- The answer to a query, or nothing. -/
def ask (f : PowerFacade) (q : PowerQuery) (ids : List Int32) : Act (World σ) (List q.Item) := do
  match f.cache with
  | none => pure []
  | some cache => do
    match ← World.cacheGet cache with
    | none => pure []
    | some handle => do
      match ← PowerStats.proxy (World.transact handle.object) q ids with
      | .ok items => pure items
      | .error e => do
        Act.log .error ("Failed to get " ++ q.subject ++ " from PowerStats HAL: " ++ e.message)
        pure []

end PowerFacade

end Switchboard
