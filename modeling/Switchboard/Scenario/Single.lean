import Switchboard.Scenario.Step

/-!
# A service on its own

A service that is called directly, or published on its own and spoken to in raw bytes: each connection sends its bytes, closes
its side, and collects everything that is answered.
-/

namespace Switchboard

/-- What is left of a service after it was used. -/
structure Remains where
  /-- The requests that its device got, if it has one. -/
  requests : Option (List PowerRequest)
  /-- The flag of its store, if it has one. -/
  allowed : Option Bool
deriving Repr

/-- What is left in the state of a single service. -/
def Backend.remains (b : Backend) : Remains :=
  ⟨b.devices.head?.map (·.requests), b.stores.head?.map (·.allowed)⟩

/-- Transactions one after another. -/
def Service.transactAll {σ : Type} (service : Service σ) : List (UInt32 × Json) → Act σ (List (Except ServiceError Json))
  | [] => pure []
  | (code, data) :: rest => do
    let first ← service code data
    let others ← Service.transactAll service rest
    pure (first :: others)

/-- Transactions on a service that is set up for them. -/
def Offer.transactAll (offer : Offer) (calls : List (UInt32 × Json)) : Act Backend (List (Except ServiceError Json)) := do
  let service ← Backend.install offer
  service.transactAll calls

/-- The bodies of the frames of a stream. The fuel is its length. -/
def Frame.bodies : Nat → List UInt8 → List (List UInt8)
  | 0, _ => []
  | fuel + 1, s =>
    match Frame.next s with
    | .frame body rest => body :: Frame.bodies fuel rest
    | _ => []

/-- What raw connections to a published service come to. -/
structure Conversation where
  /-- The frames that each connection got. -/
  replies : List (List (List UInt8))
  /-- Whether the socket is there while the service is published, and after it was shut down. -/
  published : Bool
  remains : Bool
deriving Repr

namespace Site

variable {σ ρ : Type}

/-- Sends bytes on a connection of their own, and collects what comes back. -/
def converse (name : String) (bytes : List UInt8) : Act (Site σ ρ) (List (List UInt8)) := do
  match ← onNetwork (·.connect name) with
  | .error _ => pure []
  | .ok c => do
    let _ ← write c bytes
    let s ← Act.get
    let arrived := ((s.network.connections[c]?).map (·.arrived)).getD []
    pure (Frame.bodies arrived.length arrived)

def converseAll (name : String) : List (List UInt8) → Act (Site σ ρ) (List (List (List UInt8)))
  | [] => pure []
  | bytes :: rest => do
    let first ← converse name bytes
    let others ← converseAll name rest
    pure (first :: others)

/-- Whether there is a socket for a name. -/
def isPublished (name : String) : Act (Site σ ρ) Bool := do
  let s ← Act.get
  pure (s.network.entryAt? name).isSome

/-- Publishes a service, lets connections send their bytes, and shuts it down. -/
def host (name : String) (service : Service σ) (connections : List (List UInt8)) :
    Act (Site σ ρ) (Except ServiceError Conversation) := do
  match ← publish name service with
  | .error e => pure (.error e)
  | .ok h => do
    let published ← isPublished name
    let replies ← converseAll name connections
    shutdown h
    pure (.ok ⟨replies, published, ← isPublished name⟩)

end Site

/-- A service that is set up, published and spoken to. -/
def Offer.host (offer : Offer) (name : String) (connections : List (List UInt8)) :
    Act Scenario (Except ServiceError Conversation) := do
  let service ← Scenario.install offer
  Scenario.onSite (Site.host name service connections)

end Switchboard
