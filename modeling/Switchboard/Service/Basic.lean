import Switchboard.Parcel.Basic
import Switchboard.Service.Error
import Switchboard.Service.Act

/-!
# Services

A service answers numbered transactions; each has a payload and a payload for its answer. The same type describes the client's
side: what a transaction on a remote object comes to. A typed interface is a stub on the side of the service, which decodes
the payload and encodes the answer, and a proxy on the side of the client, which does the reverse.
-/

namespace Switchboard

/-- What transactions come to, in the acts on `σ`. -/
abbrev Service (σ : Type) : Type :=
  UInt32 → Json → Act σ (Except ServiceError Json)

/-- Decodes a payload. -/
def readParcel (α : Type) [Parcel α] (data : Json) : Except ServiceError α :=
  (Parcel.ofJson data).mapError .badParcel

/-- A transaction with a typed request and a typed answer. -/
def Service.transact {σ : Type} (service : Service σ) (code : UInt32) {α : Type} [Parcel α] (request : α)
    (β : Type) [Parcel β] : Act σ (Except ServiceError β) := do
  match ← service code (Parcel.toJson request) with
  | .error e => pure (.error e)
  | .ok answer => pure (readParcel β answer)

end Switchboard
