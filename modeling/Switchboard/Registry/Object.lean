import Switchboard.Service.Basic

/-!
# Remote objects in the same process

An object that dispatches straight into a service. It counts the transactions and the death links that it accepted, and two
switches make it refuse the one or the other. Killing it hands out its recipients, once; a dead object has none, accepts none,
and answers nothing.
-/

namespace Switchboard

/-- An object in the same process over the service of acts on `σ`; it tells `ρ` of its death. -/
structure LocalObject (σ ρ : Type) where
  name : String
  service : Service σ
  alive : Bool
  /-- Who is told of its death, the oldest first. -/
  recipients : List ρ
  links : Nat
  transactions : Nat
  failTransactions : Bool
  failLinks : Bool

namespace LocalObject

variable {σ ρ : Type}

def new (name : String) (service : Service σ) : LocalObject σ ρ :=
  ⟨name, service, true, [], 0, 0, false, false⟩

/-- Kills the object: nobody is told twice. -/
def kill (o : LocalObject σ ρ) : List ρ × LocalObject σ ρ :=
  if o.alive then (o.recipients, { o with alive := false, recipients := [] }) else ([], o)

/-- Links a recipient to its death. -/
def link (r : ρ) (o : LocalObject σ ρ) : Except ServiceError Unit × LocalObject σ ρ :=
  if !o.alive || o.failLinks then (.error .deadObject, o)
  else (.ok (), { o with recipients := o.recipients ++ [r], links := o.links + 1 })

/-- The object after one more transaction. -/
def count (o : LocalObject σ ρ) : LocalObject σ ρ :=
  { o with transactions := o.transactions + 1 }

/-- What a transaction comes to. -/
def answer (o : LocalObject σ ρ) : Service σ :=
  fun code data =>
    if !o.alive then pure (.error .deadObject)
    else if o.failTransactions then pure (.error (.failedTransaction "injected transport failure"))
    else o.service code data

end LocalObject

end Switchboard
