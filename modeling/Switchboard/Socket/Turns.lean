/-!
# Many callers at one connection

The callers of an object share one connection and its lock: a call takes the lock, sends its request, receives a reply and lets go
of the lock. On the other side a handler receives a request, lets the service answer it and sends the reply. The steps of the
calls and those of the handler may come in any order.

The requests are a type `ρ`, the replies a type `α`, and the service is a function on its state `σ`.
-/

namespace Switchboard

/-- Where a call stands. -/
inductive CallPhase (α : Type) where
  | arriving
  | sending
  | receiving
  | leaving (reply : α)
  | done (reply : α)
deriving DecidableEq, Repr

/-- A call with its request. -/
structure Call (ρ α : Type) where
  request : ρ
  phase : CallPhase α
deriving DecidableEq, Repr

/-- Where the handler of the connection stands. -/
inductive HandlerPhase (ρ α : Type) where
  | receiving
  | serving (request : ρ)
  | sending (reply : α)
deriving DecidableEq, Repr

/-- The calls at a connection, its lock, what travels on it in either direction, and the service behind it. -/
structure Turns (σ ρ α : Type) where
  service : σ
  holder : Option Nat
  calls : List (Call ρ α)
  /-- The requests that were sent and not received yet. -/
  requests : List ρ
  /-- The replies that were sent and not received yet. -/
  replies : List α
  handler : HandlerPhase ρ α
  /-- The calls in the order in which they took the lock. -/
  order : List Nat
  /-- The requests in the order in which the service answered them. -/
  served : List ρ
deriving DecidableEq, Repr

/-- A step of one thread. -/
inductive TurnStep (ρ : Type) where
  /-- A call begins. -/
  | arrive (request : ρ)
  /-- The next step of a call. -/
  | call (n : Nat)
  /-- The next step of the handler. -/
  | handler
deriving DecidableEq, Repr

namespace Turns

variable {σ ρ α : Type}

/-- A connection without calls. -/
def start (service : σ) : Turns σ ρ α :=
  ⟨service, none, [], [], [], .receiving, [], []⟩

def setPhase (n : Nat) (phase : CallPhase α) (t : Turns σ ρ α) : Turns σ ρ α :=
  { t with calls := t.calls.modify n fun c => { c with phase } }

/-- The next step of a call; there is none while it waits for the lock or for a reply, or when it is done. -/
def stepCall (n : Nat) (t : Turns σ ρ α) (c : Call ρ α) : Option (Turns σ ρ α) :=
  match c.phase with
  | .arriving =>
    if t.holder.isNone then some ({ t with holder := some n, order := t.order ++ [n] }.setPhase n .sending) else none
  | .sending => some ({ t with requests := t.requests ++ [c.request] }.setPhase n .receiving)
  | .receiving =>
    match t.replies with
    | [] => none
    | reply :: replies => some ({ t with replies }.setPhase n (.leaving reply))
  | .leaving reply => some ({ t with holder := none }.setPhase n (.done reply))
  | .done _ => none

/-- The next step of the handler; there is none while it waits for a request. -/
def stepHandler (answer : ρ → σ → α × σ) (t : Turns σ ρ α) : Option (Turns σ ρ α) :=
  match t.handler with
  | .receiving =>
    match t.requests with
    | [] => none
    | request :: requests => some { t with requests, handler := .serving request }
  | .serving request =>
    let (reply, service) := answer request t.service
    some { t with service, handler := .sending reply, served := t.served ++ [request] }
  | .sending reply => some { t with replies := t.replies ++ [reply], handler := .receiving }

/-- A step, if it is possible. -/
def step (answer : ρ → σ → α × σ) (t : Turns σ ρ α) : TurnStep ρ → Option (Turns σ ρ α)
  | .arrive request => some { t with calls := t.calls ++ [⟨request, .arriving⟩] }
  | .call n => (t.calls[n]?).bind (t.stepCall n)
  | .handler => t.stepHandler answer

/-- Steps one after another; one that is not possible is passed over. -/
def run (answer : ρ → σ → α × σ) (t : Turns σ ρ α) (steps : List (TurnStep ρ)) : Turns σ ρ α :=
  steps.foldl (fun t a => (t.step answer a).getD t) t

end Turns

end Switchboard
