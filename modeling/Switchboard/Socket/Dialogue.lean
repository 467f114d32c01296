import Switchboard.Service.Basic
import Switchboard.Socket.Message
import Switchboard.Tube.Frame

/-!
# A client and the handler of its connection, step by step

The handler of a connection receives a request, lets the service carry it out, sends the answer, and begins again; it leaves its
loop when it can receive no request, or cannot send an answer. Meanwhile the client writes what it likes, and may close its end
at any time, for writing, for taking answers or both ways. The host that is shut down closes the connection both ways too.

What was written before can still be received, but nothing is sent to an end that takes no answers any more. An end that takes
answers need not take them at once: the handler waits until there is room. A frame counts as sent when the end has taken the
whole of it; one that the closing cuts short was not sent.

The service may serve others as well, who change its state between the calls of this handler.
-/

namespace Switchboard

/-- Why a handler has left its loop. -/
inductive ServingEnd where
  /-- It received no request. -/
  | receive (e : TubeError)
  /-- It could not send an answer. -/
  | send (e : TubeError)
deriving Repr

/-- Where a handler stands in its loop. -/
inductive ServingPhase where
  | receiving
  | carrying (request : HostRequest)
  | sending (reply : HostReply)
  /-- It waits for a service that never returns. -/
  | stuck
  | ended (reason : ServingEnd)
deriving Repr

/-- A connection with a client at one end and a handler at the other. -/
structure Dialogue (σ : Type) where
  backend : σ
  /-- Whether the client's end is open for writing. -/
  writes : Bool
  /-- Whether the client's end takes answers. -/
  takes : Bool
  /-- The bytes that the client has written. -/
  written : List UInt8
  /-- Those of them that the handler has not received yet. -/
  pending : List UInt8
  phase : ServingPhase
  /-- The requests that the handler has carried out. -/
  handled : List HostRequest
  /-- The calls of the service that it has made, each with a code and a payload. -/
  calls : List (UInt32 × Json)
  /-- What those of them that returned came to. -/
  results : List (Except ServiceError Json)
  /-- The frames that it has sent. -/
  sent : List (List UInt8)

/-- A step of one of the parties. -/
inductive DialogueStep (σ : Type) where
  /-- The client writes. -/
  | write (bytes : List UInt8)
  /-- The client's end takes the answer that is being sent. -/
  | take
  /-- The connection is closed for the client's writing, for its taking of answers, or both ways. -/
  | close (writing taking : Bool)
  /-- The next step of the handler. -/
  | handler
  /-- Somebody else makes use of the service. -/
  | other (backend : σ)

namespace Dialogue

variable {σ : Type}

/-- A handler that begins to serve a connection. -/
def start (backend : σ) : Dialogue σ :=
  ⟨backend, true, true, [], [], .receiving, [], [], [], []⟩

/-- The handler receives a request; it waits as long as one may still come. -/
def receive (c : Dialogue σ) : Option (Dialogue σ) :=
  match Frame.next c.pending with
  | .incomplete => if c.writes then none else some { c with phase := .ended (.receive .disconnected) }
  | .refused e rest => some { c with pending := rest, phase := .ended (.receive e) }
  | .frame body rest =>
    match (Parcel.ofMessage body : Except TubeError HostRequest) with
    | .error e => some { c with pending := rest, phase := .ended (.receive e) }
    | .ok request => some { c with pending := rest, phase := .carrying request }

/-- The handler carries a request out. -/
def carryOut (service : Service σ) (c : Dialogue σ) : HostRequest → Dialogue σ
  | .linkToDeath => { c with phase := .sending .linked, handled := c.handled ++ [.linkToDeath] }
  | .transact code data =>
    let o := (service code data).run c.backend
    { c with
      backend := o.state
      phase := o.value.elim .stuck fun result => .sending (.ofResult result)
      handled := c.handled ++ [.transact code data]
      calls := c.calls ++ [(code, data)]
      results := c.results ++ o.value.toList }

/-- The handler notices that an answer cannot be sent, because it is too long or nobody takes it. -/
def fail (reply : HostReply) (c : Dialogue σ) : Option (Dialogue σ) :=
  match Frame.encode (Parcel.toText reply) with
  | .error e => some { c with phase := .ended (.send e) }
  | .ok _ => if c.takes then none else some { c with phase := .ended (.send .disconnected) }

/-- The client's end takes an answer. -/
def deliver (reply : HostReply) (c : Dialogue σ) : Option (Dialogue σ) :=
  match Frame.encode (Parcel.toText reply) with
  | .error _ => none
  | .ok frame => if c.takes then some { c with phase := .receiving, sent := c.sent ++ [frame] } else none

/-- A step, if it is possible. -/
def step (service : Service σ) (c : Dialogue σ) : DialogueStep σ → Option (Dialogue σ)
  | .write bytes =>
    if c.writes then some { c with written := c.written ++ bytes, pending := c.pending ++ bytes } else none
  | .take =>
    match c.phase with
    | .sending reply => c.deliver reply
    | _ => none
  | .close writing taking => some { c with writes := c.writes && !writing, takes := c.takes && !taking }
  | .handler =>
    match c.phase with
    | .receiving => c.receive
    | .carrying request => some (c.carryOut service request)
    | .sending reply => c.fail reply
    | .stuck | .ended _ => none
  | .other backend => some { c with backend }

/-- Steps one after another; one that is not possible is passed over. -/
def run (service : Service σ) (c : Dialogue σ) (steps : List (DialogueStep σ)) : Dialogue σ :=
  steps.foldl (fun c a => (c.step service a).getD c) c

end Dialogue

end Switchboard
