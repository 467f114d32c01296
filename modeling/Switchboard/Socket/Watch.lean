/-!
# The watchers of an object's death

Each death link of an object has a connection of its own and a thread that waits for its end. A call that links looks whether
the object is alive, connects, asks the host and waits for its acknowledgement, starts the watcher and puts it on the list of
the object. The watcher that wakes up looks whether it was unlinked; if not, it marks the object as dead and calls the
recipient, and lets go of the recipient at its end.

A host that shuts down stops listening and then closes its connections, one after another; once it is down, another one may be
published at its path. Dropping the object unlinks the links on its list in their order, each by setting its flag, closing its
connection and waiting for its watcher. The drop may happen on the thread of a watcher, from inside its recipient or when it
lets go of the recipient; a thread does not wait for itself.

The steps of the calls, of the host and its handlers, of the watchers and of the drop may come in any order.
-/

namespace Switchboard

/-- Where a call that links stands. -/
inductive LinkPhase where
  /-- It looks whether the object is alive. -/
  | checking
  | connecting
  /-- It has asked the host and waits for the acknowledgement. -/
  | asking
  /-- It has the acknowledgement and starts the watcher. -/
  | starting
  /-- It puts the watcher on the list of the object. -/
  | listing
  | accepted
  | refused
deriving DecidableEq, Repr

/-- Where a watcher stands. -/
inductive WatchPhase where
  /-- It was not started. -/
  | idle
  /-- It waits for the end of its connection. -/
  | waiting
  /-- It looks whether it was unlinked. -/
  | woken
  /-- It found that it was not, and marks the object as dead. -/
  | linked
  /-- It marked the object, and calls its recipient. -/
  | marked
  /-- Its recipient is running. -/
  | calling
  /-- Its recipient has returned, and it lets go of it. -/
  | leaving
  | ended
deriving DecidableEq, Repr

/-- A death link: the call that made it, its connection and its watcher. -/
structure Watcher where
  link : LinkPhase
  /-- The number of the host that it is connected to. -/
  host : Nat
  /-- Whether the host has acknowledged the link. -/
  acknowledged : Bool
  /-- Whether the connection has come to its end. -/
  closed : Bool
  phase : WatchPhase
  unlinked : Bool
  /-- How often the recipient was called. -/
  calls : Nat
deriving DecidableEq, Repr

/-- Where a host stands. -/
inductive HostPhase where
  | listening
  /-- It does not listen any more, and closes its connections. -/
  | stopping
  | down
deriving DecidableEq, Repr

/-- The last host at the path of the object; those before it are down. -/
structure LastHost where
  number : Nat
  phase : HostPhase
deriving DecidableEq, Repr

/-- Who drops the object. -/
inductive Dropper where
  | outside
  /-- The thread of a watcher. -/
  | watcher (n : Nat)
deriving DecidableEq, Repr

/-- How far the drop of the object has come. -/
inductive DropPhase where
  | held
  /-- The links that are not unlinked yet. -/
  | unlinking (dropper : Dropper) (rest : List Nat)
  /-- The link whose flag is set, and those behind it. -/
  | closing (dropper : Dropper) (n : Nat) (rest : List Nat)
  /-- The link whose watcher is waited for, and those behind it. -/
  | joining (dropper : Dropper) (n : Nat) (rest : List Nat)
  | dropped (dropper : Dropper)
deriving DecidableEq, Repr

/-- An object, its links and their hosts. -/
structure DeathWatch where
  host : LastHost
  alive : Bool
  watchers : List Watcher
  /-- The list of the object, in the order in which the links were put on it. -/
  order : List Nat
  drop : DropPhase
deriving DecidableEq, Repr

/-- A step of one thread, or of what surrounds them. -/
inductive WatchStep where
  /-- The shutdown of the host begins. -/
  | stop
  /-- The host closes the connection of a link. -/
  | close (n : Nat)
  /-- The shutdown of the host ends. -/
  | shutDown
  /-- Another host is published at the path. -/
  | publish
  /-- A call that links begins. -/
  | call
  /-- The next step of that call. -/
  | link (n : Nat)
  /-- The system refuses the connection or the thread that the call needs. -/
  | fail (n : Nat)
  /-- A handler acknowledges a link. -/
  | handler (n : Nat)
  /-- The next step of a watcher. -/
  | watcher (n : Nat)
  /-- The drop begins. -/
  | drop (dropper : Dropper)
  /-- The next step of the drop. -/
  | goOn
deriving DecidableEq, Repr

/-- Whether the call has returned. -/
def LinkPhase.isOver : LinkPhase → Bool
  | .accepted | .refused => true
  | _ => false

/-- Whether the call has a connection, which its host has to close. -/
def LinkPhase.isConnected : LinkPhase → Bool
  | .checking | .connecting | .refused => false
  | _ => true

/-- Whether the host of that number does not listen any more. -/
def LastHost.hasStopped (n : Nat) (h : LastHost) : Bool :=
  n < h.number || h.phase != .listening

/-- Whether the host of that number is down. -/
def LastHost.isDown (n : Nat) (h : LastHost) : Bool :=
  n < h.number || h.phase == .down

/-- Whether the thread of a watcher in that phase runs code of its recipient. -/
def WatchPhase.isInRecipient : WatchPhase → Bool
  | .calling | .leaving => true
  | _ => false

/-- Whether a drop is going on, on the thread of a watcher. -/
def DropPhase.isGoingOn (n : Nat) : DropPhase → Bool
  | .unlinking d _ | .closing d _ _ | .joining d _ _ => d == .watcher n
  | .held | .dropped _ => false

namespace DeathWatch

/-- A new object. -/
def start : DeathWatch :=
  ⟨⟨0, .listening⟩, true, [], [], .held⟩

/-- A link of a call that begins. -/
def newLink : Watcher :=
  ⟨.checking, 0, false, false, .idle, false, 0⟩

def update (n : Nat) (f : Watcher → Watcher) (s : DeathWatch) : DeathWatch :=
  { s with watchers := s.watchers.modify n f }

def setLink (n : Nat) (link : LinkPhase) (s : DeathWatch) : DeathWatch :=
  s.update n fun w => { w with link }

def setPhase (n : Nat) (phase : WatchPhase) (s : DeathWatch) : DeathWatch :=
  s.update n fun w => { w with phase }

/-- The next step of a call that links; there is none while it waits for the acknowledgement, or when it has returned. -/
def stepLink (n : Nat) (s : DeathWatch) (w : Watcher) : Option DeathWatch :=
  match w.link with
  | .checking => some (s.setLink n (if s.alive then .connecting else .refused))
  | .connecting =>
    if s.host.phase = .listening then some (s.update n fun w => { w with link := .asking, host := s.host.number })
    else some (s.setLink n .refused)
  | .asking =>
    if w.acknowledged then some (s.setLink n .starting)
    else if w.closed then some (s.setLink n .refused)
    else none
  | .starting => some (s.update n fun w => { w with link := .listing, phase := .waiting })
  | .listing => some ({ s with order := s.order ++ [n] }.setLink n .accepted)
  | .accepted | .refused => none

/-- The next step of a watcher; there is none while its connection lasts, while its thread drops the object, or when it has
ended. -/
def stepWatcher (n : Nat) (s : DeathWatch) (w : Watcher) : Option DeathWatch :=
  match w.phase with
  | .idle => none
  | .waiting => if w.closed then some (s.setPhase n .woken) else none
  | .woken => some (s.setPhase n (if w.unlinked then .ended else .linked))
  | .linked => some ({ s with alive := false }.setPhase n .marked)
  | .marked => some (s.update n fun w => { w with phase := .calling, calls := w.calls + 1 })
  | .calling => if s.drop.isGoingOn n then none else some (s.setPhase n .leaving)
  | .leaving => if s.drop.isGoingOn n then none else some (s.setPhase n .ended)
  | .ended => none

/-- Whether somebody is in a place to drop the object: nobody else uses it, and a watcher does so from its recipient. -/
def canDrop (s : DeathWatch) (d : Dropper) : Bool :=
  s.drop == .held && s.watchers.all (·.link.isOver) &&
    match d with
    | .outside => true
    | .watcher n => (s.watchers[n]?).any (·.phase.isInRecipient)

/-- The next step of the drop. -/
def stepDrop (s : DeathWatch) : Option DeathWatch :=
  match s.drop with
  | .held | .dropped _ => none
  | .unlinking d [] => some { s with drop := .dropped d }
  | .unlinking d (n :: rest) =>
    some ({ s with drop := .closing d n rest }.update n fun w => { w with unlinked := true })
  | .closing d n rest =>
    some ({ s with drop := if d = Dropper.watcher n then .unlinking d rest else .joining d n rest }.update n
      fun w => { w with closed := true })
  | .joining d n rest =>
    if (s.watchers[n]?).all (·.phase == .ended) then some { s with drop := .unlinking d rest } else none

/-- A step, if it is possible. -/
def step (s : DeathWatch) : WatchStep → Option DeathWatch
  | .stop => if s.host.phase = .listening then some { s with host := { s.host with phase := .stopping } } else none
  | .close n =>
    (s.watchers[n]?).bind fun w =>
      if s.host.phase = .stopping ∧ w.host = s.host.number ∧ w.link.isConnected ∧ w.closed = false then
        some (s.update n fun w => { w with closed := true })
      else none
  | .shutDown =>
    if s.host.phase = .stopping ∧ s.watchers.all fun w => !w.link.isConnected || w.closed || w.host != s.host.number then
      some { s with host := { s.host with phase := .down } }
    else none
  | .publish => if s.host.phase = .down then some { s with host := ⟨s.host.number + 1, .listening⟩ } else none
  | .call => if s.drop = .held then some { s with watchers := s.watchers ++ [newLink] } else none
  | .link n => (s.watchers[n]?).bind (s.stepLink n)
  | .fail n =>
    (s.watchers[n]?).bind fun w =>
      if w.link = .connecting ∨ w.link = .starting then some (s.setLink n .refused) else none
  | .handler n =>
    (s.watchers[n]?).bind fun w =>
      if w.link = .asking ∧ w.acknowledged = false ∧ w.closed = false then
        some (s.update n fun w => { w with acknowledged := true })
      else none
  | .watcher n => (s.watchers[n]?).bind (s.stepWatcher n)
  | .drop d => if s.canDrop d then some { s with drop := .unlinking d s.order } else none
  | .goOn => s.stepDrop

/-- Steps one after another; one that is not possible is passed over. -/
def run (s : DeathWatch) (steps : List WatchStep) : DeathWatch :=
  steps.foldl (fun s a => (s.step a).getD s) s

end DeathWatch

end Switchboard
