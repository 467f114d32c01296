import Switchboard.Thread.Worker

/-!
# The life of a worker, step by step

The handle of a worker is lent to calls that signal or look whether the function has returned, and given, once and in the end, to
a call that stops the worker or drops the handle. Any thread may call, that of the worker too while its function runs.

Stopping and dropping take the thread out of the handle, run the stop action, look whether they are on that very thread, and if
they are not, wait for its end and take what its function came to. A stop has been given the handle and drops it before it
returns or unwinds, which is the same way once more. The stop action may panic, and whoever runs it does not wait then.

The function comes to its end at any time. The steps of the calls and those of the thread may come in any order.
-/

namespace Switchboard

/-- How far the thread of a worker has come. -/
inductive ThreadPhase (α : Type) where
  /-- Its function is running. -/
  | running
  /-- Its function has come to its end. -/
  | returned (outcome : WorkerEnd α)
  /-- The thread is gone too, and can be joined. -/
  | gone (outcome : WorkerEnd α)
deriving DecidableEq, Repr

/-- What a call does with the handle. -/
inductive HandleUse where
  | signal
  | isFinished
  | stop
  | drop
deriving DecidableEq, Repr

/-- Where a call stands. -/
inductive HandlePhase (α : Type) where
  /-- It looks for the thread in the handle. -/
  | reaching
  /-- It runs the stop action. -/
  | acting
  /-- It looks whether it is on the thread of the worker. -/
  | comparing
  /-- It waits for the end of the thread. -/
  | joining
  | done (answer : WorkerAnswer α)
deriving DecidableEq, Repr

/-- A call at the handle. -/
structure HandleCall (α : Type) where
  use : HandleUse
  /-- The number of the thread that calls. -/
  thread : Nat
  phase : HandlePhase α
  /-- What a stop has come to that drops its handle. -/
  pending : Option (WorkerAnswer α)
  /-- How often it ran the stop action. -/
  runs : Nat
  /-- What the stop action panicked with. -/
  fault : Option String
  /-- How often it set out to join the thread. -/
  joins : Nat
deriving DecidableEq, Repr

/-- A worker and the calls at its handle. -/
structure WorkerLife (α : Type) where
  /-- The number of the worker's thread. -/
  own : Nat
  thread : ThreadPhase α
  /-- Whether the handle still holds the thread. -/
  held : Bool
  calls : List (HandleCall α)
deriving DecidableEq, Repr

/-- A step of one thread. -/
inductive LifeStep (α : Type) where
  /-- A call begins. -/
  | call (use : HandleUse) (thread : Nat)
  /-- The next step of a call. -/
  | next (n : Nat)
  /-- The stop action that a call runs panics. -/
  | panic (n : Nat) (text : String)
  /-- The function of the worker comes to its end. -/
  | finish (outcome : WorkerEnd α)
  /-- The thread of the worker comes to its end. -/
  | leave
deriving DecidableEq, Repr

variable {α : Type}

namespace ThreadPhase

/-- Whether the function has come to its end. -/
def hasReturned : ThreadPhase α → Bool
  | .running => false
  | .returned _ | .gone _ => true

/-- What a thread that is joined hands over; `none` as long as it is there. -/
def outcome? : ThreadPhase α → Option (WorkerEnd α)
  | .gone outcome => some outcome
  | .running | .returned _ => none

end ThreadPhase

namespace HandleUse

/-- Whether the call is given the handle; the others are lent it. -/
def isLast : HandleUse → Bool
  | .stop | .drop => true
  | .signal | .isFinished => false

/-- The answer of a call that joined the thread, with what its function came to, or did not join it. -/
def answer (use : HandleUse) : Option (WorkerEnd α) → WorkerAnswer α
  | some (.panicked text) => .panicked text
  | some (.returned value) => if use = .stop then .joined value else .nothing
  | none => if use = .stop then .notJoined else .nothing

end HandleUse

namespace HandleCall

/-- A call that begins. -/
def start (use : HandleUse) (thread : Nat) : HandleCall α :=
  ⟨use, thread, .reaching, none, 0, none, 0⟩

def isDone (c : HandleCall α) : Bool :=
  match c.phase with
  | .done _ => true
  | _ => false

/-- A call has come to its answer. A stop drops its handle first. -/
def settle (answer : WorkerAnswer α) (c : HandleCall α) : HandleCall α :=
  match c.use, c.pending with
  | .stop, none => { c with phase := .reaching, pending := some answer }
  | _, pending => { c with phase := .done (pending.getD answer) }

/-- The next step of a call, with whether the handle holds the thread afterwards; there is none while the call waits for the end
of the thread, or when it is done. -/
def next (own : Nat) (thread : ThreadPhase α) (held : Bool) (c : HandleCall α) : Option (Bool × HandleCall α) :=
  match c.phase with
  | .reaching =>
    if c.use = .isFinished then some (held, c.settle (.flag (!held || thread.hasReturned)))
    else if held then some (!c.use.isLast, { c with phase := .acting, runs := c.runs + 1 })
    else some (held, c.settle (c.use.answer none))
  | .acting => some (held, if c.use.isLast then { c with phase := .comparing } else c.settle .nothing)
  | .comparing =>
    some (held, if c.thread = own then c.settle (c.use.answer none) else { c with phase := .joining, joins := c.joins + 1 })
  | .joining => thread.outcome?.map fun outcome => (held, c.settle (c.use.answer (some outcome)))
  | .done _ => none

/-- The stop action panics, if the call is running it. -/
def panic (text : String) (c : HandleCall α) : Option (HandleCall α) :=
  match c.phase with
  | .acting => some ({ c with fault := some text }.settle (.panicked text))
  | _ => none

end HandleCall

namespace WorkerLife

/-- A worker whose function begins to run, on a thread with a number. -/
def start (own : Nat) : WorkerLife α :=
  ⟨own, .running, true, []⟩

/-- Whether a thread is in a place to call: nobody was given the handle, to be given it nobody may be using it, and the worker
calls from its function. -/
def canCall (use : HandleUse) (thread : Nat) (s : WorkerLife α) : Bool :=
  s.calls.all (fun c => !c.use.isLast) && (!use.isLast || s.calls.all (·.isDone)) &&
    (thread != s.own || !s.thread.hasReturned)

/-- Whether the function may come to its end: it is running, and not in a call of its own. -/
def canFinish (s : WorkerLife α) : Bool :=
  !s.thread.hasReturned && s.calls.all fun c => c.thread != s.own || c.isDone

/-- A step, if it is possible. -/
def step (s : WorkerLife α) : LifeStep α → Option (WorkerLife α)
  | .call use thread => if s.canCall use thread then some { s with calls := s.calls ++ [.start use thread] } else none
  | .next n =>
    (s.calls[n]?).bind fun c =>
      (c.next s.own s.thread s.held).map fun (held, c) => { s with held, calls := s.calls.set n c }
  | .panic n text => (s.calls[n]?).bind fun c => (c.panic text).map fun c => { s with calls := s.calls.set n c }
  | .finish outcome => if s.canFinish then some { s with thread := .returned outcome } else none
  | .leave =>
    match s.thread with
    | .returned outcome => some { s with thread := .gone outcome }
    | .running | .gone _ => none

/-- Steps one after another; one that is not possible is passed over. -/
def run (s : WorkerLife α) (steps : List (LifeStep α)) : WorkerLife α :=
  steps.foldl (fun s a => (s.step a).getD s) s

/-- The answers of the calls that are done, in the order in which they began. -/
def answers (s : WorkerLife α) : List (WorkerAnswer α) :=
  s.calls.filterMap fun c =>
    match c.phase with
    | .done answer => some answer
    | _ => none

end WorkerLife

end Switchboard
