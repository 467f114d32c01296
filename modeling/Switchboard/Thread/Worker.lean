/-!
# Worker threads

A worker is a thread with a handle and a stop action, which makes its function return. Signalling runs the action; stopping,
or dropping the handle, runs it once more and joins the thread, unless it is done by the worker itself, which cannot wait for
its own end. A panic of the function goes to whoever joins. The name of a thread holds no null byte, and starting one under
such a name is a panic of the caller.
-/

namespace Switchboard

/-- A null byte in the name of a thread. -/
structure NullInName where
  /-- The position of the first one. -/
  position : Nat
  /-- The bytes of the whole name. -/
  bytes : List UInt8
deriving DecidableEq, Repr

def NullInName.message (e : NullInName) : String :=
  "thread name may not contain interior null bytes: NulError(" ++ toString e.position ++ ", [" ++
    ", ".intercalate (e.bytes.map fun b => toString b.toNat) ++ "])"

/-- What keeps a thread from having a name, if anything does. -/
def nullInName? (name : String) : Option NullInName :=
  let bytes := name.toUTF8.toList
  (bytes.findIdx? (· == 0)).map fun position => ⟨position, bytes⟩

/-- How the function of a worker ends. -/
inductive WorkerEnd (α : Type) where
  | returned (value : α)
  | panicked (text : String)
deriving DecidableEq, Repr

/-- A worker. -/
structure Worker (α : Type) where
  /-- How its function ends. -/
  outcome : WorkerEnd α
  /-- Whether the function returns only after the stop action ran. -/
  waits : Bool
  /-- How often the stop action ran. -/
  stops : Nat
  /-- Whether the function has returned. -/
  ended : Bool
  /-- Whether the handle still holds the thread. -/
  held : Bool
  /-- How often the thread was joined. -/
  joins : Nat
deriving DecidableEq, Repr

namespace Worker

variable {α : Type}

/-- Starts a worker. -/
def start (outcome : WorkerEnd α) (waits : Bool) : Worker α :=
  ⟨outcome, waits, 0, false, true, 0⟩

/-- Whether the function is able to return. -/
def canEnd (w : Worker α) : Bool :=
  !w.waits || 0 < w.stops

/-- The function returns, if it is able to. -/
def finish (w : Worker α) : Worker α :=
  { w with ended := w.ended || w.canEnd }

/-- Runs the stop action. -/
def signal (w : Worker α) : Worker α :=
  if w.held then { w with stops := w.stops + 1 } else w

def isFinished (w : Worker α) : Bool :=
  !w.held || w.ended

/-- Stops the worker from another thread and waits for its end. A handle that holds no thread gives nothing. -/
def stop (w : Worker α) : Option (WorkerEnd α) × Worker α :=
  if w.held then
    let stopped := { w with stops := w.stops + 1, held := false }.finish
    (some w.outcome, { stopped with joins := w.joins + 1 })
  else (none, w)

/-- Stops the worker from its own thread, without waiting. -/
def stopSelf (w : Worker α) : Option (WorkerEnd α) × Worker α :=
  if w.held then (none, { w with stops := w.stops + 1, held := false }) else (none, w)

end Worker

/-- What is done with a worker. -/
inductive WorkerStep where
  | signal
  | isFinished
  /-- Waits until the function has returned. -/
  | waitFinished
  | stop
  | drop
  | stopSelf
deriving DecidableEq, Repr

/-- What came of it. -/
inductive WorkerAnswer (α : Type) where
  | nothing
  | flag (b : Bool)
  | joined (value : α)
  | notJoined
  | panicked (text : String)
deriving DecidableEq, Repr

namespace WorkerStep

variable {α : Type}

def perform (w : Worker α) : WorkerStep → WorkerAnswer α × Worker α
  | .signal => (.nothing, w.signal)
  | .isFinished => (.flag w.isFinished, w)
  | .waitFinished => (.flag w.finish.isFinished, w.finish)
  | .stop =>
    match w.stop with
    | (some (.returned value), w) => (.joined value, w)
    | (some (.panicked text), w) => (.panicked text, w)
    | (none, w) => (.notJoined, w)
  | .drop =>
    match w.stop with
    | (some (.panicked text), w) => (.panicked text, w)
    | (_, w) => (.nothing, w)
  | .stopSelf => (.notJoined, w.stopSelf.2)

/-- Steps one after another, each with what came of it and how often the stop action had run. -/
def performAll (w : Worker α) : List WorkerStep → List (WorkerAnswer α × Nat) × Worker α
  | [] => ([], w)
  | step :: rest =>
    let (answer, w) := step.perform w
    let (others, last) := performAll w rest
    ((answer, w.stops) :: others, last)

/-- The whole life of a worker: it is started under a name, the steps are done, and the handle is dropped at the end. What came
of the steps, and how often the stop action ran; or the panic that nobody has met before the end. -/
def life (name : String) (outcome : WorkerEnd α) (waits : Bool) (steps : List WorkerStep) :
    Except String (List (WorkerAnswer α × Nat) × Nat) :=
  match nullInName? name with
  | some e => .error e.message
  | none =>
    let (answers, last) := performAll (.start outcome waits) steps
    match last.stop with
    | (some (.panicked text), _) => .error text
    | (_, w) => .ok (answers, w.stops)

end WorkerStep

end Switchboard
