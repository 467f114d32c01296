/-!
# A signal that is given once

One half gives the signal, the other waits for it, for a time or for as long as it takes. Once given it stays given. Signals
that another thread is going to give are kept with the time until they come, in milliseconds.
-/

namespace Switchboard

/-- A signal: whether it was given, and when it is going to be given. -/
structure Promise where
  signalled : Bool
  coming : List Nat
deriving DecidableEq, Repr

namespace Promise

def new : Promise :=
  ⟨false, []⟩

def signal (p : Promise) : Promise :=
  { p with signalled := true }

/-- Another thread is going to give the signal after a time. -/
def signalAfter (delay : Nat) (p : Promise) : Promise :=
  { p with coming := delay :: p.coming }

/-- The time passes. -/
def elapse (time : Nat) (p : Promise) : Promise :=
  ⟨p.signalled || p.coming.any (· ≤ time), (p.coming.filter (time < ·)).map (· - time)⟩

/-- Waits for the signal; `none` if it waits forever. -/
def wait (timeout : Option Nat) (p : Promise) : Option Bool × Promise :=
  if p.signalled then (some true, p)
  else
    match p.coming.min?, timeout with
    | some next, none => (some true, p.elapse next)
    | some next, some timeout =>
      if next ≤ timeout then (some true, p.elapse next) else (some false, p.elapse timeout)
    | none, some timeout => (some false, p.elapse timeout)
    | none, none => (none, p)

end Promise

/-- What is done with a signal. -/
inductive PromiseStep where
  | signal
  | signalAfter (delay : Nat)
  | wait (timeout : Option Nat)
deriving DecidableEq, Repr

namespace PromiseStep

/-- What a step comes to: for a wait, whether the signal was given. -/
def perform (p : Promise) : PromiseStep → Option Bool × Promise
  | .signal => (none, p.signal)
  | .signalAfter delay => (none, p.signalAfter delay)
  | .wait timeout => p.wait timeout

def performAll (p : Promise) : List PromiseStep → List (Option Bool)
  | [] => []
  | step :: rest =>
    let (answer, p) := step.perform p
    answer :: performAll p rest

end PromiseStep

end Switchboard
