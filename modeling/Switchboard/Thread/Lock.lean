/-!
# Locks

A lock holds a value that one thread at a time may change. When a thread panics while it holds the lock, the lock is broken:
whoever takes it afterwards panics too.
-/

namespace Switchboard

/-- A value behind a lock. -/
structure Lock (α : Type) where
  value : α
  broken : Bool
deriving DecidableEq, Repr

/-- What a thread does with a lock. -/
inductive LockStep (α : Type) where
  /-- Takes the lock, changes the value, and lets go. -/
  | change (f : α → α)
  /-- Takes the lock and panics. -/
  | panic

namespace Lock

variable {α : Type}

def new (value : α) : Lock α :=
  ⟨value, false⟩

/-- Whether the lock can be taken. -/
def isLockable (l : Lock α) : Bool :=
  !l.broken

/-- One thread's turn with the lock. A thread that takes a broken lock panics without having it. -/
def step (l : Lock α) : LockStep α → Lock α
  | .change f => if l.broken then l else { l with value := f l.value }
  | .panic => { l with broken := true }

/-- The turns of the threads in the order in which they get the lock. -/
def run (l : Lock α) (steps : List (LockStep α)) : Lock α :=
  steps.foldl step l

/-- So many threads add one so often to a number, and then one may panic while it holds the lock. -/
def tally (threads adds : Nat) (breaks : Bool) : Lock Nat :=
  (new 0).run (List.replicate (threads * adds) (.change (· + 1)) ++ if breaks then [.panic] else [])

end Lock

end Switchboard
