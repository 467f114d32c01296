/-!
# Waiting for a service

A lookup tries to connect until an attempt succeeds or a bound is over. After a failed attempt the clock is read; at or past the
deadline the lookup is given up, and before it the thread sleeps for the poll interval, or for what is left if that is less.
Times are in nanoseconds.

What an attempt at a site comes to is in `Site.lookup`, which makes one and does not wait.
-/

namespace Switchboard

/-- An attempt to connect: what it finds, how long it takes until the clock is read, and how much longer than asked the sleep
after it lasts. -/
structure Attempt (α : Type) where
  found : Option α
  took : Nat
  overslept : Nat
deriving Repr

/-- What polling came to. -/
structure Polled (α : Type) where
  found : Option α
  /-- How many attempts were made. -/
  attempts : Nat
  /-- How long the thread asked to sleep, each time. -/
  sleeps : List Nat
  /-- The last reading of the clock. -/
  clock : Nat
deriving Repr

/-- Fifty milliseconds. -/
def pollInterval : Nat := 50000000

/-- Tries from the `n`-th attempt on, at the time `now`. -/
def pollFrom {α : Type} (attempt : Nat → Attempt α) (deadline n now : Nat) : Polled α :=
  let a := attempt n
  match a.found with
  | some x => ⟨some x, n + 1, [], now⟩
  | none =>
    let reading := now + a.took
    if deadline ≤ reading then ⟨none, n + 1, [], reading⟩
    else
      let sleep := min pollInterval (deadline - reading)
      let rest := pollFrom attempt deadline (n + 1) (reading + sleep + a.overslept)
      { rest with sleeps := sleep :: rest.sleeps }
termination_by deadline - now
decreasing_by
  simp only [pollInterval] at *
  omega

/-- Tries to connect for as long as `timeout`. The deadline is taken to be a time that the clock can show; the addition that makes
a later one fails before the first attempt, which is not in here. -/
def poll {α : Type} (attempt : Nat → Attempt α) (timeout : Nat) : Polled α :=
  pollFrom attempt timeout 0 0

end Switchboard
