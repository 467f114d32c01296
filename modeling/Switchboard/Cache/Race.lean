import Switchboard.Cache.Basic

/-!
# Many threads at one cache

Getting a handle takes several steps: a thread takes the lock of the cache, looks whether there is a handle, looks the service
up, links the cache to its death, stores the handle and lets go of the lock. A notice of a death takes the lock too, compares
the generations and lets go. The steps of the threads may come in any order; a notice may start as soon as its link was
accepted.

A handle is known by its generation.
-/

namespace Switchboard

/-- Where a thread stands that gets the handle. -/
inductive CallerPhase where
  | arriving
  | checking
  | seeking
  | linking (generation : Nat)
  | storing (generation : Nat)
  | leaving (handle : Option Nat)
  | done (handle : Option Nat)
deriving DecidableEq, Repr

/-- Where the notice of a generation's death stands. -/
inductive NoticePhase where
  | arriving
  | comparing
  | leaving
  | done
deriving DecidableEq, Repr

/-- Who holds the lock. -/
inductive LockHolder where
  | caller (n : Nat)
  | notice (n : Nat)
deriving DecidableEq, Repr

/-- The cache, its lock, the threads at it, how often the service was looked up, and the generations whose links were
accepted. -/
structure CacheRace where
  cache : Cache Nat
  holder : Option LockHolder
  callers : List CallerPhase
  notices : List (Nat × NoticePhase)
  lookups : Nat
  links : List Nat
deriving DecidableEq, Repr

/-- A step of one thread. -/
inductive RaceStep where
  /-- The next step of a caller; `found` is what a lookup answers, and `accepted` what a link does. -/
  | caller (n : Nat) (found accepted : Bool)
  /-- A notice starts for a generation. -/
  | notify (generation : Nat)
  /-- The next step of a notice. -/
  | notice (n : Nat)
deriving DecidableEq, Repr

namespace CacheRace

/-- So many threads at a new cache. -/
def start (threads : Nat) : CacheRace :=
  ⟨.empty, none, List.replicate threads .arriving, [], 0, []⟩

def setCaller (n : Nat) (phase : CallerPhase) (s : CacheRace) : CacheRace :=
  { s with callers := s.callers.set n phase }

def setNotice (n generation : Nat) (phase : NoticePhase) (s : CacheRace) : CacheRace :=
  { s with notices := s.notices.set n (generation, phase) }

/-- The next step of a caller in a phase; there is none while it waits for the lock, or when it is done. -/
def stepCaller (n : Nat) (found accepted : Bool) (s : CacheRace) : CallerPhase → Option CacheRace
  | .arriving =>
    if s.holder.isNone then some ({ s with holder := some (.caller n) }.setCaller n .checking) else none
  | .checking =>
    match s.cache.cached with
    | some entry => some (s.setCaller n (.leaving (some entry.handle)))
    | none => some (s.setCaller n .seeking)
  | .seeking =>
    let s := { s with lookups := s.lookups + 1 }
    if found then
      let generation := s.cache.generation + 1
      some ({ s with cache := { s.cache with generation } }.setCaller n (.linking generation))
    else some (s.setCaller n (.leaving none))
  | .linking generation =>
    if accepted then some ({ s with links := s.links ++ [generation] }.setCaller n (.storing generation))
    else some (s.setCaller n (.leaving none))
  | .storing generation =>
    some ({ s with cache := { s.cache with cached := some ⟨generation, generation⟩ } }.setCaller n
      (.leaving (some generation)))
  | .leaving handle => some ({ s with holder := none }.setCaller n (.done handle))
  | .done _ => none

/-- The next step of a notice in a phase. -/
def stepNotice (n generation : Nat) (s : CacheRace) : NoticePhase → Option CacheRace
  | .arriving =>
    if s.holder.isNone then some ({ s with holder := some (.notice n) }.setNotice n generation .comparing) else none
  | .comparing => some ({ s with cache := s.cache.drop generation }.setNotice n generation .leaving)
  | .leaving => some ({ s with holder := none }.setNotice n generation .done)
  | .done => none

/-- A step, if it is possible. -/
def step (s : CacheRace) : RaceStep → Option CacheRace
  | .caller n found accepted => (s.callers[n]?).bind (s.stepCaller n found accepted)
  | .notify generation =>
    if generation ∈ s.links then some { s with notices := s.notices ++ [(generation, .arriving)] } else none
  | .notice n => (s.notices[n]?).bind fun (generation, phase) => s.stepNotice n generation phase

/-- Steps one after another; one that is not possible is passed over. -/
def run (s : CacheRace) (steps : List RaceStep) : CacheRace :=
  steps.foldl (fun s a => (s.step a).getD s) s

/-- The greatest number of steps of a caller. -/
def callerSteps : Nat := 6

/-- Every thread gets the handle, one after another. -/
def inTurn (threads : Nat) (found accepted : Bool) : CacheRace :=
  (start threads).run <|
    (List.range threads).flatMap fun n => List.replicate callerSteps (.caller n found accepted)

/-- The handles that the threads got. -/
def handles (s : CacheRace) : List Nat :=
  s.callers.filterMap fun
    | .done handle => handle
    | _ => none

/-- Whether all threads that got a handle got the same one. -/
def allSame (s : CacheRace) : Bool :=
  match s.handles with
  | [] => true
  | first :: rest => rest.all (· == first)

end CacheRace

end Switchboard
