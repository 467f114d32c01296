import Switchboard.Service.Act
import Switchboard.Service.Error

/-!
# A cached handle

A cache holds the handle to one named service. The first `get` looks the service up and links the cache to its death; later
ones return the same handle until the service dies. Every handle has the number of its generation, and the notice of a death
says which generation died: a notice of another generation than that of the handle changes nothing. A failed lookup or a
failed link is not remembered, though a failed link uses its number up.
-/

namespace Switchboard

/-- A handle and its generation. -/
structure Cached (η : Type) where
  handle : η
  generation : Nat
deriving DecidableEq, Repr

/-- The handle to one service, if it is resolved, and the number of the last generation. -/
structure Cache (η : Type) where
  cached : Option (Cached η)
  generation : Nat
deriving DecidableEq, Repr

/-- Where a cache finds its service: a lookup that finds an object, a link of a generation to the death of an object, and the
handle to an object. -/
structure Resolver (σ β η : Type) where
  lookup : Act σ (Option β)
  link : β → Nat → Act σ (Except ServiceError Unit)
  handle : β → Nat → η

namespace Cache

variable {σ β η : Type}

def empty : Cache η :=
  ⟨none, 0⟩

def isResolved (c : Cache η) : Bool :=
  c.cached.isSome

/-- The cached handle, which is resolved first if there is none. -/
def get (name : String) (r : Resolver σ β η) (c : Cache η) : Act σ (Option η × Cache η) :=
  match c.cached with
  | some entry => pure (some entry.handle, c)
  | none => do
    match ← r.lookup with
    | none =>
      Act.log .error ("Unable to find " ++ name)
      pure (none, c)
    | some object =>
      Act.log .info ("Resolved " ++ name)
      let generation := c.generation + 1
      match ← r.link object generation with
      | .error e =>
        Act.log .error ("Unable to register DeathRecipient for " ++ name ++ ": " ++ e.message)
        pure (none, ⟨none, generation⟩)
      | .ok () =>
        let handle := r.handle object generation
        pure (some handle, ⟨some ⟨handle, generation⟩, generation⟩)

/-- Whether the cached handle is of that generation. -/
def holds (generation : Nat) (c : Cache η) : Bool :=
  c.cached.any (·.generation == generation)

/-- The cache after the notice that a generation died. -/
def drop (generation : Nat) (c : Cache η) : Cache η :=
  if c.holds generation then { c with cached := none } else c

/-- The notice that a generation died. -/
def died (name : String) (generation : Nat) (c : Cache η) : Act σ (Cache η) := do
  if c.holds generation then Act.log .info (name ++ " died, dropping cached handle")
  pure (c.drop generation)

/-! ## What getting a handle comes to -/

variable (name : String) {r : Resolver σ β η} {c : Cache η} {s : σ}

/-- A resolved cache asks nothing of its resolver. -/
theorem run_get_of_resolved {entry : Cached η} (h : c.cached = some entry) :
    (c.get name r).run s = ⟨some (some entry.handle, c), s, []⟩ := by
  simp [get, h]

/-- A lookup that waits forever holds the `get` up. -/
theorem run_get_of_lookup_hang (h : c.cached = none) (hl : (r.lookup.run s).value = none) :
    ((c.get name r).run s).value = none := by
  simp only [get, h]
  rw [Act.run_bind_of_hang hl]

/-- A lookup that finds nothing leaves the cache as it was. -/
theorem run_get_of_missed (h : c.cached = none) (hl : (r.lookup.run s).value = some none) :
    ((c.get name r).run s).value = some (none, c) ∧ ((c.get name r).run s).state = (r.lookup.run s).state := by
  simp only [get, h]
  rw [Act.run_bind_of_value hl]
  simp

variable {object : β}

/-- A link that waits forever holds the `get` up. -/
theorem run_get_of_link_hang (h : c.cached = none) (hl : (r.lookup.run s).value = some (some object))
    (hk : ((r.link object (c.generation + 1)).run (r.lookup.run s).state).value = none) :
    ((c.get name r).run s).value = none := by
  simp only [get, h]
  rw [Act.run_bind_of_value hl]
  simp only [Act.run_bind, Act.run_log, hk]

/-- A link that is refused leaves the cache unresolved; its generation is used up. -/
theorem run_get_of_refused {e : ServiceError} (h : c.cached = none) (hl : (r.lookup.run s).value = some (some object))
    (hk : ((r.link object (c.generation + 1)).run (r.lookup.run s).state).value = some (.error e)) :
    ((c.get name r).run s).value = some (none, ⟨none, c.generation + 1⟩) ∧
      ((c.get name r).run s).state = ((r.link object (c.generation + 1)).run (r.lookup.run s).state).state := by
  simp only [get, h]
  rw [Act.run_bind_of_value hl]
  simp [Act.run_bind, hk]

/-- A link that is accepted resolves the cache to the handle of the object. -/
theorem run_get_of_linked (h : c.cached = none) (hl : (r.lookup.run s).value = some (some object))
    (hk : ((r.link object (c.generation + 1)).run (r.lookup.run s).state).value = some (.ok ())) :
    ((c.get name r).run s).value =
        some (some (r.handle object (c.generation + 1)),
          ⟨some ⟨r.handle object (c.generation + 1), c.generation + 1⟩, c.generation + 1⟩) ∧
      ((c.get name r).run s).state = ((r.link object (c.generation + 1)).run (r.lookup.run s).state).state := by
  simp only [get, h]
  rw [Act.run_bind_of_value hl]
  simp [Act.run_bind, hk]

/-- The notice of a death drops the handle of that generation, and does nothing else. -/
theorem run_died (generation : Nat) :
    ((c.died name generation).run s).value = some (c.drop generation) ∧ ((c.died name generation).run s).state = s := by
  unfold died
  split <;> simp

/-- A notice of the cached generation empties the cache. -/
theorem drop_of_holds {generation : Nat} (h : c.holds generation = true) :
    c.drop generation = { c with cached := none } :=
  if_pos h

/-- Any other notice leaves it as it is. -/
theorem drop_of_not_holds {generation : Nat} (h : c.holds generation = false) : c.drop generation = c := by
  simp [drop, h]

/-- A generation is held if it is that of the cached handle. -/
theorem holds_iff {generation : Nat} :
    c.holds generation = true ↔ ∃ entry, c.cached = some entry ∧ entry.generation = generation := by
  simp [holds, Option.any_eq_true]

end Cache

end Switchboard
