import Switchboard.Power.Facade
import Switchboard.Proofs.World.Gets

/-!
# What the facade does to a world

Connecting adds a cache, gets a handle from it once, and drops the cache that the facade had, or both if there is no handle
(`PowerFacade.run_connect`). A query gets a handle from the cache and asks one transaction of its object
(`PowerFacade.run_ask_of_handle`); without a cache or a handle the answer is empty.
-/

namespace Switchboard

variable {σ : Type}

namespace World

variable {w : World σ}

/-- The world with a new cache. -/
def withNewCache (registrar : Registrar) (name : String) (w : World σ) : World σ :=
  { w with caches := w.caches ++ [⟨registrar, name, .empty, false⟩] }

/-- The world without a cache. -/
def withoutCache (n : Nat) (w : World σ) : World σ :=
  { w with caches := w.caches.modify n fun cell => { cell with dropped := true } }

/-- The world without a cache, if there was one. -/
def withoutCache? (n : Option Nat) (w : World σ) : World σ :=
  match n with
  | none => w
  | some n => w.withoutCache n

/-- A new cache comes behind all others. -/
theorem getElem?_caches_withNewCache (registrar : Registrar) (name : String) (m : Nat) :
    (w.withNewCache registrar name).caches[m]? =
      if m = w.caches.length then some ⟨registrar, name, .empty, false⟩ else w.caches[m]? := by
  rw [withNewCache, List.getElem?_append]
  split
  · rw [if_neg (by omega)]
  · split
    · simp [*]
    · rw [List.getElem?_eq_none (by simp; omega), List.getElem?_eq_none (by omega)]

/-- A cache that is dropped is marked, and the others stay. -/
theorem getElem?_caches_withoutCache (n m : Nat) :
    (w.withoutCache n).caches[m]? =
      if n = m then (w.caches[m]?).map fun cell => { cell with dropped := true } else w.caches[m]? := by
  simp only [withoutCache, List.getElem?_modify]
  split <;> simp

theorem run_addCache (registrar : Registrar) (name : String) :
    (addCache registrar name).run w = ⟨some w.caches.length, w.withNewCache registrar name, []⟩ :=
  rfl

theorem run_dropCache (n : Nat) : (dropCache n).run w = ⟨some (), w.withoutCache n, []⟩ :=
  rfl

end World

namespace PowerQuery

/-- The payload of a query. -/
def payload (q : PowerQuery) (ids : List Int32) : Json :=
  Parcel.toJson (if q.takesIds then some ids else none)

/-- The answer that is read from a reply: an error, and a reply that cannot be read, are empty. -/
def answer (q : PowerQuery) (reply : Except ServiceError Json) : List q.Item :=
  (reply.bind (readParcel (List q.Item))).toOption.getD []

/-- Which error it is does not matter. -/
@[simp] theorem answer_mapError (q : PowerQuery) (reply : Except ServiceError Json) (f : ServiceError → ServiceError) :
    q.answer (reply.mapError f) = q.answer reply := by
  cases reply <;> rfl

end PowerQuery

namespace PowerFacade

variable {w : World σ} {f : PowerFacade}

/-- The world when the facade has looked for its service once more, with a new cache. -/
def sought (f : PowerFacade) (w : World σ) : Outcome (World σ) (Option Handle) :=
  (World.cacheGet w.caches.length).run (w.withNewCache f.registrar powerServiceName)

/-- What connecting comes to. -/
theorem run_connect {answer : Option Handle} (h : (f.sought w).value = some answer) :
    (f.connect.run w).value =
        some (answer.isSome, { f with cache := if answer.isSome then some w.caches.length else none }) ∧
      (f.connect.run w).state =
        if answer.isSome then (f.sought w).state.withoutCache? f.cache
        else ((f.sought w).state.withoutCache? f.cache).withoutCache w.caches.length := by
  have hadd : ((World.addCache f.registrar powerServiceName : Act (World σ) Nat).run w).value = some w.caches.length := rfl
  rw [connect, Act.run_bind_of_value hadd, World.run_addCache]
  dsimp only
  rw [Act.run_bind_of_value h]
  cases f.cache <;> cases answer <;>
    simp [Act.run_bind, World.run_dropCache, World.withoutCache?, sought]

/-- Without a cache there is no answer. -/
theorem run_ask_of_unconnected (q : PowerQuery) (ids : List Int32) (h : f.cache = none) :
    (f.ask q ids).run w = ⟨some [], w, []⟩ := by
  simp [ask, h]

variable {n : Nat}

/-- Without a handle there is no answer. -/
theorem run_ask_of_none (q : PowerQuery) (ids : List Int32) (h : f.cache = some n)
    (hget : ((World.cacheGet n).run w).value = some none) :
    ((f.ask q ids).run w).value = some [] ∧ ((f.ask q ids).run w).state = ((World.cacheGet n).run w).state := by
  simp only [ask, h]
  rw [Act.run_bind_of_value hget]
  exact ⟨rfl, rfl⟩

/-- The proxy reads the reply to one transaction. -/
theorem run_proxy {τ : Type} (remote : Service τ) (s : τ) (q : PowerQuery) (ids : List Int32) :
    ((PowerStats.proxy remote q ids).run s).value =
        ((remote q.code (q.payload ids)).run s).value.map (·.bind (readParcel (List q.Item))) ∧
      ((PowerStats.proxy remote q ids).run s).state = ((remote q.code (q.payload ids)).run s).state := by
  have hpayload : Parcel.toJson (if q.takesIds then some ids else none) = q.payload ids := rfl
  simp only [PowerStats.proxy, Service.transact, Act.run_bind, hpayload]
  rcases ((remote q.code (q.payload ids)).run s).value with _ | _ | _ <;> exact ⟨rfl, rfl⟩

/-- With a handle the answer is read from the reply to one transaction on its object. -/
theorem run_ask_of_handle (q : PowerQuery) (ids : List Int32) {handle : Handle} (h : f.cache = some n)
    (hget : ((World.cacheGet n).run w).value = some (some handle)) :
    ((f.ask q ids).run w).value =
        ((World.transact handle.object q.code (q.payload ids)).run ((World.cacheGet n).run w).state).value.map q.answer ∧
      ((f.ask q ids).run w).state =
        ((World.transact handle.object q.code (q.payload ids)).run ((World.cacheGet n).run w).state).state := by
  obtain ⟨hproxy, hstate⟩ := run_proxy (World.transact handle.object) ((World.cacheGet n).run w).state q ids
  simp only [ask, h]
  rw [Act.run_bind_of_value hget]
  dsimp only
  rw [Act.run_bind]
  cases hv : ((World.transact handle.object q.code (q.payload ids)).run ((World.cacheGet n).run w).state).value with
  | none =>
    rw [hv] at hproxy
    rw [show ((PowerStats.proxy _ q ids).run _).value = none from hproxy]
    exact ⟨rfl, hstate⟩
  | some reply =>
    rw [hv] at hproxy
    rw [show ((PowerStats.proxy _ q ids).run _).value = some _ from hproxy]
    cases hreply : reply.bind (readParcel (List q.Item)) <;>
      simp [PowerQuery.answer, hreply, hstate, Except.toOption]

end PowerFacade

end Switchboard
