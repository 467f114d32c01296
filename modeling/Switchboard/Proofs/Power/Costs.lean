import Switchboard.Proofs.World.Caches

/-!
# What the facade costs

A machine with three kinds of states stands for the facade of the power statistics (`PowerStatus`): it is unconnected, or
connected by a cache that is resolved to an object or to none. `PowerFacade.Asks` and `PowerFacade.Connects` say what one query
and one connection come to in a world, and what lookups, links and transactions they cost, by the state of the machine and by
what a lookup would find (`World.powerFound`).

Both hold of every facade whose cache is there (`World.Ledger.asks`, `World.Ledger.connects`).
-/

namespace Switchboard

variable {σ : Type}

/-! ## The machine -/

/-- Where a facade stands: it has no connection, or one by a cache that is resolved to an object or to none. -/
inductive PowerStatus where
  | unconnected
  | connected (cache : Nat) (object : Option Nat)
deriving DecidableEq, Repr

namespace PowerStatus

/-- Behind an attempt to connect by a new cache. -/
def attempt (cache : Nat) (found : Option Nat) : PowerStatus :=
  if found.isSome then .connected cache found else .unconnected

/-- Behind a `get` from the cache of that number. -/
def got (n : Nat) (found : Option Nat) : PowerStatus → PowerStatus
  | .unconnected => .unconnected
  | .connected cache object => .connected cache (if cache = n then object.or found else object)

/-- Behind the death of an object. -/
def without (i : Nat) : PowerStatus → PowerStatus
  | .unconnected => .unconnected
  | .connected cache object => .connected cache (object.filter (· != i))

/-- Behind a query, whatever its reply. -/
def asked (found : Option Nat) : PowerStatus → PowerStatus
  | .unconnected => .unconnected
  | .connected cache object => .connected cache (object.or found)

/-- The object that a query is sent to. -/
def target (found : Option Nat) : PowerStatus → Option Nat
  | .unconnected => none
  | .connected _ object => object.or found

/-- What a query counts: nothing without a connection; one transaction on the object of a resolved cache; else a lookup, and a
link and a transaction if that finds an object. -/
def askCharge (found : Option Nat) : PowerStatus → Charge
  | .unconnected => .free
  | .connected _ (some i) => ⟨0, [], [i]⟩
  | .connected _ none => ⟨1, found.toList, found.toList⟩

/-- A query through a cache costs its get and one transaction, if there is an object. -/
theorem askCharge_connected (found : Option Nat) (cache : Nat) (object : Option Nat) :
    askCharge found (.connected cache object) =
      (World.getCharge found object).and ⟨0, [], (object.or found).toList⟩ := by
  cases object with
  | some i => rfl
  | none => simp [askCharge, World.getCharge, Charge.and]

end PowerStatus

/-- Where a facade stands in a world. -/
def PowerFacade.status (f : PowerFacade) (w : World σ) : PowerStatus :=
  f.cache.elim .unconnected fun n => .connected n (w.held? n)

namespace PowerFacade

variable {f : PowerFacade} {w w' : World σ} {n : Nat}

/-- A facade with a cache is connected to what the cache holds. -/
theorem status_of_cache (hn : f.cache = some n) : f.status w = .connected n (w.held? n) := by
  rw [status, hn]
  rfl

/-- One without a cache is not. -/
theorem status_of_none (hn : f.cache = none) : f.status w = .unconnected := by
  rw [status, hn]
  rfl

/-- Only what the cache of the facade holds counts. -/
theorem status_congr (h : ∀ n, f.cache = some n → w'.held? n = w.held? n) : f.status w' = f.status w := by
  cases hn : f.cache with
  | none => rw [status_of_none hn, status_of_none hn]
  | some n => rw [status_of_cache hn, status_of_cache hn, h n hn]

end PowerFacade

/-- The object that a lookup of the power statistics would find, and that would accept a link. -/
def World.powerFound (w : World σ) : Option Nat :=
  w.directory.accepting? powerServiceName

/-! ## One query, one connection -/

/-- What a query comes to, and what it costs. -/
structure PowerFacade.Asks (f : PowerFacade) (w : World σ) (q : PowerQuery) (ids : List Int32) : Prop where
  charged : w.directory.Charged ((f.ask q ids).run w).state.directory ((f.status w).askCharge w.powerFound)
  /-- A query that is sent to nobody is answered with nothing. -/
  unsent : (f.status w).target w.powerFound = none →
    ((f.ask q ids).run w).value = some [] ∧ ((f.ask q ids).run w).state.backend = w.backend
  /-- Any other is sent to a living object, and the answer is read from its reply. -/
  sent : ∀ i, (f.status w).target w.powerFound = some i → ∃ o, w.directory.object? i = some o ∧ o.alive = true ∧
    ((f.ask q ids).run w).value = ((o.answer q.code (q.payload ids)).run w.backend).value.map q.answer ∧
    ((f.ask q ids).run w).state.backend = ((o.answer q.code (q.payload ids)).run w.backend).state
  /-- Whatever the reply is, at most the cache of the facade is resolved, and only if it was not. -/
  held : ∀ n, ((f.ask q ids).run w).state.held? n =
    if f.cache = some n then (w.held? n).or w.powerFound else w.held? n

/-- What a connection comes to, and what it costs. -/
structure PowerFacade.Connects (f : PowerFacade) (w : World σ) : Prop where
  charged : w.directory.Charged (f.connect.run w).state.directory ⟨1, w.powerFound.toList, []⟩
  /-- It is made if an object is found that accepts a link, and by a new cache. -/
  value : (f.connect.run w).value = some (w.powerFound.isSome,
    { f with cache := if w.powerFound.isSome then some w.caches.length else none })
  backend : (f.connect.run w).state.backend = w.backend
  /-- The new cache is resolved to that object, and the others are left alone. -/
  held : ∀ n, (f.connect.run w).state.held? n = if n = w.caches.length then w.powerFound else w.held? n

namespace World

variable {w : World σ} {events : List DeathEvent} {f : PowerFacade} {n : Nat} {cell : CacheCell}

/-- A transaction goes onward. -/
theorem onward_transact {i : Nat} {o : LocalObject σ Recipient} (ho : w.directory.object? i = some o) (code : UInt32)
    (data : Json) : w.Onward ((World.transact (.process i) code data).run w).state := by
  rw [(run_transact_object code data ho).2]
  exact .of_caches rfl fun j r hr => .inl (Directory.Pending.of_update (f := (·.count)) (fun _ => ⟨rfl, rfl⟩) hr)

/-- The facade without a connection asks nobody. -/
theorem asks_of_unconnected (q : PowerQuery) (ids : List Int32) (hf : f.cache = none) : f.Asks w q ids := by
  have hstatus := PowerFacade.status_of_none (w := w) hf
  have hrun := PowerFacade.run_ask_of_unconnected (w := w) q ids hf
  constructor
  case charged =>
    rw [hrun, hstatus]
    exact .refl _
  case unsent => exact fun _ => by rw [hrun]; exact ⟨rfl, rfl⟩
  case sent =>
    rw [hstatus]
    nofun
  case held => exact fun n => by rw [hrun, hf]; rfl

/-- A connected facade gets a handle from its cache, and sends the query to the object that it is for. -/
theorem Ledger.asks (h : w.Ledger events) (q : PowerQuery) (ids : List Int32) (hf : f.cache = some n)
    (hcell : w.caches[n]? = some cell) (hdropped : cell.dropped = false) (hname : cell.name = powerServiceName) :
    f.Asks w q ids ∧ w.Onward ((f.ask q ids).run w).state := by
  have hhas : w.hasCache n = true := by simp [hasCache, hcell, hdropped]
  obtain ⟨answer, hanswer, hgets⟩ := h.gets hcell hdropped
  obtain ⟨answer', hanswer', hliving⟩ := (h.get hhas).2.answered
  obtain rfl := Option.some.inj (hanswer.symm.trans hanswer')
  have hstatus := PowerFacade.status_of_cache (w := w) hf
  have hcharged := hgets.charged hcell
  have honward := hgets.onward hcell
  have hobject : answer.map (·.object) = ((w.held? n).or w.powerFound).map .process := by
    rw [hgets.object hcell, hname]
    rfl
  have hheld : ∀ m, ((cacheGet n).run w).state.held? m =
      if f.cache = some m then (w.held? m).or w.powerFound else w.held? m := by
    intro m
    rw [hgets.held?_eq hcell m, hname, hf]
    by_cases hm : n = m
    · rw [if_pos hm, if_pos (congrArg some hm), hm]
      rfl
    · rw [if_neg hm, if_neg fun hsome => hm (Option.some.inj hsome)]
  rw [hname] at hcharged
  cases answer with
  | none =>
    have htarget : (w.held? n).or w.powerFound = none := Option.map_eq_none_iff.mp hobject.symm
    obtain ⟨hv, hs⟩ := PowerFacade.run_ask_of_none q ids hf hanswer
    rw [← hs] at honward
    refine ⟨?_, honward⟩
    constructor
    case charged =>
      rw [hs, hstatus, PowerStatus.askCharge_connected, htarget]
      exact hcharged.and (.refl _)
    case unsent => exact fun _ => ⟨hv, hs ▸ hgets.backend⟩
    case sent =>
      intro i hi
      rw [hstatus, PowerStatus.target, htarget] at hi
      cases hi
    case held => exact fun m => hs ▸ hheld m
  | some handle =>
    obtain ⟨i, o', hprocess, ho', halive⟩ := hliving handle rfl
    obtain ⟨o, ho, hsame, hreply⟩ := hgets.answers ho'
    have htarget : (w.held? n).or w.powerFound = some i := by
      rw [Option.map_some, hprocess, eq_comm, Option.map_eq_some_iff] at hobject
      obtain ⟨j, hj, hji⟩ := hobject
      rw [hj, ObjectRef.process.inj hji]
    obtain ⟨hv, hs⟩ := PowerFacade.run_ask_of_handle q ids hf hanswer
    rw [hprocess] at hv hs
    have hasked := honward.trans (onward_transact ho' q.code (q.payload ids))
    rw [← hs] at hasked
    obtain ⟨htv, hts⟩ := run_transact_object q.code (q.payload ids) ho'
    rw [htv, hgets.backend, hreply] at hv
    rw [hts] at hs
    refine ⟨?_, hasked⟩
    constructor
    case charged =>
      rw [hs, hstatus, PowerStatus.askCharge_connected, htarget]
      exact hcharged.and (Directory.charged_count ho')
    case unsent =>
      intro hnone
      rw [hstatus, PowerStatus.target, htarget] at hnone
      cases hnone
    case sent =>
      intro j hj
      rw [hstatus, PowerStatus.target, htarget] at hj
      obtain rfl := Option.some.inj hj
      refine ⟨o, ho, hsame ▸ halive, hv, ?_⟩
      rw [hs, ← hreply, ← hgets.backend]
    case held =>
      intro m
      rw [hs]
      exact hheld m

/-- Connecting gets a handle from a new cache, and drops the old one. -/
theorem Ledger.connects (h : w.Ledger events) (hf : f.registrar = .process) :
    f.Connects w ∧ (w.withNewCache .process powerServiceName).Onward (f.connect.run w).state := by
  have hnew : (w.withNewCache f.registrar powerServiceName).caches[w.caches.length]? =
      some ⟨.process, powerServiceName, .empty, false⟩ := by
    rw [getElem?_caches_withNewCache, if_pos rfl, hf]
  have hadded : (w.withNewCache f.registrar powerServiceName).Ledger events := by
    rw [hf]
    exact h.withNewCache powerServiceName
  have hfresh : w.held? w.caches.length = none := by
    rw [held?, List.getElem?_eq_none (Nat.le_refl _)]
    rfl
  obtain ⟨answer, hanswer, hgets⟩ := hadded.gets hnew rfl
  obtain ⟨hv, hs⟩ := PowerFacade.run_connect (f := f) hanswer
  have hobject := hgets.object hnew
  have hheld := hgets.held?_eq hnew
  have hcharged := hgets.charged hnew
  simp only [held?_withNewCache, hfresh, Option.none_or] at hobject hheld hcharged
  change answer.map (·.object) = w.powerFound.map .process at hobject
  have hfound : answer.isSome = w.powerFound.isSome := by
    rw [← Option.isSome_map, hobject, Option.isSome_map]
  rw [hfound] at hv hs
  -- The caches that are dropped keep what they hold.
  have hstate : (f.connect.run w).state.directory = ((cacheGet w.caches.length).run
        (w.withNewCache f.registrar powerServiceName)).state.directory ∧
      (f.connect.run w).state.backend = ((cacheGet w.caches.length).run
        (w.withNewCache f.registrar powerServiceName)).state.backend := by
    rw [hs]
    cases f.cache <;> split <;> exact ⟨rfl, rfl⟩
  constructor
  · constructor
    case charged =>
      rw [hstate.1]
      exact hcharged
    case value => exact hv
    case backend =>
      rw [hstate.2]
      exact hgets.backend
    case held =>
      intro m
      have hsame : (f.connect.run w).state.held? m =
          ((cacheGet w.caches.length).run (w.withNewCache f.registrar powerServiceName)).state.held? m := by
        rw [hs]
        split
        · exact held?_withoutCache? _ _
        · rw [held?_withoutCache]
          exact held?_withoutCache? _ _
      rw [hsame, hheld m]
      by_cases hm : w.caches.length = m
      · rw [if_pos hm, if_pos hm.symm]
        rfl
      · rw [if_neg hm, if_neg (Ne.symm hm)]
  · rw [hs, ← hf]
    have hdropped := (hgets.onward hnew).trans (onward_withoutCache? f.cache)
    split
    · exact hdropped
    · exact hdropped.trans (onward_withoutCache _)

end World

end Switchboard
