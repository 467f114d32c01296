import Switchboard.Proofs.Cache.Generations
import Switchboard.Proofs.Socket.Bindings
import Switchboard.Proofs.World.Deaths

/-!
# Getting handles in a world

What the `get` of a cache comes to. A resolved cache answers from what it holds. Any other asks its registrar. In the registry of
the same process nothing is found, or the link is refused, or the cache is resolved (`World.run_cacheGet_of_missed`,
`World.run_cacheGet_of_refused`, `World.run_cacheGet_of_linked`); through the sockets of one provider it finds nothing or is
bound to the provider (`World.run_cacheGet_of_unheard`, `World.run_cacheGet_of_heard`).
-/

namespace Switchboard

variable {σ : Type}

/-! ## The registry of the process -/

namespace LocalObject

variable {ρ : Type}

/-- The object after it accepted a recipient. -/
def accept (r : ρ) (o : LocalObject σ ρ) : LocalObject σ ρ :=
  { o with recipients := o.recipients ++ [r], links := o.links + 1 }

/-- The object after its death. -/
def ended (o : LocalObject σ ρ) : LocalObject σ ρ :=
  { o with alive := false, recipients := [] }

end LocalObject

namespace Directory

variable {ρ : Type} {d : Directory σ ρ} {i : Nat} {o : LocalObject σ ρ} {name : String}

/-- A living object will tell the recipient of its death. -/
def Pending (d : Directory σ ρ) (i : Nat) (r : ρ) : Prop :=
  ∃ o, d.object? i = some o ∧ o.alive = true ∧ r ∈ o.recipients

/-- A lookup finds the living object that the name stands for. -/
theorem find?_eq_some_iff :
    d.find? name = some i ↔ d.named? name = some i ∧ ∃ o, d.object? i = some o ∧ o.alive = true := by
  simp only [find?, Option.filter_eq_some_iff, Option.any_eq_true]

/-- The objects after one of them changed. -/
theorem object?_update (f : LocalObject σ ρ → LocalObject σ ρ) (j : Nat) :
    (d.update i f).object? j = if i = j then (d.object? j).map f else d.object? j := by
  simp only [update, object?, List.getElem?_modify]
  split <;> simp

/-- An object that is changed is the changed one. -/
theorem object?_update_self (h : d.object? i = some o) (f : LocalObject σ ρ → LocalObject σ ρ) :
    (d.update i f).object? i = some (f o) := by
  rw [object?_update, if_pos rfl, h, Option.map_some]

/-- The others stay. -/
theorem object?_update_of_ne {j : Nat} (h : i ≠ j) (f : LocalObject σ ρ → LocalObject σ ρ) :
    (d.update i f).object? j = d.object? j := by
  rw [object?_update, if_neg h]

/-- A service that is registered gets an object of its own. -/
theorem object?_register (name : String) (service : Service σ) (j : Nat) :
    (d.register name service).2.object? j = if j = d.objects.length then some (.new name service) else d.object? j := by
  simp only [register, object?]
  rw [List.getElem?_append]
  split
  · rw [if_neg (by omega)]
  · split
    · simp [*]
    · rw [List.getElem?_eq_none (by simp; omega), List.getElem?_eq_none (by omega)]

/-- Putting an object in its own place. -/
theorem update_self (h : d.object? i = some o) : (d.update i fun _ => o) = d := by
  have hobjects : d.objects.modify i (fun _ => o) = d.objects := by
    refine List.ext_getElem? fun j => ?_
    rw [List.getElem?_modify]
    by_cases hj : i = j
    · have hget : d.objects[j]? = some o := hj ▸ h
      simp [hj, hget]
    · simp [hj]
  rw [update, hobjects]

/-- A dead object refuses links, and so does one that is told to. -/
theorem link_of_refused (r : ρ) (h : d.object? i = some o) (hrefused : o.alive = false ∨ o.failLinks = true) :
    d.link i r = (.error .deadObject, d) := by
  have hlink : o.link r = (.error .deadObject, o) := by
    rcases hrefused with hdead | hfail
    · simp [LocalObject.link, hdead]
    · simp [LocalObject.link, hfail]
  simp only [link, h, hlink, update_self h]

/-- Any other object accepts every link. -/
theorem link_of_accepted (r : ρ) (h : d.object? i = some o) (halive : o.alive = true) (hfail : o.failLinks = false) :
    d.link i r = (.ok (), d.update i fun _ => o.accept r) := by
  simp [link, h, LocalObject.link, halive, hfail, LocalObject.accept]

/-- Killing what does not live changes nothing. -/
theorem kill_of_dead (hdead : ∀ o, d.object? i = some o → o.alive = false) : d.kill i = ([], d) := by
  cases h : d.object? i with
  | none => simp only [kill, h]
  | some o =>
    have hkill : o.kill = ([], o) := by simp [LocalObject.kill, hdead o h]
    simp only [kill, h, hkill, update_self h]

/-- The death of an object is told to its recipients, who are then forgotten. -/
theorem kill_of_alive (h : d.object? i = some o) (halive : o.alive = true) :
    d.kill i = (o.recipients, d.update i fun _ => o.ended) := by
  simp [kill, h, LocalObject.kill, halive, LocalObject.ended]

end Directory

namespace World

variable {w : World σ} {n i : Nat} {cell : CacheCell} {name : String}

/-- The world with another registry of the process. -/
def withDirectory (d : Directory σ Recipient) (w : World σ) : World σ :=
  { w with directory := d }

@[simp] theorem directory_withDirectory (d : Directory σ Recipient) : (w.withDirectory d).directory = d := rfl

/-- A lookup in the process counts, and finds the live object of the name. -/
theorem run_lookup_process (name : String) (hmanual : w.manual = []) :
    (lookup .process name).run w =
      ⟨some ((w.directory.find? name).map .process), w.withDirectory (w.directory.lookup name).2, []⟩ := by
  have hnone : w.manual? name = none := by simp [manual?, hmanual]
  simp only [lookup, Act.run_bind, Act.run_get, hnone]
  rfl

/-- A link in the process is that of the object. -/
theorem run_link_process (i : Nat) (r : Recipient) :
    (link (.process i) r).run w =
      ⟨some (w.directory.link i r).1, w.withDirectory (w.directory.link i r).2, []⟩ :=
  rfl

/-- A cache looks up in its registrar. -/
theorem run_lookup_resolver (hmanual : w.manual = []) (hregistrar : cell.registrar = .process) :
    (resolver n cell).lookup.run w =
      ⟨some ((w.directory.find? cell.name).map .process),
        w.withDirectory (w.directory.lookup cell.name).2, []⟩ := by
  rw [resolver, hregistrar]
  exact run_lookup_process cell.name hmanual

/-- It links a recipient with its number and the generation. -/
theorem run_link_resolver (w : World σ) (n i generation : Nat) (cell : CacheCell) :
    ((resolver n cell).link (.process i) generation).run w =
      ⟨some (w.directory.link i (.cache n generation)).1,
        w.withDirectory (w.directory.link i (.cache n generation)).2, []⟩ :=
  rfl

/-- A transaction on an object is counted, whatever it comes to. -/
theorem run_transact_object {o : LocalObject σ Recipient} (code : UInt32) (data : Json)
    (h : w.directory.object? i = some o) :
    ((transact (.process i) code data).run w).value = ((o.answer code data).run w.backend).value ∧
      ((transact (.process i) code data).run w).state =
        { w with
          directory := w.directory.update i (·.count)
          backend := ((o.answer code data).run w.backend).state } := by
  simp [transact, Act.run_bind, h, onBackend]

/-! ## The `get` of a cache -/

/-- The world in which a cache is another. -/
def withCache (n : Nat) (cache : Cache Handle) (w : World σ) : World σ :=
  { w with caches := w.caches.modify n fun cell => { cell with cache } }

/-- A cache that is replaced is the new one, and the others stay. -/
theorem getElem?_caches_withCache (cache : Cache Handle) (m : Nat) :
    (w.withCache n cache).caches[m]? =
      if n = m then (w.caches[m]?).map fun cell => { cell with cache } else w.caches[m]? := by
  simp only [withCache, List.getElem?_modify]
  split <;> simp

theorem getElem?_caches_withCache_self (hcell : w.caches[n]? = some cell) (cache : Cache Handle) :
    (w.withCache n cache).caches[n]? = some { cell with cache } := by
  rw [getElem?_caches_withCache, if_pos rfl, hcell, Option.map_some]

@[simp] theorem length_caches_withCache (cache : Cache Handle) : (w.withCache n cache).caches.length = w.caches.length :=
  List.length_modify ..

/-- Replacing a cache by itself changes nothing. -/
theorem withCache_self (hcell : w.caches[n]? = some cell) : w.withCache n cell.cache = w := by
  have hcaches : (w.withCache n cell.cache).caches = w.caches := by
    refine List.ext_getElem? fun m => ?_
    rw [getElem?_caches_withCache]
    by_cases hm : n = m
    · rw [if_pos hm, ← hm, hcell, Option.map_some]
    · rw [if_neg hm]
  exact congrArg (fun caches => { w with caches }) hcaches

/-- A `get` that comes to its end, by the `get` of the cache itself. -/
theorem run_cacheGet {answer : Option Handle} {cache : Cache Handle} {w' : World σ} (hcell : w.caches[n]? = some cell)
    (hv : ((cell.cache.get cell.name (resolver n cell)).run w).value = some (answer, cache))
    (hs : ((cell.cache.get cell.name (resolver n cell)).run w).state = w') (hsame : w'.caches = w.caches) :
    ((cacheGet n).run w).value = some answer ∧ ((cacheGet n).run w).state = w'.withCache n cache := by
  have hset : ∀ caches : List CacheCell, caches[n]? = some cell →
      caches.set n { cell with cache } = caches.modify n fun cell => { cell with cache } := by
    intro caches hcell
    refine List.ext_getElem? fun m => ?_
    rw [List.getElem?_set, List.getElem?_modify]
    by_cases hm : n = m
    · have hlt : n < caches.length := (List.getElem?_eq_some_iff.mp hcell).1
      rw [if_pos hm, if_pos hlt, ← hm, hcell]
      simp
    · simp [hm]
  simp only [cacheGet, Act.run_bind, Act.run_get, hcell, hv, hs, Act.run_modify, Act.run_pure, withCache, true_and]
  rw [hset _ (hsame ▸ hcell)]

/-- A resolved cache answers from what it holds. -/
theorem run_cacheGet_of_resolved {entry : Cached Handle} (hcell : w.caches[n]? = some cell)
    (hcached : cell.cache.cached = some entry) :
    ((cacheGet n).run w).value = some (some entry.handle) ∧ ((cacheGet n).run w).state = w := by
  have hget := Cache.run_get_of_resolved cell.name (r := resolver n cell) (s := w) hcached
  obtain ⟨hv, hs⟩ := run_cacheGet hcell (congrArg Outcome.value hget) (congrArg Outcome.state hget) rfl
  exact ⟨hv, hs.trans (withCache_self hcell)⟩

section Process

variable (hmanual : w.manual = []) (hcell : w.caches[n]? = some cell) (hregistrar : cell.registrar = .process)
  (hcached : cell.cache.cached = none)

include hmanual hcell hregistrar hcached

/-- A cache finds nothing under a name that stands for no living object. -/
theorem run_cacheGet_of_missed (hfind : w.directory.find? cell.name = none) :
    ((cacheGet n).run w).value = some none ∧
      ((cacheGet n).run w).state = w.withDirectory (w.directory.lookup cell.name).2 := by
  have hlookup := run_lookup_resolver (n := n) hmanual hregistrar
  rw [hfind] at hlookup
  obtain ⟨hgv, hgs⟩ := Cache.run_get_of_missed cell.name hcached (congrArg Outcome.value hlookup)
  rw [hlookup] at hgs
  obtain ⟨hv, hs⟩ := run_cacheGet hcell hgv hgs rfl
  exact ⟨hv, hs.trans (withCache_self (w := w.withDirectory (w.directory.lookup cell.name).2) hcell)⟩

variable {o : LocalObject σ Recipient} (hfind : w.directory.find? cell.name = some i)
  (ho : w.directory.object? i = some o)

include hfind ho

/-- A link that the object refuses uses the generation up. -/
theorem run_cacheGet_of_refused (hfail : o.failLinks = true) :
    ((cacheGet n).run w).value = some none ∧
      ((cacheGet n).run w).state =
        (w.withDirectory (w.directory.lookup cell.name).2).withCache n ⟨none, cell.cache.generation + 1⟩ := by
  have hlookup := run_lookup_resolver (n := n) hmanual hregistrar
  rw [hfind] at hlookup
  have ho' : (w.directory.lookup cell.name).2.object? i = some o := ho
  have hlink := run_link_resolver (w.withDirectory (w.directory.lookup cell.name).2) n i (cell.cache.generation + 1) cell
  rw [directory_withDirectory, Directory.link_of_refused _ ho' (.inr hfail)] at hlink
  obtain ⟨hgv, hgs⟩ := Cache.run_get_of_refused cell.name hcached (congrArg Outcome.value hlookup)
    (by rw [hlookup, hlink])
  rw [hlookup, hlink] at hgs
  exact run_cacheGet hcell hgv hgs rfl

/-- A cache that links is resolved. -/
theorem run_cacheGet_of_linked (halive : o.alive = true) (hfail : o.failLinks = false) :
    ((cacheGet n).run w).value = some (some ⟨n, cell.cache.generation + 1, .process i⟩) ∧
      ((cacheGet n).run w).state =
        (w.withDirectory ((w.directory.lookup cell.name).2.update i fun _ =>
          o.accept (.cache n (cell.cache.generation + 1)))).withCache n
          ⟨some ⟨⟨n, cell.cache.generation + 1, .process i⟩, cell.cache.generation + 1⟩,
            cell.cache.generation + 1⟩ := by
  have hlookup := run_lookup_resolver (n := n) hmanual hregistrar
  rw [hfind] at hlookup
  have ho' : (w.directory.lookup cell.name).2.object? i = some o := ho
  have hlink := run_link_resolver (w.withDirectory (w.directory.lookup cell.name).2) n i (cell.cache.generation + 1) cell
  rw [directory_withDirectory, Directory.link_of_accepted _ ho' halive hfail] at hlink
  obtain ⟨hgv, hgs⟩ := Cache.run_get_of_linked cell.name hcached (congrArg Outcome.value hlookup)
    (by rw [hlookup, hlink])
  rw [hlookup, hlink] at hgs
  exact run_cacheGet hcell hgv hgs rfl

end Process

section Sockets

variable (hcell : w.caches[n]? = some cell) (hregistrar : cell.registrar = .sockets) (hcached : cell.cache.cached = none)

include hcell hregistrar hcached

/-- A cache finds nothing at a path where nobody listens. -/
theorem run_cacheGet_of_unheard (hscripts : w.network.scripts = []) (hl : w.network.listener? cell.name = none) :
    ((cacheGet n).run w).value = some none ∧ ((cacheGet n).run w).state = w := by
  have hlookup : (resolver n cell).lookup.run w = _ := @run_lookup_amid σ w n cell [] hregistrar
  obtain ⟨hvalue, hstate⟩ := Site.run_lookup_of_no_listener (s := w.site) hscripts hl
  rw [hvalue, hstate] at hlookup
  obtain ⟨hgv, hgs⟩ := Cache.run_get_of_missed cell.name hcached (congrArg Outcome.value hlookup)
  rw [hlookup] at hgs
  obtain ⟨hv, hs⟩ := run_cacheGet hcell hgv hgs rfl
  exact ⟨hv, hs.trans (withCache_self hcell)⟩

/-- A cache of a provider that runs is bound to it. -/
theorem run_cacheGet_of_heard {service : Service σ} {h : Nat} (hn : w.network.Provides cell.name service (some h)) :
    ((cacheGet n).run w).value =
        some (some ⟨n, cell.cache.generation + 1, .socket w.network.objects.length⟩) ∧
      ((cacheGet n).run w).state =
        (w.withSite (w.site.bound cell.name (.cache n (cell.cache.generation + 1)))).withCache n
          ⟨some ⟨⟨n, cell.cache.generation + 1, .socket w.network.objects.length⟩, cell.cache.generation + 1⟩,
            cell.cache.generation + 1⟩ := by
  have hobject := Site.object_lookup (s := w.site) hn
  have hlistener := Site.listener_lookup (s := w.site) hn.listener
  obtain ⟨hgv, hgs⟩ := @run_interruptedGet_of_accepted σ w n cell [] h _ _ hn.sound hregistrar hcached hn.listener rfl
    hobject h rfl hlistener
  rw [interruptedGet_nil] at hgv hgs
  exact run_cacheGet hcell hgv hgs rfl

end Sockets

end World

end Switchboard
