import Switchboard.Proofs.World.Ledger

/-!
# The registry of a process

Services are registered in one process, also under a name that has an object already, and taken away; objects are killed, and
told to fail; counting recipients link to them; caches and facades come and go, and get handles. `RegistryStep` lists what
anybody may do, and `RegistryLife` keeps the events: which recipient an object accepted, which object was killed, and whom the
kill told.

The main statement is `registry_law`, which holds after any steps: no cache holds a handle to a dead object, whatever became of
its name, and every recipient that was accepted was told once if its object was killed, and never otherwise. Each step keeps the
ledger of the world (`RegistryLife.Sound.does`), and so does a life (`RegistryLife.Sound.after`).
-/

namespace Switchboard

variable {σ : Type}

/-! ## Steps -/

/-- A world with the facades in it, and everything that happened to its objects, the oldest first. -/
structure RegistryLife (σ : Type) where
  world : World σ
  facades : List PowerFacade
  events : List DeathEvent

/-- A step of anybody in the process. -/
inductive RegistryStep (σ : Type) where
  | register (name : String) (service : Service σ)
  | remove (name : String)
  | kill (object : Nat)
  | failTransactions (object : Nat) (on : Bool)
  | failLinks (object : Nat) (on : Bool)
  /-- A new counting recipient. -/
  | newTally
  | link (object tally : Nat)
  | transact (object : Nat) (code : UInt32) (data : Json)
  | lookup (name : String)
  | newCache (name : String)
  | get (cache : Nat)
  | dropCache (cache : Nat)
  | newFacade
  | connect (facade : Nat)
  | ask (facade : Nat) (q : PowerQuery) (ids : List Int32)
  /-- The state of the services changes otherwise. -/
  | elsewhere (f : σ → σ)

namespace RegistryLife

/-- A process with nothing in it yet. -/
def start (backend : σ) (dir : String) : RegistryLife σ :=
  ⟨.new backend dir, [], []⟩

/-- Whether there is what the step is about. Nobody has a cache that was dropped, and only its facade can drop a cache of a
facade. -/
def allows (x : RegistryLife σ) : RegistryStep σ → Bool
  | .kill i | .failTransactions i _ | .failLinks i _ | .transact i _ _ => (x.world.directory.object? i).isSome
  | .link i m => (x.world.directory.object? i).isSome && decide (m < x.world.tallies.length)
  | .get n => x.world.hasCache n
  | .dropCache n => x.world.hasCache n && x.facades.all (·.cache != some n)
  | _ => true

/-- Does something in the world. -/
def doing {α : Type} (x : RegistryLife σ) (act : Act (World σ) α) (events : List DeathEvent) : RegistryLife σ :=
  { x with world := (act.run x.world).state, events := x.events ++ events }

/-- What a step does, whether or not it comes to its end. -/
def does (x : RegistryLife σ) : RegistryStep σ → RegistryLife σ
  | .register name service => x.doing (World.onDirectory (·.register name service)) []
  | .remove name => x.doing (World.onDirectory (·.remove name)) []
  | .kill i => x.doing (World.kill i) (x.world.eventsOfKill i)
  | .failTransactions i on =>
    x.doing (Act.modify fun w => w.withDirectory (w.directory.update i fun o => { o with failTransactions := on })) []
  | .failLinks i on =>
    x.doing (Act.modify fun w => w.withDirectory (w.directory.update i fun o => { o with failLinks := on })) []
  | .newTally => x.doing (Act.modify fun w => { w with tallies := w.tallies ++ [0] }) []
  | .link i m => x.doing (World.link (.process i) (.tally m)) (x.world.eventsOfLink i (.tally m))
  | .transact i code data => x.doing (World.transact (.process i) code data) []
  | .lookup name => x.doing (World.lookup .process name) []
  | .newCache name => x.doing (World.addCache .process name) []
  | .get n => x.doing (World.cacheGet n) (x.world.eventsOfGet n)
  | .dropCache n => x.doing (World.dropCache n) []
  | .newFacade => { x with facades := x.facades ++ [.new .process] }
  | .connect k =>
    match x.facades[k]? with
    | none => x
    | some f =>
      let w := x.world.withNewCache f.registrar powerServiceName
      let y := x.doing f.connect (w.eventsOfGet x.world.caches.length)
      match (f.connect.run x.world).value with
      | none => y
      | some (_, f') => { y with facades := y.facades.set k f' }
  | .ask k q ids =>
    match x.facades[k]? with
    | none => x
    | some f =>
      match f.cache with
      | none => x
      | some n => x.doing (f.ask q ids) (x.world.eventsOfGet n)
  | .elsewhere f => x.doing (World.onBackend (Act.modify f)) []

/-- The life after some steps; a step that the life does not allow does nothing. -/
def after (x : RegistryLife σ) (steps : List (RegistryStep σ)) : RegistryLife σ :=
  steps.foldl (fun x a => if x.allows a then x.does a else x) x

end RegistryLife

/-- What connecting does to a world: the facade has the new cache or none, and of the others only its old one goes. -/
theorem World.Ledger.connect {w : World σ} {events : List DeathEvent} {f : PowerFacade} (h : w.Ledger events)
    (hf : f.registrar = .process) (hold : ∀ n, f.cache = some n → w.hasCache n = true) :
    ∃ cache, (f.connect.run w).value = some (cache.isSome, { f with cache }) ∧
      (f.connect.run w).state.Ledger
        (events ++ (w.withNewCache f.registrar powerServiceName).eventsOfGet w.caches.length) ∧
      (∀ m, cache = some m → m = w.caches.length ∧ (f.connect.run w).state.hasCache m = true) ∧
      ∀ m, w.hasCache m = true → f.cache ≠ some m → (f.connect.run w).state.hasCache m = true := by
  have hadded : (w.withNewCache f.registrar powerServiceName).Ledger events := by
    rw [hf]
    exact h.withNewCache powerServiceName
  have hnew : (w.withNewCache f.registrar powerServiceName).hasCache w.caches.length = true := by
    rw [hasCache_withNewCache, beq_self_eq_true, Bool.true_or]
  obtain ⟨hledger, ⟨answer, hanswer, -⟩, hhas⟩ := hadded.get hnew
  have hdropped := hledger.withoutCache? f.cache
  have hsought : ∀ m, (f.sought w).state.hasCache m = (m == w.caches.length || w.hasCache m) := fun m =>
    (hhas m).trans (hasCache_withNewCache f.registrar powerServiceName m)
  obtain ⟨hv, hs⟩ := PowerFacade.run_connect (f := f) hanswer
  cases answer with
  | none =>
    refine ⟨none, hv, hs ▸ hdropped.withoutCache _, nofun, fun m hm hother => ?_⟩
    have hlt := lt_of_hasCache hm
    simp [hs, hasCache_withoutCache, hasCache_withoutCache?, hsought, hm, hother, Nat.ne_of_gt hlt]
  | some handle =>
    refine ⟨some w.caches.length, hv, hs ▸ hdropped, ?_, fun m hm hother => ?_⟩
    · rintro _ ⟨⟩
      have hother : f.cache ≠ some w.caches.length := fun hcache => Nat.lt_irrefl _ (lt_of_hasCache (hold _ hcache))
      simp [hs, hasCache_withoutCache?, hsought, hother]
    · simp [hs, hasCache_withoutCache?, hsought, hm, hother]

/-! ## Every life -/

namespace RegistryLife

variable {x : RegistryLife σ}

/-- What holds after every step. -/
structure Sound (x : RegistryLife σ) : Prop where
  ledger : x.world.Ledger x.events
  registrar : ∀ (k : Nat) f, x.facades[k]? = some f → f.registrar = .process
  /-- The cache of a facade was not dropped. -/
  held : ∀ (k : Nat) f n, x.facades[k]? = some f → f.cache = some n → x.world.hasCache n = true
  /-- No two facades have one cache. -/
  own : ∀ (k k' : Nat) f f' n, x.facades[k]? = some f → x.facades[k']? = some f' → f.cache = some n →
    f'.cache = some n → k = k'

/-- A step that drops no cache. -/
theorem Sound.doing {α : Type} (h : x.Sound) {act : Act (World σ) α} {events : List DeathEvent}
    (hledger : (act.run x.world).state.Ledger (x.events ++ events))
    (hhas : ∀ n, x.world.hasCache n = true → (act.run x.world).state.hasCache n = true) :
    (x.doing act events).Sound :=
  ⟨hledger, h.registrar, fun k f n hk hn => hhas n (h.held k f n hk hn), h.own⟩

/-- An entry of a list with one entry replaced. -/
theorem eq_or_of_getElem?_set {α : Type} {xs : List α} {j k : Nat} {a b : α} (h : (xs.set k a)[j]? = some b) :
    j = k ∧ b = a ∨ j ≠ k ∧ xs[j]? = some b := by
  rw [List.getElem?_set] at h
  by_cases hj : k = j
  · rw [if_pos hj] at h
    split at h
    · exact .inl ⟨hj.symm, (Option.some.inj h).symm⟩
    · cases h
  · rw [if_neg hj] at h
    exact .inr ⟨Ne.symm hj, h⟩

/-- A facade that connects has a cache that no other has. -/
theorem Sound.connect (h : x.Sound) (k : Nat) : (x.does (.connect k)).Sound := by
  cases hk : x.facades[k]? with
  | none =>
    rw [RegistryLife.does, hk]
    exact h
  | some f =>
    obtain ⟨cache, hv, hledger, hnew, hkept⟩ := h.ledger.connect (h.registrar k f hk) fun n => h.held k f n hk
    have hdoes : x.does (.connect k) =
        { x.doing f.connect ((x.world.withNewCache f.registrar powerServiceName).eventsOfGet x.world.caches.length) with
          facades := x.facades.set k { f with cache } } := by
      simp only [RegistryLife.does, hk, hv]
      rfl
    have hold : ∀ (j : Nat) g, x.facades[j]? = some g → g.cache ≠ some x.world.caches.length := by
      intro j g hj hg
      exact Nat.lt_irrefl _ (World.lt_of_hasCache (h.held j g _ hj hg))
    rw [hdoes]
    constructor
    case ledger => exact hledger
    case registrar =>
      intro j g hg
      rcases eq_or_of_getElem?_set hg with ⟨-, rfl⟩ | ⟨-, hg⟩
      · exact h.registrar k f hk
      · exact h.registrar j g hg
    case held =>
      intro j g m hg hm
      rcases eq_or_of_getElem?_set hg with ⟨-, rfl⟩ | ⟨hj, hg⟩
      · exact (hnew m hm).2
      · exact hkept m (h.held j g m hg hm) fun hf => hj (h.own j k g f m hg hk hm hf)
    case own =>
      intro j j' g g' m hg hg' hm hm'
      rcases eq_or_of_getElem?_set hg with ⟨hj, rfl⟩ | ⟨-, hj⟩ <;>
        rcases eq_or_of_getElem?_set hg' with ⟨hj', rfl⟩ | ⟨-, hj'⟩
      · exact hj.trans hj'.symm
      · obtain ⟨rfl, -⟩ := hnew m hm
        exact absurd hm' (hold j' g' hj')
      · obtain ⟨rfl, -⟩ := hnew m hm'
        exact absurd hm (hold j g hj)
      · exact h.own j j' g g' m hj hj' hm hm'

/-- A facade asks the object of a handle that it just got. -/
theorem Sound.ask (h : x.Sound) (k : Nat) (q : PowerQuery) (ids : List Int32) : (x.does (.ask k q ids)).Sound := by
  cases hk : x.facades[k]? with
  | none =>
    rw [RegistryLife.does, hk]
    exact h
  | some f =>
    cases hn : f.cache with
    | none =>
      rw [RegistryLife.does, hk]
      dsimp only
      rw [hn]
      exact h
    | some n =>
      have hdoes : x.does (.ask k q ids) = x.doing (f.ask q ids) (x.world.eventsOfGet n) := by
        rw [RegistryLife.does, hk]
        dsimp only
        rw [hn]
      obtain ⟨hledger, ⟨answer, hanswer, hliving⟩, hhas⟩ := h.ledger.get (h.held k f n hk hn)
      rw [hdoes]
      cases answer with
      | none =>
        obtain ⟨-, hs⟩ := PowerFacade.run_ask_of_none q ids hn hanswer
        refine h.doing (hs ▸ hledger) fun m hm => ?_
        rw [hs, hhas, hm]
      | some handle =>
        obtain ⟨i, o, hobject, ho, -⟩ := hliving handle rfl
        obtain ⟨-, hs⟩ := PowerFacade.run_ask_of_handle q ids hn hanswer
        rw [hobject] at hs
        refine h.doing (hs ▸ hledger.transact ho q.code (q.payload ids)) fun m hm => ?_
        rw [hs, (World.run_transact_object q.code (q.payload ids) ho).2]
        exact (hhas m).trans hm

/-- A step that is allowed keeps the registry sound; there is one case for each step. -/
theorem Sound.does (h : x.Sound) (a : RegistryStep σ) (ha : x.allows a = true) : (x.does a).Sound := by
  have same : ∀ {w : World σ}, w.Ledger x.events → w.Ledger (x.events ++ []) := by
    intro w hw
    rw [List.append_nil]
    exact hw
  cases a with
  | register name service => exact h.doing (same (h.ledger.register name service)) fun _ hn => hn
  | remove name => exact h.doing (same (h.ledger.congr rfl rfl rfl fun _ => rfl)) fun _ hn => hn
  | kill i =>
    obtain ⟨o, ho⟩ := Option.isSome_iff_exists.mp ha
    refine h.doing (h.ledger.kill ho) fun n hn => ?_
    rw [(World.run_kill i x.world).2, World.hasCache_told]
    exact hn
  | failTransactions i on =>
    exact h.doing (same (h.ledger.update (fun o => { o with failTransactions := on }) (fun _ => rfl) i)) fun _ hn => hn
  | failLinks i on =>
    exact h.doing (same (h.ledger.update (fun o => { o with failLinks := on }) (fun _ => rfl) i)) fun _ hn => hn
  | newTally => exact h.doing (same h.ledger.newTally) fun _ hn => hn
  | link i m =>
    simp only [allows, Bool.and_eq_true, decide_eq_true_eq] at ha
    obtain ⟨o, ho⟩ := Option.isSome_iff_exists.mp ha.1
    have hrun := World.run_link_process (w := x.world) i (.tally m)
    by_cases hrefused : o.alive = false ∨ o.failLinks = true
    · rw [Directory.link_of_refused _ ho hrefused] at hrun
      refine h.doing ?_ fun n hn => by rw [hrun]; exact hn
      rw [World.eventsOfLink, hrun]
      exact same h.ledger
    · simp only [not_or, Bool.not_eq_false, Bool.not_eq_true] at hrefused
      rw [Directory.link_of_accepted _ ho hrefused.1 hrefused.2] at hrun
      refine h.doing ?_ fun n hn => by rw [hrun]; exact hn
      rw [World.eventsOfLink, hrun]
      exact h.ledger.link (by rintro m' ⟨⟩; exact ha.2) ho hrefused.1
  | transact i code data =>
    obtain ⟨o, ho⟩ := Option.isSome_iff_exists.mp ha
    refine h.doing (same (h.ledger.transact ho code data)) fun n hn => ?_
    rw [(World.run_transact_object code data ho).2]
    exact hn
  | lookup name =>
    have hrun := World.run_lookup_process name h.ledger.manual
    refine h.doing (same ?_) fun n hn => ?_
    · rw [hrun]
      exact h.ledger.congr rfl rfl rfl fun _ => rfl
    · rw [hrun]
      exact hn
  | newCache name =>
    refine h.doing (same (h.ledger.withNewCache name)) fun n hn => ?_
    rw [World.run_addCache, World.hasCache_withNewCache, hn, Bool.or_true]
  | get n =>
    obtain ⟨hledger, hserved⟩ := h.ledger.get ha
    exact h.doing hledger fun m hm => (hserved.hasCache m).trans hm
  | dropCache n =>
    simp only [allows, Bool.and_eq_true, List.all_eq_true, bne_iff_ne, ne_eq] at ha
    refine ⟨same (h.ledger.withoutCache n), h.registrar, fun k f m hk hm => ?_, h.own⟩
    have hother : n ≠ m := by
      rintro rfl
      exact ha.2 f (List.mem_of_getElem? hk) hm
    change (x.world.withoutCache n).hasCache m = true
    rw [World.hasCache_withoutCache, h.held k f m hk hm, bne_iff_ne.mpr hother, Bool.and_self]
  | newFacade =>
    have hget : ∀ (k : Nat) f, (x.facades ++ [.new .process])[k]? = some f →
        x.facades[k]? = some f ∨ f = .new .process := by
      intro k f hk
      rw [List.getElem?_append] at hk
      split at hk
      · exact .inl hk
      · exact .inr (List.mem_singleton.mp (List.mem_of_getElem? hk))
    refine ⟨h.ledger, fun k f hk => ?_, fun k f n hk hn => ?_, fun k k' f f' n hk hk' hn hn' => ?_⟩
    · rcases hget k f hk with hk | rfl
      · exact h.registrar k f hk
      · rfl
    · rcases hget k f hk with hk | rfl
      · exact h.held k f n hk hn
      · cases hn
    · rcases hget k f hk with hk | rfl
      · rcases hget k' f' hk' with hk' | rfl
        · exact h.own k k' f f' n hk hk' hn hn'
        · cases hn'
      · cases hn
  | connect k => exact h.connect k
  | ask k q ids => exact h.ask k q ids
  | elsewhere f => exact h.doing (same (h.ledger.congr rfl rfl rfl fun _ => rfl)) fun _ hn => hn

/-- The beginning is sound. -/
theorem sound_start (backend : σ) (dir : String) : (start backend dir).Sound where
  ledger := World.ledger_new backend dir
  registrar k f h := by simp [start] at h
  held k f n h := by simp [start] at h
  own k k' f f' n h := by simp [start] at h

/-- So is what any steps lead to. -/
theorem Sound.after (h : x.Sound) (steps : List (RegistryStep σ)) : (x.after steps).Sound := by
  induction steps generalizing x with
  | nil => exact h
  | cons a rest ih =>
    refine ih (x := if x.allows a then x.does a else x) ?_
    split
    · next ha => exact h.does a ha
    · exact h

end RegistryLife

/-- What holds of the objects of a process and their recipients, and of the caches and facades in it. -/
structure RegistryLaw (x : RegistryLife σ) : Prop where
  /-- A resolved cache has a handle of its current generation to a living object, which will tell that generation of its
  death. -/
  resolved : ∀ (n : Nat) (cell : CacheCell) entry, x.world.caches[n]? = some cell → cell.dropped = false →
    cell.cache.cached = some entry → ∃ i o, entry.handle = ⟨n, cell.cache.generation, .process i⟩ ∧
      x.world.directory.object? i = some o ∧ o.alive = true ∧ .cache n cell.cache.generation ∈ o.recipients
  /-- A `get` returns, and a handle that it returns is one to an object that lives then. -/
  get : ∀ n, x.world.hasCache n = true → ∃ answer, ((World.cacheGet n).run x.world).value = some answer ∧
    ∀ handle, answer = some handle → ∃ i o, handle.object = .process i ∧
      ((World.cacheGet n).run x.world).state.directory.object? i = some o ∧ o.alive = true
  /-- The cache of a facade is one of the caches that were not dropped. -/
  facade : ∀ f ∈ x.facades, ∀ n, f.cache = some n → x.world.hasCache n = true
  /-- The dead objects are those that were killed. -/
  killed : ∀ i o, x.world.directory.object? i = some o → (o.alive = false ↔ .killed i ∈ x.events)
  /-- The recipients that an object accepted were told of its death, each as often as it was accepted and in that order; before
  it nobody was. -/
  told : ∀ i o, x.world.directory.object? i = some o →
    toldBy i x.events = if o.alive then [] else linkedTo i x.events
  /-- They are pending until then, and a dead object has none pending. -/
  pending : ∀ i o, x.world.directory.object? i = some o →
    o.recipients = if o.alive then linkedTo i x.events else []
  /-- An object counts the links that it accepted. -/
  links : ∀ i o, x.world.directory.object? i = some o → o.links = (linkedTo i x.events).length
  /-- A counting recipient counts how often it was told. -/
  tallied : ∀ (m count : Nat), x.world.tallies[m]? = some count → count = timesTold (.tally m) x.events
  /-- A dead object accepts no link. -/
  refuses : ∀ i o, x.world.directory.object? i = some o → o.alive = false →
    ∀ r, (World.link (.process i) r).run x.world = ⟨some (.error .deadObject), x.world, []⟩
  /-- A dead object answers every transaction by saying so, and its service is not asked. -/
  silent : ∀ i o, x.world.directory.object? i = some o → o.alive = false → ∀ code data,
    ((World.transact (.process i) code data).run x.world).value = some (.error .deadObject) ∧
      ((World.transact (.process i) code data).run x.world).state.backend = x.world.backend

/-- The law holds after any steps. -/
theorem registry_law (backend : σ) (dir : String) (steps : List (RegistryStep σ)) :
    RegistryLaw ((RegistryLife.start backend dir).after steps) := by
  have h := (RegistryLife.sound_start backend dir).after steps
  generalize (RegistryLife.start backend dir).after steps = x at h
  constructor
  case resolved =>
    intro n cell entry hcell hdropped hcached
    obtain ⟨hgeneration, i, hhandle, o, ho, halive, hpending⟩ := h.ledger.backed n cell hcell hdropped entry hcached
    rw [hgeneration] at hhandle hpending
    exact ⟨i, o, hhandle, ho, halive, hpending⟩
  case get => exact fun n hn => (h.ledger.get hn).2.answered
  case facade =>
    intro f hf n hn
    obtain ⟨k, hk⟩ := List.mem_iff_getElem?.mp hf
    exact h.held k f n hk hn
  case killed => exact h.ledger.killed
  case told => exact fun i o ho => (h.ledger.accounts i o ho).told
  case pending => exact fun i o ho => (h.ledger.accounts i o ho).pending
  case links => exact fun i o ho => (h.ledger.accounts i o ho).links
  case tallied => exact h.ledger.tallied
  case refuses =>
    intro i o ho hdead r
    rw [World.run_link_process, Directory.link_of_refused r ho (.inl hdead)]
    rfl
  case silent =>
    intro i o ho hdead code data
    obtain ⟨hv, hs⟩ := World.run_transact_object code data ho
    have hanswer : o.answer code data = pure (.error .deadObject) := by simp [LocalObject.answer, hdead]
    rw [hv, hs, hanswer]
    exact ⟨rfl, rfl⟩

/-- The object is killed after another took its name: it still tells the recipient and the cache. -/
example :
    let x := (RegistryLife.start () "d").after
      [.register "a" .echo, .newTally, .link 0 0, .newCache "a", .get 0, .register "a" .echo, .kill 0]
    x.events = [.linked 0 (.tally 0), .linked 0 (.cache 0 1), .killed 0, .told 0 (.tally 0), .told 0 (.cache 0 1)] ∧
      x.world.tallies = [1] ∧ x.world.isResolved 0 = false :=
  ⟨rfl, rfl, rfl⟩

end Switchboard
