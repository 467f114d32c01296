import Switchboard.Cache.Basic

/-!
# The generations of a cache

The life of a cache, over any resolver: `get`s and calls of recipients, in any order. Every link hands out a recipient of its
own. A recipient may be called at any time after its link and any number of times, also when the link was refused or the
handle was replaced long ago.

`Resolver.recorded` writes down what a `get` asks of its resolver, and `CacheLife` keeps the events of a life. The main
statement is `generation_law`: the cache is resolved exactly while the latest resolution stands (`Stands`), that is, while its
recipient was not called; a `get` answers from it without a question, or asks for one lookup and one link at most; and the call
of any other recipient changes nothing. What carries it is `CacheLife.Sound`: the recipients have the generations 1, 2, 3, ...,
one each.
-/

namespace Switchboard

variable {σ β η : Type}

/-! ## What is asked of a resolver -/

/-- A question to a resolver: a lookup with what it found, or a link, with the number of the recipient that was handed to it. -/
inductive ResolverCall (β : Type) where
  | lookup (found : Option β)
  | link (object : β) (recipient : Nat) (accepted : Bool)
deriving DecidableEq, Repr

/-- What a resolver works on, and what it was asked. -/
structure ResolverRecord (σ β : Type) where
  backend : σ
  /-- The questions, the oldest first. -/
  calls : List (ResolverCall β)
  /-- The generation that each recipient speaks for, the oldest recipient first. -/
  recipients : List Nat

namespace ResolverRecord

/-- Does something on what the resolver works on. -/
def onBackend {α : Type} (x : Act σ α) : Act (ResolverRecord σ β) α :=
  Act.within (·.backend) (fun b t => { t with backend := b }) x

/-- The record before the questions of a `get`. -/
def fresh (t : ResolverRecord σ β) : ResolverRecord σ β :=
  { t with calls := [] }

def addLookup (found : Option β) (t : ResolverRecord σ β) : ResolverRecord σ β :=
  { t with calls := t.calls ++ [.lookup found] }

def addLink (object : β) (generation : Nat) (accepted : Bool) (t : ResolverRecord σ β) : ResolverRecord σ β :=
  { t with
    calls := t.calls ++ [.link object t.recipients.length accepted]
    recipients := t.recipients ++ [generation] }

end ResolverRecord

/-- A resolver that writes down what it is asked. -/
def Resolver.recorded (r : Resolver σ β η) : Resolver (ResolverRecord σ β) β η where
  lookup := do
    let found ← ResolverRecord.onBackend r.lookup
    Act.modify (·.addLookup found)
    pure found
  link object generation := do
    let result ← ResolverRecord.onBackend (r.link object generation)
    Act.modify (·.addLink object generation result.toBool)
    pure result
  handle := r.handle

/-! ## Lives of a cache -/

/-- What happened to a cache. -/
inductive CacheEvent (β η : Type) where
  /-- A `get`, with what it asked of the resolver and what it returned. -/
  | got (calls : List (ResolverCall β)) (answer : Option η)
  /-- The call of a recipient. -/
  | told (recipient : Nat)
deriving Repr

/-- A cache, the record of its resolver, and everything that happened, the oldest first. -/
structure CacheLife (σ β η : Type) where
  record : ResolverRecord σ β
  cache : Cache η
  events : List (CacheEvent β η)

/-- A step in the life of a cache. -/
inductive CacheStep (σ : Type) where
  | get
  /-- A recipient is called, by its number. -/
  | tell (recipient : Nat)
  /-- Something changes that has nothing to do with the cache. -/
  | elsewhere (f : σ → σ)

namespace CacheLife

/-- A new cache. -/
def start (s : σ) : CacheLife σ β η :=
  ⟨⟨s, [], []⟩, .empty, []⟩

/-- A step, if it comes to its end. -/
def step (name : String) (r : Resolver σ β η) (l : CacheLife σ β η) : CacheStep σ → Option (CacheLife σ β η)
  | .get =>
    let o := (l.cache.get name r.recorded).run l.record.fresh
    o.value.map fun (answer, cache) => ⟨o.state, cache, l.events ++ [.got o.state.calls answer]⟩
  | .tell n =>
    (l.record.recipients[n]?).bind fun generation =>
      let o := (l.cache.died name generation).run l.record
      o.value.map fun cache => ⟨o.state, cache, l.events ++ [.told n]⟩
  | .elsewhere f => some { l with record := { l.record with backend := f l.record.backend } }

/-- The lives that begin with a new cache. -/
inductive Reached (name : String) (r : Resolver σ β η) (s : σ) : CacheLife σ β η → Prop where
  | start : Reached name r s (start s)
  | step {l l' : CacheLife σ β η} (a : CacheStep σ) : Reached name r s l → l.step name r a = some l' → Reached name r s l'

end CacheLife

/-- An event is the resolution to a handle: the `get` found an object, linked the recipient of that number, and returned the
handle. -/
def CacheEvent.IsResolution (e : CacheEvent β η) (recipient : Nat) (handle : η) : Prop :=
  ∃ object, e = .got [.lookup (some object), .link object recipient true] (some handle)

/-- The latest resolution is the one to this handle, and its recipient was not called since. -/
def Stands (events : List (CacheEvent β η)) (recipient : Nat) (handle : η) : Prop :=
  ∃ before e after, events = before ++ e :: after ∧ e.IsResolution recipient handle ∧
    (∀ e' ∈ after, ∀ n h, ¬e'.IsResolution n h) ∧ .told recipient ∉ after

/-! ## The resolver that writes down -/

section Recorded

variable {r : Resolver σ β η} {t : ResolverRecord σ β}

/-- A lookup that returns is recorded with what it found. -/
theorem run_recorded_lookup {found : Option β} (h : (r.lookup.run t.backend).value = some found) :
    (r.recorded.lookup.run t).value = some found ∧
      (r.recorded.lookup.run t).state = { t.addLookup found with backend := (r.lookup.run t.backend).state } := by
  simp [Resolver.recorded, ResolverRecord.onBackend, ResolverRecord.addLookup, Act.run_bind, h]

/-- A link that returns is recorded with its generation and whether it was accepted. -/
theorem run_recorded_link {object : β} {generation : Nat} {result : Except ServiceError Unit}
    (h : ((r.link object generation).run t.backend).value = some result) :
    ((r.recorded.link object generation).run t).value = some result ∧
      ((r.recorded.link object generation).run t).state =
        { t.addLink object generation result.toBool with
          backend := ((r.link object generation).run t.backend).state } := by
  simp [Resolver.recorded, ResolverRecord.onBackend, ResolverRecord.addLink, Act.run_bind, h]

/-- Recording does not make a lookup return that hangs. -/
theorem run_recorded_lookup_hang (h : (r.lookup.run t.backend).value = none) :
    (r.recorded.lookup.run t).value = none := by
  simp [Resolver.recorded, ResolverRecord.onBackend, Act.run_bind, h]

/-- Nor does it make a link return that hangs. -/
theorem run_recorded_link_hang {object : β} {generation : Nat}
    (h : ((r.link object generation).run t.backend).value = none) :
    ((r.recorded.link object generation).run t).value = none := by
  simp [Resolver.recorded, ResolverRecord.onBackend, Act.run_bind, h]

/-- Writing down changes nothing else about a `get`: not its answer, not the cache, and not what it does to the backend. -/
theorem run_get_recorded (name : String) (c : Cache η) :
    ((c.get name r.recorded).run t).value = ((c.get name r).run t.backend).value ∧
      ((c.get name r.recorded).run t).state.backend = ((c.get name r).run t.backend).state := by
  unfold Cache.get
  cases hc : c.cached with
  | some entry => simp
  | none =>
    cases hl : (r.lookup.run t.backend).value with
    | none => simp [Resolver.recorded, ResolverRecord.onBackend, Act.run_bind, hl]
    | some found =>
      cases found with
      | none => simp [Resolver.recorded, ResolverRecord.onBackend, ResolverRecord.addLookup, Act.run_bind, hl]
      | some object =>
        rcases hk : ((r.link object (c.generation + 1)).run (r.lookup.run t.backend).state).value with _ | _ | _ <;>
          simp [Resolver.recorded, ResolverRecord.onBackend, ResolverRecord.addLookup, ResolverRecord.addLink,
            Act.run_bind, hl, hk]

end Recorded

/-! ## What a step does -/

namespace CacheLife

variable {name : String} {r : Resolver σ β η} {s : σ} {l l' : CacheLife σ β η}

/-- A `get` on a resolved cache asks nothing, changes nothing, and returns the handle of the cache. -/
theorem step_get_of_resolved {entry : Cached η} (h : l.cache.cached = some entry) :
    l.step name r .get =
      some ⟨l.record.fresh, l.cache, l.events ++ [.got [] (some entry.handle)]⟩ := by
  simp only [step, Cache.run_get_of_resolved name h, Option.map_some]
  rfl

/-- What a `get` on an unresolved cache may come to. -/
inductive Attempted (r : Resolver σ β η) (l l' : CacheLife σ β η) : Prop where
  | missed (cache : l'.cache = l.cache) (recipients : l'.record.recipients = l.record.recipients)
      (events : l'.events = l.events ++ [.got [.lookup none] none])
  | refused (object : β) (cache : l'.cache = ⟨none, l.cache.generation + 1⟩)
      (recipients : l'.record.recipients = l.record.recipients ++ [l.cache.generation + 1])
      (events : l'.events =
        l.events ++ [.got [.lookup (some object), .link object l.record.recipients.length false] none])
  | resolved (object : β) (handle : η) (made : handle = r.handle object (l.cache.generation + 1))
      (cache : l'.cache = ⟨some ⟨handle, l.cache.generation + 1⟩, l.cache.generation + 1⟩)
      (recipients : l'.record.recipients = l.record.recipients ++ [l.cache.generation + 1])
      (events : l'.events =
        l.events ++ [.got [.lookup (some object), .link object l.record.recipients.length true] (some handle)])

/-- The step of a `get` that returned. -/
theorem step_get_of_run {answer : Option η} {cache : Cache η} {t : ResolverRecord σ β}
    (hv : ((l.cache.get name r.recorded).run l.record.fresh).value = some (answer, cache))
    (ht : ((l.cache.get name r.recorded).run l.record.fresh).state = t) :
    l.step name r .get = some ⟨t, cache, l.events ++ [.got t.calls answer]⟩ := by
  simp only [step, hv, ht, Option.map_some]

/-- A `get` on an unresolved cache returns as soon as the lookup does and, for what the lookup found, the link does; then it was
one of three kinds. -/
theorem exists_step_get (name : String) (hc : l.cache.cached = none) (hl : (r.lookup.run l.record.backend).value.isSome)
    (hk : ∀ object, (r.lookup.run l.record.backend).value = some (some object) →
      ((r.link object (l.cache.generation + 1)).run (r.lookup.run l.record.backend).state).value.isSome) :
    ∃ l', l.step name r .get = some l' ∧ Attempted r l l' := by
  obtain ⟨found, hf⟩ := Option.isSome_iff_exists.mp hl
  have ⟨hv, hs⟩ := run_recorded_lookup (t := l.record.fresh) hf
  cases found with
  | none =>
    obtain ⟨hgv, hgs⟩ := Cache.run_get_of_missed name hc hv
    exact ⟨_, step_get_of_run hgv (hgs.trans hs), .missed rfl rfl rfl⟩
  | some object =>
    obtain ⟨result, hr⟩ := Option.isSome_iff_exists.mp (hk object hf)
    have hr' : ((r.link object (l.cache.generation + 1)).run
        (r.recorded.lookup.run l.record.fresh).state.backend).value = some result := by
      rw [hs]
      exact hr
    have ⟨hv', hs'⟩ := run_recorded_link hr'
    cases result with
    | error e =>
      obtain ⟨hgv, hgs⟩ := Cache.run_get_of_refused name hc hv hv'
      rw [hs', hs] at hgs
      exact ⟨_, step_get_of_run hgv hgs, .refused object rfl rfl rfl⟩
    | ok _ =>
      obtain ⟨hgv, hgs⟩ := Cache.run_get_of_linked name hc hv hv'
      rw [hs', hs] at hgs
      exact ⟨_, step_get_of_run hgv hgs, .resolved object _ rfl rfl rfl rfl⟩

/-- A `get` that returned on an unresolved cache was of one of three kinds: its lookup returned, and so did its link if there
was one. -/
theorem attempted_of_step_get (hc : l.cache.cached = none) (h : l.step name r .get = some l') : Attempted r l l' := by
  have hget : ((l.cache.get name r.recorded).run l.record.fresh).value ≠ none := by
    intro hn
    simp [step, hn] at h
  have hl : (r.lookup.run l.record.backend).value.isSome := by
    rw [Option.isSome_iff_ne_none]
    intro hn
    exact hget (Cache.run_get_of_lookup_hang name hc (run_recorded_lookup_hang hn))
  have hk : ∀ object, (r.lookup.run l.record.backend).value = some (some object) →
      ((r.link object (l.cache.generation + 1)).run (r.lookup.run l.record.backend).state).value.isSome := by
    intro object hf
    rw [Option.isSome_iff_ne_none]
    intro hn
    have ⟨hv, hs⟩ := run_recorded_lookup (t := l.record.fresh) hf
    refine hget (Cache.run_get_of_link_hang name hc hv (run_recorded_link_hang ?_))
    rw [hs]
    exact hn
  obtain ⟨l'', h'', ha⟩ := exists_step_get name hc hl hk
  rw [h] at h''
  exact Option.some.inj h'' ▸ ha

/-- The call of a recipient drops the handle of its generation, and does nothing else. -/
theorem step_tell {n generation : Nat} (h : l.record.recipients[n]? = some generation) :
    l.step name r (.tell n) = some ⟨l.record, l.cache.drop generation, l.events ++ [.told n]⟩ := by
  obtain ⟨hv, hs⟩ := Cache.run_died name (c := l.cache) (s := l.record) generation
  simp only [step, h, Option.bind_some, hv, hs, Option.map_some]

/-- Only a recipient that was handed out can be called. -/
theorem exists_generation_of_step_tell {n : Nat} (h : l.step name r (.tell n) = some l') :
    ∃ generation, l.record.recipients[n]? = some generation ∧
      l' = ⟨l.record, l.cache.drop generation, l.events ++ [.told n]⟩ := by
  cases hg : l.record.recipients[n]? with
  | none => simp [step, hg] at h
  | some generation =>
    rw [step_tell hg] at h
    exact ⟨generation, rfl, (Option.some.inj h).symm⟩

end CacheLife

/-! ## The latest resolution as events are added -/

section Stands

variable {events : List (CacheEvent β η)} {x : CacheEvent β η} {n : Nat} {h : η}

/-- An event of a longer list is its last one, or lies in the shorter list. -/
theorem snoc_eq_append_cons_iff {before after : List (CacheEvent β η)} {e : CacheEvent β η} :
    events ++ [x] = before ++ e :: after ↔
      (after = [] ∧ events = before ∧ x = e) ∨ ∃ rest, after = rest ++ [x] ∧ events = before ++ e :: rest := by
  rcases List.eq_nil_or_concat after with rfl | ⟨rest, y, rfl⟩
  · simp
  · rw [List.concat_eq_append, ← List.cons_append, ← List.append_assoc, List.append_singleton_inj]
    simp only [List.append_eq_nil_iff, List.cons_ne_nil, and_false, false_and, false_or, List.append_singleton_inj]
    constructor
    · rintro ⟨rfl, rfl⟩
      exact ⟨rest, ⟨rfl, rfl⟩, rfl⟩
    · rintro ⟨rest', ⟨rfl, rfl⟩, h⟩
      exact ⟨h, rfl⟩

/-- A resolution has one recipient and one handle. -/
theorem CacheEvent.IsResolution.unique {e : CacheEvent β η} {n' : Nat} {h' : η} (he : e.IsResolution n h)
    (he' : e.IsResolution n' h') : n' = n ∧ h' = h := by
  obtain ⟨object, rfl⟩ := he
  obtain ⟨object', heq⟩ := he'
  simp only [CacheEvent.got.injEq, List.cons.injEq, ResolverCall.link.injEq, Option.some.injEq] at heq
  exact ⟨heq.1.2.1.2.1.symm, heq.2.symm⟩

/-- A notice resolves nothing. -/
theorem not_isResolution_told {m : Nat} : ¬(CacheEvent.told m : CacheEvent β η).IsResolution n h := by
  rintro ⟨object, heq⟩
  cases heq

/-- A resolution stands as soon as it happened, in place of all before it. -/
theorem stands_snoc_of_resolution (hx : x.IsResolution n h) {n' : Nat} {h' : η} :
    Stands (events ++ [x]) n' h' ↔ n' = n ∧ h' = h := by
  constructor
  · rintro ⟨before, e, after, heq, he, hafter, -⟩
    rcases snoc_eq_append_cons_iff.mp heq with ⟨-, -, rfl⟩ | ⟨rest, rfl, -⟩
    · exact hx.unique he
    · exact absurd hx (hafter x (by simp) n h)
  · rintro ⟨rfl, rfl⟩
    exact ⟨events, x, [], rfl, hx, by simp, by simp⟩

/-- Any other event leaves the latest resolution standing, unless it is the call of its recipient. -/
theorem stands_snoc_of_not_resolution (hx : ∀ n h, ¬x.IsResolution n h) :
    Stands (events ++ [x]) n h ↔ Stands events n h ∧ x ≠ .told n := by
  constructor
  · rintro ⟨before, e, after, heq, he, hafter, htold⟩
    rcases snoc_eq_append_cons_iff.mp heq with ⟨-, -, rfl⟩ | ⟨rest, rfl, rfl⟩
    · exact absurd he (hx n h)
    · simp only [List.mem_append, List.mem_singleton, not_or] at htold
      exact ⟨⟨before, e, rest, rfl, he, fun e' he' => hafter e' (by simp [he']), htold.1⟩, fun h => htold.2 h.symm⟩
  · rintro ⟨⟨before, e, after, rfl, he, hafter, htold⟩, hne⟩
    refine ⟨before, e, after ++ [x], by simp, he, ?_, ?_⟩
    · intro e' he'
      rcases List.mem_append.mp he' with he' | he'
      · exact hafter e' he'
      · rw [List.mem_singleton.mp he']
        exact hx
    · simp only [List.mem_append, List.mem_singleton, not_or]
      exact ⟨htold, fun h => hne h.symm⟩

/-- The resolution that stands is one of the events. -/
theorem Stands.mem (hs : Stands events n h) : ∃ e ∈ events, e.IsResolution n h := by
  obtain ⟨before, e, after, rfl, he, -, -⟩ := hs
  exact ⟨e, by simp, he⟩

end Stands

/-! ## Sound lives -/

/-- The event is the resolution of that recipient, or its call. -/
def CacheEvent.Mentions (e : CacheEvent β η) (recipient : Nat) : Prop :=
  e = .told recipient ∨ ∃ h, e.IsResolution recipient h

/-- A notice mentions its own generation. -/
theorem mentions_told_iff {m n : Nat} : (CacheEvent.told m : CacheEvent β η).Mentions n ↔ n = m := by
  constructor
  · rintro (heq | ⟨h, he⟩)
    · exact (CacheEvent.told.inj heq).symm
    · exact absurd he not_isResolution_told
  · rintro rfl
    exact .inl rfl

/-- A resolution mentions the generation that it links, and no other. -/
theorem CacheEvent.IsResolution.mentions_iff {e : CacheEvent β η} {n m : Nat} {h : η} (he : e.IsResolution n h) :
    e.Mentions m ↔ m = n := by
  constructor
  · rintro (rfl | ⟨h', he'⟩)
    · exact absurd he not_isResolution_told
    · exact (he.unique he').1
  · rintro rfl
    exact .inr ⟨h, he⟩

/-- The invariant of a life: the cache holds the handle of the resolution that stands, under the generation of its recipient,
and no recipient is spoken of before it is handed out. -/
structure CacheLife.Sound (l : CacheLife σ β η) : Prop where
  counted : l.cache.generation = l.record.recipients.length
  numbered : ∀ n generation, l.record.recipients[n]? = some generation → generation = n + 1
  holds : ∀ n h, Stands l.events n h → l.cache.cached = some ⟨h, n + 1⟩
  stands : ∀ entry, l.cache.cached = some entry → ∃ n, entry.generation = n + 1 ∧ Stands l.events n entry.handle
  known : ∀ e ∈ l.events, ∀ n, e.Mentions n → n < l.record.recipients.length
  ordered : l.events.Pairwise fun a b => ∀ n h, b.IsResolution n h → ¬a.Mentions n

namespace CacheLife

variable {name : String} {r : Resolver σ β η} {s : σ} {l l' : CacheLife σ β η}

/-- An empty cache with no events behind it is sound. -/
theorem sound_start : (start s : CacheLife σ β η).Sound where
  counted := rfl
  numbered := by simp [start]
  holds := by
    rintro n h ⟨before, e, after, heq, -⟩
    simp [start] at heq
  stands := by simp [start, Cache.empty]
  known := by simp [start]
  ordered := by simp [start]

/-- A recipient has the number of its generation less one. -/
theorem Sound.recipient (hl : l.Sound) {n : Nat} (hn : n < l.record.recipients.length) :
    l.record.recipients[n]? = some (n + 1) := by
  have hg := List.getElem?_eq_getElem hn
  rw [hg, hl.numbered n _ hg]

/-- The numbers stay the generations less one as the next recipient is handed out. -/
theorem Sound.numbered_next (hl : l.Sound) {n generation : Nat}
    (h : (l.record.recipients ++ [l.cache.generation + 1])[n]? = some generation) : generation = n + 1 := by
  rw [hl.counted] at h
  rcases Nat.lt_or_ge n l.record.recipients.length with hn | hn
  · rw [List.getElem?_append_left hn] at h
    exact hl.numbered n generation h
  · rw [List.getElem?_append_right hn] at h
    obtain ⟨hz, hg⟩ := List.getElem?_eq_some_iff.mp h
    have hz : n - l.record.recipients.length = 0 := by simpa using hz
    simp only [hz, List.getElem_cons_zero] at hg
    omega

/-- The events stay in order when one is added that is no resolution. -/
theorem Sound.ordered_snoc (hl : l.Sound) {x : CacheEvent β η} (hx : ∀ n h, ¬x.IsResolution n h) :
    (l.events ++ [x]).Pairwise fun a b => ∀ n h, b.IsResolution n h → ¬a.Mentions n := by
  refine List.pairwise_append.mpr ⟨hl.ordered, List.pairwise_singleton _ _, ?_⟩
  intro a _ b hb n h hres
  rw [List.mem_singleton.mp hb] at hres
  exact absurd hres (hx n h)

/-- An event that is no resolution and no call, and that leaves the handle alone, keeps a life sound; recipients may have been
handed out to no avail. -/
theorem Sound.snoc_idle (hl : l.Sound) {x : CacheEvent β η} (hx : ∀ n, ¬x.Mentions n)
    (hcached : l'.cache.cached = l.cache.cached) (hevents : l'.events = l.events ++ [x])
    (hcounted : l'.cache.generation = l'.record.recipients.length)
    (hnumbered : ∀ n generation, l'.record.recipients[n]? = some generation → generation = n + 1)
    (hlength : l.record.recipients.length ≤ l'.record.recipients.length) : l'.Sound where
  counted := hcounted
  numbered := hnumbered
  holds := by
    intro n h hs
    rw [hevents, stands_snoc_of_not_resolution fun n h he => hx n (.inr ⟨h, he⟩)] at hs
    rw [hcached]
    exact hl.holds n h hs.1
  stands := by
    intro entry he
    rw [hcached] at he
    obtain ⟨n, hg, hs⟩ := hl.stands entry he
    refine ⟨n, hg, ?_⟩
    rw [hevents, stands_snoc_of_not_resolution fun n h he => hx n (.inr ⟨h, he⟩)]
    exact ⟨hs, fun h => hx n (.inl h)⟩
  known := by
    intro e he n hm
    rw [hevents, List.mem_append, List.mem_singleton] at he
    rcases he with he | rfl
    · exact Nat.lt_of_lt_of_le (hl.known e he n hm) hlength
    · exact absurd hm (hx n)
  ordered := hevents ▸ hl.ordered_snoc fun n h he => hx n (.inr ⟨h, he⟩)

/-- Every kind of `get` on an unresolved cache keeps a life sound. -/
theorem Sound.attempted (hl : l.Sound) (hc : l.cache.cached = none) (ha : Attempted r l l') : l'.Sound := by
  cases ha with
  | missed cache recipients events =>
    refine hl.snoc_idle ?_ (by rw [cache]) events (by rw [cache, recipients, hl.counted])
      (by rw [recipients]; exact hl.numbered) (Nat.le_of_eq (by rw [recipients]))
    rintro n (heq | ⟨h, object, heq⟩) <;> simp at heq
  | refused object cache recipients events =>
    refine hl.snoc_idle ?_ (by rw [cache, hc]) events (by rw [cache, recipients, hl.counted, List.length_append]; rfl)
      (by rw [recipients]; exact fun _ _ => hl.numbered_next) (by rw [recipients, List.length_append]; omega)
    rintro n (heq | ⟨h, object, heq⟩) <;> simp at heq
  | resolved object handle made cache recipients events =>
    have hres : (CacheEvent.got [.lookup (some object), .link object l.record.recipients.length true] (some handle)
        : CacheEvent β η).IsResolution l.record.recipients.length handle := ⟨object, rfl⟩
    constructor
    case counted => rw [cache, recipients, hl.counted, List.length_append]; rfl
    case numbered => rw [recipients]; exact fun _ _ => hl.numbered_next
    case holds =>
      intro n h hs
      rw [events, stands_snoc_of_resolution hres] at hs
      rw [cache, hs.1, hs.2, hl.counted]
    case stands =>
      intro entry he
      rw [cache] at he
      obtain rfl := Option.some.inj he
      refine ⟨_, by rw [hl.counted], ?_⟩
      rw [events, stands_snoc_of_resolution hres]
      exact ⟨rfl, rfl⟩
    case known =>
      intro e he n hm
      rw [recipients, List.length_append]
      rw [events, List.mem_append, List.mem_singleton] at he
      rcases he with he | rfl
      · exact Nat.lt_succ_of_lt (hl.known e he n hm)
      · rw [hres.mentions_iff.mp hm]
        exact Nat.lt_succ_self _
    case ordered =>
      rw [events]
      refine List.pairwise_append.mpr ⟨hl.ordered, List.pairwise_singleton _ _, ?_⟩
      intro a ha b hb n h hb' hm
      rw [List.mem_singleton.mp hb] at hb'
      rw [(hres.unique hb').1] at hm
      exact Nat.lt_irrefl _ (hl.known a ha _ hm)

/-- The call of a recipient makes the cache unresolved exactly if its resolution stands. -/
theorem Sound.drop_of_stands (hl : l.Sound) {n : Nat} {h : η} (hs : Stands l.events n h) :
    l.cache.drop (n + 1) = { l.cache with cached := none } := by
  have hc := hl.holds n h hs
  exact Cache.drop_of_holds (Cache.holds_iff.mpr ⟨_, hc, rfl⟩)

/-- A notice of a generation that does not stand changes nothing about the cache. -/
theorem Sound.drop_of_not_stands (hl : l.Sound) {n : Nat} (hs : ∀ h, ¬Stands l.events n h) :
    l.cache.drop (n + 1) = l.cache := by
  refine Cache.drop_of_not_holds (Bool.eq_false_iff.mpr fun hh => ?_)
  obtain ⟨entry, hc, hg⟩ := Cache.holds_iff.mp hh
  obtain ⟨m, hm, hst⟩ := hl.stands entry hc
  obtain rfl : m = n := by omega
  exact hs _ hst

/-- The call of a recipient keeps a life sound. -/
theorem Sound.told (hl : l.Sound) {n : Nat} (hn : n < l.record.recipients.length) :
    (⟨l.record, l.cache.drop (n + 1), l.events ++ [.told n]⟩ : CacheLife σ β η).Sound := by
  have hgeneration : (l.cache.drop (n + 1)).generation = l.cache.generation := by
    unfold Cache.drop
    split <;> rfl
  constructor
  case counted => exact hgeneration.trans hl.counted
  case numbered => exact hl.numbered
  case holds =>
    intro m h hs
    rw [stands_snoc_of_not_resolution fun _ _ => not_isResolution_told] at hs
    have hmn : m ≠ n := fun h => hs.2 (h ▸ rfl)
    have hc := hl.holds m h hs.1
    rw [hl.drop_of_not_stands]
    · exact hc
    · intro h' hs'
      have heq := hc.symm.trans (hl.holds n h' hs')
      simp only [Option.some.injEq, Cached.mk.injEq, Nat.add_right_cancel_iff] at heq
      exact hmn heq.2
  case stands =>
    intro entry he
    by_cases hs : ∃ h, Stands l.events n h
    · obtain ⟨h, hs⟩ := hs
      rw [hl.drop_of_stands hs] at he
      cases he
    · rw [not_exists] at hs
      rw [hl.drop_of_not_stands hs] at he
      obtain ⟨m, hg, hst⟩ := hl.stands entry he
      refine ⟨m, hg, (stands_snoc_of_not_resolution fun _ _ => not_isResolution_told).mpr ⟨hst, ?_⟩⟩
      intro heq
      obtain rfl := CacheEvent.told.inj heq
      exact hs _ hst
  case known =>
    intro e he m hm
    rcases List.mem_append.mp he with he | he
    · exact hl.known e he m hm
    · rw [List.mem_singleton.mp he, mentions_told_iff] at hm
      exact hm ▸ hn
  case ordered => exact hl.ordered_snoc fun _ _ => not_isResolution_told

/-- Every step keeps a life sound. -/
theorem Sound.step {a : CacheStep σ} (hl : l.Sound) (h : l.step name r a = some l') : l'.Sound := by
  cases a with
  | get =>
    cases hc : l.cache.cached with
    | none => exact hl.attempted hc (attempted_of_step_get hc h)
    | some entry =>
      rw [step_get_of_resolved hc] at h
      obtain rfl := Option.some.inj h
      refine hl.snoc_idle ?_ rfl rfl hl.counted hl.numbered (Nat.le_refl _)
      rintro n (heq | ⟨h, object, heq⟩) <;> simp at heq
  | tell n =>
    obtain ⟨generation, hg, rfl⟩ := exists_generation_of_step_tell h
    rw [hl.numbered n generation hg]
    exact hl.told (List.getElem?_eq_some_iff.mp hg).1
  | elsewhere f =>
    obtain rfl := Option.some.inj h
    exact ⟨hl.counted, hl.numbered, hl.holds, hl.stands, hl.known, hl.ordered⟩

/-- Every life that begins with a new cache is sound. -/
theorem Reached.sound (h : Reached name r s l) : l.Sound := by
  induction h with
  | start => exact sound_start
  | step _ _ hstep ih => exact ih.step hstep

end CacheLife

/-! ## The law -/

/-- A recipient that was called does not stand. -/
theorem CacheLife.Sound.not_stands_of_told {l : CacheLife σ β η} (hl : l.Sound) {n : Nat} (hn : .told n ∈ l.events) (h : η) :
    ¬Stands l.events n h := by
  rintro ⟨before, e, after, heq, he, -, htold⟩
  have hord := hl.ordered
  rw [heq] at hn hord
  rcases List.mem_append.mp hn with hn | hn
  · exact (List.pairwise_append.mp hord).2.2 _ hn e (by simp) n h he (.inl rfl)
  · rcases List.mem_cons.mp hn with rfl | hn
    · exact not_isResolution_told he
    · exact htold hn

/-- A resolution that another one followed does not stand. -/
theorem CacheLife.Sound.not_stands_of_replaced {l : CacheLife σ β η} (hl : l.Sound) {before after : List (CacheEvent β η)}
    {e e' : CacheEvent β η} {n n' : Nat} {h h' : η} (heq : l.events = before ++ e :: after) (he : e.IsResolution n h)
    (hmem : e' ∈ after) (he' : e'.IsResolution n' h') (h'' : η) : ¬Stands l.events n h'' := by
  rintro ⟨before₁, e₁, after₁, heq₁, he₁, hafter, -⟩
  have hord := hl.ordered
  rw [heq₁] at hord heq
  rcases List.append_eq_append_iff.mp heq with ⟨middle, -, htail⟩ | ⟨middle, rfl, htail⟩
  · -- the resolution is the one that stands, or comes after it
    have hsuffix : ∀ e ∈ after, e ∈ after₁ := by
      rcases middle with _ | ⟨x, middle⟩
      · simp only [List.nil_append, List.cons.injEq] at htail
        exact fun _ h => htail.2 ▸ h
      · simp only [List.cons_append, List.cons.injEq] at htail
        intro e he
        simp [htail.2, he]
    exact hafter e' (hsuffix e' hmem) n' h' he'
  · rcases middle with _ | ⟨x, middle⟩
    · simp only [List.nil_append, List.cons.injEq] at htail
      exact hafter e' (htail.2 ▸ hmem) n' h' he'
    · -- the resolution comes before the one that stands, and they have one recipient
      simp only [List.cons_append, List.cons.injEq] at htail
      obtain ⟨rfl, -⟩ := htail
      exact (List.pairwise_append.mp hord).2.2 e (by simp) e₁ (by simp) n h'' he₁ (.inr ⟨h, he⟩)

/-- What holds of a cache after every step: when it is resolved, what a `get` does next, and what the call of a recipient does
next. -/
structure GenerationLaw (name : String) (r : Resolver σ β η) (l : CacheLife σ β η) : Prop where
  /-- The cache is resolved exactly while the latest resolution stands. -/
  resolved_iff : l.cache.isResolved = true ↔ ∃ n h, Stands l.events n h
  /-- While a resolution stands, a `get` returns its handle, asks nothing, and changes nothing. -/
  answers : ∀ n h, Stands l.events n h →
    l.step name r .get = some ⟨l.record.fresh, l.cache, l.events ++ [.got [] (some h)]⟩
  /-- While none stands, a `get` asks for one lookup and, for what that finds, one link; it returns and keeps a handle exactly
  if both succeed. -/
  attempts : (∀ n h, ¬Stands l.events n h) → ∀ l', l.step name r .get = some l' → CacheLife.Attempted r l l'
  /-- A `get` returns if the lookup and the link do. -/
  returns : (r.lookup.run l.record.backend).value.isSome →
    (∀ object, (r.lookup.run l.record.backend).value = some (some object) →
      ((r.link object (l.cache.generation + 1)).run (r.lookup.run l.record.backend).state).value.isSome) →
    (l.step name r .get).isSome
  /-- The call of the recipient of the resolution that stands drops the handle. -/
  drops : ∀ n h, Stands l.events n h →
    l.step name r (.tell n) = some ⟨l.record, { l.cache with cached := none }, l.events ++ [.told n]⟩
  /-- The call of any other recipient that was handed out leaves the cache as it is. -/
  ignores : ∀ n < l.record.recipients.length, (∀ h, ¬Stands l.events n h) →
    l.step name r (.tell n) = some ⟨l.record, l.cache, l.events ++ [.told n]⟩
  /-- One resolution stands at most. -/
  unique : ∀ n h n' h', Stands l.events n h → Stands l.events n' h' → n = n' ∧ h = h'
  /-- A resolution stands no longer once its recipient was called. -/
  told : ∀ n, .told n ∈ l.events → ∀ h, ¬Stands l.events n h
  /-- A resolution stands no longer once there is another. -/
  replaced : ∀ before e after n h, l.events = before ++ e :: after → e.IsResolution n h →
    (∃ e' ∈ after, ∃ n' h', e'.IsResolution n' h') → ∀ h', ¬Stands l.events n h'
  /-- Every resolution handed its recipient out. -/
  handed : ∀ e ∈ l.events, ∀ n h, e.IsResolution n h → n < l.record.recipients.length
  /-- The last generation is the number of recipients that were handed out: a counter of 64 bits is exact for fewer than 2^64
  of them. -/
  counted : l.cache.generation = l.record.recipients.length

/-- The law holds after every step of every life. -/
theorem generation_law {name : String} {r : Resolver σ β η} {s : σ} {l : CacheLife σ β η}
    (h : CacheLife.Reached name r s l) : GenerationLaw name r l := by
  have hl := h.sound
  have unresolved : (∀ n h, ¬Stands l.events n h) → l.cache.cached = none := by
    intro hn
    cases hc : l.cache.cached with
    | none => rfl
    | some entry =>
      obtain ⟨n, -, hs⟩ := hl.stands entry hc
      exact absurd hs (hn n _)
  constructor
  case resolved_iff =>
    rw [Cache.isResolved, Option.isSome_iff_exists]
    constructor
    · rintro ⟨entry, hc⟩
      obtain ⟨n, -, hs⟩ := hl.stands entry hc
      exact ⟨n, _, hs⟩
    · rintro ⟨n, h, hs⟩
      exact ⟨_, hl.holds n h hs⟩
  case answers => exact fun n h hs => CacheLife.step_get_of_resolved (hl.holds n h hs)
  case attempts => exact fun hn l' hstep => CacheLife.attempted_of_step_get (unresolved hn) hstep
  case returns =>
    intro hlookup hlink
    cases hc : l.cache.cached with
    | none =>
      obtain ⟨l', hstep, -⟩ := CacheLife.exists_step_get name hc hlookup hlink
      exact hstep ▸ rfl
    | some entry => exact CacheLife.step_get_of_resolved hc ▸ rfl
  case drops =>
    intro n h hs
    obtain ⟨e, he, hres⟩ := hs.mem
    rw [CacheLife.step_tell (hl.recipient (hl.known e he n (.inr ⟨h, hres⟩))), hl.drop_of_stands hs]
  case ignores =>
    intro n hn hs
    rw [CacheLife.step_tell (hl.recipient hn), hl.drop_of_not_stands hs]
  case unique =>
    intro n h n' h' hs hs'
    have heq := (hl.holds n h hs).symm.trans (hl.holds n' h' hs')
    simp only [Option.some.injEq, Cached.mk.injEq, Nat.add_right_cancel_iff] at heq
    exact ⟨heq.2, heq.1⟩
  case told => exact fun n hn h => hl.not_stands_of_told hn h
  case replaced =>
    rintro before e after n h heq he ⟨e', hmem, n', h', he'⟩ h''
    exact hl.not_stands_of_replaced heq he hmem he' h''
  case handed => exact fun e he n h hres => hl.known e he n (.inr ⟨h, hres⟩)
  case counted => exact hl.counted

/-- A resolver that always finds and always links. -/
def willing : Resolver Unit Unit Nat :=
  ⟨pure (some ()), fun _ _ => pure (.ok ()), fun _ generation => generation⟩

/-- After a second resolution the recipient of the first is called again: the law holds, and the second handle is kept. -/
theorem generation_law_called_again :
    ∃ l, CacheLife.Reached "power" willing () l ∧ l.cache.cached = some ⟨2, 2⟩ ∧ GenerationLaw "power" willing l :=
  ⟨_, .step (.tell 0) (.step .get (.step (.tell 0) (.step .get .start rfl) rfl) rfl) rfl, rfl,
    generation_law (.step (.tell 0) (.step .get (.step (.tell 0) (.step .get .start rfl) rfl) rfl) rfl)⟩

end Switchboard
