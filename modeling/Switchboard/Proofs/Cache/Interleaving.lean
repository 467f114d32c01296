import Mathlib
import Switchboard.Cache.Race

/-!
# Every order of the threads at one cache

What holds of a cache however the steps of its threads come about, for any number of threads and of notices. The main
statement is `race_law`: threads that get the handle at once share one lookup and one link and return one handle; a notice
that is done has removed its generation for good; and a notice removes no other generation. A thread that nobody interrupts does
what `Cache.get` and `Cache.drop` do.

What carries it is `CacheRace.Sound`. A thread between taking the lock and letting go of it is the one that holds it, so the
others stand outside and their facts are untouched (`Sound.stepped_caller`, `Sound.stepped_notice`). The generation is used up
before the link and linked before it is stored, so a notice can be ahead of the store only while the thread that stores still
holds the lock.
-/

namespace Switchboard

/-! ## Threads inside and outside the lock -/

/-- Whether a thread in that phase has taken the lock and not let go of it. -/
def CallerPhase.inside : CallerPhase → Bool
  | .arriving | .done _ => false
  | _ => true

def NoticePhase.inside : NoticePhase → Bool
  | .comparing | .leaving => true
  | _ => false

/-- Whether a notice in that phase has compared the generations. -/
def NoticePhase.passed : NoticePhase → Bool
  | .leaving | .done => true
  | _ => false

/-- What the state is like when a caller stands in that phase. -/
def CallerPhase.Fits (s : CacheRace) : CallerPhase → Prop
  | .seeking => s.cache.cached = none
  | .linking g => s.cache.cached = none ∧ g = s.cache.generation ∧ g ∉ s.links
  | .storing g =>
    s.cache.cached = none ∧ g = s.cache.generation ∧ g ∈ s.links ∧ ∀ t ∈ s.notices, t.1 = g → t.2.passed = false
  | _ => True

/-- A caller outside the lock asks nothing of the state. -/
theorem CallerPhase.fits_of_outside {s : CacheRace} {p : CallerPhase} (h : p.inside = false) : p.Fits s := by
  cases p with
  | seeking | linking | storing => cases h
  | _ => trivial

namespace CacheRace

/-- The invariant of all orders of steps. -/
structure Sound (s : CacheRace) : Prop where
  /-- The callers inside the lock are those that hold it. -/
  callers_lock : ∀ n p, s.callers[n]? = some p → (p.inside = true ↔ s.holder = some (.caller n))
  notices_lock : ∀ n t, s.notices[n]? = some t → (t.2.inside = true ↔ s.holder = some (.notice n))
  /-- The holder of the lock is one of the threads. -/
  caller_held : ∀ n, s.holder = some (.caller n) → n < s.callers.length
  notice_held : ∀ n, s.holder = some (.notice n) → n < s.notices.length
  fits : ∀ (n : Nat) (p : CallerPhase), s.callers[n]? = some p → p.Fits s
  entry : ∀ entry, s.cache.cached = some entry → entry.handle = entry.generation ∧ entry.generation ∈ s.links
  linked : ∀ g ∈ s.links, g ≤ s.cache.generation
  notified : ∀ t ∈ s.notices, t.1 ∈ s.links
  invalidated : ∀ t ∈ s.notices, t.2.passed = true → s.cache.holds t.1 = false

/-- In the beginning every caller is at the lock. -/
theorem eq_arriving_of_start {threads n : Nat} {p : CallerPhase} (h : (start threads).callers[n]? = some p) :
    p = .arriving :=
  List.eq_of_mem_replicate (List.mem_of_getElem? h)

/-- The beginning is sound. -/
theorem sound_start (threads : Nat) : (start threads).Sound where
  callers_lock := by
    intro n p h
    obtain rfl := eq_arriving_of_start h
    simp [start, CallerPhase.inside]
  notices_lock := by simp [start]
  caller_held := by simp [start]
  notice_held := by simp [start]
  fits := by
    intro n p h
    obtain rfl := eq_arriving_of_start h
    trivial
  entry := by simp [start, Cache.empty]
  linked := by simp [start]
  notified := by simp [start]
  invalidated := by simp [start]

variable {s s' : CacheRace} {n : Nat}

/-- While a caller holds the lock, or nobody does, the other callers stand outside it. -/
theorem Sound.outside_of_caller (hs : s.Sound) (hfree : s.holder = none ∨ s.holder = some (.caller n)) {m : Nat}
    {p : CallerPhase} (hm : s.callers[m]? = some p) (hne : m ≠ n) : p.inside = false := by
  refine Bool.eq_false_iff.mpr fun h => ?_
  have hm := (hs.callers_lock m p hm).mp h
  rcases hfree with hfree | hfree <;> rw [hfree] at hm
  · cases hm
  · exact hne (LockHolder.caller.inj (Option.some.inj hm)).symm

/-- A step of a caller, from the lock being its own or nobody's, keeps the state sound if it keeps what the state says of the
cache: the other threads stand outside the lock. -/
theorem Sound.stepped_caller (hs : s.Sound) (hn : n < s.callers.length)
    (hfree : s.holder = none ∨ s.holder = some (.caller n)) {p : CallerPhase}
    (hcallers : s'.callers = s.callers.set n p) (hnotices : s'.notices = s.notices)
    (hholder : s'.holder = if p.inside then some (.caller n) else none) (hfits : p.Fits s')
    (hentry : ∀ entry, s'.cache.cached = some entry → entry.handle = entry.generation ∧ entry.generation ∈ s'.links)
    (hlinked : ∀ g ∈ s'.links, g ≤ s'.cache.generation) (hlinks : ∀ g ∈ s.links, g ∈ s'.links)
    (hinvalidated : ∀ t ∈ s.notices, t.2.passed = true → s'.cache.holds t.1 = false) : s'.Sound where
  callers_lock := by
    intro m q hm
    rw [hcallers] at hm
    by_cases hmn : m = n
    · subst hmn
      rw [List.getElem?_set_self hn] at hm
      obtain rfl := Option.some.inj hm
      cases hp : p.inside <;> simp [hholder, hp]
    · rw [List.getElem?_set_ne (Ne.symm hmn)] at hm
      have hq := hs.outside_of_caller hfree hm hmn
      cases hp : p.inside <;> simp [hholder, hp, hq, Ne.symm hmn]
  notices_lock := by
    intro m t hm
    rw [hnotices] at hm
    have ht : t.2.inside = false := by
      refine Bool.eq_false_iff.mpr fun h => ?_
      have hm := (hs.notices_lock m t hm).mp h
      rcases hfree with hfree | hfree <;> simp [hfree] at hm
    cases hp : p.inside <;> simp [hholder, hp, ht]
  caller_held := by
    intro m hm
    rw [hcallers, List.length_set]
    cases hp : p.inside <;> simp [hholder, hp] at hm
    exact hm ▸ hn
  notice_held := by
    intro m hm
    cases hp : p.inside <;> simp [hholder, hp] at hm
  fits := by
    intro m q hm
    rw [hcallers] at hm
    by_cases hmn : m = n
    · subst hmn
      rw [List.getElem?_set_self hn] at hm
      exact Option.some.inj hm ▸ hfits
    · rw [List.getElem?_set_ne (Ne.symm hmn)] at hm
      exact CallerPhase.fits_of_outside (hs.outside_of_caller hfree hm hmn)
  entry := hentry
  linked := hlinked
  notified := fun t ht => hlinks _ (hs.notified t (hnotices ▸ ht))
  invalidated := fun t ht => hinvalidated t (hnotices ▸ ht)

/-- While a notice holds the lock, or nobody does, the callers stand outside it. -/
theorem Sound.outside_of_notice (hs : s.Sound) (hfree : s.holder = none ∨ s.holder = some (.notice n)) {m : Nat}
    {p : CallerPhase} (hm : s.callers[m]? = some p) : p.inside = false := by
  refine Bool.eq_false_iff.mpr fun h => ?_
  have hm := (hs.callers_lock m p hm).mp h
  rcases hfree with hfree | hfree <;> simp [hfree] at hm

/-- A step of a notice, from the lock being its own or nobody's, keeps the state sound if the notice drops nothing but its
generation. -/
theorem Sound.stepped_notice (hs : s.Sound) {g : Nat} {p q : NoticePhase} (hn : s.notices[n]? = some (g, q))
    (hfree : s.holder = none ∨ s.holder = some (.notice n)) (hcallers : s'.callers = s.callers)
    (hnotices : s'.notices = s.notices.set n (g, p)) (hlinks : s'.links = s.links)
    (hholder : s'.holder = if p.inside then some (.notice n) else none)
    (hgeneration : s'.cache.generation = s.cache.generation)
    (hcached : s'.cache.cached = none ∨ s'.cache.cached = s.cache.cached)
    (hpassed : p.passed = true → s'.cache.holds g = false) : s'.Sound where
  callers_lock := by
    intro m q hm
    rw [hcallers] at hm
    have hq := hs.outside_of_notice hfree hm
    cases hp : p.inside <;> simp [hholder, hp, hq]
  notices_lock := by
    intro m t hm
    rw [hnotices] at hm
    have hlt := (List.getElem?_eq_some_iff.mp hn).1
    by_cases hmn : m = n
    · subst hmn
      rw [List.getElem?_set_self hlt] at hm
      obtain rfl := Option.some.inj hm
      cases hp : p.inside <;> simp [hholder, hp]
    · rw [List.getElem?_set_ne (Ne.symm hmn)] at hm
      have ht : t.2.inside = false := by
        refine Bool.eq_false_iff.mpr fun h => ?_
        have hm := (hs.notices_lock m t hm).mp h
        rcases hfree with hfree | hfree <;> rw [hfree] at hm
        · cases hm
        · exact hmn (LockHolder.notice.inj (Option.some.inj hm)).symm
      cases hp : p.inside <;> simp [hholder, hp, ht, Ne.symm hmn]
  caller_held := by
    intro m hm
    cases hp : p.inside <;> simp [hholder, hp] at hm
  notice_held := by
    intro m hm
    rw [hnotices, List.length_set]
    cases hp : p.inside <;> simp [hholder, hp] at hm
    exact hm ▸ (List.getElem?_eq_some_iff.mp hn).1
  fits := by
    intro m q hm
    rw [hcallers] at hm
    exact CallerPhase.fits_of_outside (hs.outside_of_notice hfree hm)
  entry := by
    intro entry he
    rw [hlinks]
    rcases hcached with hcached | hcached <;> rw [hcached] at he
    · cases he
    · exact hs.entry entry he
  linked := by rw [hlinks, hgeneration]; exact hs.linked
  notified := by
    intro t ht
    rw [hlinks]
    rw [hnotices] at ht
    rcases List.mem_or_eq_of_mem_set ht with ht | rfl
    · exact hs.notified t ht
    · exact hs.notified (g, q) (List.mem_of_getElem? hn)
  invalidated := by
    intro t ht hpass
    rw [hnotices] at ht
    rcases List.mem_or_eq_of_mem_set ht with ht | rfl
    · rcases hcached with hcached | hcached
      · simp [Cache.holds, hcached]
      · simpa [Cache.holds, hcached] using hs.invalidated t ht hpass
    · exact hpassed hpass

/-! ## Every step keeps the state sound -/

/-- A caller's own lock, as its phase tells. -/
theorem Sound.held_by_caller (hs : s.Sound) {p : CallerPhase} (hn : s.callers[n]? = some p) (h : p.inside = true) :
    s.holder = some (.caller n) :=
  (hs.callers_lock n p hn).mp h

/-- So is what a step of a caller makes of a sound state; the cases are those of `stepCaller`. -/
theorem Sound.step_caller (hs : s.Sound) {found accepted : Bool} (h : s.step (.caller n found accepted) = some s') :
    s'.Sound := by
  obtain ⟨p, hn, h⟩ := Option.bind_eq_some_iff.mp h
  have hlt := (List.getElem?_eq_some_iff.mp hn).1
  cases p with
  | arriving =>
    simp only [stepCaller, Option.isNone_iff_eq_none, Option.ite_none_right_eq_some, Option.some.injEq] at h
    obtain ⟨hfree, rfl⟩ := h
    exact hs.stepped_caller hlt (.inl hfree) rfl rfl rfl trivial hs.entry hs.linked (fun _ h => h) hs.invalidated
  | checking =>
    have hheld := hs.held_by_caller hn rfl
    simp only [stepCaller] at h
    cases hc : s.cache.cached with
    | none =>
      rw [hc] at h
      obtain rfl := Option.some.inj h
      exact hs.stepped_caller hlt (.inr hheld) rfl rfl hheld hc hs.entry hs.linked (fun _ h => h) hs.invalidated
    | some entry =>
      rw [hc] at h
      obtain rfl := Option.some.inj h
      exact hs.stepped_caller hlt (.inr hheld) rfl rfl hheld trivial hs.entry hs.linked (fun _ h => h) hs.invalidated
  | seeking =>
    have hheld := hs.held_by_caller hn rfl
    have hc : s.cache.cached = none := hs.fits n _ hn
    cases found with
    | false =>
      obtain rfl := Option.some.inj h
      exact hs.stepped_caller hlt (.inr hheld) rfl rfl hheld trivial hs.entry hs.linked (fun _ h => h) hs.invalidated
    | true =>
      obtain rfl := Option.some.inj h
      refine hs.stepped_caller hlt (.inr hheld) rfl rfl hheld ⟨hc, rfl, ?_⟩ hs.entry ?_ (fun _ h => h) hs.invalidated
      · exact fun hmem => Nat.not_succ_le_self _ (hs.linked _ hmem)
      · exact fun g hg => Nat.le_succ_of_le (hs.linked g hg)
  | linking g =>
    have hheld := hs.held_by_caller hn rfl
    obtain ⟨hc, hg, hfresh⟩ : s.cache.cached = none ∧ g = s.cache.generation ∧ g ∉ s.links := hs.fits n _ hn
    cases accepted with
    | false =>
      obtain rfl := Option.some.inj h
      exact hs.stepped_caller hlt (.inr hheld) rfl rfl hheld trivial hs.entry hs.linked (fun _ h => h) hs.invalidated
    | true =>
      obtain rfl := Option.some.inj h
      refine hs.stepped_caller hlt (.inr hheld) rfl rfl hheld ⟨hc, hg, by simp [setCaller], ?_⟩ ?_ ?_ ?_ hs.invalidated
      · -- no notice is of this generation yet, since notices are of linked ones
        intro t ht heq
        exact absurd (hs.notified t ht) (heq ▸ hfresh)
      · intro entry he
        exact absurd (hc.symm.trans he) (by simp)
      · intro g' hg'
        rcases List.mem_append.mp hg' with hg' | hg'
        · exact hs.linked g' hg'
        · exact Nat.le_of_eq ((List.mem_singleton.mp hg').trans hg)
      · exact fun g' hg' => List.mem_append_left _ hg'
  | storing g =>
    have hheld := hs.held_by_caller hn rfl
    obtain ⟨-, -, hmem, hahead⟩ : s.cache.cached = none ∧ g = s.cache.generation ∧ g ∈ s.links ∧
        ∀ t ∈ s.notices, t.1 = g → t.2.passed = false := hs.fits n _ hn
    obtain rfl := Option.some.inj h
    refine hs.stepped_caller hlt (.inr hheld) rfl rfl hheld trivial ?_ hs.linked (fun _ h => h) ?_
    · intro entry he
      obtain rfl := Option.some.inj he
      exact ⟨rfl, hmem⟩
    · -- a notice of this generation is still before its comparison, since the lock is taken
      intro t ht hpass
      refine Bool.eq_false_iff.mpr fun hh => ?_
      obtain ⟨entry, he, heq⟩ := Cache.holds_iff.mp hh
      obtain rfl := Option.some.inj he
      exact absurd hpass (Bool.eq_false_iff.mp (hahead t ht heq.symm))
  | leaving handle =>
    have hheld := hs.held_by_caller hn rfl
    obtain rfl := Option.some.inj h
    exact hs.stepped_caller hlt (.inr hheld) rfl rfl rfl trivial hs.entry hs.linked (fun _ h => h) hs.invalidated
  | done handle => cases h

/-- A notice removes the cached handle or leaves it. -/
theorem cached_drop (g : Nat) (c : Cache Nat) : (c.drop g).cached = none ∨ (c.drop g).cached = c.cached := by
  unfold Cache.drop
  split
  · exact .inl rfl
  · exact .inr rfl

/-- It does not touch the count of generations. -/
theorem generation_drop (g : Nat) (c : Cache Nat) : (c.drop g).generation = c.generation := by
  unfold Cache.drop
  split <;> rfl

/-- Afterwards its generation is not held. -/
theorem not_holds_drop (g : Nat) (c : Cache Nat) : (c.drop g).holds g = false := by
  cases h : c.holds g with
  | false => rw [Cache.drop_of_not_holds h, h]
  | true => rw [Cache.drop_of_holds h]; rfl

/-- What a step of a notice makes of a sound state is sound. -/
theorem Sound.step_notice (hs : s.Sound) (h : s.step (.notice n) = some s') : s'.Sound := by
  obtain ⟨⟨g, p⟩, hn, h⟩ := Option.bind_eq_some_iff.mp h
  cases p with
  | arriving =>
    simp only [stepNotice, Option.isNone_iff_eq_none, Option.ite_none_right_eq_some, Option.some.injEq] at h
    obtain ⟨hfree, rfl⟩ := h
    exact hs.stepped_notice (p := .comparing) hn (.inl hfree) rfl rfl rfl rfl rfl (.inr rfl) (fun hin => by cases hin)
  | comparing =>
    have hheld := (hs.notices_lock n _ hn).mp rfl
    obtain rfl := Option.some.inj h
    exact hs.stepped_notice (p := .leaving) hn (.inr hheld) rfl rfl rfl hheld (generation_drop g s.cache)
      (cached_drop g s.cache) fun _ => not_holds_drop g s.cache
  | leaving =>
    have hheld := (hs.notices_lock n _ hn).mp rfl
    obtain rfl := Option.some.inj h
    exact hs.stepped_notice (p := .done) hn (.inr hheld) rfl rfl rfl rfl rfl (.inr rfl) fun _ =>
      hs.invalidated _ (List.mem_of_getElem? hn) rfl
  | done => cases h

/-- A notice that starts stands outside the lock, and its link was accepted. -/
theorem Sound.step_notify (hs : s.Sound) {g : Nat} (h : s.step (.notify g) = some s') : s'.Sound := by
  simp only [CacheRace.step, Option.ite_none_right_eq_some, Option.some.injEq] at h
  obtain ⟨hg, rfl⟩ := h
  constructor
  case callers_lock => exact hs.callers_lock
  case notices_lock =>
    intro m t hm
    rcases Nat.lt_or_ge m s.notices.length with hlt | hge
    · rw [List.getElem?_append_left hlt] at hm
      exact hs.notices_lock m t hm
    · rw [List.getElem?_append_right hge] at hm
      obtain rfl := List.mem_singleton.mp (List.mem_of_getElem? hm)
      constructor
      · intro hin
        cases hin
      · exact fun hheld => absurd (hs.notice_held m hheld) (Nat.not_lt.mpr hge)
  case caller_held => exact hs.caller_held
  case notice_held =>
    intro m hm
    rw [List.length_append]
    exact Nat.lt_succ_of_lt (hs.notice_held m hm)
  case fits =>
    intro m q hm
    have hq := hs.fits m q hm
    cases q with
    | storing g' =>
      obtain ⟨hc, hg', hmem, hahead⟩ := hq
      refine ⟨hc, hg', hmem, fun t ht heq => ?_⟩
      rcases List.mem_append.mp ht with ht | ht
      · exact hahead t ht heq
      · rw [List.mem_singleton.mp ht]
        rfl
    | arriving | checking | seeking | linking | leaving | done => exact hq
  case entry => exact hs.entry
  case linked => exact hs.linked
  case notified =>
    intro t ht
    rcases List.mem_append.mp ht with ht | ht
    · exact hs.notified t ht
    · rw [List.mem_singleton.mp ht]
      exact hg
  case invalidated =>
    intro t ht hpass
    rcases List.mem_append.mp ht with ht | ht
    · exact hs.invalidated t ht hpass
    · rw [List.mem_singleton.mp ht] at hpass
      cases hpass

/-- Every step keeps a state sound. -/
theorem Sound.step (hs : s.Sound) {a : RaceStep} (h : s.step a = some s') : s'.Sound := by
  cases a with
  | caller n found accepted => exact hs.step_caller h
  | notify g => exact hs.step_notify h
  | notice n => exact hs.step_notice h

/-- What every possible step keeps, all steps together keep. -/
theorem run_induction {P : CacheRace → Prop} {Q : RaceStep → Prop}
    (hstep : ∀ s a s', P s → Q a → s.step a = some s' → P s') (steps : List RaceStep) (hok : ∀ a ∈ steps, Q a)
    (hs : P s) : P (s.run steps) := by
  induction steps generalizing s with
  | nil => exact hs
  | cons a steps ih =>
    refine ih (fun b hb => hok b (List.mem_cons_of_mem a hb)) ?_
    change P ((s.step a).getD s)
    cases h : s.step a with
    | none => exact hs
    | some s' => exact hstep s a s' hs (hok a List.mem_cons_self) h

/-- So do all steps one after another. -/
theorem Sound.run (hs : s.Sound) (steps : List RaceStep) : (s.run steps).Sound :=
  run_induction (P := Sound) (Q := fun _ => True) (fun _ _ _ hs _ h => hs.step h) steps (fun _ _ => trivial) hs

end CacheRace

/-! ## Callers that meet at an unresolved cache -/

/-- The step is one of a caller whose lookup and link succeed, or one of a notice, and starts no notice of that generation. -/
def RaceStep.Spares (g : Nat) : RaceStep → Prop
  | .caller _ found accepted => found = true ∧ accepted = true
  | .notify g' => g' ≠ g
  | .notice _ => True

namespace CacheRace

/-- The handle that callers get who meet at that cache. -/
def next (o : CacheRace) : Nat :=
  o.cache.generation + 1

/-- None of the callers who met has looked the service up yet. -/
def Unasked (o s : CacheRace) : Prop :=
  s.cache = ⟨none, o.cache.generation⟩ ∧ s.lookups = o.lookups ∧ s.links = o.links

/-- One of them looked it up, and is about to link. -/
def Asked (o s : CacheRace) : Prop :=
  s.cache = ⟨none, o.next⟩ ∧ s.lookups = o.lookups + 1 ∧ s.links = o.links

/-- The link was accepted, and the handle is about to be stored. -/
def Linked (o s : CacheRace) : Prop :=
  s.cache = ⟨none, o.next⟩ ∧ s.lookups = o.lookups + 1 ∧ s.links = o.links ++ [o.next]

/-- The handle is stored. -/
def Shared (o s : CacheRace) : Prop :=
  s.cache = ⟨some ⟨o.next, o.next⟩, o.next⟩ ∧ s.lookups = o.lookups + 1 ∧ s.links = o.links ++ [o.next]

end CacheRace

/-- What has happened at the cache when a caller who met there stands in that phase. -/
def CallerPhase.Joins (o s : CacheRace) : CallerPhase → Prop
  | .linking g => g = o.next ∧ o.Asked s
  | .storing g => g = o.next ∧ o.Linked s
  | .leaving h | .done h => h = some o.next ∧ o.Shared s
  | _ => True

/-- Whether a caller in that phase is between its lookup and its store. -/
def CallerPhase.resolving : CallerPhase → Bool
  | .linking _ | .storing _ => true
  | _ => false

/-- Who is outside the lock resolves nothing. -/
theorem CallerPhase.resolving_of_outside {p : CallerPhase} (h : p.inside = false) : p.resolving = false := by
  cases p <;> first | rfl | simp [inside] at h

namespace CacheRace

/-- The invariant of callers who met at a cache: they share what one of them does. -/
structure Meeting (o s : CacheRace) : Prop where
  sound : s.Sound
  /-- A caller was done before, or takes part. -/
  joins : ∀ (n : Nat) (p : CallerPhase), s.callers[n]? = some p →
    (p.inside = false ∧ p ≠ .arriving ∧ o.callers[n]? = some p) ∨ p.Joins o s
  /-- Unless one is in between, the resolution is all to come or all done. -/
  whole : (∀ (n : Nat) (p : CallerPhase), s.callers[n]? = some p → p.resolving = false) → o.Unasked s ∨ o.Shared s
  spared : ∀ t ∈ s.notices, t.1 ≠ o.next

variable {o s s' : CacheRace} {n : Nat}

/-- Callers meet at an unresolved cache whose lock no caller holds. -/
theorem meeting_self (hs : s.Sound) (hc : s.cache.cached = none) (hfree : ∀ n, s.holder ≠ some (.caller n)) :
    s.Meeting s where
  sound := hs
  joins := by
    intro n p hn
    have hp : p.inside = false := Bool.eq_false_iff.mpr fun h => hfree n ((hs.callers_lock n p hn).mp h)
    cases p with
    | done h => exact .inl ⟨hp, by simp, hn⟩
    | arriving => exact .inr trivial
    | checking | seeking | linking | storing | leaving => cases hp
  whole := fun _ => .inl ⟨congrArg (fun c => (⟨c, s.cache.generation⟩ : Cache Nat)) hc, rfl, rfl⟩
  spared := fun t ht heq => Nat.not_succ_le_self _ (heq ▸ hs.linked _ (hs.notified t ht))

/-- While a caller that is not in between holds the lock, or nobody does, nobody is in between. -/
theorem Meeting.whole_of_caller (hm : o.Meeting s) (hfree : s.holder = none ∨ s.holder = some (.caller n)) {p : CallerPhase}
    (hn : s.callers[n]? = some p) (hp : p.resolving = false) : o.Unasked s ∨ o.Shared s := by
  refine hm.whole fun m q hq => ?_
  by_cases hmn : m = n
  · subst hmn
    exact Option.some.inj (hn.symm.trans hq) ▸ hp
  · exact CallerPhase.resolving_of_outside (hm.sound.outside_of_caller hfree hq hmn)

/-- A step of a caller, from the lock being its own or nobody's, keeps the meeting if it keeps what is shared. -/
theorem Meeting.stepped_caller (hm : o.Meeting s) (hs' : s'.Sound) (hn : n < s.callers.length)
    (hfree : s.holder = none ∨ s.holder = some (.caller n)) {p : CallerPhase}
    (hcallers : s'.callers = s.callers.set n p) (hnotices : s'.notices = s.notices)
    (hkept : o.Shared s → o.Shared s') (hjoins : p.Joins o s')
    (hwhole : p.resolving = false → o.Unasked s' ∨ o.Shared s') : o.Meeting s' where
  sound := hs'
  joins := by
    intro m q hq
    rw [hcallers] at hq
    by_cases hmn : m = n
    · subst hmn
      rw [List.getElem?_set_self hn] at hq
      exact .inr (Option.some.inj hq ▸ hjoins)
    · rw [List.getElem?_set_ne (Ne.symm hmn)] at hq
      have hout := hm.sound.outside_of_caller hfree hq hmn
      rcases hm.joins m q hq with hq | hq
      · exact .inl hq
      · refine .inr ?_
        cases q with
        | arriving => trivial
        | done h => exact ⟨hq.1, hkept hq.2⟩
        | checking | seeking | linking | storing | leaving => cases hout
  whole := fun h => hwhole (h n p (by rw [hcallers, List.getElem?_set_self hn]))
  spared := fun t ht => hm.spared t (hnotices ▸ ht)

/-- What a notice does keeps the meeting, as long as it leaves the cache alone. -/
theorem Meeting.stepped_notice (hm : o.Meeting s) (hs' : s'.Sound) (hcallers : s'.callers = s.callers)
    (hcache : s'.cache = s.cache) (hlookups : s'.lookups = s.lookups) (hlinks : s'.links = s.links)
    (hspared : ∀ t ∈ s'.notices, t.1 ≠ o.next) : o.Meeting s' where
  sound := hs'
  joins := by
    intro m q hq
    rw [hcallers] at hq
    refine (hm.joins m q hq).imp_right fun hq => ?_
    cases q with
    | arriving | checking | seeking => trivial
    | linking g => exact ⟨hq.1, by simpa only [Asked, hcache, hlookups, hlinks] using hq.2⟩
    | storing g => exact ⟨hq.1, by simpa only [Linked, hcache, hlookups, hlinks] using hq.2⟩
    | leaving h | done h => exact ⟨hq.1, by simpa only [Shared, hcache, hlookups, hlinks] using hq.2⟩
  whole := by
    intro h
    rw [hcallers] at h
    simpa only [Unasked, Shared, hcache, hlookups, hlinks] using hm.whole h
  spared := hspared

/-- The cache is the only thing of a state that a meeting reads in `Unasked` and `Shared` besides the counts. -/
theorem Meeting.unasked_of_unresolved (h : o.Unasked s ∨ o.Shared s) (hc : s.cache.cached = none) : o.Unasked s := by
  rcases h with h | h
  · exact h
  · rw [h.1] at hc
    cases hc

/-- Once the cache is resolved, the callers who met share the one lookup and its handle. -/
theorem Meeting.shared_of_resolved (h : o.Unasked s ∨ o.Shared s) {entry : Cached Nat}
    (hc : s.cache.cached = some entry) : o.Shared s ∧ entry.handle = o.next := by
  rcases h with h | h
  · rw [h.1] at hc
    cases hc
  · refine ⟨h, ?_⟩
    rw [h.1] at hc
    exact Option.some.inj hc ▸ rfl

/-- A caller that is inside the lock takes part. -/
theorem Meeting.joins_of_inside (hm : o.Meeting s) {p : CallerPhase} (hn : s.callers[n]? = some p)
    (hp : p.inside = true) : p.Joins o s := by
  rcases hm.joins n p hn with ⟨hout, -, -⟩ | h
  · exact absurd hp (Bool.eq_false_iff.mp hout)
  · exact h

/-- A step of a caller whose lookup and link succeed keeps the meeting. -/
theorem Meeting.step_caller (hm : o.Meeting s) (h : s.step (.caller n true true) = some s') : o.Meeting s' := by
  have hs' := hm.sound.step_caller h
  obtain ⟨p, hn, h⟩ := Option.bind_eq_some_iff.mp h
  have hlt := (List.getElem?_eq_some_iff.mp hn).1
  cases p with
  | arriving =>
    simp only [stepCaller, Option.isNone_iff_eq_none, Option.ite_none_right_eq_some, Option.some.injEq] at h
    obtain ⟨hfree, rfl⟩ := h
    exact hm.stepped_caller hs' hlt (.inl hfree) rfl rfl id trivial fun _ => hm.whole_of_caller (.inl hfree) hn rfl
  | checking =>
    have hheld := hm.sound.held_by_caller hn rfl
    have hwhole := hm.whole_of_caller (.inr hheld) hn rfl
    simp only [stepCaller] at h
    cases hc : s.cache.cached with
    | none =>
      rw [hc] at h
      obtain rfl := Option.some.inj h
      exact hm.stepped_caller hs' hlt (.inr hheld) rfl rfl id trivial fun _ => hwhole
    | some entry =>
      rw [hc] at h
      obtain rfl := Option.some.inj h
      obtain ⟨hshared, heq⟩ := Meeting.shared_of_resolved hwhole hc
      exact hm.stepped_caller hs' hlt (.inr hheld) rfl rfl id ⟨congrArg some heq, hshared⟩ fun _ => .inr hshared
  | seeking =>
    have hheld := hm.sound.held_by_caller hn rfl
    have hc : s.cache.cached = none := hm.sound.fits n _ hn
    obtain ⟨hcache, hlookups, hlinks⟩ := Meeting.unasked_of_unresolved (hm.whole_of_caller (.inr hheld) hn rfl) hc
    obtain rfl := Option.some.inj h
    refine hm.stepped_caller hs' hlt (.inr hheld) rfl rfl ?_ ⟨?_, ?_, ?_, hlinks⟩ (fun hin => by cases hin)
    · intro hshared
      rw [hshared.1] at hc
      cases hc
    · exact congrArg (·.generation + 1) hcache
    · exact congrArg (fun c : Cache Nat => ({ c with generation := c.generation + 1 } : Cache Nat)) hcache
    · exact congrArg (· + 1) hlookups
  | linking g =>
    have hheld := hm.sound.held_by_caller hn rfl
    obtain ⟨rfl, hcache, hlookups, hlinks⟩ : g = o.next ∧ o.Asked s := hm.joins_of_inside hn rfl
    obtain rfl := Option.some.inj h
    refine hm.stepped_caller hs' hlt (.inr hheld) rfl rfl ?_ ⟨rfl, hcache, hlookups, ?_⟩ (fun hin => by cases hin)
    · intro hshared
      exact absurd (hcache.symm.trans hshared.1) (by simp)
    · exact congrArg (· ++ [o.next]) hlinks
  | storing g =>
    have hheld := hm.sound.held_by_caller hn rfl
    obtain ⟨rfl, hcache, hlookups, hlinks⟩ : g = o.next ∧ o.Linked s := hm.joins_of_inside hn rfl
    obtain rfl := Option.some.inj h
    have hshared : o.Shared ({ s with cache := { s.cache with cached := some ⟨o.next, o.next⟩ } }.setCaller n
        (.leaving (some o.next))) :=
      ⟨congrArg (fun c : Cache Nat => ({ c with cached := some ⟨o.next, o.next⟩ } : Cache Nat)) hcache, hlookups, hlinks⟩
    exact hm.stepped_caller hs' hlt (.inr hheld) rfl rfl (fun _ => hshared) ⟨rfl, hshared⟩ fun _ => .inr hshared
  | leaving handle =>
    have hheld := hm.sound.held_by_caller hn rfl
    have hjoins : handle = some o.next ∧ o.Shared s := hm.joins_of_inside hn rfl
    obtain rfl := Option.some.inj h
    exact hm.stepped_caller hs' hlt (.inr hheld) rfl rfl id hjoins fun _ => .inr hjoins.2
  | done handle => cases h

/-- A notice drops nothing: it is not of the generation that the callers share. -/
theorem Meeting.drop (hm : o.Meeting s) (hout : ∀ (m : Nat) (q : CallerPhase), s.callers[m]? = some q → q.inside = false)
    {g : Nat} (hg : g ≠ o.next) : s.cache.drop g = s.cache := by
  refine Cache.drop_of_not_holds (Bool.eq_false_iff.mpr fun h => ?_)
  obtain ⟨entry, hc, rfl⟩ := Cache.holds_iff.mp h
  have hwhole := hm.whole fun m q hq => CallerPhase.resolving_of_outside (hout m q hq)
  obtain ⟨-, heq⟩ := Meeting.shared_of_resolved hwhole hc
  exact hg ((hm.sound.entry entry hc).1.symm.trans heq)

/-- So does a step of a notice, which is not that of the shared handle. -/
theorem Meeting.step_notice (hm : o.Meeting s) (h : s.step (.notice n) = some s') : o.Meeting s' := by
  have hs' := hm.sound.step_notice h
  obtain ⟨⟨g, p⟩, hn, h⟩ := Option.bind_eq_some_iff.mp h
  have hg : g ≠ o.next := hm.spared (g, p) (List.mem_of_getElem? hn)
  have hspared : ∀ q, ∀ t ∈ s.notices.set n (g, q), t.1 ≠ o.next := by
    intro q t ht
    rcases List.mem_or_eq_of_mem_set ht with ht | rfl
    · exact hm.spared t ht
    · exact hg
  cases p with
  | arriving =>
    simp only [stepNotice, Option.ite_none_right_eq_some, Option.some.injEq] at h
    obtain ⟨-, rfl⟩ := h
    exact hm.stepped_notice hs' rfl rfl rfl rfl (hspared _)
  | comparing =>
    have hheld := (hm.sound.notices_lock n _ hn).mp rfl
    obtain rfl := Option.some.inj h
    exact hm.stepped_notice hs' rfl (hm.drop (fun _ _ => hm.sound.outside_of_notice (.inr hheld)) hg) rfl rfl (hspared _)
  | leaving =>
    obtain rfl := Option.some.inj h
    exact hm.stepped_notice hs' rfl rfl rfl rfl (hspared _)
  | done => cases h

/-- So does every step that spares the shared handle. -/
theorem Meeting.step (hm : o.Meeting s) {a : RaceStep} (ha : a.Spares o.next) (h : s.step a = some s') :
    o.Meeting s' := by
  cases a with
  | caller n found accepted =>
    obtain ⟨rfl, rfl⟩ := ha
    exact hm.step_caller h
  | notify g =>
    have hs' := hm.sound.step_notify h
    simp only [CacheRace.step, Option.ite_none_right_eq_some, Option.some.injEq] at h
    obtain ⟨-, rfl⟩ := h
    refine hm.stepped_notice hs' rfl rfl rfl rfl fun t ht => ?_
    rcases List.mem_append.mp ht with ht | ht
    · exact hm.spared t ht
    · rw [List.mem_singleton.mp ht]
      exact ha
  | notice n => exact hm.step_notice h

/-- So do any such steps. -/
theorem Meeting.run (hm : o.Meeting s) (steps : List RaceStep) (hok : ∀ a ∈ steps, a.Spares o.next) :
    o.Meeting (s.run steps) :=
  run_induction (fun _ _ _ hm ha h => hm.step ha h) steps hok hm

end CacheRace

/-! ## Nobody waits forever -/

/-- The steps that a caller in that phase has before it at most. -/
def CallerPhase.remaining : CallerPhase → Nat
  | .arriving => CacheRace.callerSteps
  | .checking => 5
  | .seeking => 4
  | .linking _ => 3
  | .storing _ => 2
  | .leaving _ => 1
  | .done _ => 0

def NoticePhase.remaining : NoticePhase → Nat
  | .arriving => 3
  | .comparing => 2
  | .leaving => 1
  | .done => 0

/-- A caller that has the lock has steps before it. -/
theorem CallerPhase.of_inside {p : CallerPhase} (h : p.inside = true) : p.remaining ≠ 0 ∧ p ≠ .arriving := by
  cases p <;> simp [inside, remaining] at h ⊢

/-- So has a notice. -/
theorem NoticePhase.of_inside {p : NoticePhase} (h : p.inside = true) : p.remaining ≠ 0 ∧ p ≠ .arriving := by
  cases p <;> simp [inside, remaining] at h ⊢

theorem exists_pos_of_sum_map_pos {α : Type} {f : α → Nat} {xs : List α} (h : 0 < (xs.map f).sum) :
    ∃ x ∈ xs, f x ≠ 0 := by
  induction xs with
  | nil => simp at h
  | cons x xs ih =>
    by_cases hx : f x = 0
    · obtain ⟨y, hy, hpos⟩ := ih (by simpa [hx] using h)
      exact ⟨y, List.mem_cons_of_mem x hy, hpos⟩
    · exact ⟨x, List.mem_cons_self, hx⟩

/-- A sum gets smaller with one of its members. -/
theorem sum_map_set_lt {α : Type} {f : α → Nat} {xs : List α} {n : Nat} {x y : α} (hn : xs[n]? = some x) (h : f y < f x) :
    ((xs.set n y).map f).sum < (xs.map f).sum := by
  induction xs generalizing n with
  | nil => simp at hn
  | cons z xs ih =>
    cases n with
    | zero =>
      obtain rfl : z = x := by simpa using hn
      simpa using h
    | succ n => simpa using ih (by simpa using hn)

namespace CacheRace

/-- The steps that all threads have before them at most. -/
def remaining (s : CacheRace) : Nat :=
  (s.callers.map (·.remaining)).sum + (s.notices.map (·.2.remaining)).sum

variable {s s' : CacheRace} {n : Nat}

theorem remaining_set_caller {p q : CallerPhase} (hn : s.callers[n]? = some p) (h : q.remaining < p.remaining)
    (hcallers : s'.callers = s.callers.set n q) (hnotices : s'.notices = s.notices) : s'.remaining < s.remaining := by
  rw [remaining, remaining, hcallers, hnotices]
  exact Nat.add_lt_add_right (sum_map_set_lt hn h) _

/-- Every step of a caller leaves it fewer. -/
theorem remaining_step_caller {found accepted : Bool} (h : s.step (.caller n found accepted) = some s') :
    s'.remaining < s.remaining := by
  obtain ⟨p, hn, h⟩ := Option.bind_eq_some_iff.mp h
  cases p with
  | arriving =>
    simp only [stepCaller, Option.ite_none_right_eq_some, Option.some.injEq] at h
    obtain ⟨-, rfl⟩ := h
    exact remaining_set_caller (q := .checking) hn (by decide) rfl rfl
  | checking =>
    simp only [stepCaller] at h
    split at h <;> obtain rfl := Option.some.inj h
    · exact remaining_set_caller hn (by simp [CallerPhase.remaining]) rfl rfl
    · exact remaining_set_caller (q := .seeking) hn (by decide) rfl rfl
  | seeking =>
    cases found <;> obtain rfl := Option.some.inj h <;>
      exact remaining_set_caller hn (by simp [CallerPhase.remaining]) rfl rfl
  | linking g =>
    cases accepted <;> obtain rfl := Option.some.inj h <;>
      exact remaining_set_caller hn (by simp [CallerPhase.remaining]) rfl rfl
  | storing g =>
    obtain rfl := Option.some.inj h
    exact remaining_set_caller hn (by simp [CallerPhase.remaining]) rfl rfl
  | leaving handle =>
    obtain rfl := Option.some.inj h
    exact remaining_set_caller hn (by simp [CallerPhase.remaining]) rfl rfl
  | done handle => cases h

/-- So does every step of a notice. -/
theorem remaining_step_notice (h : s.step (.notice n) = some s') : s'.remaining < s.remaining := by
  obtain ⟨⟨g, p⟩, hn, h⟩ := Option.bind_eq_some_iff.mp h
  have hset : ∀ q, q.remaining < p.remaining → s'.callers = s.callers → s'.notices = s.notices.set n (g, q) →
      s'.remaining < s.remaining := by
    intro q hq hcallers hnotices
    rw [remaining, remaining, hcallers, hnotices]
    exact Nat.add_lt_add_left (sum_map_set_lt (f := fun t : Nat × NoticePhase => t.2.remaining) hn hq) _
  cases p with
  | arriving =>
    simp only [stepNotice, Option.ite_none_right_eq_some, Option.some.injEq] at h
    obtain ⟨-, rfl⟩ := h
    exact hset .comparing (by decide) rfl rfl
  | comparing =>
    obtain rfl := Option.some.inj h
    exact hset .leaving (by decide) rfl rfl
  | leaving =>
    obtain rfl := Option.some.inj h
    exact hset .done (by decide) rfl rfl
  | done => cases h

/-- A caller that is not done has a next step, unless it has to wait for the lock. -/
theorem exists_step_caller {p : CallerPhase} (hn : s.callers[n]? = some p) (hp : p.remaining ≠ 0)
    (hlock : p = .arriving → s.holder = none) : ∃ s', s.step (.caller n true true) = some s' := by
  simp only [step, hn, Option.bind_some]
  cases p with
  | arriving => simp [stepCaller, hlock rfl]
  | checking => cases hc : s.cache.cached <;> simp [stepCaller, hc]
  | seeking | linking | storing | leaving => simp [stepCaller]
  | done => exact absurd rfl hp

/-- A notice that is not done has a next step, unless it is at the lock and somebody holds that. -/
theorem exists_step_notice {t : Nat × NoticePhase} (hn : s.notices[n]? = some t) (hp : t.2.remaining ≠ 0)
    (hlock : t.2 = .arriving → s.holder = none) : ∃ s', s.step (.notice n) = some s' := by
  obtain ⟨g, p⟩ := t
  simp only [step, hn, Option.bind_some]
  cases p with
  | arriving => simp [stepNotice, hlock rfl]
  | comparing | leaving => simp [stepNotice]
  | done => exact absurd rfl hp

/-- Unless all threads are done, one of them has a next step: the one that holds the lock, or any that waits for it. -/
theorem Sound.proceeds (hs : s.Sound) (hr : s.remaining ≠ 0) : ∃ a s', s.step a = some s' ∧ ∀ g, a ≠ .notify g := by
  match hh : s.holder with
  | some (.caller n) =>
    have hn := List.getElem?_eq_getElem (hs.caller_held n hh)
    obtain ⟨hp, hne⟩ := CallerPhase.of_inside ((hs.callers_lock n _ hn).mpr hh)
    obtain ⟨s', h⟩ := exists_step_caller hn hp fun h => absurd h hne
    exact ⟨_, s', h, by simp⟩
  | some (.notice n) =>
    have hn := List.getElem?_eq_getElem (hs.notice_held n hh)
    obtain ⟨hp, hne⟩ := NoticePhase.of_inside ((hs.notices_lock n _ hn).mpr hh)
    obtain ⟨s', h⟩ := exists_step_notice hn hp fun h => absurd h hne
    exact ⟨_, s', h, by simp⟩
  | none =>
    rcases Nat.eq_zero_or_pos (s.callers.map (·.remaining)).sum with hz | hpos
    · have hpos : 0 < (s.notices.map (·.2.remaining)).sum := by
        rw [remaining] at hr
        omega
      obtain ⟨t, ht, hp⟩ := exists_pos_of_sum_map_pos hpos
      obtain ⟨n, hn⟩ := List.getElem?_of_mem ht
      obtain ⟨s', h⟩ := exists_step_notice hn hp fun _ => hh
      exact ⟨_, s', h, by simp⟩
    · obtain ⟨p, hmem, hp⟩ := exists_pos_of_sum_map_pos hpos
      obtain ⟨n, hn⟩ := List.getElem?_of_mem hmem
      obtain ⟨s', h⟩ := exists_step_caller hn hp fun _ => hh
      exact ⟨_, s', h, by simp⟩

/-! ## Threads one at a time -/

/-- A resolver whose lookup and whose link answer so. -/
def answering (found accepted : Bool) : Resolver Unit Unit Nat :=
  ⟨pure (if found then some () else none), fun _ _ => pure (if accepted then .ok () else .error .deadObject),
    fun _ generation => generation⟩

/-- A caller that takes all its steps at once does what `Cache.get` does. -/
theorem run_caller_alone (hfree : s.holder = none) (hn : s.callers[n]? = some .arriving) (found accepted : Bool) :
    let t := s.run (List.replicate callerSteps (.caller n found accepted))
    let result := ((s.cache.get "" (answering found accepted)).run ()).value
    some t.cache = result.map (·.2) ∧ t.callers[n]? = result.map (.done ·.1) := by
  obtain ⟨hlt, hget⟩ := List.getElem?_eq_some_iff.mp hn
  cases hc : s.cache.cached with
  | some entry =>
    simp [Cache.get, hc, run, step, stepCaller, setCaller, callerSteps, List.replicate, hget, hfree, hlt]
  | none =>
    cases found <;> cases accepted <;>
      simp [Cache.get, answering, hc, run, step, stepCaller, setCaller, callerSteps, List.replicate, hget, hfree, hlt,
        Act.run_bind]

/-- A notice that takes all its steps at once does what `Cache.drop` does. -/
theorem run_notice_alone {g : Nat} (hfree : s.holder = none) (hn : s.notices[n]? = some (g, .arriving)) :
    s.run (List.replicate NoticePhase.arriving.remaining (.notice n)) =
      { s with cache := s.cache.drop g }.setNotice n g .done := by
  obtain ⟨hlt, hget⟩ := List.getElem?_eq_some_iff.mp hn
  simp [run, step, stepNotice, setNotice, NoticePhase.remaining, List.replicate, hget, hfree, hlt]

end CacheRace

/-! ## The law -/

/-- What holds in every state that threads can bring a cache to. -/
structure RaceLaw (s : CacheRace) : Prop where
  /-- Callers who meet at an unresolved cache share one lookup, one link and one handle, as long as their lookups and links
  succeed and no notice of that handle runs. -/
  shared : s.cache.cached = none → (∀ n, s.holder ≠ some (.caller n)) → ∀ steps, (∀ a ∈ steps, a.Spares s.next) →
    (s.run steps).lookups ≤ s.lookups + 1 ∧
    ((s.run steps).links = s.links ∨ (s.run steps).links = s.links ++ [s.next]) ∧
    ∀ (n : Nat) (handle : Option Nat), s.callers[n]? = some .arriving →
      (s.run steps).callers[n]? = some (.done handle) →
      handle = some s.next ∧ (s.run steps).lookups = s.lookups + 1 ∧ (s.run steps).links = s.links ++ [s.next]
  /-- The cache does not hold a generation whose notice is done. -/
  invalidated : ∀ g, (g, .done) ∈ s.notices → s.cache.holds g = false
  /-- Nothing but the notice of its generation removes a handle from the cache. -/
  kept : ∀ entry, s.cache.cached = some entry → ∀ a s', s.step a = some s' →
    s'.cache.cached = some entry ∨ ∃ n, a = .notice n ∧ s.notices[n]? = some (entry.generation, .comparing)
  /-- Unless all threads are done, one of them has a next step. -/
  proceeds : s.remaining ≠ 0 → ∃ a s', s.step a = some s' ∧ ∀ g, a ≠ .notify g
  /-- Every step of a thread leaves fewer to come. -/
  wanes : ∀ a s', s.step a = some s' → (∀ g, a ≠ .notify g) → s'.remaining < s.remaining
  /-- A caller that takes all its steps at once does what `Cache.get` does, -/
  got : ∀ (n : Nat) (found accepted : Bool), s.holder = none → s.callers[n]? = some .arriving →
    let t := s.run (List.replicate CacheRace.callerSteps (.caller n found accepted))
    let result := ((s.cache.get "" (CacheRace.answering found accepted)).run ()).value
    some t.cache = result.map (·.2) ∧ t.callers[n]? = result.map (.done ·.1)
  /-- and a notice that does so what `Cache.drop` does. -/
  drops : ∀ (n g : Nat), s.holder = none → s.notices[n]? = some (g, .arriving) →
    s.run (List.replicate NoticePhase.arriving.remaining (.notice n)) =
      { s with cache := s.cache.drop g }.setNotice n g .done

namespace CacheRace

variable {o s s' : CacheRace}

/-- What callers who met have asked for so far. -/
theorem Meeting.counts (hm : o.Meeting s) :
    s.lookups ≤ o.lookups + 1 ∧ (s.links = o.links ∨ s.links = o.links ++ [o.next]) := by
  by_cases h : ∃ (n : Nat) (p : CallerPhase), s.callers[n]? = some p ∧ p.resolving = true
  · obtain ⟨n, p, hn, hp⟩ := h
    have hin : p.inside = true := by cases p <;> first | rfl | cases hp
    have hjoins := hm.joins_of_inside hn hin
    cases p with
    | linking g => exact ⟨Nat.le_of_eq hjoins.2.2.1, .inl hjoins.2.2.2⟩
    | storing g => exact ⟨Nat.le_of_eq hjoins.2.2.1, .inr hjoins.2.2.2⟩
    | arriving | checking | seeking | leaving | done => cases hp
  · have hnone : ∀ (n : Nat) (p : CallerPhase), s.callers[n]? = some p → p.resolving = false :=
      fun n p hn => Bool.eq_false_iff.mpr fun hp => h ⟨n, p, hn, hp⟩
    rcases hm.whole hnone with ⟨-, hlookups, hlinks⟩ | ⟨-, hlookups, hlinks⟩
    · exact ⟨by omega, .inl hlinks⟩
    · exact ⟨Nat.le_of_eq hlookups, .inr hlinks⟩

/-- Only a notice of the cached generation, at its comparison, takes a handle out of the cache. -/
theorem Sound.kept (hs : s.Sound) {entry : Cached Nat} (hc : s.cache.cached = some entry) {a : RaceStep}
    (h : s.step a = some s') :
    s'.cache.cached = some entry ∨ ∃ n, a = .notice n ∧ s.notices[n]? = some (entry.generation, .comparing) := by
  cases a with
  | caller n found accepted =>
    obtain ⟨p, hn, h⟩ := Option.bind_eq_some_iff.mp h
    have hfits := hs.fits n p hn
    cases p with
    | arriving =>
      simp only [stepCaller, Option.ite_none_right_eq_some, Option.some.injEq] at h
      exact .inl (h.2 ▸ hc)
    | checking =>
      simp only [stepCaller, hc, Option.some.injEq] at h
      exact .inl (h ▸ hc)
    | seeking => exact absurd (Eq.trans (Eq.symm hfits) hc) (by simp)
    | linking g => exact absurd (hfits.1.symm.trans hc) (by simp)
    | storing g => exact absurd (hfits.1.symm.trans hc) (by simp)
    | leaving handle => exact .inl (Option.some.inj h ▸ hc)
    | done handle => cases h
  | notify g =>
    simp only [CacheRace.step, Option.ite_none_right_eq_some, Option.some.injEq] at h
    exact .inl (h.2 ▸ hc)
  | notice n =>
    obtain ⟨⟨g, p⟩, hn, h⟩ := Option.bind_eq_some_iff.mp h
    cases p with
    | arriving =>
      simp only [stepNotice, Option.ite_none_right_eq_some, Option.some.injEq] at h
      exact .inl (h.2 ▸ hc)
    | comparing =>
      by_cases hg : entry.generation = g
      · exact .inr ⟨n, rfl, hg ▸ hn⟩
      · refine .inl ?_
        obtain rfl := Option.some.inj h
        have hnot : s.cache.holds g = false := by simp [Cache.holds, hc, hg]
        exact (congrArg Cache.cached (Cache.drop_of_not_holds hnot)).trans hc
    | leaving => exact .inl (Option.some.inj h ▸ hc)
    | done => cases h

end CacheRace

/-- The law holds for any number of threads and of notices, in every order of their steps. -/
theorem race_law (threads : Nat) (steps : List RaceStep) : RaceLaw ((CacheRace.start threads).run steps) := by
  have hs := (CacheRace.sound_start threads).run steps
  constructor
  case shared =>
    intro hc hfree more hok
    have hm := (CacheRace.meeting_self hs hc hfree).run more hok
    refine ⟨hm.counts.1, hm.counts.2, fun n handle harrive hdone => ?_⟩
    rcases hm.joins n _ hdone with ⟨-, -, hbefore⟩ | ⟨hhandle, -, hlookups, hlinks⟩
    · exact absurd (harrive.symm.trans hbefore) (by simp)
    · exact ⟨hhandle, hlookups, hlinks⟩
  case invalidated => exact fun g hg => hs.invalidated _ hg rfl
  case kept => exact fun entry hc a s' h => hs.kept hc h
  case proceeds => exact hs.proceeds
  case wanes =>
    intro a s' h hne
    cases a with
    | caller n found accepted => exact CacheRace.remaining_step_caller h
    | notify g => exact absurd rfl (hne g)
    | notice n => exact CacheRace.remaining_step_notice h
  case got => exact fun n found accepted hfree hn => CacheRace.run_caller_alone hfree hn found accepted
  case drops => exact fun n g hfree hn => CacheRace.run_notice_alone hfree hn

/-- The first handle is dropped by a notice that was ahead of its store, so the second caller gets another one. -/
example : ((CacheRace.start 2).run (List.replicate 4 (.caller 0 true true) ++ [.notify 1, .notice 0] ++
    List.replicate 2 (.caller 0 true true) ++ List.replicate 3 (.notice 0) ++
    List.replicate 6 (.caller 1 true true))).handles = [1, 2] := by decide

end Switchboard
