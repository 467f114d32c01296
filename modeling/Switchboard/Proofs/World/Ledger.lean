import Switchboard.Proofs.Power.Facade

/-!
# Accounts of deaths

Who was told of the deaths of objects, in a world with the registry of a process. `DeathEvent` is what may happen: an object
accepts a recipient, an object is killed, a recipient is told. `World.eventsOfGet`, `World.eventsOfLink` and
`World.eventsOfKill` are what a `get`, a link and a kill make happen; for a `get` it is read off the record of the questions that
the cache asked (`Resolver.recorded`).

`World.Ledger` says that a world agrees with all that happened: an object keeps what it accepted until its death and hands it out
then, and a resolved cache is among those that its object keeps. Everything that is done in a world keeps it, a kill
(`World.Ledger.kill`) and a `get` (`World.Ledger.get`) in particular.
-/

namespace Switchboard

variable {σ : Type}

/-! ## What happens to objects -/

/-- What happened between an object and those who are told of its death. -/
inductive DeathEvent where
  /-- The object accepted the recipient. -/
  | linked (object : Nat) (recipient : Recipient)
  | killed (object : Nat)
  | told (object : Nat) (recipient : Recipient)
deriving DecidableEq, Repr

namespace DeathEvent

def object : DeathEvent → Nat
  | .linked i _ | .killed i | .told i _ => i

/-- The recipient that the object accepted. -/
def linkedTo? (i : Nat) : DeathEvent → Option Recipient
  | .linked j r => if j = i then some r else none
  | _ => none

/-- The recipient that was told of the object's death. -/
def toldBy? (i : Nat) : DeathEvent → Option Recipient
  | .told j r => if j = i then some r else none
  | _ => none

/-- Whether the recipient was told of a death. -/
def tells (r : Recipient) : DeathEvent → Bool
  | .told _ r' => r' == r
  | _ => false

end DeathEvent

/-- The recipients that an object accepted, in order. -/
def linkedTo (i : Nat) (events : List DeathEvent) : List Recipient :=
  events.filterMap (·.linkedTo? i)

/-- The recipients that were told of an object's death, in order. -/
def toldBy (i : Nat) (events : List DeathEvent) : List Recipient :=
  events.filterMap (·.toldBy? i)

/-- How often a recipient was told. -/
def timesTold (r : Recipient) (events : List DeathEvent) : Nat :=
  events.countP (·.tells r)

section Views

variable {i j m : Nat} {r : Recipient} {recipients : List Recipient} {events events' : List DeathEvent}

@[simp] theorem linkedTo_append : linkedTo i (events ++ events') = linkedTo i events ++ linkedTo i events' :=
  List.filterMap_append

@[simp] theorem toldBy_append : toldBy i (events ++ events') = toldBy i events ++ toldBy i events' :=
  List.filterMap_append

@[simp] theorem timesTold_append : timesTold r (events ++ events') = timesTold r events + timesTold r events' :=
  List.countP_append

@[simp] theorem linkedTo_linked : linkedTo i [.linked j r] = if j = i then [r] else [] := by
  by_cases h : j = i <;> simp [linkedTo, DeathEvent.linkedTo?, h]

@[simp] theorem toldBy_linked : toldBy i [.linked j r] = [] := rfl

@[simp] theorem timesTold_linked {r' : Recipient} : timesTold r [.linked j r'] = 0 := rfl

@[simp] theorem linkedTo_killed : linkedTo i (.killed j :: recipients.map (.told j)) = [] := by
  simp [linkedTo, DeathEvent.linkedTo?]

@[simp] theorem toldBy_killed :
    toldBy i (.killed j :: recipients.map (.told j)) = if j = i then recipients else [] := by
  by_cases h : j = i <;> simp [toldBy, DeathEvent.toldBy?, h, List.filterMap_map]

@[simp] theorem timesTold_killed : timesTold r (.killed j :: recipients.map (.told j)) = recipients.count r := by
  simp [timesTold, DeathEvent.tells, List.countP_map, Function.comp_def, List.count]

/-- What is known of an object that nothing happened to. -/
theorem linkedTo_eq_nil (h : ∀ e ∈ events, e.object ≠ i) : linkedTo i events = [] := by
  refine List.filterMap_eq_nil_iff.mpr fun e he => ?_
  have hobject := h e he
  cases e <;> simp_all [DeathEvent.linkedTo?, DeathEvent.object]

/-- Without an event of an object it has told nobody. -/
theorem toldBy_eq_nil (h : ∀ e ∈ events, e.object ≠ i) : toldBy i events = [] := by
  refine List.filterMap_eq_nil_iff.mpr fun e he => ?_
  have hobject := h e he
  cases e <;> simp_all [DeathEvent.toldBy?, DeathEvent.object]

/-- Who is linked to an object has a link in the ledger. -/
theorem mem_linkedTo : r ∈ linkedTo i events ↔ .linked i r ∈ events := by
  simp only [linkedTo, List.mem_filterMap]
  constructor
  · rintro ⟨e, he, hr⟩
    cases e <;> simp_all [DeathEvent.linkedTo?]
  · intro he
    exact ⟨_, he, by simp [DeathEvent.linkedTo?]⟩

end Views

/-- The link that an object accepted for a cache, as the record of the questions has it. -/
def ResolverRecord.accepted (n : Nat) (t : ResolverRecord (World σ) ObjectRef) : List DeathEvent :=
  t.calls.filterMap fun
    | .link (.process i) k true => (t.recipients[k]?).map fun generation => .linked i (.cache n generation)
    | _ => none

namespace World

/-- Whether there is a cache of that number that was not dropped. -/
def hasCache (w : World σ) (n : Nat) : Bool :=
  (w.caches[n]?).any (!·.dropped)

/-- What the `get` of a cache does to objects. -/
def eventsOfGet (n : Nat) (w : World σ) : List DeathEvent :=
  match w.caches[n]? with
  | none => []
  | some cell => ((cell.cache.get cell.name (resolver n cell).recorded).run ⟨w, [], []⟩).state.accepted n

/-- What the link of a recipient does to an object. -/
def eventsOfLink (i : Nat) (r : Recipient) (w : World σ) : List DeathEvent :=
  match ((link (.process i) r).run w).value with
  | some (.ok ()) => [.linked i r]
  | _ => []

/-- What a kill does. -/
def eventsOfKill (i : Nat) (w : World σ) : List DeathEvent :=
  .killed i :: (w.directory.kill i).1.map (.told i)

end World

/-! ## What every step keeps -/

/-- The recipients that an object accepted are kept until its death, and were told of it then. -/
structure LocalObject.Accounts (o : LocalObject σ Recipient) (linked told : List Recipient) : Prop where
  links : o.links = linked.length
  pending : o.recipients = if o.alive then linked else []
  told : told = if o.alive then [] else linked

namespace LocalObject.Accounts

variable {o : LocalObject σ Recipient} {linked told : List Recipient}

/-- A live object that accepts a recipient has one more linked. -/
theorem accept (h : o.Accounts linked told) (r : Recipient) (halive : o.alive = true) :
    (o.accept r).Accounts (linked ++ [r]) told := by
  obtain ⟨hlinks, hrecipients, htold⟩ := h
  rw [if_pos halive] at hrecipients htold
  constructor <;> simp [LocalObject.accept, halive, hlinks, hrecipients, htold]

/-- The recipients that are told of a death are those that were not told yet. -/
theorem kill (h : o.Accounts linked told) :
    o.kill.2.alive = false ∧ told ++ o.kill.1 = linked ∧ o.kill.2.Accounts linked (told ++ o.kill.1) := by
  obtain ⟨hlinks, hrecipients, htold⟩ := h
  have hended : o.kill.2.alive = false ∧ o.kill.2.recipients = [] ∧ o.kill.2.links = o.links ∧
      told ++ o.kill.1 = linked := by
    cases halive : o.alive with
    | true =>
      rw [halive, if_pos rfl] at hrecipients htold
      simp [LocalObject.kill, halive, htold, hrecipients]
    | false =>
      rw [halive, if_neg (by simp)] at hrecipients htold
      simp [LocalObject.kill, halive, htold, hrecipients]
  obtain ⟨hdead, hempty, hsame, hall⟩ := hended
  exact ⟨hdead, hall, hsame.trans hlinks, by rw [hempty, hdead, if_neg (by simp)], by rw [hall, hdead, if_neg (by simp)]⟩

end LocalObject.Accounts

/-- What a recipient's account with an object is about. -/
def LocalObject.account (o : LocalObject σ Recipient) : Bool × List Recipient × Nat :=
  (o.alive, o.recipients, o.links)

/-- A handle that the cache of that number holds is one of its current generation to a living object, which will tell it. -/
def CacheCell.Backed (d : Directory σ Recipient) (n : Nat) (cell : CacheCell) : Prop :=
  ∀ entry, cell.cache.cached = some entry → entry.generation = cell.cache.generation ∧
    ∃ i, entry.handle = ⟨n, entry.generation, .process i⟩ ∧ d.Pending i (.cache n entry.generation)

/-- A cache stays backed as long as its recipients are pending. -/
theorem CacheCell.Backed.mono {d d' : Directory σ Recipient} {n : Nat} {cell : CacheCell} (h : cell.Backed d n)
    (hpending : ∀ i r, d.Pending i r → d'.Pending i r) : cell.Backed d' n := by
  intro entry hentry
  obtain ⟨hgeneration, i, hhandle, hp⟩ := h entry hentry
  exact ⟨hgeneration, i, hhandle, hpending i _ hp⟩

/-- What is resolved after a death has a handle to another object: the one that was killed has told its caches. -/
theorem CacheCell.Backed.told {d : Directory σ Recipient} {i n : Nat} {o : LocalObject σ Recipient} {cell : CacheCell}
    (h : cell.Backed d n) (ho : d.object? i = some o) (hdropped : cell.dropped = false) :
    (cell.told n o.kill.1).Backed (d.update i fun _ => o.kill.2) n := by
  intro entry hentry
  obtain ⟨hcached, hspared⟩ := CacheCell.cached_of_told hdropped hentry
  obtain ⟨hgeneration, j, hhandle, o', ho', halive', hpending⟩ := h entry hcached
  rw [CacheCell.generation_told]
  refine ⟨hgeneration, j, hhandle, o', ?_, halive', hpending⟩
  have hj : i ≠ j := by
    rintro rfl
    obtain rfl := Option.some.inj (ho.symm.trans ho')
    rw [LocalObject.kill, if_pos halive'] at hspared
    exact hspared hpending
  exact (Directory.object?_update_of_ne hj _).trans ho'

/-- The world agrees with the events. -/
structure World.Ledger (w : World σ) (events : List DeathEvent) : Prop where
  manual : w.manual = []
  registrar : ∀ (n : Nat) (cell : CacheCell), w.caches[n]? = some cell → cell.registrar = .process
  known : ∀ e ∈ events, (w.directory.object? e.object).isSome
  killed : ∀ i o, w.directory.object? i = some o → (o.alive = false ↔ .killed i ∈ events)
  accounts : ∀ i o, w.directory.object? i = some o → o.Accounts (linkedTo i events) (toldBy i events)
  tallied : ∀ (m count : Nat), w.tallies[m]? = some count → count = timesTold (.tally m) events
  counting : ∀ i m, .linked i (.tally m) ∈ events ∨ .told i (.tally m) ∈ events → m < w.tallies.length
  backed : ∀ (n : Nat) (cell : CacheCell), w.caches[n]? = some cell → cell.dropped = false → cell.Backed w.directory n

/-- In the beginning the ledger is empty. -/
theorem World.ledger_new (backend : σ) (dir : String) : (World.new backend dir).Ledger [] where
  manual := rfl
  registrar n cell h := by simp [new] at h
  known e he := by simp at he
  killed i o h := by simp [new, Directory.object?, Directory.empty] at h
  accounts i o h := by simp [new, Directory.object?, Directory.empty] at h
  tallied m count h := by simp [new] at h
  counting i m h := by simp at h
  backed n cell h := by simp [new] at h

namespace World.Ledger

variable {w w' : World σ} {events : List DeathEvent} {i n : Nat} {o : LocalObject σ Recipient} {cell : CacheCell}

/-- Nothing else about objects matters than their accounts. -/
theorem congr (h : w.Ledger events) (hmanual : w'.manual = w.manual) (hcaches : w'.caches = w.caches)
    (htallies : w'.tallies = w.tallies)
    (hobjects : ∀ i, (w'.directory.object? i).map (·.account) = (w.directory.object? i).map (·.account)) :
    w'.Ledger events := by
  have hback : ∀ i o', w'.directory.object? i = some o' →
      ∃ o, w.directory.object? i = some o ∧ o'.account = o.account := by
    intro i o' ho'
    have heq := hobjects i
    rw [ho', Option.map_some, eq_comm, Option.map_eq_some_iff] at heq
    obtain ⟨o, ho, haccount⟩ := heq
    exact ⟨o, ho, haccount.symm⟩
  have hforth : ∀ i r, w.directory.Pending i r → w'.directory.Pending i r := by
    rintro i r ⟨o, ho, halive, hr⟩
    have heq := hobjects i
    rw [ho, Option.map_some, Option.map_eq_some_iff] at heq
    obtain ⟨o', ho', haccount⟩ := heq
    simp only [LocalObject.account, Prod.mk.injEq] at haccount
    exact ⟨o', ho', by rw [haccount.1, halive], by rw [haccount.2.1]; exact hr⟩
  constructor
  case manual => rw [hmanual, h.manual]
  case registrar => exact hcaches ▸ h.registrar
  case known =>
    intro e he
    have heq := congrArg Option.isSome (hobjects e.object)
    simpa using heq.trans (by simpa using h.known e he)
  case killed =>
    intro i o' ho'
    obtain ⟨o, ho, haccount⟩ := hback i o' ho'
    simp only [LocalObject.account, Prod.mk.injEq] at haccount
    rw [haccount.1]
    exact h.killed i o ho
  case accounts =>
    intro i o' ho'
    obtain ⟨o, ho, haccount⟩ := hback i o' ho'
    simp only [LocalObject.account, Prod.mk.injEq] at haccount
    obtain ⟨hlinks, hpending, htold⟩ := h.accounts i o ho
    exact ⟨by rw [haccount.2.2, hlinks], by rw [haccount.2.1, haccount.1, hpending], by rw [haccount.1, htold]⟩
  case tallied => exact htallies ▸ h.tallied
  case counting => exact htallies ▸ h.counting
  case backed =>
    intro n cell hcell hdropped
    exact (h.backed n cell (hcaches ▸ hcell) hdropped).mono hforth

/-- A change of one object that leaves its account alone. -/
theorem update (h : w.Ledger events) (f : LocalObject σ Recipient → LocalObject σ Recipient)
    (hf : ∀ o, (f o).account = o.account) (i : Nat) : (w.withDirectory (w.directory.update i f)).Ledger events := by
  refine h.congr rfl rfl rfl fun j => ?_
  rw [directory_withDirectory, Directory.object?_update]
  split
  · rw [Option.map_map]
    exact congrFun (congrArg Option.map (funext hf)) _
  · rfl

/-- A registration needs no entry. -/
theorem register (h : w.Ledger events) (name : String) (service : Service σ) :
    (w.withDirectory (w.directory.register name service).2).Ledger events := by
  have hobject := Directory.object?_register (d := w.directory) name service
  have hold : ∀ i o, w.directory.object? i = some o → (w.directory.register name service).2.object? i = some o := by
    intro i o ho
    rw [hobject, if_neg (Nat.ne_of_lt (List.getElem?_eq_some_iff.mp ho).1), ho]
  have hfresh : ∀ e ∈ events, e.object ≠ w.directory.objects.length := by
    intro e he heq
    have hsome := h.known e he
    rw [heq, Directory.object?, List.getElem?_eq_none (Nat.le_refl _)] at hsome
    cases hsome
  constructor
  case manual => exact h.manual
  case registrar => exact h.registrar
  case known =>
    intro e he
    obtain ⟨o, ho⟩ := Option.isSome_iff_exists.mp (h.known e he)
    rw [directory_withDirectory, hold _ o ho]
    rfl
  case killed =>
    intro i o ho
    rw [directory_withDirectory, hobject] at ho
    split at ho
    · obtain rfl := Option.some.inj ho
      subst i
      exact iff_of_false (by simp [LocalObject.new]) fun hkilled => hfresh _ hkilled rfl
    · exact h.killed i o ho
  case accounts =>
    intro i o ho
    rw [directory_withDirectory, hobject] at ho
    split at ho
    · obtain rfl := Option.some.inj ho
      subst i
      rw [linkedTo_eq_nil hfresh, toldBy_eq_nil hfresh]
      exact ⟨rfl, rfl, rfl⟩
    · exact h.accounts i o ho
  case tallied => exact h.tallied
  case counting => exact h.counting
  case backed =>
    intro n cell hcell hdropped
    refine (h.backed n cell hcell hdropped).mono ?_
    rintro i r ⟨o, ho, hpending⟩
    exact ⟨o, hold i o ho, hpending⟩

/-- A living object accepts a recipient. -/
theorem link (h : w.Ledger events) {r : Recipient} (hcounting : ∀ m, r = .tally m → m < w.tallies.length)
    (ho : w.directory.object? i = some o) (halive : o.alive = true) :
    (w.withDirectory (w.directory.update i fun _ => o.accept r)).Ledger (events ++ [.linked i r]) := by
  have hself := Directory.object?_update_self ho fun _ => o.accept r
  have hother : ∀ j, i ≠ j → (w.directory.update i fun _ => o.accept r).object? j = w.directory.object? j :=
    fun j hj => Directory.object?_update_of_ne hj _
  constructor
  case manual => exact h.manual
  case registrar => exact h.registrar
  case known =>
    intro e he
    rw [directory_withDirectory, Directory.object?_update]
    rcases List.mem_append.mp he with he | he
    · split <;> simp [h.known e he]
    · obtain rfl := List.mem_singleton.mp he
      simp [DeathEvent.object, ho]
  case killed =>
    intro j o' ho'
    simp only [List.mem_append, List.mem_singleton, reduceCtorEq, or_false]
    rw [directory_withDirectory] at ho'
    by_cases hj : i = j
    · subst hj
      obtain rfl := Option.some.inj (hself.symm.trans ho')
      exact h.killed i o ho
    · exact h.killed j o' ((hother j hj).symm.trans ho')
  case accounts =>
    intro j o' ho'
    rw [directory_withDirectory] at ho'
    rw [linkedTo_append, toldBy_append, linkedTo_linked, toldBy_linked, List.append_nil]
    by_cases hj : i = j
    · subst hj
      obtain rfl := Option.some.inj (hself.symm.trans ho')
      rw [if_pos rfl]
      exact (h.accounts i o ho).accept r halive
    · rw [if_neg hj, List.append_nil]
      exact h.accounts j o' ((hother j hj).symm.trans ho')
  case tallied =>
    intro m count hm
    rw [timesTold_append, timesTold_linked]
    exact h.tallied m count hm
  case counting =>
    intro j m hmem
    simp only [List.mem_append, List.mem_singleton, DeathEvent.linked.injEq, reduceCtorEq, or_false] at hmem
    rcases hmem with (hmem | ⟨-, hmem⟩) | hmem
    · exact h.counting j m (.inl hmem)
    · exact hcounting m hmem.symm
    · exact h.counting j m (.inr hmem)
  case backed =>
    intro n cell hcell hdropped
    refine (h.backed n cell hcell hdropped).mono ?_
    rintro j r' ⟨o', ho', halive', hr'⟩
    by_cases hj : i = j
    · subst hj
      obtain rfl := Option.some.inj (ho.symm.trans ho')
      exact ⟨_, hself, halive, List.mem_append_left _ hr'⟩
    · exact ⟨o', (hother j hj).trans ho', halive', hr'⟩

/-- The recipients of an object are told when it is killed; what is resolved then has a handle to another object. -/
theorem kill (h : w.Ledger events) (ho : w.directory.object? i = some o) :
    ((World.kill i).run w).state.Ledger (events ++ w.eventsOfKill i) := by
  have hkill : w.directory.kill i = (o.kill.1, w.directory.update i fun _ => o.kill.2) := by simp [Directory.kill, ho]
  have hself := Directory.object?_update_self ho fun _ => o.kill.2
  have hother : ∀ j, i ≠ j → (w.directory.update i fun _ => o.kill.2).object? j = w.directory.object? j :=
    fun j hj => Directory.object?_update_of_ne hj _
  obtain ⟨hdead, hall, haccounts⟩ := (h.accounts i o ho).kill
  have hevents : w.eventsOfKill i = .killed i :: o.kill.1.map (.told i) := by rw [eventsOfKill, hkill]
  rw [(run_kill i w).2, hkill, hevents]
  constructor
  case manual => exact h.manual
  case registrar =>
    intro n cell hcell
    rw [getElem?_caches_told, Option.map_eq_some_iff] at hcell
    obtain ⟨cell, hcell, rfl⟩ := hcell
    rw [CacheCell.registrar_told]
    exact h.registrar n cell hcell
  case known =>
    intro e he
    rw [directory_told, Directory.object?_update]
    rcases List.mem_append.mp he with he | he
    · split <;> simp [h.known e he]
    · have hobject : e.object = i := by
        rcases List.mem_cons.mp he with rfl | he
        · rfl
        · obtain ⟨r, -, rfl⟩ := List.mem_map.mp he
          rfl
      simp [hobject, ho]
  case killed =>
    intro j o' ho'
    rw [directory_told] at ho'
    by_cases hj : i = j
    · subst hj
      obtain rfl := Option.some.inj (hself.symm.trans ho')
      exact iff_of_true hdead (by simp)
    · rw [h.killed j o' ((hother j hj).symm.trans ho')]
      simp [Ne.symm hj]
  case accounts =>
    intro j o' ho'
    rw [directory_told] at ho'
    rw [linkedTo_append, toldBy_append, linkedTo_killed, toldBy_killed, List.append_nil]
    by_cases hj : i = j
    · subst hj
      obtain rfl := Option.some.inj (hself.symm.trans ho')
      rw [if_pos rfl]
      exact haccounts
    · rw [if_neg hj, List.append_nil]
      exact h.accounts j o' ((hother j hj).symm.trans ho')
  case tallied =>
    intro m count hm
    rw [getElem?_tallies_told, Option.map_eq_some_iff] at hm
    obtain ⟨before, hm, rfl⟩ := hm
    rw [timesTold_append, timesTold_killed, h.tallied m before hm]
  case counting =>
    intro j m hmem
    have hlength : ({ w with directory := w.directory.update i fun _ => o.kill.2 }.told o.kill.1).tallies.length =
        w.tallies.length := by simp [told]
    have hlinked : ∀ r ∈ o.kill.1, .linked i r ∈ events := by
      intro r hr
      rw [← mem_linkedTo, ← hall]
      exact List.mem_append_right _ hr
    rw [hlength]
    simp only [List.mem_append, List.mem_cons, List.mem_map, reduceCtorEq, and_false, exists_false, or_false, false_or,
      DeathEvent.told.injEq] at hmem
    rcases hmem with hmem | hmem | ⟨r, hr, -, rfl⟩
    · exact h.counting j m (.inl hmem)
    · exact h.counting j m (.inr hmem)
    · exact h.counting i m (.inl (hlinked _ hr))
  case backed =>
    intro n cell hcell hdropped
    rw [getElem?_caches_told, Option.map_eq_some_iff] at hcell
    obtain ⟨cell, hcell, rfl⟩ := hcell
    rw [CacheCell.dropped_told] at hdropped
    exact (h.backed n cell hcell hdropped).told ho hdropped

/-- A new counting recipient was told of nothing. -/
theorem newTally (h : w.Ledger events) : { w with tallies := w.tallies ++ [0] }.Ledger events where
  manual := h.manual
  registrar := h.registrar
  known := h.known
  killed := h.killed
  accounts := h.accounts
  tallied := by
    intro m count hm
    rw [List.getElem?_append] at hm
    split at hm
    · exact h.tallied m count hm
    · next hlt =>
      obtain ⟨hzero, hcount⟩ := List.getElem?_eq_some_iff.mp hm
      rw [List.length_singleton, Nat.lt_one_iff] at hzero
      have hnone : timesTold (.tally m) events = 0 := by
        refine List.countP_eq_zero.mpr fun e he htells => hlt ?_
        cases e with
        | told i r =>
          obtain rfl : r = .tally m := by simpa [DeathEvent.tells] using htells
          exact h.counting i m (.inr he)
        | _ => cases htells
      rw [hnone, ← hcount]
      simp [hzero]
  counting i m hmem := by
    have hlt := h.counting i m hmem
    simp only [List.length_append, List.length_singleton]
    omega
  backed := h.backed

/-- Caches may change in what concerns no object. -/
theorem withCaches (h : w.Ledger events) {caches : List CacheCell}
    (hregistrar : ∀ (n : Nat) (cell : CacheCell), caches[n]? = some cell → cell.registrar = .process)
    (hbacked : ∀ (n : Nat) (cell : CacheCell), caches[n]? = some cell → cell.dropped = false →
      cell.Backed w.directory n) : { w with caches }.Ledger events where
  manual := h.manual
  registrar := hregistrar
  known := h.known
  killed := h.killed
  accounts := h.accounts
  tallied := h.tallied
  counting := h.counting
  backed := hbacked

/-- Neither does a new cache. -/
theorem withNewCache (h : w.Ledger events) (name : String) : (w.withNewCache .process name).Ledger events := by
  refine h.withCaches (fun n cell hcell => ?_) (fun n cell hcell hdropped => ?_) <;>
    replace hcell := (getElem?_caches_withNewCache .process name n).symm.trans hcell <;> split at hcell
  · exact Option.some.inj hcell ▸ rfl
  · exact h.registrar n cell hcell
  · obtain rfl := Option.some.inj hcell
    rintro entry ⟨⟩
  · exact h.backed n cell hcell hdropped

/-- Neither does the drop of a cache. -/
theorem withoutCache (h : w.Ledger events) (n : Nat) : (w.withoutCache n).Ledger events := by
  refine h.withCaches (fun m cell hcell => ?_) (fun m cell hcell hdropped => ?_) <;>
    replace hcell := (getElem?_caches_withoutCache n m).symm.trans hcell <;> split at hcell
  · obtain ⟨old, hold, rfl⟩ := Option.map_eq_some_iff.mp hcell
    exact h.registrar m old hold
  · exact h.registrar m cell hcell
  · obtain ⟨old, hold, rfl⟩ := Option.map_eq_some_iff.mp hcell
    cases hdropped
  · exact h.backed m cell hcell hdropped

theorem withoutCache? (h : w.Ledger events) (n : Option Nat) : (w.withoutCache? n).Ledger events := by
  cases n with
  | none => exact h
  | some n => exact h.withoutCache n

/-- A cache may hold a handle to a living object that will tell it. -/
theorem withCache (h : w.Ledger events) {cache : Cache Handle} (hcell : w.caches[n]? = some cell)
    (hbacked : CacheCell.Backed w.directory n { cell with cache }) : (w.withCache n cache).Ledger events := by
  refine h.withCaches (fun m old hold => ?_) (fun m old hold hdropped => ?_) <;>
    replace hold := (getElem?_caches_withCache cache m).symm.trans hold <;> split at hold
  · obtain ⟨before, hbefore, rfl⟩ := Option.map_eq_some_iff.mp hold
    exact h.registrar m before hbefore
  · exact h.registrar m old hold
  · subst m
    rw [hcell, Option.map_some] at hold
    exact Option.some.inj hold ▸ hbacked
  · exact h.backed m old hold hdropped

end World.Ledger

/-! ## What a `get` has accepted -/

namespace World

variable {w : World σ} {n i : Nat} {cell : CacheCell} {o : LocalObject σ Recipient}

/-- The events of a get are those that its cache has recorded. -/
theorem eventsOfGet_of_cell (hcell : w.caches[n]? = some cell) :
    w.eventsOfGet n =
      ((cell.cache.get cell.name (resolver n cell).recorded).run ⟨w, [], []⟩).state.accepted n := by
  rw [eventsOfGet, hcell]

/-- A get from a resolved cache has none. -/
theorem eventsOfGet_of_resolved {entry : Cached Handle} (hcell : w.caches[n]? = some cell)
    (hcached : cell.cache.cached = some entry) : w.eventsOfGet n = [] := by
  rw [eventsOfGet_of_cell hcell, Cache.run_get_of_resolved cell.name hcached]
  rfl

section Process

variable (hmanual : w.manual = []) (hcell : w.caches[n]? = some cell) (hregistrar : cell.registrar = .process)
  (hcached : cell.cache.cached = none)

include hmanual hcell hregistrar hcached

/-- Neither has one that finds nothing. -/
theorem eventsOfGet_of_missed (hfind : w.directory.find? cell.name = none) : w.eventsOfGet n = [] := by
  have hlookup := run_lookup_resolver (n := n) hmanual hregistrar
  rw [hfind] at hlookup
  obtain ⟨hlv, hls⟩ := run_recorded_lookup (t := ⟨w, [], []⟩) (congrArg Outcome.value hlookup)
  obtain ⟨-, hgs⟩ := Cache.run_get_of_missed cell.name hcached hlv
  rw [eventsOfGet_of_cell hcell, hgs, hls]
  rfl

variable (hfind : w.directory.find? cell.name = some i) (ho : w.directory.object? i = some o)

include hfind ho

/-- Neither has one whose link is refused. -/
theorem eventsOfGet_of_refused (hfail : o.failLinks = true) : w.eventsOfGet n = [] := by
  have hlookup := run_lookup_resolver (n := n) hmanual hregistrar
  rw [hfind] at hlookup
  obtain ⟨hlv, hls⟩ := run_recorded_lookup (t := ⟨w, [], []⟩) (congrArg Outcome.value hlookup)
  have ho' : (w.directory.lookup cell.name).2.object? i = some o := ho
  have hlink := run_link_resolver (w.withDirectory (w.directory.lookup cell.name).2) n i (cell.cache.generation + 1) cell
  rw [directory_withDirectory, Directory.link_of_refused _ ho' (.inr hfail)] at hlink
  have hkv : (((resolver n cell).link (.process i) (cell.cache.generation + 1)).run
      ((resolver n cell).recorded.lookup.run ⟨w, [], []⟩).state.backend).value = some (.error .deadObject) := by
    rw [hls, hlookup]
    exact congrArg Outcome.value hlink
  obtain ⟨hkv', hks⟩ := run_recorded_link hkv
  obtain ⟨-, hgs⟩ := Cache.run_get_of_refused cell.name hcached hlv hkv'
  rw [eventsOfGet_of_cell hcell, hgs, hks, hls]
  rfl

/-- One that links has its link. -/
theorem eventsOfGet_of_linked (halive : o.alive = true) (hfail : o.failLinks = false) :
    w.eventsOfGet n = [.linked i (.cache n (cell.cache.generation + 1))] := by
  have hlookup := run_lookup_resolver (n := n) hmanual hregistrar
  rw [hfind] at hlookup
  obtain ⟨hlv, hls⟩ := run_recorded_lookup (t := ⟨w, [], []⟩) (congrArg Outcome.value hlookup)
  have ho' : (w.directory.lookup cell.name).2.object? i = some o := ho
  have hlink := run_link_resolver (w.withDirectory (w.directory.lookup cell.name).2) n i (cell.cache.generation + 1) cell
  rw [directory_withDirectory, Directory.link_of_accepted _ ho' halive hfail] at hlink
  have hkv : (((resolver n cell).link (.process i) (cell.cache.generation + 1)).run
      ((resolver n cell).recorded.lookup.run ⟨w, [], []⟩).state.backend).value = some (.ok ()) := by
    rw [hls, hlookup]
    exact congrArg Outcome.value hlink
  obtain ⟨hkv', hks⟩ := run_recorded_link hkv
  obtain ⟨-, hgs⟩ := Cache.run_get_of_linked cell.name hcached hlv hkv'
  rw [eventsOfGet_of_cell hcell, hgs, hks, hls]
  rfl

end Process

/-- What a `get` is after, among the caches and objects of a process. -/
structure Served (n : Nat) (w : World σ) : Prop where
  /-- It comes to its end, and a handle that it returns is one to a living object. -/
  answered : ∃ answer, ((cacheGet n).run w).value = some answer ∧ ∀ handle, answer = some handle →
    ∃ i o, handle.object = .process i ∧ ((cacheGet n).run w).state.directory.object? i = some o ∧ o.alive = true
  /-- The same caches are there as before. -/
  hasCache : ∀ m, ((cacheGet n).run w).state.hasCache m = w.hasCache m

theorem hasCache_withCache (cache : Cache Handle) (m : Nat) : (w.withCache n cache).hasCache m = w.hasCache m := by
  simp only [hasCache, getElem?_caches_withCache]
  split
  · cases w.caches[m]? <;> rfl
  · rfl

theorem hasCache_told (recipients : List Recipient) (m : Nat) : (w.told recipients).hasCache m = w.hasCache m := by
  rw [hasCache, getElem?_caches_told, hasCache]
  cases w.caches[m]? with
  | none => rfl
  | some cell => simp

/-- A new cache is there with the others. -/
theorem hasCache_withNewCache (registrar : Registrar) (name : String) (m : Nat) :
    (w.withNewCache registrar name).hasCache m = (m == w.caches.length || w.hasCache m) := by
  simp only [hasCache, getElem?_caches_withNewCache]
  split <;> simp [*]

/-- A dropped one is not there any more. -/
theorem hasCache_withoutCache (m : Nat) : (w.withoutCache n).hasCache m = (n != m && w.hasCache m) := by
  simp only [hasCache, getElem?_caches_withoutCache]
  by_cases h : n = m
  · cases w.caches[m]? <;> simp [h]
  · simp [h]

theorem hasCache_withoutCache? (m : Nat) (n : Option Nat) :
    (w.withoutCache? n).hasCache m = (n != some m && w.hasCache m) := by
  cases n with
  | none => simp [withoutCache?]
  | some n =>
    rw [withoutCache?, hasCache_withoutCache]
    rfl

/-- What is there has a number among the caches. -/
theorem lt_of_hasCache {m : Nat} (h : w.hasCache m = true) : m < w.caches.length := by
  obtain ⟨cell, hcell, -⟩ := Option.any_eq_true .. |>.mp h
  exact (List.getElem?_eq_some_iff.mp hcell).1

/-- A `get` serves, and the object of a new handle accepted the cache. -/
theorem Ledger.get {events : List DeathEvent} (h : w.Ledger events) (hhas : w.hasCache n = true) :
    ((cacheGet n).run w).state.Ledger (events ++ w.eventsOfGet n) ∧ w.Served n := by
  obtain ⟨cell, hcell, hdropped⟩ := Option.any_eq_true .. |>.mp hhas
  rw [Bool.not_eq_true'] at hdropped
  have hregistrar := h.registrar n cell hcell
  cases hcached : cell.cache.cached with
  | some entry =>
    obtain ⟨hv, hs⟩ := run_cacheGet_of_resolved hcell hcached
    obtain ⟨-, i, hentry, o, ho, halive, -⟩ := h.backed n cell hcell hdropped entry hcached
    refine ⟨?_, ⟨_, hv, fun handle hhandle => ⟨i, o, ?_, by rw [hs]; exact ho, halive⟩⟩, fun m => by rw [hs]⟩
    · rw [hs, eventsOfGet_of_resolved hcell hcached, List.append_nil]
      exact h
    · rw [← Option.some.inj hhandle, hentry]
  | none =>
    have hlooked : (w.withDirectory (w.directory.lookup cell.name).2).Ledger events :=
      h.congr rfl rfl rfl fun i => rfl
    cases hfind : w.directory.find? cell.name with
    | none =>
      obtain ⟨hv, hs⟩ := run_cacheGet_of_missed h.manual hcell hregistrar hcached hfind
      refine ⟨?_, ⟨_, hv, nofun⟩, fun m => by rw [hs]; rfl⟩
      rw [hs, eventsOfGet_of_missed h.manual hcell hregistrar hcached hfind, List.append_nil]
      exact hlooked
    | some i =>
      obtain ⟨-, o, ho, halive⟩ := Directory.find?_eq_some_iff.mp hfind
      cases hfail : o.failLinks with
      | true =>
        obtain ⟨hv, hs⟩ := run_cacheGet_of_refused h.manual hcell hregistrar hcached hfind ho hfail
        refine ⟨?_, ⟨_, hv, nofun⟩, fun m => by rw [hs, hasCache_withCache]; rfl⟩
        rw [hs, eventsOfGet_of_refused h.manual hcell hregistrar hcached hfind ho hfail, List.append_nil]
        exact hlooked.withCache hcell nofun
      | false =>
        obtain ⟨hv, hs⟩ := run_cacheGet_of_linked h.manual hcell hregistrar hcached hfind ho halive hfail
        have hself := Directory.object?_update_self (d := (w.directory.lookup cell.name).2) ho fun _ =>
          o.accept (.cache n (cell.cache.generation + 1))
        have hlinked := hlooked.link (r := .cache n (cell.cache.generation + 1)) nofun ho halive
        refine ⟨?_, ⟨_, hv, ?_⟩, fun m => by rw [hs, hasCache_withCache]; rfl⟩
        · rw [hs, eventsOfGet_of_linked h.manual hcell hregistrar hcached hfind ho halive hfail]
          refine hlinked.withCache hcell ?_
          rintro entry ⟨⟩
          exact ⟨rfl, i, rfl, _, hself, halive, by simp [LocalObject.accept]⟩
        · rintro handle ⟨⟩
          rw [hs]
          exact ⟨i, _, rfl, hself, halive⟩

/-- A transaction changes no account. -/
theorem Ledger.transact {events : List DeathEvent} (h : w.Ledger events) (ho : w.directory.object? i = some o)
    (code : UInt32) (data : Json) : ((World.transact (.process i) code data).run w).state.Ledger events := by
  rw [(run_transact_object code data ho).2]
  exact (h.update (·.count) (fun _ => rfl) i).congr rfl rfl rfl fun _ => rfl

end World

end Switchboard
