import Switchboard.Proofs.World.Ledger

/-!
# What caches are resolved to

`World.held?` is the object that a cache of a process is resolved to. A `get` leaves it alone, or sets it to the living object
that the name stands for if that accepts links (`Directory.accepting?`); `World.Gets` has one case for each way a `get` may go.
The death of an object takes it from the caches that are resolved to it and from no other (`World.held?_kill`): an object tells
of its death only generations that are its own (`World.Assigned`), and whatever is done in a world keeps that
(`World.Onward`).

A `Charge` says what was done to a registry: how many lookups, and which objects accepted a link or were sent a transaction.
-/

namespace Switchboard

variable {σ : Type}

/-! ## Counting -/

/-- How many names were looked up, and which objects accepted a link or were sent a transaction, each as often as that. -/
structure Charge where
  lookups : Nat
  linked : List Nat
  asked : List Nat
deriving DecidableEq, Repr

namespace Charge

/-- Nothing was done. -/
def free : Charge :=
  ⟨0, [], []⟩

/-- The one and then the other. -/
def and (c c' : Charge) : Charge :=
  ⟨c.lookups + c'.lookups, c.linked ++ c'.linked, c.asked ++ c'.asked⟩

end Charge

/-- Whether an object accepts links. -/
def LocalObject.accepts {ρ : Type} (o : LocalObject σ ρ) : Bool :=
  o.alive && !o.failLinks

namespace Directory

variable {ρ : Type} {d d' d'' : Directory σ ρ} {i : Nat} {o : LocalObject σ ρ} {name : String} {c c' : Charge}

/-- How many links an object has accepted. -/
def linksOf (d : Directory σ ρ) (i : Nat) : Nat :=
  (d.object? i).elim 0 (·.links)

/-- How many transactions an object was sent. -/
def transactionsOf (d : Directory σ ρ) (i : Nat) : Nat :=
  (d.object? i).elim 0 (·.transactions)

/-- The counts of a registry went up by a charge. -/
structure Charged (d d' : Directory σ ρ) (c : Charge) : Prop where
  lookups : d'.lookups = d.lookups + c.lookups
  links : ∀ i, d'.linksOf i = d.linksOf i + c.linked.count i
  transactions : ∀ i, d'.transactionsOf i = d.transactionsOf i + c.asked.count i

theorem Charged.refl (d : Directory σ ρ) : d.Charged d .free :=
  ⟨rfl, fun _ => rfl, fun _ => rfl⟩

/-- Charges add up. -/
theorem Charged.and (h : d.Charged d' c) (h' : d'.Charged d'' c') : d.Charged d'' (c.and c') where
  lookups := by
    rw [h'.lookups, h.lookups, Charge.and, Nat.add_assoc]
  links i := by
    rw [h'.links, h.links, Charge.and, List.count_append, Nat.add_assoc]
  transactions i := by
    rw [h'.transactions, h.transactions, Charge.and, List.count_append, Nat.add_assoc]

/-- Counts that began with nothing. -/
theorem Charged.counts (h : empty.Charged d c) (ho : d.object? i = some o) :
    o.links = c.linked.count i ∧ o.transactions = c.asked.count i := by
  have hlinks := h.links i
  have htransactions := h.transactions i
  rw [linksOf, ho] at hlinks
  rw [transactionsOf, ho] at htransactions
  exact ⟨hlinks.trans (Nat.zero_add _), htransactions.trans (Nat.zero_add _)⟩

/-- A lookup costs a lookup. -/
theorem charged_lookup (name : String) (d : Directory σ ρ) : d.Charged (d.lookup name).2 ⟨1, [], []⟩ :=
  ⟨rfl, fun _ => rfl, fun _ => rfl⟩

/-- The counts of one object went up. -/
theorem charged_update (ho : d.object? i = some o) {f : LocalObject σ ρ → LocalObject σ ρ} {linked asked : List Nat}
    (hlinks : (f o).links = o.links + linked.count i) (hasked : (f o).transactions = o.transactions + asked.count i)
    (hothers : ∀ j, i ≠ j → linked.count j = 0 ∧ asked.count j = 0) : d.Charged (d.update i f) ⟨0, linked, asked⟩ := by
  refine ⟨rfl, fun j => ?_, fun j => ?_⟩ <;> by_cases hj : i = j
  · subst hj
    simp [linksOf, object?_update_self ho, ho, hlinks]
  · simp [linksOf, object?_update_of_ne hj, hothers j hj]
  · subst hj
    simp [transactionsOf, object?_update_self ho, ho, hasked]
  · simp [transactionsOf, object?_update_of_ne hj, hothers j hj]

/-- An object changed, but not its counts. -/
theorem charged_update_free (ho : d.object? i = some o) {f : LocalObject σ ρ → LocalObject σ ρ}
    (hlinks : (f o).links = o.links) (hasked : (f o).transactions = o.transactions) : d.Charged (d.update i f) .free :=
  charged_update ho hlinks hasked fun _ _ => ⟨rfl, rfl⟩

/-- An accepted link costs a link. -/
theorem charged_accept (ho : d.object? i = some o) (r : ρ) : d.Charged (d.update i fun _ => o.accept r) ⟨0, [i], []⟩ :=
  charged_update ho (by simp [LocalObject.accept]) rfl fun _ hj => by simp [hj]

/-- A transaction costs a transaction. -/
theorem charged_count (ho : d.object? i = some o) : d.Charged (d.update i (·.count)) ⟨0, [], [i]⟩ :=
  charged_update ho rfl (by simp [LocalObject.count]) fun _ hj => by simp [hj]

/-- A new object has counted nothing yet. -/
theorem charged_register (name : String) (service : Service σ) (d : Directory σ ρ) :
    d.Charged (d.register name service).2 .free := by
  have hnew : d.object? d.objects.length = none := List.getElem?_eq_none (Nat.le_refl _)
  refine ⟨rfl, fun j => ?_, fun j => ?_⟩ <;> by_cases hj : j = d.objects.length
  · subst hj
    simp [linksOf, object?_register, hnew, LocalObject.new, Charge.free]
  · simp [linksOf, object?_register, hj, Charge.free]
  · subst hj
    simp [transactionsOf, object?_register, hnew, LocalObject.new, Charge.free]
  · simp [transactionsOf, object?_register, hj, Charge.free]

/-! ## What a name resolves to -/

/-- The object that a name stands for, if it lives and accepts links. -/
def accepting? (d : Directory σ ρ) (name : String) : Option Nat :=
  (d.named? name).filter fun i => (d.object? i).any (·.accepts)

/-- An object would accept a link under a name if it is the one of the name and accepts links. -/
theorem accepting?_eq_some_iff :
    d.accepting? name = some i ↔ d.named? name = some i ∧ ∃ o, d.object? i = some o ∧ o.accepts = true := by
  simp only [accepting?, Option.filter_eq_some_iff, Option.any_eq_true]

/-- Where a lookup finds nothing, nobody would. -/
theorem accepting?_of_missed (h : d.find? name = none) : d.accepting? name = none := by
  refine Option.eq_none_iff_forall_ne_some.mpr fun i hi => ?_
  obtain ⟨hnamed, o, ho, haccepts⟩ := accepting?_eq_some_iff.mp hi
  rw [LocalObject.accepts, Bool.and_eq_true] at haccepts
  have hfind : d.find? name = some i := find?_eq_some_iff.mpr ⟨hnamed, o, ho, haccepts.1⟩
  rw [h] at hfind
  cases hfind

/-- What a lookup finds would, unless its links fail. -/
theorem accepting?_of_find (h : d.find? name = some i) (ho : d.object? i = some o) :
    d.accepting? name = if o.failLinks then none else some i := by
  obtain ⟨hnamed, o', ho', halive⟩ := find?_eq_some_iff.mp h
  obtain rfl := Option.some.inj (ho.symm.trans ho')
  rw [accepting?, hnamed, Option.filter_some, ho, Option.any_some, LocalObject.accepts, halive]
  cases o.failLinks <;> rfl

/-- A link is refused and changes nothing, or is accepted. -/
theorem link_cases (d : Directory σ ρ) (i : Nat) (r : ρ) :
    (d.object? i).any (·.accepts) = false ∧ d.link i r = (.error .deadObject, d) ∨
      ∃ o, d.object? i = some o ∧ o.accepts = true ∧ d.link i r = (.ok (), d.update i fun _ => o.accept r) := by
  cases ho : d.object? i with
  | none => exact .inl ⟨rfl, by simp only [link, ho]⟩
  | some o =>
    cases haccepts : o.accepts with
    | true =>
      have hwilling := haccepts
      rw [LocalObject.accepts, Bool.and_eq_true, Bool.not_eq_true'] at hwilling
      exact .inr ⟨o, rfl, haccepts, link_of_accepted r ho hwilling.1 hwilling.2⟩
    | false =>
      have hunwilling := haccepts
      rw [LocalObject.accepts, Bool.and_eq_false_iff, Bool.not_eq_false'] at hunwilling
      exact .inl ⟨haccepts, link_of_refused r ho hunwilling⟩

end Directory

/-! ## What is held -/

/-- The number of an object of the same process. -/
def ObjectRef.process? : ObjectRef → Option Nat
  | .process i => some i
  | _ => none

/-- The object of the process that a cell is resolved to. -/
def CacheCell.held? (cell : CacheCell) : Option Nat :=
  cell.cache.cached.bind (·.handle.object.process?)

namespace World

variable {w w' w'' : World σ} {n i : Nat} {cell : CacheCell}

/-- The object of the process that a cache is resolved to. -/
def held? (w : World σ) (n : Nat) : Option Nat :=
  (w.caches[n]?).bind (·.held?)

/-- What a cache holds is what its cell holds. -/
theorem held?_of_cell (h : w.caches[n]? = some cell) : w.held? n = cell.held? := by
  rw [held?, h, Option.bind_some]

/-- A cache that is there has a cell that was not dropped. -/
theorem cell_of_hasCache (h : w.hasCache n = true) : ∃ cell, w.caches[n]? = some cell ∧ cell.dropped = false := by
  obtain ⟨cell, hcell, hdropped⟩ := Option.any_eq_true .. |>.mp h
  rw [Bool.not_eq_true'] at hdropped
  exact ⟨cell, hcell, hdropped⟩

/-- A new cache is not resolved. -/
theorem held?_withNewCache (registrar : Registrar) (name : String) (n : Nat) :
    (w.withNewCache registrar name).held? n = w.held? n := by
  rw [held?, getElem?_caches_withNewCache]
  split
  · next hn =>
    rw [held?, List.getElem?_eq_none (Nat.le_of_eq hn.symm)]
    rfl
  · rfl

/-- A dropped cache still holds what it held. -/
theorem held?_withoutCache (m n : Nat) : (w.withoutCache m).held? n = w.held? n := by
  rw [held?, getElem?_caches_withoutCache]
  split
  · rw [Option.bind_map]
    rfl
  · rfl

theorem held?_withoutCache? (m : Option Nat) (n : Nat) : (w.withoutCache? m).held? n = w.held? n := by
  cases m with
  | none => rfl
  | some m => exact held?_withoutCache m n

/-- A cache that is replaced holds what the new one holds. -/
theorem held?_withCache (hcell : w.caches[n]? = some cell) (cache : Cache Handle) (m : Nat) :
    (w.withCache n cache).held? m = if n = m then CacheCell.held? { cell with cache } else w.held? m := by
  by_cases hm : n = m
  · rw [if_pos hm, ← hm, held?_of_cell (getElem?_caches_withCache_self hcell cache)]
  · rw [if_neg hm, held?, getElem?_caches_withCache, if_neg hm, held?]

/-! ## Generations of their own -/

/-- What a recipient has to do with an object: a generation of a cache that is still held has a handle to it. -/
def Speaks (w : World σ) (i : Nat) : Recipient → Prop
  | .tally _ => True
  | .cache n generation => ∃ cell, w.caches[n]? = some cell ∧ generation ≤ cell.cache.generation ∧
      ∀ entry, cell.cache.cached = some entry → entry.generation = generation → entry.handle.object = .process i

/-- Every object tells of its death only the generations that have handles to it. -/
def Assigned (w : World σ) : Prop :=
  ∀ i r, w.directory.Pending i r → w.Speaks i r

/-- Caches stay, those that are resolved anew are of a new generation, and new recipients speak for their object. -/
structure Onward (w w' : World σ) : Prop where
  cells : ∀ (n : Nat) (cell : CacheCell), w.caches[n]? = some cell → ∃ cell', w'.caches[n]? = some cell' ∧
    cell'.name = cell.name ∧ cell.cache.generation ≤ cell'.cache.generation ∧
    ∀ entry, cell'.cache.cached = some entry → cell.cache.cached = some entry ∨ cell.cache.generation < entry.generation
  pending : ∀ i r, w'.directory.Pending i r → w.directory.Pending i r ∨ w'.Speaks i r

/-- Who speaks for a cache goes on to do so. -/
theorem Onward.speaks (h : w.Onward w') {r : Recipient} (hr : w.Speaks i r) : w'.Speaks i r := by
  cases r with
  | tally m => trivial
  | cache n generation =>
    obtain ⟨cell, hcell, hle, hentry⟩ := hr
    obtain ⟨cell', hcell', -, hgeneration, hcached⟩ := h.cells n cell hcell
    refine ⟨cell', hcell', Nat.le_trans hle hgeneration, fun entry he hg => ?_⟩
    rcases hcached entry he with hold | hnew
    · exact hentry entry hold hg
    · omega

/-- Recipients stay assigned. -/
theorem Onward.assigned (h : w.Onward w') (hw : w.Assigned) : w'.Assigned := by
  intro i r hr
  rcases h.pending i r hr with hold | hnew
  · exact h.speaks (hw i r hold)
  · exact hnew

theorem Onward.refl (w : World σ) : w.Onward w :=
  ⟨fun _ cell hcell => ⟨cell, hcell, rfl, Nat.le_refl _, fun _ he => .inl he⟩, fun _ _ hr => .inl hr⟩

/-- Worlds go onward one from another. -/
theorem Onward.trans (h : w.Onward w') (h' : w'.Onward w'') : w.Onward w'' where
  cells n cell hcell := by
    obtain ⟨cell', hcell', hname, hle, hcached⟩ := h.cells n cell hcell
    obtain ⟨cell'', hcell'', hname', hle', hcached'⟩ := h'.cells n cell' hcell'
    refine ⟨cell'', hcell'', hname'.trans hname, Nat.le_trans hle hle', fun entry he => ?_⟩
    rcases hcached' entry he with he | hnew
    · exact hcached entry he
    · exact .inr (Nat.lt_of_le_of_lt hle hnew)
  pending i r hr := by
    rcases h'.pending i r hr with hr | hr
    · rcases h.pending i r hr with hr | hr
      · exact .inl hr
      · exact .inr (h'.speaks hr)
    · exact .inr hr

/-- Caches that lose at most their handles. -/
theorem Onward.of_cells (hcells : ∀ (n : Nat) (cell : CacheCell), w.caches[n]? = some cell → ∃ cell',
      w'.caches[n]? = some cell' ∧ cell'.name = cell.name ∧ cell.cache.generation ≤ cell'.cache.generation ∧
      ∀ entry, cell'.cache.cached = some entry → cell.cache.cached = some entry)
    (hpending : ∀ i r, w'.directory.Pending i r → w.directory.Pending i r ∨ w'.Speaks i r) : w.Onward w' := by
  refine ⟨fun n cell hcell => ?_, hpending⟩
  obtain ⟨cell', hcell', hname, hle, hcached⟩ := hcells n cell hcell
  exact ⟨cell', hcell', hname, hle, fun entry he => .inl (hcached entry he)⟩

/-- Where the caches are the same, only the recipients count. -/
theorem Onward.of_caches (hcaches : w'.caches = w.caches)
    (hpending : ∀ i r, w'.directory.Pending i r → w.directory.Pending i r ∨ w'.Speaks i r) : w.Onward w' :=
  .of_cells (fun _ cell hcell => ⟨cell, by rw [hcaches, hcell], rfl, Nat.le_refl _, fun _ he => he⟩) hpending

/-- A new cache goes onward. -/
theorem onward_withNewCache (registrar : Registrar) (name : String) : w.Onward (w.withNewCache registrar name) := by
  refine .of_cells (fun n cell hcell => ?_) fun _ _ hr => .inl hr
  have hlt := (List.getElem?_eq_some_iff.mp hcell).1
  refine ⟨cell, ?_, rfl, Nat.le_refl _, fun _ he => he⟩
  rw [getElem?_caches_withNewCache, if_neg (Nat.ne_of_lt hlt), hcell]

/-- So does the drop of one. -/
theorem onward_withoutCache (m : Nat) : w.Onward (w.withoutCache m) := by
  refine .of_cells (fun n cell hcell => ?_) fun _ _ hr => .inl hr
  by_cases hn : m = n
  · refine ⟨{ cell with dropped := true }, ?_, rfl, Nat.le_refl _, fun _ he => he⟩
    rw [getElem?_caches_withoutCache, if_pos hn, hcell, Option.map_some]
  · refine ⟨cell, ?_, rfl, Nat.le_refl _, fun _ he => he⟩
    rw [getElem?_caches_withoutCache, if_neg hn, hcell]

theorem onward_withoutCache? (m : Option Nat) : w.Onward (w.withoutCache? m) := by
  cases m with
  | none => exact .refl w
  | some m => exact onward_withoutCache m

end World

namespace Directory

variable {d : Directory σ Recipient} {i : Nat} {o : LocalObject σ Recipient}

/-- A change of one object that leaves its recipients alone, and wakes no dead object. -/
theorem Pending.of_update {f : LocalObject σ Recipient → LocalObject σ Recipient}
    (hf : ∀ o, (f o).alive = o.alive ∧ (f o).recipients = o.recipients) {j : Nat} {r : Recipient}
    (h : (d.update i f).Pending j r) : d.Pending j r := by
  obtain ⟨o', ho', halive, hr⟩ := h
  rw [object?_update] at ho'
  split at ho'
  · obtain ⟨o, ho, rfl⟩ := Option.map_eq_some_iff.mp ho'
    rw [(hf o).1] at halive
    rw [(hf o).2] at hr
    exact ⟨o, ho, halive, hr⟩
  · exact ⟨o', ho', halive, hr⟩

/-- Who waits after a recipient was accepted. -/
theorem Pending.of_accept (ho : d.object? i = some o) {r r' : Recipient} {j : Nat}
    (h : (d.update i fun _ => o.accept r).Pending j r') : d.Pending j r' ∨ j = i ∧ r' = r := by
  obtain ⟨o', ho', halive, hr⟩ := h
  by_cases hj : i = j
  · subst hj
    obtain rfl := Option.some.inj ((object?_update_self ho fun _ => o.accept r).symm.trans ho')
    rcases List.mem_append.mp hr with hr | hr
    · exact .inl ⟨o, ho, halive, hr⟩
    · exact .inr ⟨rfl, List.mem_singleton.mp hr⟩
  · rw [object?_update_of_ne hj] at ho'
    exact .inl ⟨o', ho', halive, hr⟩

/-- Nobody waits for the death of a new object. -/
theorem Pending.of_register {name : String} {service : Service σ} {j : Nat} {r : Recipient}
    (h : (d.register name service).2.Pending j r) : d.Pending j r := by
  obtain ⟨o', ho', halive, hr⟩ := h
  rw [object?_register] at ho'
  split at ho'
  · obtain rfl := Option.some.inj ho'
    cases hr
  · exact ⟨o', ho', halive, hr⟩

/-- A kill changes nothing, or is the end of a living object. -/
theorem kill_cases (d : Directory σ Recipient) (i : Nat) : d.kill i = ([], d) ∨
    ∃ o, d.object? i = some o ∧ o.alive = true ∧ d.kill i = (o.recipients, d.update i fun _ => o.ended) := by
  by_cases hdead : ∀ o, d.object? i = some o → o.alive = false
  · exact .inl (kill_of_dead hdead)
  · push Not at hdead
    obtain ⟨o, ho, halive⟩ := hdead
    have hlives := eq_true_of_ne_false halive
    exact .inr ⟨o, ho, hlives, kill_of_alive ho hlives⟩

/-- Those that a kill tells waited for it. -/
theorem pending_of_mem_kill {r : Recipient} (h : r ∈ (d.kill i).1) : d.Pending i r := by
  rcases kill_cases d i with hkill | ⟨o, ho, halive, hkill⟩
  · rw [hkill] at h
    cases h
  · rw [hkill] at h
    exact ⟨o, ho, halive, h⟩

/-- A kill makes nobody wait. -/
theorem Pending.of_kill {j : Nat} {r : Recipient} (h : (d.kill i).2.Pending j r) : d.Pending j r := by
  rcases kill_cases d i with hkill | ⟨o, ho, -, hkill⟩
  · rw [hkill] at h
    exact h
  · rw [hkill] at h
    obtain ⟨o', ho', halive, hr⟩ := h
    by_cases hj : i = j
    · subst hj
      obtain rfl := Option.some.inj ((object?_update_self ho fun _ => o.ended).symm.trans ho')
      cases halive
    · rw [object?_update_of_ne hj] at ho'
      exact ⟨o', ho', halive, hr⟩

end Directory

/-! ## A death -/

namespace World

variable {w : World σ} {n i : Nat} {cell : CacheCell} {events : List DeathEvent}

/-- To kill costs nothing. -/
theorem charged_kill (i : Nat) (w : World σ) : w.directory.Charged ((kill i).run w).state.directory .free := by
  rw [(run_kill i w).2, directory_told]
  rcases Directory.kill_cases w.directory i with hkill | ⟨o, ho, -, hkill⟩
  · rw [hkill]
    exact .refl _
  · rw [hkill]
    exact Directory.charged_update_free ho rfl rfl

/-- To kill goes onward. -/
theorem onward_kill (i : Nat) (w : World σ) : w.Onward ((kill i).run w).state := by
  rw [(run_kill i w).2]
  refine .of_cells (fun n cell hcell => ?_) fun j r hr => .inl (Directory.Pending.of_kill hr)
  refine ⟨cell.told n (w.directory.kill i).1, getElem?_caches_told_of_cell hcell _, ?_, ?_, fun entry he => ?_⟩
  · rw [CacheCell.told_eq]
  · rw [CacheCell.generation_told]
  · rw [CacheCell.told] at he
    split at he
    · cases he
    · exact he

/-- The death of an object unresolves the caches that are resolved to it, and no others. -/
theorem Ledger.held?_kill (h : w.Ledger events) (hassigned : w.Assigned) (hn : w.hasCache n = true) :
    ((World.kill i).run w).state.held? n = (w.held? n).filter (· != i) := by
  obtain ⟨cell, hcell, hdropped⟩ := cell_of_hasCache hn
  have hafter : ((World.kill i).run w).state.held? n = (cell.told n (w.directory.kill i).1).held? := by
    rw [(run_kill i w).2]
    exact held?_of_cell (getElem?_caches_told_of_cell hcell _)
  rw [hafter, held?_of_cell hcell]
  cases hcached : cell.cache.cached with
  | none => simp [CacheCell.told_of_unresolved hcached, CacheCell.held?, hcached]
  | some entry =>
    obtain ⟨hgeneration, j, hhandle, o, ho, halive, hpending⟩ := h.backed n cell hcell hdropped entry hcached
    have hheld : cell.held? = some j := by simp [CacheCell.held?, hcached, hhandle, ObjectRef.process?]
    rw [hheld]
    by_cases hj : j = i
    · subst hj
      rw [Directory.kill_of_alive ho halive, CacheCell.told_of_mem hcached hdropped hpending, Option.filter_some,
        bne_self_eq_false, if_neg Bool.false_ne_true]
      rfl
    · -- The object that dies tells only generations that have handles to it, and this one has a handle to another.
      have hspared : cell.isTold n (w.directory.kill i).1 = false := by
        by_contra htold
        simp only [CacheCell.isTold, hdropped, hcached, Option.any_some, Bool.not_false, Bool.true_and, Bool.not_eq_false,
          List.contains_iff_mem] at htold
        obtain ⟨cell', hcell', -, hentry⟩ := hassigned i _ (Directory.pending_of_mem_kill htold)
        obtain rfl := Option.some.inj (hcell.symm.trans hcell')
        have hsame := hentry entry hcached rfl
        rw [hhandle] at hsame
        exact hj (ObjectRef.process.inj hsame)
      rw [CacheCell.told_of_not_isTold hspared, hheld, Option.filter_some, if_pos (bne_iff_ne.mpr hj)]

/-! ## A `get` -/

/-- How the `get` of a cache may go: what it returns, and the world behind it. -/
inductive Gets (n : Nat) (w : World σ) (cell : CacheCell) : Option Handle → World σ → Prop where
  /-- The cache is resolved. -/
  | held {entry : Cached Handle} {i : Nat} (hcached : cell.cache.cached = some entry)
      (hobject : entry.handle.object = .process i) : Gets n w cell (some entry.handle) w
  /-- The name stands for no living object. -/
  | missed (hcached : cell.cache.cached = none) (hfind : w.directory.find? cell.name = none) :
      Gets n w cell none (w.withDirectory (w.directory.lookup cell.name).2)
  /-- The living object refuses the link. -/
  | refused {i : Nat} {o : LocalObject σ Recipient} (hcached : cell.cache.cached = none)
      (hfind : w.directory.find? cell.name = some i) (ho : w.directory.object? i = some o) (hfail : o.failLinks = true) :
      Gets n w cell none ((w.withDirectory (w.directory.lookup cell.name).2).withCache n ⟨none, cell.cache.generation + 1⟩)
  /-- The living object accepts the link. -/
  | linked {i : Nat} {o : LocalObject σ Recipient} (hcached : cell.cache.cached = none)
      (hfind : w.directory.find? cell.name = some i) (ho : w.directory.object? i = some o) (hfail : o.failLinks = false) :
      Gets n w cell (some ⟨n, cell.cache.generation + 1, .process i⟩)
        ((w.withDirectory ((w.directory.lookup cell.name).2.update i fun _ =>
          o.accept (.cache n (cell.cache.generation + 1)))).withCache n
          ⟨some ⟨⟨n, cell.cache.generation + 1, .process i⟩, cell.cache.generation + 1⟩, cell.cache.generation + 1⟩)

/-- A `get` goes in one of these ways. -/
theorem Ledger.gets (h : w.Ledger events) (hcell : w.caches[n]? = some cell) (hdropped : cell.dropped = false) :
    ∃ answer, ((cacheGet n).run w).value = some answer ∧ Gets n w cell answer ((cacheGet n).run w).state := by
  have hregistrar := h.registrar n cell hcell
  cases hcached : cell.cache.cached with
  | some entry =>
    obtain ⟨hv, hs⟩ := run_cacheGet_of_resolved hcell hcached
    obtain ⟨-, i, hhandle, -⟩ := h.backed n cell hcell hdropped entry hcached
    refine ⟨_, hv, ?_⟩
    rw [hs]
    exact .held hcached (by rw [hhandle])
  | none =>
    cases hfind : w.directory.find? cell.name with
    | none =>
      obtain ⟨hv, hs⟩ := run_cacheGet_of_missed h.manual hcell hregistrar hcached hfind
      exact ⟨_, hv, hs ▸ .missed hcached hfind⟩
    | some i =>
      obtain ⟨-, o, ho, halive⟩ := Directory.find?_eq_some_iff.mp hfind
      cases hfail : o.failLinks with
      | true =>
        obtain ⟨hv, hs⟩ := run_cacheGet_of_refused h.manual hcell hregistrar hcached hfind ho hfail
        exact ⟨_, hv, hs ▸ .refused hcached hfind ho hfail⟩
      | false =>
        obtain ⟨hv, hs⟩ := run_cacheGet_of_linked h.manual hcell hregistrar hcached hfind ho halive hfail
        exact ⟨_, hv, hs ▸ .linked hcached hfind ho hfail⟩

/-- What a `get` counts: a resolved cache counts nothing, any other a lookup, and a link if there is an object that accepts it. -/
def getCharge (found : Option Nat) : Option Nat → Charge
  | some _ => .free
  | none => ⟨1, found.toList, []⟩

namespace Gets

variable {answer : Option Handle} {w' : World σ} (h : Gets n w cell answer w') (hcell : w.caches[n]? = some cell)

include h

/-- A get calls no service. -/
theorem backend : w'.backend = w.backend := by
  cases h <;> rfl

include hcell

/-- The handle is one to the object that the cache is resolved to, or else to the one that is found. -/
theorem object :
    answer.map (·.object) = ((w.held? n).or (w.directory.accepting? cell.name)).map .process := by
  rw [held?_of_cell hcell, CacheCell.held?]
  cases h with
  | held hcached hobject => simp [hcached, hobject, ObjectRef.process?]
  | missed hcached hfind => simp [hcached, Directory.accepting?_of_missed hfind]
  | refused hcached hfind ho hfail => simp [hcached, Directory.accepting?_of_find hfind ho, hfail]
  | linked hcached hfind ho hfail => simp [hcached, Directory.accepting?_of_find hfind ho, hfail]

/-- It costs what is charged for a get. -/
theorem charged :
    w.directory.Charged w'.directory (getCharge (w.directory.accepting? cell.name) (w.held? n)) := by
  have hlookup := Directory.charged_lookup cell.name w.directory
  rw [held?_of_cell hcell, CacheCell.held?]
  cases h with
  | held hcached hobject =>
    rw [hcached, Option.bind_some, hobject]
    exact .refl _
  | missed hcached hfind =>
    rw [hcached, Option.bind_none, Directory.accepting?_of_missed hfind]
    exact hlookup
  | refused hcached hfind ho hfail =>
    rw [hcached, Option.bind_none, Directory.accepting?_of_find hfind ho, if_pos hfail]
    exact hlookup
  | linked hcached hfind ho hfail =>
    rw [hcached, Option.bind_none, Directory.accepting?_of_find hfind ho, hfail]
    exact hlookup.and (Directory.charged_accept (d := (w.directory.lookup cell.name).2) ho _)

/-- What the caches are resolved to afterwards. -/
theorem held?_eq (m : Nat) :
    w'.held? m = if n = m then (w.held? n).or (w.directory.accepting? cell.name) else w.held? m := by
  have hunresolved : cell.cache.cached = none → w.held? n = none := by
    intro hcached
    rw [held?_of_cell hcell, CacheCell.held?, hcached, Option.bind_none]
  cases h with
  | held hcached hobject =>
    split
    · next hm => simp [← hm, held?_of_cell hcell, CacheCell.held?, hcached, hobject, ObjectRef.process?]
    · rfl
  | missed hcached hfind =>
    rw [hunresolved hcached, Directory.accepting?_of_missed hfind]
    split
    · next hm =>
      rw [← hm]
      exact hunresolved hcached
    · rfl
  | refused hcached hfind ho hfail =>
    rw [hunresolved hcached, Directory.accepting?_of_find hfind ho, if_pos hfail]
    exact held?_withCache (w := w.withDirectory (w.directory.lookup cell.name).2) hcell _ m
  | linked hcached hfind ho hfail =>
    rw [hunresolved hcached, Directory.accepting?_of_find hfind ho, hfail]
    exact held?_withCache (w := w.withDirectory _) hcell _ m

/-- It goes onward. -/
theorem onward : w.Onward w' := by
  have hkept : ∀ (w₁ : World σ) (cache : Cache Handle), w₁.caches = w.caches → cell.cache.generation ≤ cache.generation →
      (∀ entry, cache.cached = some entry → cell.cache.generation < entry.generation) →
      (∀ i r, w₁.directory.Pending i r → w.directory.Pending i r ∨ (w₁.withCache n cache).Speaks i r) →
      w.Onward (w₁.withCache n cache) := by
    intro w₁ cache hcaches hle hnew hpending
    refine ⟨fun m old hold => ?_, hpending⟩
    rw [← hcaches] at hold
    by_cases hm : n = m
    · subst hm
      obtain rfl := Option.some.inj (hold.symm.trans (hcaches ▸ hcell))
      exact ⟨_, getElem?_caches_withCache_self hold cache, rfl, hle, fun entry he => .inr (hnew entry he)⟩
    · refine ⟨old, ?_, rfl, Nat.le_refl _, fun _ he => .inl he⟩
      rw [getElem?_caches_withCache, if_neg hm, hold]
  cases h with
  | held => exact .refl w
  | missed => exact .of_caches rfl fun _ _ hr => .inl hr
  | refused hcached hfind ho hfail => exact hkept _ _ rfl (Nat.le_succ _) nofun fun _ _ hr => .inl hr
  | @linked i o hcached hfind ho hfail =>
    refine hkept _ _ rfl (Nat.le_succ _) ?_ fun j r hr => ?_
    · rintro entry ⟨⟩
      exact Nat.lt_succ_self _
    · rcases Directory.Pending.of_accept (d := (w.directory.lookup cell.name).2) ho hr with hr | ⟨rfl, rfl⟩
      · exact .inl hr
      · refine .inr ⟨_, getElem?_caches_withCache_self (w := w.withDirectory _) hcell _, Nat.le_refl _, ?_⟩
        rintro entry ⟨⟩ -
        rfl

omit hcell in
/-- No object answers otherwise than before. -/
theorem answers {i : Nat} {o' : LocalObject σ Recipient} (ho' : w'.directory.object? i = some o') :
    ∃ o, w.directory.object? i = some o ∧ o'.alive = o.alive ∧ o'.answer = o.answer := by
  cases h with
  | held | missed | refused => exact ⟨o', ho', rfl, rfl⟩
  | @linked j o hcached hfind ho hfail =>
    have hobject : ((w.directory.lookup cell.name).2.update j fun _ =>
        o.accept (.cache n (cell.cache.generation + 1))).object? i = some o' := ho'
    by_cases hi : j = i
    · subst hi
      rw [Directory.object?_update_self (d := (w.directory.lookup cell.name).2) ho] at hobject
      obtain rfl := Option.some.inj hobject
      exact ⟨o, ho, rfl, rfl⟩
    · rw [Directory.object?_update_of_ne hi] at hobject
      exact ⟨o', hobject, rfl, rfl⟩

end Gets

end World

end Switchboard
