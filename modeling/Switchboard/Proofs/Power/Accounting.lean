import Switchboard.Proofs.Power.Costs
import Switchboard.Proofs.World.Registry

/-!
# Accounts of the facade

What the facades for the power statistics cost the registry of their process, through any steps of anybody. A `PowerBook` has the
states of all facades and the total of what was counted. Each step is entered into it (`PowerBook.enter`); what becomes of a
facade is told from its state in the book, the step, and what a lookup would find.

`accounting_law` says that after any steps the book is right: every facade is where the book says, and the registry has counted
the lookups, links and transactions of the book and no others. A facade is unconnected exactly if it never tried to connect or
its last attempt returned `false`. A query and a connection come to what the state of the facade says. Every step keeps the book
right (`RegistryLife.Booked.enter`), and so does a life, by induction on its steps (`RegistryLife.Booked.enterAll`).
-/

namespace Switchboard

variable {σ : Type}

/-! ## The book -/

/-- Where every facade of a process stands, and what was counted in its registry. -/
structure PowerBook where
  statuses : List PowerStatus
  total : Charge
deriving DecidableEq, Repr

namespace PowerBook

/-- Nothing happened yet. -/
def blank : PowerBook :=
  ⟨[], .free⟩

/-- What a step makes of the states of the facades. -/
def restate (x : RegistryLife σ) (a : RegistryStep σ) (statuses : List PowerStatus) : List PowerStatus :=
  match a with
  | .newFacade => statuses ++ [.unconnected]
  | .connect k => statuses.modify k fun _ => .attempt x.world.caches.length x.world.powerFound
  | .ask k _ _ => statuses.modify k (·.asked x.world.powerFound)
  | .get n => statuses.map (·.got n x.world.powerFound)
  | .kill i => statuses.map (·.without i)
  | _ => statuses

/-- What a step counts. -/
def charge (x : RegistryLife σ) (a : RegistryStep σ) (statuses : List PowerStatus) : Charge :=
  match a with
  | .connect k => if k < statuses.length then ⟨1, x.world.powerFound.toList, []⟩ else .free
  | .ask k _ _ => (statuses[k]?).elim .free (·.askCharge x.world.powerFound)
  | .link i _ => if (x.world.directory.object? i).any (·.accepts) then ⟨0, [i], []⟩ else .free
  | .transact i _ _ => ⟨0, [], [i]⟩
  | .lookup _ => ⟨1, [], []⟩
  | .get n => (x.world.caches[n]?).elim .free fun cell =>
    World.getCharge (x.world.directory.accepting? cell.name) (x.world.held? n)
  | _ => .free

/-- Enters a step. -/
def enter (x : RegistryLife σ) (a : RegistryStep σ) (b : PowerBook) : PowerBook :=
  ⟨restate x a b.statuses, b.total.and (charge x a b.statuses)⟩

/-- Enters the steps of a life, each in the state that it is taken in; a step that the life does not allow is not entered. -/
def enterAll (x : RegistryLife σ) : List (RegistryStep σ) → PowerBook → PowerBook
  | [], b => b
  | a :: rest, b => if x.allows a then enterAll (x.does a) rest (b.enter x a) else enterAll x rest b

end PowerBook

/-! ## Every step -/

namespace RegistryLife

variable {x : RegistryLife σ} {b : PowerBook}

/-- The book is right about a life. -/
structure Booked (x : RegistryLife σ) (b : PowerBook) : Prop where
  sound : x.Sound
  assigned : x.world.Assigned
  named : ∀ (k : Nat) f n, x.facades[k]? = some f → f.cache = some n →
    ∃ cell, x.world.caches[n]? = some cell ∧ cell.name = powerServiceName
  statuses : b.statuses = x.facades.map (·.status x.world)
  charged : Directory.empty.Charged x.world.directory b.total

/-- Before the first step the book is blank. -/
theorem booked_start (backend : σ) (dir : String) : Booked (start backend dir) .blank where
  sound := sound_start backend dir
  assigned i r hr := by
    obtain ⟨o, ho, -⟩ := hr
    cases ho
  named k f n hk := by cases hk
  statuses := rfl
  charged := .refl _

namespace Booked

variable {k n : Nat} {f : PowerFacade}

/-- The book has the status of every facade. -/
theorem status? (h : Booked x b) (k : Nat) : b.statuses[k]? = (x.facades[k]?).map (·.status x.world) := by
  rw [h.statuses, List.getElem?_map]

/-- The cache of a facade is there, and looks for the power statistics. -/
theorem cell (h : Booked x b) (hk : x.facades[k]? = some f) (hn : f.cache = some n) :
    ∃ cell, x.world.caches[n]? = some cell ∧ cell.dropped = false ∧ cell.name = powerServiceName := by
  obtain ⟨cell, hcell, hname⟩ := h.named k f n hk hn
  obtain ⟨cell', hcell', hdropped⟩ := World.cell_of_hasCache (h.sound.held k f n hk hn)
  obtain rfl := Option.some.inj (hcell.symm.trans hcell')
  exact ⟨cell, hcell, hdropped, hname⟩

/-- A facade in the book answers from its cache, and its query goes onward. -/
theorem asks (h : Booked x b) (hk : x.facades[k]? = some f) (q : PowerQuery) (ids : List Int32) :
    f.Asks x.world q ids ∧ x.world.Onward ((f.ask q ids).run x.world).state := by
  cases hn : f.cache with
  | none =>
    rw [PowerFacade.run_ask_of_unconnected q ids hn]
    exact ⟨World.asks_of_unconnected q ids hn, .refl _⟩
  | some n =>
    obtain ⟨cell, hcell, hdropped, hname⟩ := h.cell hk hn
    exact h.sound.ledger.asks q ids hn hcell hdropped hname

/-- It connects through a new cache, and that goes onward as well. -/
theorem connects (h : Booked x b) (hk : x.facades[k]? = some f) :
    f.Connects x.world ∧
      (x.world.withNewCache .process powerServiceName).Onward (f.connect.run x.world).state :=
  h.sound.ledger.connects (h.sound.registrar k f hk)

end Booked

/-- A query changes the world, and no facade. -/
theorem does_ask {k : Nat} {f : PowerFacade} (hk : x.facades[k]? = some f) (q : PowerQuery) (ids : List Int32) :
    (x.does (.ask k q ids)).world = ((f.ask q ids).run x.world).state ∧ (x.does (.ask k q ids)).facades = x.facades := by
  cases hn : f.cache with
  | none => simp [does, hk, hn, PowerFacade.run_ask_of_unconnected q ids hn]
  | some n => simp [does, hk, hn, doing]

/-- A connection changes the world and the facade that connects. -/
theorem does_connect {k : Nat} {f f' : PowerFacade} {ok : Bool} (hk : x.facades[k]? = some f)
    (hv : (f.connect.run x.world).value = some (ok, f')) :
    (x.does (.connect k)).world = (f.connect.run x.world).state ∧ (x.does (.connect k)).facades = x.facades.set k f' := by
  simp [does, hk, hv, doing]

namespace Booked

/-- Every step that is allowed goes onward. -/
theorem onward_does (h : Booked x b) (a : RegistryStep σ) (ha : x.allows a = true) : x.world.Onward (x.does a).world := by
  cases a with
  | register name service => exact .of_caches rfl fun j r hr => .inl (Directory.Pending.of_register hr)
  | remove name => exact .of_caches rfl fun _ _ hr => .inl hr
  | kill i => exact World.onward_kill i x.world
  | failTransactions i on =>
    exact .of_caches rfl fun _ _ hr =>
      .inl (Directory.Pending.of_update (f := fun o => { o with failTransactions := on }) (fun _ => ⟨rfl, rfl⟩) hr)
  | failLinks i on =>
    exact .of_caches rfl fun _ _ hr =>
      .inl (Directory.Pending.of_update (f := fun o => { o with failLinks := on }) (fun _ => ⟨rfl, rfl⟩) hr)
  | newTally => exact .of_caches rfl fun _ _ hr => .inl hr
  | link i m =>
    refine .of_caches rfl fun j r hr => ?_
    change (x.world.directory.link i (.tally m)).2.Pending j r at hr
    rcases x.world.directory.link_cases i (.tally m) with ⟨-, hlink⟩ | ⟨o, ho, -, hlink⟩
    · rw [hlink] at hr
      exact .inl hr
    · rw [hlink] at hr
      rcases Directory.Pending.of_accept ho hr with hr | ⟨-, rfl⟩
      · exact .inl hr
      · exact .inr trivial
  | transact i code data =>
    obtain ⟨o, ho⟩ := Option.isSome_iff_exists.mp ha
    exact World.onward_transact ho code data
  | lookup name =>
    have hrun := World.run_lookup_process name h.sound.ledger.manual
    rw [does, doing, hrun]
    exact .of_caches rfl fun _ _ hr => .inl hr
  | newCache name => exact World.onward_withNewCache .process name
  | get n =>
    obtain ⟨cell, hcell, hdropped⟩ := World.cell_of_hasCache ha
    obtain ⟨answer, -, hgets⟩ := h.sound.ledger.gets hcell hdropped
    exact hgets.onward hcell
  | dropCache n => exact World.onward_withoutCache n
  | newFacade => exact .refl _
  | connect k =>
    cases hk : x.facades[k]? with
    | none =>
      rw [does, hk]
      exact .refl _
    | some f =>
      obtain ⟨hconnects, honward⟩ := h.connects hk
      rw [(does_connect hk hconnects.value).1]
      exact (World.onward_withNewCache .process powerServiceName).trans honward
  | ask k q ids =>
    cases hk : x.facades[k]? with
    | none =>
      rw [does, hk]
      exact .refl _
    | some f =>
      rw [(does_ask hk q ids).1]
      exact (h.asks hk q ids).2
  | elsewhere f => exact .of_caches rfl fun _ _ hr => .inl hr

/-- It costs what the book charges for it. -/
theorem charged_does (h : Booked x b) (a : RegistryStep σ) (ha : x.allows a = true) :
    x.world.directory.Charged (x.does a).world.directory (PowerBook.charge x a b.statuses) := by
  cases a with
  | register name service => exact Directory.charged_register name service _
  | remove name => exact ⟨rfl, fun _ => rfl, fun _ => rfl⟩
  | kill i => exact World.charged_kill i x.world
  | failTransactions i on | failLinks i on =>
    obtain ⟨o, ho⟩ := Option.isSome_iff_exists.mp ha
    exact Directory.charged_update_free ho rfl rfl
  | newTally => exact .refl _
  | link i m =>
    change x.world.directory.Charged (x.world.directory.link i (.tally m)).2 _
    rcases x.world.directory.link_cases i (.tally m) with ⟨hrefuses, hlink⟩ | ⟨o, ho, haccepts, hlink⟩
    · rw [hlink, PowerBook.charge, hrefuses]
      exact .refl _
    · rw [hlink, PowerBook.charge, ho, Option.any_some, haccepts]
      exact Directory.charged_accept ho _
  | transact i code data =>
    obtain ⟨o, ho⟩ := Option.isSome_iff_exists.mp ha
    have hstate := (World.run_transact_object code data ho).2
    rw [does, doing, hstate]
    exact Directory.charged_count ho
  | lookup name =>
    have hrun := World.run_lookup_process name h.sound.ledger.manual
    rw [does, doing, hrun]
    exact Directory.charged_lookup name _
  | newCache name => exact .refl _
  | get n =>
    obtain ⟨cell, hcell, hdropped⟩ := World.cell_of_hasCache ha
    obtain ⟨answer, -, hgets⟩ := h.sound.ledger.gets hcell hdropped
    rw [PowerBook.charge, hcell, Option.elim_some]
    exact hgets.charged hcell
  | dropCache n => exact .refl _
  | newFacade => exact .refl _
  | connect k =>
    have hlength : b.statuses.length = x.facades.length := by rw [h.statuses, List.length_map]
    cases hk : x.facades[k]? with
    | none =>
      rw [PowerBook.charge, hlength, if_neg (Nat.not_lt.mpr (List.getElem?_eq_none_iff.mp hk)), does, hk]
      exact .refl _
    | some f =>
      obtain ⟨hconnects, -⟩ := h.connects hk
      rw [PowerBook.charge, hlength, if_pos (List.getElem?_eq_some_iff.mp hk).1, (does_connect hk hconnects.value).1]
      exact hconnects.charged
  | ask k q ids =>
    rw [PowerBook.charge, h.status?]
    cases hk : x.facades[k]? with
    | none =>
      rw [does, hk]
      exact .refl _
    | some f =>
      rw [(does_ask hk q ids).1]
      exact (h.asks hk q ids).1.charged
  | elsewhere f => exact .refl _

/-- A step that resolves and unresolves no cache. -/
theorem statuses_of_held (h : Booked x b) {facades : List PowerFacade} {w : World σ} (hfacades : facades = x.facades)
    (hheld : ∀ n, w.held? n = x.world.held? n) : b.statuses = facades.map (·.status w) := by
  rw [h.statuses, hfacades]
  exact List.map_congr_left fun f _ => (PowerFacade.status_congr fun n _ => hheld n).symm

/-- The states of the facades with one of them changed. -/
theorem status?_modify (h : Booked x b) (k j : Nat) (change : PowerStatus → PowerStatus) :
    (b.statuses.modify k change)[j]? =
      (x.facades[j]?).map fun f => if k = j then change (f.status x.world) else f.status x.world := by
  rw [List.getElem?_modify, h.status?]
  cases x.facades[j]? <;> rfl

/-- Nothing changes about a facade that is not there. -/
theorem modify_of_absent (h : Booked x b) {k : Nat} (hk : x.facades[k]? = none) (change : PowerStatus → PowerStatus) :
    b.statuses.modify k change = x.facades.map (·.status x.world) := by
  have hlength : b.statuses.length ≤ k := by
    rw [h.statuses, List.length_map]
    exact List.getElem?_eq_none_iff.mp hk
  rw [List.modify_eq_self hlength, h.statuses]

/-- A killed object goes out of every status. -/
theorem restate_kill (h : Booked x b) (i : Nat) :
    b.statuses.map (·.without i) = x.facades.map (·.status (x.does (.kill i)).world) := by
  rw [h.statuses, List.map_map]
  refine List.map_congr_left fun f hf => ?_
  obtain ⟨k, hk⟩ := List.mem_iff_getElem?.mp hf
  rw [Function.comp_apply]
  cases hn : f.cache with
  | none => rw [PowerFacade.status_of_none hn, PowerFacade.status_of_none hn, PowerStatus.without]
  | some n =>
    have hheld := h.sound.ledger.held?_kill (i := i) h.assigned (h.sound.held k f n hk hn)
    rw [PowerFacade.status_of_cache hn, PowerFacade.status_of_cache hn, PowerStatus.without]
    exact congrArg _ hheld.symm

/-- A handle that is got stands in the status of the facade with that cache. -/
theorem restate_get (h : Booked x b) {n : Nat} (hn : x.world.hasCache n = true) :
    b.statuses.map (·.got n x.world.powerFound) = x.facades.map (·.status (x.does (.get n)).world) := by
  obtain ⟨cell, hcell, hdropped⟩ := World.cell_of_hasCache hn
  obtain ⟨answer, -, hgets⟩ := h.sound.ledger.gets hcell hdropped
  rw [h.statuses, List.map_map]
  refine List.map_congr_left fun f hf => ?_
  obtain ⟨k, hk⟩ := List.mem_iff_getElem?.mp hf
  rw [Function.comp_apply]
  cases hm : f.cache with
  | none => rw [PowerFacade.status_of_none hm, PowerFacade.status_of_none hm, PowerStatus.got]
  | some m =>
    have hheld : (x.does (.get n)).world.held? m = _ := hgets.held?_eq hcell m
    rw [PowerFacade.status_of_cache hm, PowerFacade.status_of_cache hm, PowerStatus.got, hheld]
    by_cases hnm : n = m
    · subst hnm
      obtain ⟨cell', hcell', -, hname⟩ := h.cell hk hm
      obtain rfl := Option.some.inj (hcell.symm.trans hcell')
      rw [if_pos rfl, if_pos rfl, hname]
      rfl
    · rw [if_neg hnm, if_neg (Ne.symm hnm)]

/-- So does one that a query gets. -/
theorem restate_ask (h : Booked x b) (k : Nat) (q : PowerQuery) (ids : List Int32) :
    b.statuses.modify k (·.asked x.world.powerFound) =
      (x.does (.ask k q ids)).facades.map (·.status (x.does (.ask k q ids)).world) := by
  cases hk : x.facades[k]? with
  | none =>
    rw [h.modify_of_absent hk, does, hk]
  | some f =>
    have hheld := (h.asks hk q ids).1.held
    obtain ⟨hworld, hfacades⟩ := does_ask hk q ids
    rw [hworld, hfacades]
    refine List.ext_getElem? fun j => ?_
    rw [h.status?_modify, List.getElem?_map]
    cases hj : x.facades[j]? with
    | none => rfl
    | some g =>
      rw [Option.map_some, Option.map_some]
      congr 1
      cases hn : g.cache with
      | none =>
        rw [PowerFacade.status_of_none hn, PowerFacade.status_of_none hn]
        split <;> rfl
      | some n =>
        rw [PowerFacade.status_of_cache hn, PowerFacade.status_of_cache hn, hheld n]
        by_cases hkj : k = j
        · subst hkj
          obtain rfl := Option.some.inj (hk.symm.trans hj)
          rw [if_pos rfl, if_pos hn]
          rfl
        · have hown : f.cache ≠ some n := fun hf => hkj (h.sound.own k j f g n hk hj hf hn)
          rw [if_neg hkj, if_neg hown]

/-- A connection makes the facade's status a new one. -/
theorem restate_connect (h : Booked x b) (k : Nat) :
    (b.statuses.modify k fun _ => .attempt x.world.caches.length x.world.powerFound) =
      (x.does (.connect k)).facades.map (·.status (x.does (.connect k)).world) := by
  cases hk : x.facades[k]? with
  | none =>
    rw [h.modify_of_absent hk, does, hk]
  | some f =>
    have hconnects := (h.connects hk).1
    obtain ⟨hworld, hfacades⟩ := does_connect hk hconnects.value
    rw [hworld, hfacades]
    refine List.ext_getElem? fun j => ?_
    rw [h.status?_modify, List.getElem?_map, List.getElem?_set]
    by_cases hkj : k = j
    · subst hkj
      rw [if_pos rfl, if_pos (List.getElem?_eq_some_iff.mp hk).1, hk, Option.map_some, Option.map_some, if_pos rfl,
        PowerStatus.attempt, PowerFacade.status]
      split
      · rw [Option.elim_some, hconnects.held, if_pos rfl]
      · rfl
    · rw [if_neg hkj]
      cases hj : x.facades[j]? with
      | none => rfl
      | some g =>
        rw [Option.map_some, Option.map_some, if_neg hkj]
        refine congrArg some (PowerFacade.status_congr fun n hn => ?_).symm
        have hlt := World.lt_of_hasCache (h.sound.held j g n hj hn)
        rw [hconnects.held, if_neg (Nat.ne_of_lt hlt)]

/-- After every step that is allowed the book states the facades as they are. -/
theorem restate_does (h : Booked x b) (a : RegistryStep σ) (ha : x.allows a = true) :
    PowerBook.restate x a b.statuses = (x.does a).facades.map (·.status (x.does a).world) := by
  cases a with
  | register | remove | failTransactions | failLinks | newTally | link | elsewhere =>
    exact h.statuses_of_held rfl fun _ => rfl
  | kill i => exact h.restate_kill i
  | transact i code data =>
    obtain ⟨o, ho⟩ := Option.isSome_iff_exists.mp ha
    refine h.statuses_of_held rfl fun n => ?_
    rw [does, doing, (World.run_transact_object code data ho).2]
    rfl
  | lookup name =>
    have hrun := World.run_lookup_process name h.sound.ledger.manual
    refine h.statuses_of_held rfl fun n => ?_
    rw [does, doing, hrun]
    rfl
  | newCache name => exact h.statuses_of_held rfl fun n => World.held?_withNewCache .process name n
  | get n => exact h.restate_get ha
  | dropCache n => exact h.statuses_of_held rfl fun m => World.held?_withoutCache n m
  | newFacade =>
    rw [PowerBook.restate, h.statuses, does, List.map_append]
    rfl
  | connect k => exact h.restate_connect k
  | ask k q ids => exact h.restate_ask k q ids

/-- The caches of facades look for the power statistics. -/
theorem named_does (h : Booked x b) (a : RegistryStep σ) (ha : x.allows a = true) (k : Nat) (f : PowerFacade) (n : Nat)
    (hk : (x.does a).facades[k]? = some f) (hn : f.cache = some n) :
    ∃ cell, (x.does a).world.caches[n]? = some cell ∧ cell.name = powerServiceName := by
  have hold : ∀ k : Nat, x.facades[k]? = some f →
      ∃ cell, (x.does a).world.caches[n]? = some cell ∧ cell.name = powerServiceName := by
    intro k hk
    obtain ⟨cell, hcell, hname⟩ := h.named k f n hk hn
    obtain ⟨cell', hcell', hname', -⟩ := (h.onward_does a ha).cells n cell hcell
    exact ⟨cell', hcell', hname'.trans hname⟩
  cases a with
  | newFacade =>
    change (x.facades ++ [.new .process])[k]? = some f at hk
    rcases List.mem_append.mp (List.mem_of_getElem? hk) with hf | hf
    · obtain ⟨j, hj⟩ := List.mem_iff_getElem?.mp hf
      exact hold j hj
    · obtain rfl := List.mem_singleton.mp hf
      cases hn
  | connect j =>
    cases hj : x.facades[j]? with
    | none =>
      refine hold k ?_
      rw [does, hj] at hk
      exact hk
    | some g =>
      obtain ⟨hconnects, honward⟩ := h.connects hj
      obtain ⟨hworld, hfacades⟩ := does_connect hj hconnects.value
      rw [hfacades] at hk
      rcases eq_or_of_getElem?_set hk with ⟨-, rfl⟩ | ⟨-, hk⟩
      · obtain rfl : x.world.caches.length = n := by
          dsimp only at hn
          split at hn
          · exact Option.some.inj hn
          · cases hn
        obtain ⟨cell, hcell, hname, -⟩ := honward.cells x.world.caches.length _
          ((World.getElem?_caches_withNewCache .process powerServiceName _).trans (if_pos rfl))
        rw [hworld]
        exact ⟨cell, hcell, hname⟩
      · exact hold k hk
  | ask j q ids =>
    refine hold k ?_
    cases hj : x.facades[j]? with
    | none =>
      rw [does, hj] at hk
      exact hk
    | some g =>
      rw [(does_ask hj q ids).2] at hk
      exact hk
  | _ => exact hold k hk

/-- A step that is entered keeps the book right. -/
theorem enter (h : Booked x b) (a : RegistryStep σ) (ha : x.allows a = true) : Booked (x.does a) (b.enter x a) where
  sound := h.sound.does a ha
  assigned := (h.onward_does a ha).assigned h.assigned
  named := h.named_does a ha
  statuses := h.restate_does a ha
  charged := h.charged.and (h.charged_does a ha)

/-- So it is after any steps. -/
theorem enterAll (h : Booked x b) (steps : List (RegistryStep σ)) : Booked (x.after steps) (b.enterAll x steps) := by
  induction steps generalizing x b with
  | nil => exact h
  | cons a rest ih =>
    change Booked ((if x.allows a then x.does a else x).after rest) _
    rw [PowerBook.enterAll]
    split
    · next ha => exact ih (h.enter a ha)
    · exact ih h

end Booked

end RegistryLife

/-! ## Attempts -/

namespace RegistryLife

variable {x : RegistryLife σ} {b : PowerBook}

/-- What a step returns to whoever tries to connect the facade of that number. -/
def returned (k : Nat) (x : RegistryLife σ) : RegistryStep σ → List Bool
  | .connect j => if j = k then ((x.facades[j]?).bind fun f => (f.connect.run x.world).value.map (·.1)).toList else []
  | _ => []

/-- What the attempts to connect the facade of that number returned, in their order. -/
def attempts (k : Nat) (x : RegistryLife σ) : List (RegistryStep σ) → List Bool
  | [] => []
  | a :: rest => if x.allows a then x.returned k a ++ attempts k (x.does a) rest else attempts k x rest

/-- A facade has a cache exactly if its last attempt returned `true`; one that is not there has none. -/
def Tried (x : RegistryLife σ) (past : Nat → List Bool) : Prop :=
  ∀ k, ((x.facades[k]?).bind (·.cache)).isSome = (past k).getLast?.getD false

/-- Nobody has tried anything new where the facades are the same. -/
theorem Tried.of_facades {past : Nat → List Bool} (h : x.Tried past) {y : RegistryLife σ} (hfacades : y.facades = x.facades) :
    y.Tried fun k => past k ++ [] := by
  intro k
  dsimp only
  rw [hfacades, List.append_nil]
  exact h k

/-- A step adds what it has returned to the attempts of the facade. -/
theorem Booked.tried_does (hb : Booked x b) {past : Nat → List Bool} (h : x.Tried past) (a : RegistryStep σ) :
    (x.does a).Tried fun k => past k ++ x.returned k a := by
  cases a with
  | connect j =>
    cases hj : x.facades[j]? with
    | none =>
      intro k
      have hsame : x.does (.connect j) = x := by rw [does, hj]
      dsimp only
      rw [hsame, returned, hj, Option.bind_none, Option.toList_none, ite_self, List.append_nil]
      exact h k
    | some f =>
      have hvalue := (hb.connects hj).1.value
      intro k
      dsimp only
      rw [(does_connect hj hvalue).2, returned, hj, Option.bind_some, hvalue, List.getElem?_set]
      by_cases hk : j = k
      · rw [if_pos hk, if_pos hk, if_pos (List.getElem?_eq_some_iff.mp hj).1]
        cases hfound : x.world.powerFound <;> simp
      · rw [if_neg hk, if_neg hk, List.append_nil]
        exact h k
  | newFacade =>
    intro k
    have hold := h k
    dsimp only [returned, does]
    rw [List.append_nil, List.getElem?_append]
    split
    · exact hold
    · next hk =>
      rw [List.getElem?_eq_none (Nat.not_lt.mp hk)] at hold
      rw [← hold]
      cases hnew : ([.new .process] : List PowerFacade)[k - x.facades.length]? with
      | none => rfl
      | some f =>
        obtain rfl := List.mem_singleton.mp (List.mem_of_getElem? hnew)
        rfl
  | ask j q ids =>
    refine h.of_facades ?_
    cases hj : x.facades[j]? with
    | none => rw [does, hj]
    | some f => exact (does_ask hj q ids).2
  | _ => exact h.of_facades rfl

/-- So do any steps. -/
theorem Booked.tried_after (hb : Booked x b) {past : Nat → List Bool} (h : x.Tried past) (steps : List (RegistryStep σ)) :
    (x.after steps).Tried fun k => past k ++ x.attempts k steps := by
  induction steps generalizing x b past with
  | nil => exact h.of_facades rfl
  | cons a rest ih =>
    change RegistryLife.Tried ((if x.allows a then x.does a else x).after rest) _
    simp only [attempts]
    split
    · next ha =>
      simp only [← List.append_assoc]
      exact ih (hb.enter a ha) (hb.tried_does h a)
    · exact ih hb h

/-- A facade is unconnected unless its last attempt succeeded. -/
theorem Tried.unconnected_iff {past : Nat → List Bool} (h : x.Tried past) {k : Nat} {f : PowerFacade}
    (hk : x.facades[k]? = some f) : f.status x.world = .unconnected ↔ (past k).getLast? ≠ some true := by
  have hlast := h k
  rw [hk, Option.bind_some] at hlast
  cases hn : f.cache with
  | none =>
    rw [hn] at hlast
    refine iff_of_true (PowerFacade.status_of_none hn) fun htrue => ?_
    rw [htrue] at hlast
    cases hlast
  | some n =>
    rw [hn] at hlast
    have htrue : (past k).getLast? = some true := by
      cases hvalue : (past k).getLast? with
      | none => simp [hvalue] at hlast
      | some ok => simpa [hvalue] using hlast.symm
    refine iff_of_false (fun hnone => ?_) fun hother => hother htrue
    rw [PowerFacade.status_of_cache hn] at hnone
    cases hnone

end RegistryLife

/-! ## The law -/

/-- What the facades of a process cost its registry, and what they return. -/
structure AccountingLaw (x : RegistryLife σ) (b : PowerBook) (attempts : Nat → List Bool) : Prop where
  /-- A facade has no connection if it never tried, or if its last attempt returned `false`. -/
  latest : ∀ k f, x.facades[k]? = some f → (f.status x.world = .unconnected ↔ (attempts k).getLast? ≠ some true)
  /-- Every facade is where the book says: it has the cache of its last attempt if that was made, and the cache is resolved to
  the object in the book. -/
  statuses : x.facades.map (·.status x.world) = b.statuses
  /-- The registry has counted what is in the book. -/
  lookups : x.world.directory.lookups = b.total.lookups
  links : ∀ i o, x.world.directory.object? i = some o → o.links = b.total.linked.count i
  transactions : ∀ i o, x.world.directory.object? i = some o → o.transactions = b.total.asked.count i
  asks : ∀ f ∈ x.facades, ∀ q ids, f.Asks x.world q ids
  connects : ∀ f ∈ x.facades, f.Connects x.world

/-- The law holds after any steps. -/
theorem accounting_law (backend : σ) (dir : String) (steps : List (RegistryStep σ)) :
    AccountingLaw ((RegistryLife.start backend dir).after steps)
      (PowerBook.blank.enterAll (RegistryLife.start backend dir) steps)
      ((RegistryLife.start backend dir).attempts · steps) := by
  have hstart := RegistryLife.booked_start backend dir
  have h := hstart.enterAll steps
  have htried : ((RegistryLife.start backend dir).after steps).Tried fun k =>
      [] ++ (RegistryLife.start backend dir).attempts k steps := hstart.tried_after (fun _ => rfl) steps
  simp only [List.nil_append] at htried
  generalize (RegistryLife.start backend dir).after steps = x at h htried
  generalize PowerBook.blank.enterAll (RegistryLife.start backend dir) steps = b at h
  constructor
  case latest => exact fun k f hk => htried.unconnected_iff hk
  case statuses => exact h.statuses.symm
  case lookups => exact h.charged.lookups.trans (Nat.zero_add _)
  case links => exact fun i o ho => (h.charged.counts ho).1
  case transactions => exact fun i o ho => (h.charged.counts ho).2
  case asks =>
    intro f hf q ids
    obtain ⟨k, hk⟩ := List.mem_iff_getElem?.mp hf
    exact (h.asks hk q ids).1
  case connects =>
    intro f hf
    obtain ⟨k, hk⟩ := List.mem_iff_getElem?.mp hf
    exact (h.connects hk).1

/-! ### A restart -/

namespace Accounted

/-- The service comes after the first attempt to connect, fails, dies, is missed, and comes again. -/
def steps : List (RegistryStep Unit) :=
  [.newFacade, .ask 0 .meters [], .connect 0, .register powerServiceName .echo, .connect 0, .failTransactions 0 true,
    .ask 0 .meters [], .kill 0, .ask 0 .meters [], .register powerServiceName .echo, .ask 0 .meters []]

/-- What the book says of these steps, computed. -/
theorem enterAll_eq :
    PowerBook.blank.enterAll (.start () "d") steps = ⟨[.connected 1 (some 1)], ⟨4, [0, 1], [0, 1]⟩⟩ :=
  rfl

end Accounted

/-- Four names were looked up: by the first attempt in vain, by the second, behind the death in vain, and once more. Either object
accepted one link and was sent one query. -/
theorem restart_accounted :
    let x := (RegistryLife.start () "d").after Accounted.steps
    x.facades.map (·.status x.world) = [.connected 1 (some 1)] ∧ x.world.directory.lookups = 4 ∧
      ∀ i o, x.world.directory.object? i = some o → o.links = [0, 1].count i ∧ o.transactions = [0, 1].count i := by
  have hlaw := accounting_law () "d" Accounted.steps
  rw [Accounted.enterAll_eq] at hlaw
  exact ⟨hlaw.statuses, hlaw.lookups, fun i o ho => ⟨hlaw.links i o ho, hlaw.transactions i o ho⟩⟩

end Switchboard
