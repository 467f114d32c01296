import Mathlib
import Switchboard.Proofs.Socket.DeathLink

/-!
# Telling of deaths

What the notice of a death does to a world: a counting recipient counts one more, and a cache that was not dropped loses its
handle if the notice is of the generation that it holds. `World.told` is the world after a list of recipients was told, and
`World.run_tellAll` says that telling them comes to it, whatever their order.
-/

namespace Switchboard

namespace CacheCell

/-- Whether one of the recipients speaks for the handle of the cache of that number. -/
def isTold (n : Nat) (recipients : List Recipient) (cell : CacheCell) : Bool :=
  !cell.dropped && cell.cache.cached.any fun entry => recipients.contains (.cache n entry.generation)

/-- The cache of that number after the recipients were told. -/
def told (n : Nat) (recipients : List Recipient) (cell : CacheCell) : CacheCell :=
  if cell.isTold n recipients then { cell with cache := { cell.cache with cached := none } } else cell

variable {n : Nat} {recipients : List Recipient} {cell : CacheCell}

/-- A cache that is told of the death of its handle holds nothing any more. -/
theorem told_of_isTold (h : cell.isTold n recipients = true) :
    cell.told n recipients = { cell with cache := { cell.cache with cached := none } } :=
  if_pos h

/-- One that is told of another stays as it is. -/
theorem told_of_not_isTold (h : cell.isTold n recipients = false) : cell.told n recipients = cell :=
  if_neg (by simp [h])

/-- A cache that somebody speaks for loses its handle. -/
theorem told_of_mem {entry : Cached Handle} (hcached : cell.cache.cached = some entry) (hdropped : cell.dropped = false)
    (hmem : .cache n entry.generation ∈ recipients) :
    cell.told n recipients = { cell with cache := { cell.cache with cached := none } } :=
  told_of_isTold (by simp [isTold, hcached, hdropped, hmem])

/-- So does one that holds nothing. -/
theorem told_of_unresolved (hcached : cell.cache.cached = none) : cell.told n recipients = cell :=
  told_of_not_isTold (by simp [isTold, hcached])

@[simp] theorem told_nil : cell.told n [] = cell :=
  told_of_not_isTold (by simp [isTold])

/-- Being told of something changes at most the handle. -/
theorem told_eq (n : Nat) (recipients : List Recipient) (cell : CacheCell) :
    cell.told n recipients =
      { cell with cache := ⟨(cell.told n recipients).cache.cached, cell.cache.generation⟩ } := by
  unfold told
  split <;> rfl

@[simp] theorem registrar_told : (cell.told n recipients).registrar = cell.registrar := by
  rw [told_eq]

@[simp] theorem dropped_told : (cell.told n recipients).dropped = cell.dropped := by
  rw [told_eq]

@[simp] theorem generation_told : (cell.told n recipients).cache.generation = cell.cache.generation := by
  rw [told_eq]

/-- A handle that a cache still has was there before, and nobody spoke for it. -/
theorem cached_of_told {entry : Cached Handle} (hdropped : cell.dropped = false)
    (h : (cell.told n recipients).cache.cached = some entry) :
    cell.cache.cached = some entry ∧ .cache n entry.generation ∉ recipients := by
  cases htold : cell.isTold n recipients with
  | true =>
    rw [told_of_isTold htold] at h
    cases h
  | false =>
    rw [told_of_not_isTold htold] at h
    refine ⟨h, fun hmem => ?_⟩
    simp [isTold, hdropped, h, hmem] at htold

/-- A notice is for the handle of its generation. -/
theorem told_one_self {generation : Nat} :
    cell.told n [.cache n generation] =
      if cell.dropped then cell else { cell with cache := cell.cache.drop generation } := by
  have hholds : (cell.cache.cached.any fun entry => [Recipient.cache n generation].contains (.cache n entry.generation)) =
      cell.cache.holds generation := by
    unfold Cache.holds
    congr 1
    funext entry
    rw [Bool.eq_iff_iff]
    simp
  obtain ⟨registrar, name, cache, dropped⟩ := cell
  unfold told isTold Cache.drop
  rw [hholds]
  cases dropped <;> cases cache.holds generation <;> rfl

/-- A notice is for the cache of its number. -/
theorem told_one_of_ne {m generation : Nat} (h : m ≠ n) : cell.told n [.cache m generation] = cell :=
  told_of_not_isTold (by simp [isTold, h.symm])

/-- Telling some recipients and then others is telling them all. -/
theorem told_append (n : Nat) (rs rs' : List Recipient) (cell : CacheCell) :
    cell.told n (rs ++ rs') = (cell.told n rs).told n rs' := by
  cases hcached : cell.cache.cached with
  | none => simp only [told_of_unresolved hcached]
  | some entry =>
    cases htold : cell.isTold n rs with
    | true =>
      have hboth : cell.isTold n (rs ++ rs') = true := by
        simp only [isTold, hcached, Option.any_some, Bool.and_eq_true, List.contains_iff_mem, List.mem_append] at htold ⊢
        exact ⟨htold.1, .inl htold.2⟩
      rw [told_of_isTold hboth, told_of_isTold htold, told_of_not_isTold (by simp [isTold])]
    | false =>
      have hsame : cell.isTold n (rs ++ rs') = cell.isTold n rs' := by
        simp only [isTold, hcached, Option.any_some] at htold ⊢
        cases hdropped : cell.dropped with
        | true => rfl
        | false =>
          simp only [hdropped, Bool.not_false, Bool.true_and, List.contains_eq_mem, decide_eq_false_iff_not] at htold
          simp [htold]
      rw [told_of_not_isTold htold, told, told, hsame]

end CacheCell

namespace World

variable {σ : Type}

/-- The world after the recipients were told. -/
def told (recipients : List Recipient) (w : World σ) : World σ :=
  { w with
    caches := w.caches.mapIdx fun n cell => cell.told n recipients
    tallies := w.tallies.mapIdx fun m count => count + recipients.count (.tally m) }

variable {w : World σ} {recipients : List Recipient}

@[simp] theorem getElem?_caches_told (n : Nat) :
    (w.told recipients).caches[n]? = (w.caches[n]?).map (·.told n recipients) := by
  simp [told]

/-- Every cache is told. -/
theorem getElem?_caches_told_of_cell {n : Nat} {cell : CacheCell} (h : w.caches[n]? = some cell)
    (recipients : List Recipient) : (w.told recipients).caches[n]? = some (cell.told n recipients) := by
  rw [getElem?_caches_told, h, Option.map_some]

@[simp] theorem getElem?_tallies_told (m : Nat) :
    (w.told recipients).tallies[m]? = (w.tallies[m]?).map (· + recipients.count (.tally m)) := by
  simp [told]

@[simp] theorem directory_told : (w.told recipients).directory = w.directory := rfl

@[simp] theorem length_caches_told : (w.told recipients).caches.length = w.caches.length := by
  simp [told]

theorem told_nil : w.told [] = w := by
  unfold told
  congr 1 <;> exact List.ext_getElem? fun n => by simp

/-- Telling some and then others is telling all of them. -/
theorem told_append (rs rs' : List Recipient) : w.told (rs ++ rs') = (w.told rs).told rs' := by
  unfold told
  congr 1 <;> refine List.ext_getElem? fun n => ?_
  · simp [CacheCell.told_append, Function.comp_def]
  · simp [List.count_append, Function.comp_def, Nat.add_assoc]

/-- Telling one recipient. -/
theorem run_tell (r : Recipient) (w : World σ) :
    ((tell r).run w).value = some () ∧ ((tell r).run w).state = w.told [r] := by
  cases r with
  | tally m =>
    refine ⟨rfl, ?_⟩
    change { w with tallies := w.tallies.modify m (· + 1) } = _
    unfold told
    congr 1 <;> refine List.ext_getElem? fun k => ?_
    · cases hcell : w.caches[k]? <;> simp [CacheCell.told, CacheCell.isTold, hcell]
    · rw [List.getElem?_modify, List.getElem?_mapIdx]
      by_cases hk : m = k <;> simp [hk]
  | cache n generation =>
    have hstate : ∀ caches : List CacheCell,
        (∀ k : Nat, caches[k]? = (w.caches[k]?).map (CacheCell.told k [.cache n generation])) →
        { w with caches } = w.told [.cache n generation] := by
      intro caches hcaches
      unfold told
      congr 1
      · exact List.ext_getElem? fun k => by rw [hcaches k, List.getElem?_mapIdx]
      · exact List.ext_getElem? fun m => by simp
    have hothers : ∀ k : Nat, n ≠ k → w.caches[k]? = (w.caches[k]?).map (CacheCell.told k [.cache n generation]) := by
      intro k hk
      cases w.caches[k]? with
      | none => rfl
      | some cell => rw [Option.map_some, CacheCell.told_one_of_ne hk]
    simp only [tell, Act.run_bind, Act.run_get]
    cases hcell : w.caches[n]? with
    | none =>
      refine ⟨rfl, hstate w.caches fun k => ?_⟩
      by_cases hk : n = k
      · rw [← hk, hcell]
        rfl
      · exact hothers k hk
    | some cell =>
      cases hdropped : cell.dropped with
      | true =>
        dsimp only
        rw [if_pos hdropped]
        refine ⟨rfl, hstate w.caches fun k => ?_⟩
        by_cases hk : n = k
        · rw [← hk, hcell, Option.map_some, CacheCell.told_one_self, if_pos hdropped]
        · exact hothers k hk
      | false =>
        obtain ⟨hv, hs⟩ := Cache.run_died cell.name (c := cell.cache) (s := w) generation
        dsimp only
        rw [if_neg (by simp [hdropped]), Act.run_bind_of_value hv, hs]
        refine ⟨rfl, hstate _ fun k => ?_⟩
        rw [List.getElem?_set]
        by_cases hk : n = k
        · have hlt : n < w.caches.length := (List.getElem?_eq_some_iff.mp hcell).1
          rw [if_pos hk, if_pos hlt, ← hk, hcell, Option.map_some, CacheCell.told_one_self, if_neg (by simp [hdropped])]
        · rw [if_neg hk]
          exact hothers k hk

/-- Telling a list of recipients. -/
theorem run_tellAll (recipients : List Recipient) (w : World σ) :
    ((tellAll recipients).run w).value = some () ∧ ((tellAll recipients).run w).state = w.told recipients := by
  induction recipients generalizing w with
  | nil => exact ⟨rfl, told_nil.symm⟩
  | cons r rest ih =>
    obtain ⟨hv, hs⟩ := run_tell r w
    obtain ⟨hvrest, hsrest⟩ := ih (w.told [r])
    rw [tellAll, Act.run_bind_of_value hv, hs]
    exact ⟨hvrest, hsrest.trans (told_append [r] rest).symm⟩

/-- The death of an object in the same process. -/
theorem run_kill (i : Nat) (w : World σ) :
    ((kill i).run w).value = some () ∧
      ((kill i).run w).state = { w with directory := (w.directory.kill i).2 }.told (w.directory.kill i).1 :=
  run_tellAll _ _

/-- What the watchers of death links come to: they tell recipients, and nobody waits for them. -/
theorem run_settle {recipients : List Recipient} (h : (Site.watch.run w.site).value = some recipients) :
    (settle.run w).value = some () ∧
      (settle.run w).state = (w.withSite (Site.watch.run w.site).state).told recipients := by
  have hsite : ((onSite Site.watch : Act (World σ) _).run w).value = some recipients := h
  rw [settle, Act.run_bind_of_value hsite]
  simp only [Act.run_bind, Act.run_elsewhere, Act.run_pure, true_and]
  exact (run_tellAll recipients _).2

end World

end Switchboard
