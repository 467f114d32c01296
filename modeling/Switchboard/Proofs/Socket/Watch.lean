import Mathlib.Data.List.Induction
import Switchboard.Proofs.Socket.DeathLink
import Switchboard.Proofs.Socket.Links
import Switchboard.Proofs.Socket.Turns

/-!
# Every order of the threads at an object's death

What holds of the death links of an object however the calls that link, the hosts, the watchers and the drop take their steps.
The main statement is `death_watch_law`: every recipient is called at most once, after its watcher found its connection at an
end and itself not unlinked; when the drop has returned no recipient starts any more; no thread waits for itself; an object that
is dead stays dead; and when nobody can go on, every recipient whose host is down and that was not unlinked was called.

What carries it is the invariant of `DeathWatch.Sound`, and that nothing but its own steps moves a watcher (`step_watchers`).
-/

namespace Switchboard

/-! ## The steps of a watcher -/

namespace Watcher

/-- The watcher after its next step. -/
def next (w : Watcher) : Watcher :=
  match w.phase with
  | .waiting => { w with phase := .woken }
  | .woken => { w with phase := if w.unlinked then .ended else .linked }
  | .linked => { w with phase := .marked }
  | .marked => { w with phase := .calling, calls := w.calls + 1 }
  | .calling => { w with phase := .leaving }
  | .leaving => { w with phase := .ended }
  | .idle | .ended => w

/-- Somebody else changes the link, and leaves the watcher where it is or starts it. -/
def Stays (w w' : Watcher) : Prop :=
  w'.calls = w.calls ∧ (w'.phase = w.phase ∨ w'.phase = .waiting)

/-- The watcher has found that it was not unlinked. -/
def Passed (w : Watcher) : Prop :=
  w.phase = .linked ∨ w.phase = .marked ∨ w.phase.isInRecipient = true ∨ w.calls ≠ 0

variable {w w' : Watcher}

/-- A watcher that has passed and is not on its way has called its recipient. -/
theorem Passed.calls_ne_zero (h : w.Passed) (hphase : w.phase = .waiting ∨ w.phase = .woken ∨ w.phase = .ended) :
    w.calls ≠ 0 := by
  unfold Passed at h
  rcases hphase with hphase | hphase | hphase <;> simpa [hphase, WatchPhase.isInRecipient] using h

/-- A watcher passes when it looks, and at no other step. -/
theorem Passed.of_next (h : w.next.Passed) : w.Passed ∨ w.phase = .woken ∧ w.unlinked = false := by
  unfold next at h
  cases hphase : w.phase with
  | idle | ended =>
    rw [hphase] at h
    exact .inl h
  | linked => exact .inl (.inl hphase)
  | marked => exact .inl (.inr (.inl hphase))
  | calling | leaving => exact .inl (.inr (.inr (.inl (by rw [hphase]; rfl))))
  | waiting =>
    rw [hphase] at h
    have hcalls := calls_ne_zero (w := { w with phase := .woken }) h (.inr (.inl rfl))
    exact .inl (.inr (.inr (.inr hcalls)))
  | woken =>
    cases hunlinked : w.unlinked with
    | false => exact .inr ⟨rfl, rfl⟩
    | true =>
      simp only [hphase, hunlinked, if_true] at h
      exact .inl (.inr (.inr (.inr (h.calls_ne_zero (.inr (.inr rfl))))))

/-- Who has passed after others took their steps had passed before. -/
theorem Passed.of_stays (h : w'.Passed) (hstays : w.Stays w') : w.Passed := by
  obtain ⟨hcalls, hphase | hphase⟩ := hstays
  · rw [Passed, hcalls, hphase] at h
    exact h
  · exact .inr (.inr (.inr (hcalls ▸ h.calls_ne_zero (.inl hphase))))

end Watcher

/-! ## Steps that threads take by themselves -/

/-- Whether a step is one that a thread takes by itself. -/
def WatchStep.isOwn : WatchStep → Bool
  | .stop | .publish | .call | .fail _ | .drop _ => false
  | .close _ | .shutDown | .link _ | .handler _ | .watcher _ | .goOn => true

/-- The steps that are left to a call that links. -/
def LinkPhase.remaining : LinkPhase → Nat
  | .checking => 5
  | .connecting => 4
  | .asking => 3
  | .starting => 2
  | .listing => 1
  | .accepted | .refused => 0

/-- The steps that are left to a watcher. -/
def WatchPhase.remaining : WatchPhase → Nat
  | .idle | .waiting => 6
  | .woken => 5
  | .linked => 4
  | .marked => 3
  | .calling => 2
  | .leaving => 1
  | .ended => 0

/-- The steps that are left to the call, the handler, the host and the watcher of a link. -/
def Watcher.remaining (w : Watcher) : Nat :=
  w.link.remaining + w.phase.remaining + (if w.acknowledged then 0 else 1) + if w.closed then 0 else 1

/-- The steps that are left to the drop. -/
def DropPhase.remaining : DropPhase → Nat
  | .held | .dropped _ => 0
  | .unlinking _ rest => 3 * rest.length + 1
  | .closing _ _ rest => 3 * rest.length + 3
  | .joining _ _ rest => 3 * rest.length + 2

/-- The step that is left to the shutdown of a host when its connections are closed. -/
def HostPhase.remaining : HostPhase → Nat
  | .stopping => 1
  | .listening | .down => 0

/-- The steps that are left to all threads. -/
def DeathWatch.remaining (s : DeathWatch) : Nat :=
  (s.watchers.map (·.remaining)).sum + s.drop.remaining + s.host.phase.remaining

/-- Nobody can go on. -/
def DeathWatch.AtRest (s : DeathWatch) : Prop :=
  ∀ a : WatchStep, a.isOwn = true → s.step a = none

/-- The next step of a watcher leaves it fewer. -/
theorem Watcher.remaining_next (w : Watcher) (h : w.phase ≠ .idle ∧ w.phase ≠ .ended) : w.next.remaining < w.remaining := by
  obtain ⟨hidle, hended⟩ := h
  unfold next
  cases hphase : w.phase with
  | idle => exact absurd hphase hidle
  | ended => exact absurd hphase hended
  | woken => cases w.unlinked <;> simp [remaining, hphase, WatchPhase.remaining]
  | _ => simp [remaining, hphase, WatchPhase.remaining]

namespace DeathWatch

variable {s s' : DeathWatch} {a : WatchStep} {n m : Nat} {w w' : Watcher}

/-- A step of a watcher moves it on, and at most marks the object as dead. -/
theorem watcher_moves (h : s.step (.watcher n) = some s') :
    ∃ w f alive, s.watchers[n]? = some w ∧ f w = w.next ∧ w.next.remaining < w.remaining ∧
      (alive = true → s.alive = true) ∧ s' = { s with alive }.update n f := by
  obtain ⟨w, hn, h⟩ := Option.bind_eq_some_iff.mp h
  have hnext := w.remaining_next
  cases hphase : w.phase with
  | idle | ended => simp [stepWatcher, hphase] at h
  | woken | marked =>
    simp only [stepWatcher, hphase, Option.some.injEq] at h
    subst h
    exact ⟨w, _, s.alive, hn, by simp [Watcher.next, hphase], hnext (by simp [hphase]), id, rfl⟩
  | linked =>
    simp only [stepWatcher, hphase, Option.some.injEq] at h
    subst h
    exact ⟨w, _, false, hn, by simp [Watcher.next, hphase], hnext (by simp [hphase]), by simp, rfl⟩
  | waiting | calling | leaving =>
    simp only [stepWatcher, hphase, Option.ite_none_left_eq_some, Option.ite_none_right_eq_some, Option.some.injEq] at h
    obtain ⟨-, rfl⟩ := h
    exact ⟨w, _, s.alive, hn, by simp [Watcher.next, hphase], hnext (by simp [hphase]), id, rfl⟩

/-- What a step does that is neither that of a watcher nor the beginning of a call: one link changes, and its watcher stays. -/
structure Aside (s s' : DeathWatch) : Prop where
  watchers : ∃ n f, s'.watchers = s.watchers.modify n f ∧ ∀ w : Watcher, w.Stays (f w)
  alive : s'.alive = s.alive
  drop : (∀ d, s.drop ≠ .dropped d) ∨ s'.drop = s.drop

/-- A step that leaves one watcher where it is, or starts it, is aside. -/
theorem Aside.of_update {t : DeathWatch} {f : Watcher → Watcher} (ht : t.watchers = s.watchers) (halive : t.alive = s.alive)
    (hdrop : (∀ d, s.drop ≠ .dropped d) ∨ t.drop = s.drop) (hf : ∀ w : Watcher, w.Stays (f w)) : s.Aside (t.update n f) :=
  ⟨⟨n, f, congrArg (·.modify n f) ht, hf⟩, halive, hdrop⟩

/-- So is one that leaves all of them alone. -/
theorem Aside.of_eq (hwatchers : s'.watchers = s.watchers) (halive : s'.alive = s.alive)
    (hdrop : (∀ d, s.drop ≠ .dropped d) ∨ s'.drop = s.drop) : s.Aside s' :=
  ⟨⟨0, id, by rw [hwatchers, List.modify_id], fun _ => ⟨rfl, .inl rfl⟩⟩, halive, hdrop⟩

/-- Steps of a link are. -/
theorem aside_link (h : s.step (.link n) = some s') : s.Aside s' := by
  obtain ⟨w, hn, h⟩ := Option.bind_eq_some_iff.mp h
  have hsame : ∀ v : Watcher, v.Stays v := fun _ => ⟨rfl, .inl rfl⟩
  cases hlink : w.link with
  | accepted | refused => simp [stepLink, hlink] at h
  | checking | listing =>
    simp only [stepLink, hlink, Option.some.injEq] at h
    subst h
    exact .of_update rfl rfl (.inr rfl) hsame
  | starting =>
    simp only [stepLink, hlink, Option.some.injEq] at h
    subst h
    exact .of_update rfl rfl (.inr rfl) fun _ => ⟨rfl, .inr rfl⟩
  | connecting =>
    simp only [stepLink, hlink] at h
    split at h <;> obtain rfl := Option.some.inj h <;> exact .of_update rfl rfl (.inr rfl) hsame
  | asking =>
    simp only [stepLink, hlink] at h
    split at h
    · obtain rfl := Option.some.inj h
      exact .of_update rfl rfl (.inr rfl) hsame
    · simp only [Option.ite_none_right_eq_some, Option.some.injEq] at h
      obtain ⟨-, rfl⟩ := h
      exact .of_update rfl rfl (.inr rfl) hsame

/-- So are those of the drop. -/
theorem aside_goOn (h : s.step .goOn = some s') : s.Aside s' := by
  change s.stepDrop = some s' at h
  have hsame : ∀ v : Watcher, v.Stays v := fun _ => ⟨rfl, .inl rfl⟩
  cases hdrop : s.drop with
  | held | dropped d => simp [stepDrop, hdrop] at h
  | unlinking d rest =>
    cases rest with
    | nil =>
      simp only [stepDrop, hdrop, Option.some.injEq] at h
      subst h
      exact .of_eq rfl rfl (.inl (by simp [hdrop]))
    | cons n rest =>
      simp only [stepDrop, hdrop, Option.some.injEq] at h
      subst h
      exact .of_update rfl rfl (.inl (by simp [hdrop])) hsame
  | closing d n rest =>
    simp only [stepDrop, hdrop, Option.some.injEq] at h
    subst h
    exact .of_update rfl rfl (.inl (by simp [hdrop])) hsame
  | joining d n rest =>
    simp only [stepDrop, hdrop, Option.ite_none_right_eq_some, Option.some.injEq] at h
    obtain ⟨-, rfl⟩ := h
    exact .of_eq rfl rfl (.inl (by simp [hdrop]))

/-- A call begins, a watcher goes on, or neither. -/
theorem step_cases (h : s.step a = some s') :
    a = .call ∧ s.drop = .held ∧ s' = { s with watchers := s.watchers ++ [newLink] } ∨
      (∃ n, a = .watcher n ∧ ∃ w f alive, s.watchers[n]? = some w ∧ f w = w.next ∧ w.next.remaining < w.remaining ∧
        (alive = true → s.alive = true) ∧ s' = { s with alive }.update n f) ∨ s.Aside s' := by
  cases a with
  | watcher n => exact .inr (.inl ⟨n, rfl, watcher_moves h⟩)
  | link n => exact .inr (.inr (aside_link h))
  | goOn => exact .inr (.inr (aside_goOn h))
  | call =>
    simp only [step, Option.ite_none_right_eq_some, Option.some.injEq] at h
    obtain ⟨hheld, rfl⟩ := h
    exact .inl ⟨rfl, hheld, rfl⟩
  | stop | shutDown | publish =>
    simp only [step, Option.ite_none_right_eq_some, Option.some.injEq] at h
    obtain ⟨-, rfl⟩ := h
    exact .inr (.inr (.of_eq rfl rfl (.inr rfl)))
  | close n | handler n | fail n =>
    obtain ⟨w, -, h⟩ := Option.bind_eq_some_iff.mp h
    simp only [Option.ite_none_right_eq_some, Option.some.injEq] at h
    obtain ⟨-, rfl⟩ := h
    exact .inr (.inr (.of_update rfl rfl (.inr rfl) fun _ => ⟨rfl, .inl rfl⟩))
  | drop d =>
    obtain ⟨hcan, hs'⟩ := Option.ite_none_right_eq_some.mp (h : (if s.canDrop d then _ else none) = some s')
    obtain rfl := Option.some.inj hs'
    exact .inr (.inr (.of_eq rfl rfl (.inl (by simp [(canDrop_iff.mp hcan).1]))))

/-- Nothing but its own steps moves a watcher that was started. -/
theorem step_watchers (h : s.step a = some s') (hn : s'.watchers[n]? = some w') :
    s.drop = .held ∧ w' = newLink ∨ ∃ w, s.watchers[n]? = some w ∧ (w.Stays w' ∨ a = .watcher n ∧ w' = w.next) := by
  rcases step_cases h with ⟨-, hheld, rfl⟩ | ⟨m, ha, v, f, alive, hv, hf, -, -, rfl⟩ | haside
  · rcases Nat.lt_or_ge n s.watchers.length with hlt | hge
    · exact .inr ⟨w', (List.getElem?_append_left hlt).symm.trans hn, .inl ⟨rfl, .inl rfl⟩⟩
    · rw [List.getElem?_append_right hge] at hn
      exact .inl ⟨hheld, List.mem_singleton.mp (List.mem_of_getElem? hn)⟩
  · rcases getElem?_update (s := { s with alive }) hv hn with ⟨rfl, rfl⟩ | ⟨-, hn⟩
    · exact .inr ⟨v, hv, .inr ⟨ha, hf⟩⟩
    · exact .inr ⟨w', hn, .inl ⟨rfl, .inl rfl⟩⟩
  · obtain ⟨m, f, hwatchers, hf⟩ := haside.watchers
    rw [hwatchers, List.getElem?_modify] at hn
    obtain ⟨w, hw, rfl⟩ := Option.map_eq_some_iff.mp hn
    refine .inr ⟨w, hw, .inl ?_⟩
    split
    · exact hf w
    · exact ⟨rfl, .inl rfl⟩

/-- Later steps begin where the earlier ones end. -/
theorem run_append (steps later : List WatchStep) : s.run (steps ++ later) = (s.run steps).run later :=
  List.foldl_append

/-! ## Dead objects stay dead -/

/-- An object that is alive was so before the step. -/
theorem step_alive (h : s.step a = some s') (halive : s'.alive = true) : s.alive = true := by
  rcases step_cases h with ⟨-, -, rfl⟩ | ⟨m, -, v, f, alive, -, -, -, hmark, rfl⟩ | haside
  · exact halive
  · exact hmark halive
  · exact haside.alive ▸ halive

/-- So it was before any steps. -/
theorem run_alive (steps : List WatchStep) (halive : (s.run steps).alive = true) : s.alive = true := by
  induction steps generalizing s with
  | nil => exact halive
  | cons a steps ih =>
    have hstep := ih (s := (s.step a).getD s) halive
    cases h : s.step a with
    | none => rwa [h] at hstep
    | some s' =>
      rw [h] at hstep
      exact step_alive h hstep

/-! ## What the watcher found -/

/-- A watcher that passed has looked before, when its connection was at its end and it was not unlinked. -/
theorem passed_of_run (steps : List WatchStep) (hn : (start.run steps).watchers[n]? = some w) (hpassed : w.Passed) :
    ∃ before after u, steps = before ++ .watcher n :: after ∧ (start.run before).watchers[n]? = some u ∧
      u.phase = .woken ∧ u.unlinked = false := by
  induction steps using List.reverseRecOn generalizing w with
  | nil => simp [run, start] at hn
  | append_singleton steps a ih =>
    have hlater : ∀ {v : Watcher}, (start.run steps).watchers[n]? = some v → v.Passed →
        ∃ before after u, steps ++ [a] = before ++ .watcher n :: after ∧ (start.run before).watchers[n]? = some u ∧
          u.phase = .woken ∧ u.unlinked = false := by
      intro v hv hpassed
      obtain ⟨before, after, u, rfl, hu⟩ := ih hv hpassed
      exact ⟨before, after ++ [a], u, by simp, hu⟩
    rw [run_append] at hn
    change (((start.run steps).step a).getD _).watchers[n]? = some w at hn
    cases h : (start.run steps).step a with
    | none =>
      rw [h] at hn
      exact hlater hn hpassed
    | some s' =>
      rw [h] at hn
      rcases step_watchers h hn with ⟨-, rfl⟩ | ⟨v, hv, hstays | ⟨rfl, rfl⟩⟩
      · simp [Watcher.Passed, newLink, WatchPhase.isInRecipient] at hpassed
      · exact hlater hv (hpassed.of_stays hstays)
      · rcases hpassed.of_next with hpassed | ⟨hphase, hunlinked⟩
        · exact hlater hv hpassed
        · exact ⟨steps, [], v, rfl, hv, hphase, hunlinked⟩

/-! ## After the drop -/

/-- When the drop has returned, every watcher has ended or was not started, but for the one whose thread did the dropping. -/
theorem Sound.dropped (hs : s.Sound) {d : Dropper} (hdrop : s.drop = .dropped d) (hn : s.watchers[n]? = some w) :
    w.phase = .idle ∨ w.phase = .ended ∨ d = .watcher n ∧ w.phase.isInRecipient = true := by
  have hdrops := hs.drops n w hn
  rw [hdrop] at hdrops
  have hover := hdrops.settled (by simp)
  cases hlink : w.link with
  | refused => exact .inl ((hs.fits n w hn).started.mpr (by rw [hlink]; rfl))
  | accepted =>
    have hunlinked := hdrops.flagged.mpr ⟨hdrops.listed.mp hlink, by simp [DropPhase.ahead]⟩
    rcases hdrops.behind hunlinked (by simp [DropPhase.current?]) with ⟨-, hended | hdropper⟩
    · exact .inr (.inl hended)
    · rcases hdrops.own hdropper with hphase | ⟨-, hended⟩
      · exact .inr (.inr ⟨Option.some.inj hdropper, hphase⟩)
      · exact .inr (.inl hended)
  | _ =>
    rw [hlink] at hover
    cases hover

/-- From then on no recipient is called. -/
theorem Sound.still (hs : s.Sound) {d : Dropper} (hdrop : s.drop = .dropped d) (h : s.step a = some s') :
    s'.drop = .dropped d ∧
      ∀ (n : Nat) (w' : Watcher), s'.watchers[n]? = some w' → ∃ w, s.watchers[n]? = some w ∧ w'.calls = w.calls := by
  constructor
  · rcases step_cases h with ⟨-, hheld, -⟩ | ⟨m, -, v, f, alive, -, -, -, -, rfl⟩ | haside
    · rw [hdrop] at hheld
      cases hheld
    · exact hdrop
    · exact (haside.drop.resolve_left fun h => h d hdrop).trans hdrop
  · intro n w' hn
    rcases step_watchers h hn with ⟨hheld, -⟩ | ⟨w, hw, hstays | ⟨rfl, rfl⟩⟩
    · rw [hdrop] at hheld
      cases hheld
    · exact ⟨w, hw, hstays.1⟩
    · refine ⟨w, hw, ?_⟩
      have hmarked : w.phase ≠ .marked := by
        intro hmarked
        rcases hs.dropped hdrop hw with hphase | hphase | ⟨-, hphase⟩ <;> rw [hmarked] at hphase <;> cases hphase
      unfold Watcher.next
      split <;> first | rfl | exact absurd ‹_› hmarked

/-- Behind the drop no recipient is called. -/
theorem Sound.run_still (hs : s.Sound) {d : Dropper} (hdrop : s.drop = .dropped d) (later : List WatchStep)
    (hn : (s.run later).watchers[n]? = some w') : ∃ w, s.watchers[n]? = some w ∧ w'.calls = w.calls := by
  induction later generalizing s with
  | nil => exact ⟨w', hn, rfl⟩
  | cons a later ih =>
    change (((s.step a).getD s).run later).watchers[n]? = some w' at hn
    cases h : s.step a with
    | none =>
      rw [h] at hn
      exact ih hs hdrop hn
    | some t =>
      rw [h] at hn
      obtain ⟨hdropped, hcalls⟩ := hs.still hdrop h
      obtain ⟨v, hv, heq⟩ := ih (hs.step h) hdropped hn
      obtain ⟨w, hw, heq'⟩ := hcalls n v hv
      exact ⟨w, hw, heq.trans heq'⟩

/-! ## When nobody can go on -/

/-- The calls have returned then: one that waits for its acknowledgement gets it, or the end of its connection. -/
theorem AtRest.isOver_link (hrest : s.AtRest) (hn : s.watchers[n]? = some w) : w.link.isOver = true := by
  have hlink := hrest (.link n) rfl
  have hhandler := hrest (.handler n) rfl
  simp only [step, hn, Option.bind_some, stepLink] at hlink hhandler
  cases h : w.link with
  | accepted | refused => rfl
  | checking | starting | listing => simp [h] at hlink
  | connecting =>
    simp only [h] at hlink
    split at hlink <;> cases hlink
  | asking =>
    simp only [h] at hlink hhandler
    cases hack : w.acknowledged <;> cases hclosed : w.closed <;> simp [hack, hclosed] at hlink hhandler

/-- A watcher has ended then, unless its connection lasts or its thread does the dropping. -/
theorem AtRest.watcher (hrest : s.AtRest) (hn : s.watchers[n]? = some w) :
    w.phase = .idle ∨ w.phase = .ended ∨ w.phase = .waiting ∧ w.closed = false ∨
      w.phase.isInRecipient = true ∧ s.drop.isGoingOn n = true := by
  have hstep := hrest (.watcher n) rfl
  simp only [step, hn, Option.bind_some, stepWatcher] at hstep
  cases h : w.phase with
  | idle => exact .inl rfl
  | ended => exact .inr (.inl rfl)
  | woken | linked | marked => simp [h] at hstep
  | waiting =>
    refine .inr (.inr (.inl ⟨rfl, ?_⟩))
    simpa [h] using hstep
  | calling | leaving =>
    refine .inr (.inr (.inr ⟨rfl, ?_⟩))
    simpa [h] using hstep

/-- The drop has not begun then, or it has returned: the watcher that is waited for is not the one that waits, so it goes on. -/
theorem Sound.drop_at_rest (hs : s.Sound) (hrest : s.AtRest) : s.drop = .held ∨ ∃ d, s.drop = .dropped d := by
  have hstep : s.stepDrop = none := hrest .goOn rfl
  cases hdrop : s.drop with
  | held => exact .inl rfl
  | dropped d => exact .inr ⟨d, rfl⟩
  | unlinking d rest => cases rest <;> simp [stepDrop, hdrop] at hstep
  | closing d n rest => simp [stepDrop, hdrop] at hstep
  | joining d n rest =>
    obtain ⟨past, hsplit⟩ := hs.split
    rw [hdrop] at hsplit
    obtain ⟨hmem, -⟩ := hs.of_split hsplit
    obtain ⟨w, hn⟩ := hs.exists_of_mem hmem
    have hdrops := hs.drops n w hn
    obtain ⟨hclosed, hother⟩ := hdrops.joined d rest hdrop
    have hended : w.phase ≠ .ended := by simpa [stepDrop, hdrop, hn] using hstep
    have hidle : w.phase ≠ .idle := by
      intro h
      have hwatcher := (hs.fits n w hn).started.mp h
      rw [hdrops.listed.mpr hmem] at hwatcher
      cases hwatcher
    rcases hrest.watcher hn with h | h | ⟨-, h⟩ | ⟨-, h⟩
    · exact absurd h hidle
    · exact absurd h hended
    · rw [hclosed] at h
      cases h
    · simp [hdrop, DropPhase.isGoingOn, hother] at h

/-- Every watcher has ended then that was started and whose connection does not last. -/
theorem Sound.watcher_at_rest (hs : s.Sound) (hrest : s.AtRest) (hn : s.watchers[n]? = some w) :
    w.phase = .idle ∨ w.phase = .ended ∨ w.phase = .waiting ∧ w.closed = false := by
  rcases hrest.watcher hn with h | h | h | ⟨-, h⟩
  · exact .inl h
  · exact .inr (.inl h)
  · exact .inr (.inr h)
  · rcases hs.drop_at_rest hrest with hdrop | ⟨d, hdrop⟩ <;> rw [hdrop] at h <;> cases h

/-- A recipient whose link was accepted and not unlinked, and whose host is down, was called then. -/
theorem Sound.told (hs : s.Sound) (hrest : s.AtRest) (hn : s.watchers[n]? = some w) (hlink : w.link = .accepted)
    (hunlinked : w.unlinked = false) (hdown : s.host.isDown w.host = true) : w.calls = 1 := by
  have hfits := hs.fits n w hn
  rcases hs.watcher_at_rest hrest hn with h | h | ⟨-, h⟩
  · have hwatcher := hfits.started.mp h
    rw [hlink] at hwatcher
    cases hwatcher
  · have hcalled := hfits.called
    simpa [Watcher.Called, h, hunlinked] using hcalled
  · rw [hfits.shut hdown (by rw [hlink]; rfl)] at h
    cases h

/-! ## Nobody goes on forever -/

/-- A change of one link, and of the drop, that leaves fewer steps. -/
theorem remaining_update {t : DeathWatch} {f : Watcher → Watcher} (hwatchers : t.watchers = s.watchers)
    (hhost : t.host = s.host) (hn : s.watchers[n]? = some w)
    (hlt : (f w).remaining + t.drop.remaining < w.remaining + s.drop.remaining) :
    (t.update n f).remaining < s.remaining := by
  have hsum := sum_map_modify (f := fun w : Watcher => w.remaining) f hn
  change ((t.watchers.modify n f).map (·.remaining)).sum + t.drop.remaining + t.host.phase.remaining < s.remaining
  rw [hwatchers, hhost, remaining]
  omega

/-- A step of a link leaves fewer to come. -/
theorem Sound.remaining_link (hs : s.Sound) (h : s.step (.link n) = some s') : s'.remaining < s.remaining := by
  obtain ⟨w, hn, h⟩ := Option.bind_eq_some_iff.mp h
  cases hlink : w.link with
  | accepted | refused => simp [stepLink, hlink] at h
  | checking =>
    simp only [stepLink, hlink, Option.some.injEq] at h
    subst h
    refine remaining_update rfl rfl hn ?_
    cases s.alive <;> simp [Watcher.remaining, hlink, LinkPhase.remaining]
  | starting =>
    simp only [stepLink, hlink, Option.some.injEq] at h
    subst h
    have hidle := (hs.fits n w hn).started.mpr (by rw [hlink]; rfl)
    refine remaining_update rfl rfl hn ?_
    simp [Watcher.remaining, hlink, LinkPhase.remaining, hidle, WatchPhase.remaining]
  | listing =>
    simp only [stepLink, hlink, Option.some.injEq] at h
    subst h
    refine remaining_update rfl rfl hn ?_
    simp [Watcher.remaining, hlink, LinkPhase.remaining]
  | connecting =>
    simp only [stepLink, hlink] at h
    split at h <;> obtain rfl := Option.some.inj h <;> refine remaining_update rfl rfl hn ?_ <;>
      simp [Watcher.remaining, hlink, LinkPhase.remaining]
  | asking =>
    simp only [stepLink, hlink] at h
    split at h
    · obtain rfl := Option.some.inj h
      refine remaining_update rfl rfl hn ?_
      simp [Watcher.remaining, hlink, LinkPhase.remaining]
    · simp only [Option.ite_none_right_eq_some, Option.some.injEq] at h
      obtain ⟨-, rfl⟩ := h
      refine remaining_update rfl rfl hn ?_
      simp [Watcher.remaining, hlink, LinkPhase.remaining]

/-- So does a step of the drop. -/
theorem Sound.remaining_goOn (hs : s.Sound) (h : s.step .goOn = some s') : s'.remaining < s.remaining := by
  obtain ⟨past, hsplit⟩ := hs.split
  change s.stepDrop = some s' at h
  cases hdrop : s.drop with
  | held | dropped d => simp [stepDrop, hdrop] at h
  | unlinking d rest =>
    cases rest with
    | nil =>
      simp only [stepDrop, hdrop, Option.some.injEq] at h
      subst h
      simp [remaining, hdrop, DropPhase.remaining]
    | cons n rest =>
      simp only [stepDrop, hdrop, Option.some.injEq] at h
      subst h
      rw [hdrop] at hsplit
      obtain ⟨w, hn⟩ := hs.exists_of_mem (hs.of_split hsplit).1
      refine remaining_update rfl rfl hn ?_
      simp [Watcher.remaining, hdrop, DropPhase.remaining]
      omega
  | closing d n rest =>
    simp only [stepDrop, hdrop, Option.some.injEq] at h
    subst h
    rw [hdrop] at hsplit
    obtain ⟨w, hn⟩ := hs.exists_of_mem (hs.of_split hsplit).1
    refine remaining_update rfl rfl hn ?_
    by_cases hown : d = .watcher n <;> simp [Watcher.remaining, hdrop, DropPhase.remaining, hown] <;> omega
  | joining d n rest =>
    simp only [stepDrop, hdrop, Option.ite_none_right_eq_some, Option.some.injEq] at h
    obtain ⟨-, rfl⟩ := h
    simp [remaining, hdrop, DropPhase.remaining]

/-- Every step that a thread takes by itself leaves fewer. -/
theorem Sound.remaining_step (hs : s.Sound) (h : s.step a = some s') (ha : a.isOwn = true) : s'.remaining < s.remaining := by
  cases a with
  | stop | publish | call | fail n | drop d => cases ha
  | link n => exact hs.remaining_link h
  | goOn => exact hs.remaining_goOn h
  | watcher n =>
    obtain ⟨w, f, alive, hn, hf, hnext, -, rfl⟩ := watcher_moves h
    refine remaining_update rfl rfl hn ?_
    rw [hf]
    exact Nat.add_lt_add_right hnext _
  | shutDown =>
    simp only [DeathWatch.step, Option.ite_none_right_eq_some, Option.some.injEq] at h
    obtain ⟨⟨hstopping, -⟩, rfl⟩ := h
    simp [remaining, hstopping, HostPhase.remaining]
  | close n =>
    obtain ⟨w, hn, h⟩ := Option.bind_eq_some_iff.mp h
    simp only [Option.ite_none_right_eq_some, Option.some.injEq] at h
    obtain ⟨⟨-, -, -, hopen⟩, rfl⟩ := h
    refine remaining_update rfl rfl hn ?_
    simp [Watcher.remaining, hopen]
  | handler n =>
    obtain ⟨w, hn, h⟩ := Option.bind_eq_some_iff.mp h
    simp only [Option.ite_none_right_eq_some, Option.some.injEq] at h
    obtain ⟨⟨-, hunacknowledged, -⟩, rfl⟩ := h
    refine remaining_update rfl rfl hn ?_
    simp [Watcher.remaining, hunacknowledged]

/-! ## One thread alone -/

/-- The steps of a call that nobody interrupts. -/
def linkAlone (n : Nat) : List WatchStep :=
  [.call, .link n, .link n, .handler n, .link n, .link n, .link n]

theorem modify_append {α : Type} (xs ys : List α) (x : α) (f : α → α) :
    (xs ++ x :: ys).modify xs.length f = xs ++ f x :: ys :=
  List.modifyTailIdx_add (List.modifyHead f) 0 xs (x :: ys)

/-- A link that nobody interrupts is accepted by a host that listens, if the object is alive, and else refused. -/
theorem run_linkAlone (hheld : s.drop = .held) :
    s.run (linkAlone s.watchers.length) =
      if s.alive = true ∧ s.host.phase = .listening then
        { s with
          watchers := s.watchers ++ [⟨.accepted, s.host.number, true, false, .waiting, false, 0⟩]
          order := s.order ++ [s.watchers.length] }
      else { s with watchers := s.watchers ++ [{ newLink with link := .refused }] } := by
  cases halive : s.alive <;> cases hhost : s.host.phase <;>
    simp [run, linkAlone, step, hheld, newLink, stepLink, setLink, update, modify_append, halive, hhost]

/-- The steps of a watcher that nobody interrupts. -/
def watcherAlone (n : Nat) : List WatchStep :=
  List.replicate 6 (.watcher n)

/-- A watcher that waits tells its recipient if its connection has come to its end. -/
theorem run_watcherAlone {before behind : List Watcher} (hheld : s.drop = .held) (hs : s.watchers = before ++ w :: behind)
    (hphase : w.phase = .waiting) (hunlinked : w.unlinked = false) :
    s.run (watcherAlone before.length) =
      if w.closed then
        { s with alive := false, watchers := before ++ { w with phase := .ended, calls := w.calls + 1 } :: behind }
      else s := by
  cases hclosed : w.closed <;>
    simp [run, watcherAlone, List.replicate, step, hs, stepWatcher, setPhase, update, modify_append, hheld, DropPhase.isGoingOn,
      hphase, hclosed, hunlinked]

/-- One that has ended does nothing more. -/
theorem run_watcherAlone_of_ended (hn : s.watchers[n]? = some w) (hphase : w.phase = .ended) :
    s.run (watcherAlone n) = s := by
  simp [run, watcherAlone, List.replicate, step, hn, stepWatcher, hphase]

end DeathWatch

/-! ## The watchers of a client's object -/

section Client

variable {σ ρ : Type}

/-- A link of a client's object with its watcher: the recipient of one that is not watched any more was told. -/
def DeathLink.watcher (n : Network σ ρ) (l : DeathLink ρ) : Watcher :=
  if l.watched then ⟨.accepted, 0, true, n.hasEnded l, .waiting, false, 0⟩
  else ⟨.accepted, 0, true, true, .ended, false, 1⟩

/-- A client's object with its watchers. -/
def SocketObject.watch (n : Network σ ρ) (o : SocketObject ρ) : DeathWatch :=
  ⟨⟨0, .stopping⟩, o.alive, o.links.map (·.watcher n), List.range o.links.length, .held⟩

/-- The link after its end was noticed. -/
def Network.noticed (n : Network σ ρ) (l : DeathLink ρ) : DeathLink ρ :=
  if n.hasEnded l then { l with watched := false } else l

/-- The watcher of a link tells its recipient if the link has come to its end. -/
theorem DeathWatch.run_watcher (n : Network σ ρ) (l : DeathLink ρ) {s : DeathWatch} {before behind : List Watcher}
    (hheld : s.drop = .held) (hs : s.watchers = before ++ l.watcher n :: behind) :
    s.run (watcherAlone before.length) =
      { s with alive := s.alive && !n.hasEnded l, watchers := before ++ (n.noticed l).watcher n :: behind } := by
  cases hwatched : l.watched with
  | false =>
    have hlast : n.hasEnded l = false := by simp [Network.hasEnded, hwatched]
    have hn : s.watchers[before.length]? = some (l.watcher n) := by simp [hs]
    rw [run_watcherAlone_of_ended hn (by simp [DeathLink.watcher, hwatched])]
    cases s
    simp_all [Network.noticed]
  | true =>
    rw [run_watcherAlone hheld hs (by simp [DeathLink.watcher, hwatched]) (by simp [DeathLink.watcher, hwatched])]
    cases hended : n.hasEnded l with
    | false =>
      cases s
      simp_all [Network.noticed, DeathLink.watcher]
    | true => simp [DeathLink.watcher, hwatched, hended, Network.noticed]

/-- Watchers one after another do what the network notices of their links. -/
theorem DeathWatch.run_watchers (n : Network σ ρ) (links : List (DeathLink ρ)) (before : List Watcher) {s : DeathWatch}
    (hheld : s.drop = .held) (hs : s.watchers = before ++ links.map (·.watcher n)) :
    s.run ((List.range' before.length links.length).flatMap watcherAlone) =
      { s with
        alive := s.alive && !links.any n.hasEnded
        watchers := before ++ links.map fun l => (n.noticed l).watcher n } := by
  induction links generalizing before s with
  | nil =>
    cases s
    simp_all [run]
  | cons l links ih =>
    rw [List.length_cons, List.range'_succ, List.flatMap_cons, run_append, run_watcher n l hheld hs]
    have hrest := ih (before ++ [(n.noticed l).watcher n])
      (s := { s with
        alive := s.alive && !n.hasEnded l
        watchers := before ++ (n.noticed l).watcher n :: links.map (·.watcher n) }) hheld (by simp)
    rw [List.length_append, List.length_singleton] at hrest
    rw [hrest]
    simp [Bool.and_assoc]

/-- What the network notices of an object is what its watchers do, one after another. -/
theorem Network.watch_notice (n : Network σ ρ) (o : SocketObject ρ) :
    (n.notice o).watch n = (o.watch n).run ((List.range o.links.length).flatMap DeathWatch.watcherAlone) := by
  have hrun := DeathWatch.run_watchers n o.links [] (s := o.watch n) rfl rfl
  rw [List.length_nil, ← List.range_eq_range'] at hrun
  rw [hrun]
  simp [notice, SocketObject.watch, noticed, Function.comp_def]

/-- A link on a client's object is accepted as one that nobody interrupts. -/
theorem Site.link_accepted_iff {s : Site σ ρ} (hn : s.network.Sound) {b : Nat} {o : SocketObject ρ}
    (ho : s.network.objects[b]? = some o) (r : ρ) {t : DeathWatch} (hheld : t.drop = .held) (halive : t.alive = o.alive)
    (hhost : t.host.phase = .listening ↔ s.network.listener? o.name ≠ none) :
    ((link b r).run s).value = some (.ok ()) ↔
      ((t.run (DeathWatch.linkAlone t.watchers.length)).watchers[t.watchers.length]?).any (·.link = .accepted) = true := by
  rw [DeathWatch.run_linkAlone hheld, halive]
  by_cases hrefused : o.alive = false ∨ s.network.listener? o.name = none
  · rw [run_link_of_refused r hn ho hrefused, if_neg]
    · simp [DeathWatch.newLink]
    · rintro ⟨h, hlistening⟩
      rcases hrefused with hdead | hnone
      · simp [hdead] at h
      · exact hhost.mp hlistening hnone
  · obtain ⟨hup, hlistener⟩ := not_or.mp hrefused
    rw [Bool.not_eq_false] at hup
    obtain ⟨h, hl⟩ := Option.ne_none_iff_exists'.mp hlistener
    rw [run_link_of_listener r ho hup hl, if_pos ⟨hup, hhost.mpr hlistener⟩]
    simp

end Client

/-! ## The law -/

/-- What holds of the death links of an object, and of their watchers, after some steps. -/
structure WatchLaw (steps : List WatchStep) (s : DeathWatch) : Prop where
  /-- A recipient is called at most once, and only if its link was acknowledged and its watcher started. -/
  once : ∀ (n : Nat) (w : Watcher), s.watchers[n]? = some w → w.calls ≤ 1 ∧ (w.calls ≠ 0 → w.link.hasWatcher = true)
  /-- It is called after its watcher looked: the connection was at its end then, because the host did not listen any more, and
  the link was not unlinked. -/
  looked : ∀ (n : Nat) (w : Watcher), s.watchers[n]? = some w → w.calls ≠ 0 →
    ∃ before after u, steps = before ++ .watcher n :: after ∧ (DeathWatch.start.run before).watchers[n]? = some u ∧
      u.phase = .woken ∧ u.closed = true ∧ u.unlinked = false ∧ (DeathWatch.start.run before).host.hasStopped u.host = true
  /-- When the drop has returned, no recipient is running but the one on whose thread it was, and none is called any more. -/
  dropped : ∀ d, s.drop = .dropped d →
    (∀ (n : Nat) (w : Watcher), s.watchers[n]? = some w →
      w.phase = .idle ∨ w.phase = .ended ∨ d = .watcher n ∧ w.phase.isInRecipient = true) ∧
    ∀ later (n : Nat) (w' : Watcher), (s.run later).watchers[n]? = some w' →
      ∃ w, s.watchers[n]? = some w ∧ w'.calls = w.calls
  /-- No thread waits for itself. -/
  joins : ∀ d n rest, s.drop = .joining d n rest → d ≠ .watcher n
  /-- An object that is dead stays dead. -/
  alive : ∀ later, (s.run later).alive = true → s.alive = true
  /-- When nobody can go on, every recipient whose link was accepted and not unlinked, and whose host is down, was called. -/
  told : s.AtRest → ∀ (n : Nat) (w : Watcher), s.watchers[n]? = some w → w.link = .accepted → w.unlinked = false →
    s.host.isDown w.host = true → w.calls = 1
  /-- Nobody waits then but for the end of a connection: the calls have returned, and the drop if it began. -/
  rest : s.AtRest → (s.drop = .held ∨ ∃ d, s.drop = .dropped d) ∧
    ∀ (n : Nat) (w : Watcher), s.watchers[n]? = some w → w.link.isOver = true ∧
      (w.phase = .idle ∨ w.phase = .ended ∨ w.phase = .waiting ∧ w.closed = false)
  /-- Every step that a thread takes by itself leaves fewer. -/
  wanes : ∀ a s', s.step a = some s' → a.isOwn = true → s'.remaining < s.remaining

/-- It holds in every order of the steps. -/
theorem DeathWatch.watchLaw (steps : List WatchStep) : WatchLaw steps (DeathWatch.start.run steps) := by
  have hs := DeathWatch.sound_start.run steps
  constructor
  case once =>
    intro n w hn
    have hfits := hs.fits n w hn
    refine ⟨hfits.called.calls_le, fun hcalls => ?_⟩
    by_contra hwatcher
    have hidle := hfits.started.mpr (Bool.not_eq_true _ ▸ hwatcher)
    have hcalled := hfits.called
    simp only [Watcher.Called, hidle] at hcalled
    exact hcalls hcalled
  case looked =>
    intro n w hn hcalls
    obtain ⟨before, after, u, hsteps, hu, hphase, hunlinked⟩ := DeathWatch.passed_of_run steps hn (.inr (.inr (.inr hcalls)))
    have hfits := (DeathWatch.sound_start.run before).fits n u hu
    have hclosed := hfits.awake (by rw [hphase]; rfl)
    refine ⟨before, after, u, hsteps, hu, hphase, hclosed, hunlinked, (hfits.reason hclosed).resolve_right ?_⟩
    simp [hunlinked]
  case dropped =>
    intro d hdrop
    exact ⟨fun n w hn => hs.dropped hdrop hn, fun later n w' hn => hs.run_still hdrop later hn⟩
  case joins =>
    intro d n rest hdrop
    obtain ⟨past, hsplit⟩ := hs.split
    rw [hdrop] at hsplit
    obtain ⟨w, hn⟩ := hs.exists_of_mem (hs.of_split hsplit).1
    exact ((hs.drops n w hn).joined d rest hdrop).2
  case alive => exact fun later => DeathWatch.run_alive later
  case told => exact fun hrest n w hn hlink hunlinked hdown => hs.told hrest hn hlink hunlinked hdown
  case rest => exact fun hrest => ⟨hs.drop_at_rest hrest, fun n w hn => ⟨hrest.isOver_link hn, hs.watcher_at_rest hrest hn⟩⟩
  case wanes => exact fun a s' h ha => hs.remaining_step h ha

/-- The laws of the death links of an object. -/
structure DeathWatchLaw (σ ρ : Type) : Prop where
  /-- The law of the links and their watchers holds after any steps, in any order. -/
  links : ∀ steps : List WatchStep, WatchLaw steps (DeathWatch.start.run steps)
  /-- What the network notices of an object is what its watchers do, one after another. -/
  noticed : ∀ (n : Network σ ρ) (o : SocketObject ρ),
    (n.notice o).watch n = (o.watch n).run ((List.range o.links.length).flatMap DeathWatch.watcherAlone)
  /-- A link on an object of a site is accepted as one that nobody interrupts. -/
  accepted : ∀ (s : Site σ ρ) (b : Nat) (o : SocketObject ρ) (r : ρ) (t : DeathWatch), s.network.Sound →
    s.network.objects[b]? = some o → t.drop = .held → t.alive = o.alive →
    (t.host.phase = .listening ↔ s.network.listener? o.name ≠ none) →
    (((Site.link b r).run s).value = some (.ok ()) ↔
      ((t.run (DeathWatch.linkAlone t.watchers.length)).watchers[t.watchers.length]?).any (·.link = .accepted) = true)

/-- The law of death links, in every order of the steps. -/
theorem death_watch_law : DeathWatchLaw σ ρ where
  links := DeathWatch.watchLaw
  noticed := Network.watch_notice
  accepted _ _ _ r _ hn ho hheld halive hhost := Site.link_accepted_iff hn ho r hheld halive hhost

/-- The host dies, and the recipient of the first of two links drops the object: the second watcher, which has not looked yet,
finds itself unlinked and is waited for, and the first one is not. -/
example :
    let s := DeathWatch.start.run (DeathWatch.linkAlone 0 ++ DeathWatch.linkAlone 1 ++
      [.stop, .close 0, .close 1, .shutDown, .watcher 1, .watcher 0, .watcher 0, .watcher 0, .watcher 0, .drop (.watcher 0),
        .goOn, .goOn, .goOn, .goOn, .goOn, .watcher 1, .goOn, .goOn, .watcher 0, .watcher 0])
    s.drop = .dropped (.watcher 0) ∧ s.watchers.map (·.calls) = [1, 0] ∧ s.watchers.map (·.phase) = [.ended, .ended] := by
  decide

end Switchboard
