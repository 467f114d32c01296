import Mathlib.Algebra.Ring.Nat
import Switchboard.Thread.Life

/-!
# Every order of the calls at a worker's handle

The invariant that carries the law of a worker. A call has one of the shapes of `HandleCall.Fits`, which say how often it ran the
stop action and joined, and what it has come to; its steps lead from shape to shape (`Fits.next`, `Fits.panic`). The handle is
with its owner, who lends it, or with the last call, which began when all others were done (`WorkerLife.Owned`), so a call that
is not done knows whether the handle holds the thread (`Sound.held`): that is why the drop behind a stop finds it empty.

The counts are sums over the calls. A call that was lent the handle does not join, and only one is given it.
-/

namespace Switchboard

variable {α : Type} {own t n : Nat} {thread thread' : ThreadPhase α}

/-! ## The thread -/

/-- A thread has an outcome once it is gone. -/
theorem ThreadPhase.outcome?_eq_some_iff {outcome : WorkerEnd α} :
    thread.outcome? = some outcome ↔ thread = .gone outcome := by
  cases thread <;> simp [outcome?]

/-- One that has not returned is running. -/
theorem ThreadPhase.eq_running (h : thread.hasReturned = false) : thread = .running := by
  cases thread with
  | running => rfl
  | returned | gone => cases h

/-! ## The shapes of a call -/

namespace HandleCall

variable {c c' : HandleCall α} {held held' : Bool} {use : HandleUse} {fault : Option String} {joins : Nat}
  {answer : WorkerAnswer α}

/-- What a stop or a drop has come to, by the panic of the stop action and how often it joined. -/
inductive CameTo (own : Nat) (thread : ThreadPhase α) (use : HandleUse) (t : Nat) :
    Option String → Nat → WorkerAnswer α → Prop
  /-- The stop action panicked. -/
  | broken (text : String) : CameTo own thread use t (some text) 0 (.panicked text)
  /-- It was on the thread of the worker. -/
  | alone (hown : t = own) : CameTo own thread use t none 0 (use.answer none)
  | joined {outcome : WorkerEnd α} (hother : t ≠ own) (hgone : thread.outcome? = some outcome) :
    CameTo own thread use t none 1 (use.answer (some outcome))

/-- The shapes that a call can have, at a thread that has come so far. -/
inductive Fits (own : Nat) (thread : ThreadPhase α) : HandleCall α → Prop
  | begins (use : HandleUse) (t : Nat) : Fits own thread (start use t)
  | looked {t : Nat} {b : Bool} (hflag : b = true → thread.hasReturned = true) :
    Fits own thread ⟨.isFinished, t, .done (.flag b), none, 0, none, 0⟩
  | acts {use : HandleUse} {t : Nat} (huse : use ≠ .isFinished) : Fits own thread ⟨use, t, .acting, none, 1, none, 0⟩
  | signalled {t : Nat} (fault : Option String) :
    Fits own thread ⟨.signal, t, .done (fault.elim .nothing .panicked), none, 1, fault, 0⟩
  | compares {use : HandleUse} {t : Nat} (hlast : use.isLast = true) :
    Fits own thread ⟨use, t, .comparing, none, 1, none, 0⟩
  | waits {use : HandleUse} {t : Nat} (hlast : use.isLast = true) (hother : t ≠ own) :
    Fits own thread ⟨use, t, .joining, none, 1, none, 1⟩
  | drops {t : Nat} {fault : Option String} {joins : Nat} {answer : WorkerAnswer α}
    (hcame : CameTo own thread .stop t fault joins answer) :
    Fits own thread ⟨.stop, t, .reaching, some answer, 1, fault, joins⟩
  | stopped {t : Nat} {fault : Option String} {joins : Nat} {answer : WorkerAnswer α}
    (hcame : CameTo own thread .stop t fault joins answer) :
    Fits own thread ⟨.stop, t, .done answer, some answer, 1, fault, joins⟩
  | dropped {t : Nat} {fault : Option String} {joins : Nat} {answer : WorkerAnswer α}
    (hcame : CameTo own thread .drop t fault joins answer) :
    Fits own thread ⟨.drop, t, .done answer, none, 1, fault, joins⟩

/-- Whether the handle holds the thread as far as that call goes: it does until the call takes it out. -/
def leaves (c : HandleCall α) : Bool :=
  !c.use.isLast || c.runs == 0

/-- The steps that are left to a call. -/
def remaining (c : HandleCall α) : Nat :=
  match c.phase, c.pending with
  | .reaching, none => 5
  | .acting, _ => 4
  | .comparing, _ => 3
  | .joining, _ => 2
  | .reaching, some _ => 1
  | .done _, _ => 0

/-- A stop or a drop that has run the action and comes to its answer. -/
theorem CameTo.settle (h : CameTo own thread use t fault joins answer) (hlast : use.isLast = true) (phase : HandlePhase α) :
    (settle answer ⟨use, t, phase, none, 1, fault, joins⟩).Fits own thread ∧
      false = (settle answer ⟨use, t, phase, none, 1, fault, joins⟩).leaves ∧
      (settle answer ⟨use, t, phase, none, 1, fault, joins⟩).remaining ≤ 1 := by
  cases use with
  | stop => exact ⟨.drops h, rfl, Nat.le_refl 1⟩
  | drop => exact ⟨.dropped h, rfl, Nat.zero_le 1⟩
  | signal | isFinished => cases hlast

/-- A call that ends the handle and has run the stop action does not leave it. -/
theorem leaves_of_last {c : HandleCall α} (hlast : c.use.isLast = true) (hruns : c.runs = 1) : c.leaves = false := by
  simp [leaves, hlast, hruns]

/-- The next step of a call takes it from one shape to another, and takes the thread out of the handle or leaves it there. -/
theorem Fits.next (h : c.Fits own thread) (hheld : held = c.leaves) (hnext : c.next own thread held = some (held', c')) :
    c'.Fits own thread ∧ held' = c'.leaves ∧ c'.remaining < c.remaining := by
  cases h with
  | begins use t =>
    obtain rfl : held = true := by simpa [leaves, start] using hheld
    cases use with
    | isFinished =>
      obtain ⟨rfl, rfl⟩ : true = held' ∧ settle (.flag thread.hasReturned) (start .isFinished t) = c' := by
        simpa [HandleCall.next, start] using hnext
      exact ⟨.looked id, rfl, Nat.zero_lt_succ 4⟩
    | signal | stop | drop =>
      obtain ⟨rfl, rfl⟩ := Prod.mk.inj (Option.some.inj hnext)
      exact ⟨.acts HandleUse.noConfusion, rfl, Nat.lt_succ_self 4⟩
  | @acts use t huse =>
    obtain ⟨rfl, rfl⟩ := Prod.mk.inj (Option.some.inj hnext)
    cases use with
    | isFinished => exact absurd rfl huse
    | signal => exact ⟨.signalled none, hheld, Nat.zero_lt_succ 3⟩
    | stop | drop => exact ⟨.compares rfl, hheld, Nat.lt_succ_self 3⟩
  | compares hlast =>
    obtain ⟨rfl, rfl⟩ := Prod.mk.inj (Option.some.inj hnext)
    obtain rfl := hheld.trans (leaves_of_last hlast rfl)
    split
    · rename_i hown
      obtain ⟨hfits, hleaves, hremaining⟩ := (CameTo.alone hown).settle hlast .comparing
      exact ⟨hfits, hleaves, Nat.lt_of_le_of_lt hremaining (by decide : 1 < 3)⟩
    · rename_i hother
      exact ⟨.waits hlast hother, (leaves_of_last hlast rfl).symm, Nat.lt_succ_self 2⟩
  | waits hlast hother =>
    obtain ⟨outcome, hgone, hnext⟩ := Option.map_eq_some_iff.mp hnext
    obtain ⟨rfl, rfl⟩ := Prod.mk.inj hnext
    obtain rfl := hheld.trans (leaves_of_last hlast rfl)
    obtain ⟨hfits, hleaves, hremaining⟩ := (CameTo.joined hother hgone).settle hlast .joining
    exact ⟨hfits, hleaves, Nat.lt_of_le_of_lt hremaining (Nat.lt_succ_self 1)⟩
  | drops hcame =>
    obtain rfl : held = false := hheld
    obtain ⟨rfl, rfl⟩ := Prod.mk.inj (Option.some.inj hnext)
    exact ⟨.stopped hcame, rfl, Nat.zero_lt_succ 0⟩
  | looked | signalled | stopped | dropped => cases hnext

/-- So does a panic of the stop action. -/
theorem Fits.panic {text : String} (h : c.Fits own thread) (hpanic : c.panic text = some c') :
    c'.Fits own thread ∧ c.leaves = c'.leaves := by
  cases h with
  | @acts use t huse =>
    obtain rfl := Option.some.inj hpanic
    cases use with
    | isFinished => exact absurd rfl huse
    | signal => exact ⟨.signalled (some text), rfl⟩
    | stop => exact ⟨.drops (.broken text), rfl⟩
    | drop => exact ⟨.dropped (.broken text), rfl⟩
  | _ => cases hpanic

/-- A step of a call: its own next one, or a panic of the stop action. -/
inductive Moves (own : Nat) (thread : ThreadPhase α) (held : Bool) (c : HandleCall α) : Bool → HandleCall α → Prop
  | next {held' : Bool} {c' : HandleCall α} (h : c.next own thread held = some (held', c')) :
    Moves own thread held c held' c'
  | panic {c' : HandleCall α} {text : String} (h : c.panic text = some c') : Moves own thread held c held c'

@[simp] theorem settle_use : (c.settle answer).use = c.use := by
  unfold settle
  split <;> rfl

@[simp] theorem settle_thread : (c.settle answer).thread = c.thread := by
  unfold settle
  split <;> rfl

/-- A call is done if it has an answer. -/
theorem isDone_iff : c.isDone = true ↔ ∃ answer, c.phase = .done answer := by
  cases hphase : c.phase <;> simp [isDone, hphase]

/-- A call that takes a step is not done, and stays what it is. -/
theorem Moves.same (h : c.Moves own thread held held' c') : c.isDone = false ∧ c'.use = c.use ∧ c'.thread = c.thread := by
  cases h with
  | next h =>
    unfold HandleCall.next at h
    split at h
    case h_1 hphase =>
      refine ⟨by simp [isDone, hphase], ?_⟩
      split at h
      · obtain ⟨-, rfl⟩ := Prod.mk.inj (Option.some.inj h)
        simp
      · split at h <;> obtain ⟨-, rfl⟩ := Prod.mk.inj (Option.some.inj h) <;> simp
    case h_2 hphase | h_3 hphase =>
      obtain ⟨-, rfl⟩ := Prod.mk.inj (Option.some.inj h)
      refine ⟨by simp [isDone, hphase], ?_⟩
      split <;> simp
    case h_4 hphase =>
      obtain ⟨outcome, -, h⟩ := Option.map_eq_some_iff.mp h
      obtain ⟨-, rfl⟩ := Prod.mk.inj h
      exact ⟨by simp [isDone, hphase], by simp⟩
    case h_5 => cases h
  | panic h =>
    unfold HandleCall.panic at h
    split at h
    case h_1 hphase =>
      obtain rfl := Option.some.inj h
      exact ⟨by simp [isDone, hphase], by simp⟩
    case h_2 => cases h

/-- A call that moves on still fits, and so does the handle. -/
theorem Fits.moves (h : c.Fits own thread) (hheld : held = c.leaves) (hmoves : c.Moves own thread held held' c') :
    c'.Fits own thread ∧ held' = c'.leaves := by
  cases hmoves with
  | next hnext =>
    obtain ⟨hfits, hleaves, -⟩ := h.next hheld hnext
    exact ⟨hfits, hleaves⟩
  | panic hpanic =>
    obtain ⟨hfits, hleaves⟩ := h.panic hpanic
    exact ⟨hfits, hheld.trans hleaves⟩

/-- What a thread has come to stays. -/
theorem Fits.later (h : c.Fits own thread) (hreturned : thread.hasReturned = true → thread'.hasReturned = true)
    (hgone : ∀ outcome, thread.outcome? = some outcome → thread'.outcome? = some outcome) : c.Fits own thread' := by
  have hcame : ∀ {use t fault joins answer}, CameTo own thread use t fault joins answer →
      CameTo own thread' use t fault joins answer := by
    intro use t fault joins answer hcame
    cases hcame with
    | broken text => exact .broken text
    | alone hown => exact .alone hown
    | joined hother h => exact .joined hother (hgone _ h)
  cases h with
  | begins use t => exact .begins use t
  | looked hflag => exact .looked fun hb => hreturned (hflag hb)
  | acts huse => exact .acts huse
  | signalled fault => exact .signalled fault
  | compares hlast => exact .compares hlast
  | waits hlast hother => exact .waits hlast hother
  | drops h => exact .drops (hcame h)
  | stopped h => exact .stopped (hcame h)
  | dropped h => exact .dropped (hcame h)

/-! ### What the shapes say -/

/-- A call that is not done has no next step while it waits for the end of the thread, and at no other time. -/
theorem next_eq_none_iff :
    c.next own thread held = none ↔ c.isDone = true ∨ c.phase = .joining ∧ thread.outcome? = none := by
  cases hphase : c.phase <;> simp [HandleCall.next, isDone, hphase]
  split
  · simp
  · split <;> simp

/-- A call that looks whether the function has returned sees whether it has. -/
theorem Fits.next_isFinished (h : c.Fits own thread) (hheld : held = c.leaves) (hdone : c.isDone = false)
    (huse : c.use = .isFinished) : c.next own thread held = some (held, { c with phase := .done (.flag thread.hasReturned) }) := by
  cases h with
  | begins use t =>
    obtain rfl : use = .isFinished := huse
    obtain rfl : held = true := hheld
    rfl
  | acts hne => exact absurd huse hne
  | @compares use t hlast | @waits use t hlast =>
    obtain rfl : use = .isFinished := huse
    cases hlast
  | drops => cases huse
  | looked | signalled | stopped | dropped => cases hdone

/-- The drop that follows a stop finds nothing in the handle. -/
theorem Fits.next_pending (h : c.Fits own thread) (hheld : held = c.leaves) (hdone : c.isDone = false)
    (hpending : c.pending = some answer) : c.next own thread held = some (held, { c with phase := .done answer }) := by
  cases h with
  | drops hcame =>
    obtain rfl : held = false := hheld
    obtain rfl := Option.some.inj hpending
    rfl
  | begins | acts | compares | waits => cases hpending
  | looked | signalled | stopped | dropped => cases hdone

/-- Nobody joins itself. -/
theorem Fits.other_of_joining (h : c.Fits own thread) (hphase : c.phase = .joining) : c.thread ≠ own := by
  cases h with
  | waits hlast hother => exact hother
  | _ => cases hphase

/-- A call runs the stop action at most once. -/
theorem Fits.runs_le (h : c.Fits own thread) : c.runs ≤ 1 := by
  cases h with
  | begins | looked => exact Nat.zero_le 1
  | _ => exact Nat.le_refl 1

/-- From its first step on a call has run the stop action, if it does not only look. -/
theorem Fits.runs_eq_zero_iff (h : c.Fits own thread) :
    c.runs = 0 ↔ c.use = .isFinished ∨ c.phase = .reaching ∧ c.pending = none := by
  cases h with
  | acts huse => simp [huse]
  | @compares use t hlast | @waits use t hlast =>
    cases use with
    | stop | drop => simp
    | signal | isFinished => cases hlast
  | _ => simp [start]

/-- When it is done it has run it once, unless it only asked. -/
theorem Fits.runs_eq (h : c.Fits own thread) (hdone : c.isDone = true) : c.runs = if c.use = .isFinished then 0 else 1 := by
  cases h with
  | looked | signalled | stopped | dropped => rfl
  | _ => cases hdone

/-- Who is lent the handle does not join. -/
theorem Fits.joins_le (h : c.Fits own thread) : c.joins ≤ if c.use.isLast then 1 else 0 := by
  cases h with
  | begins | acts | compares => exact Nat.zero_le _
  | looked | signalled => exact Nat.le_refl 0
  | waits hlast => simp [hlast]
  | drops hcame | stopped hcame | dropped hcame => cases hcame <;> simp [HandleUse.isLast]

/-- Nobody joins the thread that it is on. -/
theorem Fits.joins_own (h : c.Fits own thread) (hown : c.thread = own) : c.joins = 0 := by
  cases h with
  | waits hlast hother => exact absurd hown hother
  | drops hcame | stopped hcame | dropped hcame =>
    cases hcame with
    | broken | alone => rfl
    | joined hother => exact absurd hown hother
  | _ => rfl

/-- What a stop or a drop that is done has come to. -/
theorem Fits.came (h : c.Fits own thread) (hlast : c.use.isLast = true) (hdone : c.phase = .done answer) :
    CameTo own thread c.use c.thread c.fault c.joins answer := by
  cases h with
  | stopped hcame | dropped hcame => exact HandlePhase.done.inj hdone ▸ hcame
  | looked | signalled => cases hlast
  | _ => cases hdone

/-- On another thread a stop or a drop joins, unless the stop action panics. -/
theorem CameTo.joins_eq (h : CameTo own thread use t fault joins answer) (hother : t ≠ own) (hfault : fault = none) :
    joins = 1 := by
  cases h with
  | broken text => cases hfault
  | alone hown => exact absurd hown hother
  | joined => rfl

/-- What returns on another thread has the value of the function. -/
theorem CameTo.of_returns (h : CameTo own thread use t fault joins answer) (hother : t ≠ own)
    (hreturns : ∀ text, answer ≠ .panicked text) :
    ∃ value, thread.outcome? = some (.returned value) ∧ answer = use.answer (some (.returned value)) := by
  cases h with
  | broken text => exact absurd rfl (hreturns text)
  | alone hown => exact absurd hown hother
  | @joined outcome _ hgone =>
    cases outcome with
    | returned value => exact ⟨value, hgone, rfl⟩
    | panicked text => exact absurd rfl (hreturns text)

/-- Who has joined has the end of the thread, and the answer from it. -/
theorem CameTo.of_joins (h : CameTo own thread use t fault joins answer) (hjoins : joins ≠ 0) :
    ∃ outcome, thread.outcome? = some outcome ∧ answer = use.answer (some outcome) := by
  cases h with
  | broken | alone => exact absurd rfl hjoins
  | joined hother hgone => exact ⟨_, hgone, rfl⟩

/-- A call that has joined nobody raises nothing. -/
theorem answer_none_ne_panicked (use : HandleUse) (text : String) : (use.answer none : WorkerAnswer α) ≠ .panicked text := by
  cases use <;> simp [HandleUse.answer]

/-- Who has not joined and panics has the panic from the stop action. -/
theorem CameTo.fault_eq {text : String} (h : CameTo own thread use t fault joins answer) (hjoins : joins = 0)
    (hpanicked : answer = .panicked text) : fault = some text := by
  cases h with
  | broken => exact congrArg some (WorkerAnswer.panicked.inj hpanicked)
  | alone => exact absurd hpanicked (answer_none_ne_panicked use text)
  | joined => cases hjoins

/-- A stop on the thread of the worker. -/
theorem CameTo.alone_eq (h : CameTo own thread .stop t fault joins answer) (hown : t = own) :
    answer = fault.elim .notJoined .panicked := by
  cases h with
  | broken | alone => rfl
  | joined hother => exact absurd hown hother

/-- Who joins ends the handle. -/
theorem Fits.isLast_of_joins (h : c.Fits own thread) (hjoins : c.joins ≠ 0) : c.use.isLast = true := by
  by_contra hlent
  have hle := h.joins_le
  rw [if_neg hlent, Nat.le_zero] at hle
  exact hjoins hle

/-- A call that raises a panic without joining raises the one it was given. -/
theorem Fits.fault_eq {text : String} (h : c.Fits own thread) (hdone : c.phase = .done (.panicked text)) (hjoins : c.joins = 0) :
    c.fault = some text := by
  cases h with
  | looked => cases hdone
  | signalled fault =>
    cases fault with
    | none => cases hdone
    | some text' => exact congrArg some (WorkerAnswer.panicked.inj (HandlePhase.done.inj hdone))
  | stopped hcame | dropped hcame => exact hcame.fault_eq hjoins (HandlePhase.done.inj hdone)
  | _ => cases hdone

end HandleCall

/-! ## The handle and its calls -/

namespace WorkerLife

variable {s s' : WorkerLife α} {a : LifeStep α} {c : HandleCall α}

/-- Who has the handle. -/
inductive Owned (s : WorkerLife α) : Prop
  /-- Its owner, who lends it. -/
  | lent (hlent : ∀ c ∈ s.calls, c.use.isLast = false) (hheld : s.held = true)
  /-- The last call, which began when all others were done. -/
  | given (past : List (HandleCall α)) (c : HandleCall α) (hcalls : s.calls = past ++ [c])
    (hpast : ∀ p ∈ past, p.use.isLast = false ∧ p.isDone = true) (hlast : c.use.isLast = true) (hheld : s.held = c.leaves)

/-- The invariant of all orders of steps. -/
structure Sound (s : WorkerLife α) : Prop where
  fits : ∀ c ∈ s.calls, c.Fits s.own s.thread
  owned : s.Owned
  /-- The function of the worker is running while it is in a call of its own. -/
  running : ∀ c ∈ s.calls, c.thread = s.own → c.isDone = false → s.thread.hasReturned = false

/-- The beginning is sound. -/
theorem sound_start (own : Nat) : (start own : WorkerLife α).Sound where
  fits := by simp [start]
  owned := .lent (by simp [start]) rfl
  running := by simp [start]

/-- While a call is not done, the handle holds the thread as far as that call goes. -/
theorem Sound.held (hs : s.Sound) (hc : c ∈ s.calls) (hdone : c.isDone = false) : s.held = c.leaves := by
  cases hs.owned with
  | lent hlent hheld => simp [hheld, HandleCall.leaves, hlent c hc]
  | given past d hcalls hpast hlast hheld =>
    rw [hcalls, List.mem_append, List.mem_singleton] at hc
    rcases hc with hc | rfl
    · simp [(hpast c hc).2] at hdone
    · exact hheld

/-- A step begins a call, takes one further, or takes the thread further. -/
theorem step_cases (h : s.step a = some s') :
    (∃ use t, a = .call use t ∧ s.canCall use t = true ∧ s' = { s with calls := s.calls ++ [.start use t] }) ∨
      (∃ n c held c', (a = .next n ∨ ∃ text, a = .panic n text) ∧ s.calls[n]? = some c ∧
        c.Moves s.own s.thread s.held held c' ∧ s' = { s with held, calls := s.calls.set n c' }) ∨
      (∃ outcome, a = .finish outcome ∧ s.canFinish = true ∧ s' = { s with thread := .returned outcome }) ∨
      ∃ outcome, a = .leave ∧ s.thread = .returned outcome ∧ s' = { s with thread := .gone outcome } := by
  cases a with
  | call use t =>
    simp only [step, Option.ite_none_right_eq_some, Option.some.injEq] at h
    obtain ⟨hcan, rfl⟩ := h
    exact .inl ⟨use, t, rfl, hcan, rfl⟩
  | next n =>
    obtain ⟨c, hn, h⟩ := Option.bind_eq_some_iff.mp h
    obtain ⟨⟨held, c'⟩, hnext, rfl⟩ := Option.map_eq_some_iff.mp h
    exact .inr (.inl ⟨n, c, held, c', .inl rfl, hn, .next hnext, rfl⟩)
  | panic n text =>
    obtain ⟨c, hn, h⟩ := Option.bind_eq_some_iff.mp h
    obtain ⟨c', hpanic, rfl⟩ := Option.map_eq_some_iff.mp h
    exact .inr (.inl ⟨n, c, s.held, c', .inr ⟨text, rfl⟩, hn, .panic hpanic, rfl⟩)
  | finish outcome =>
    simp only [step, Option.ite_none_right_eq_some, Option.some.injEq] at h
    obtain ⟨hcan, rfl⟩ := h
    exact .inr (.inr (.inl ⟨outcome, rfl, hcan, rfl⟩))
  | leave =>
    cases hthread : s.thread with
    | running | gone => simp [step, hthread] at h
    | returned outcome =>
      simp only [step, hthread, Option.some.injEq] at h
      exact .inr (.inr (.inr ⟨outcome, rfl, rfl, h.symm⟩))

/-- Whoever calls is lent the handle by its owner, or given it when nobody uses it. -/
theorem canCall_iff {use : HandleUse} :
    s.canCall use t = true ↔ (∀ c ∈ s.calls, c.use.isLast = false) ∧
      (use.isLast = true → ∀ c ∈ s.calls, c.isDone = true) ∧ (t = s.own → s.thread.hasReturned = false) := by
  simp [canCall, and_assoc, imp_iff_not_or]

/-- As long as the handle is only lent, it is held. -/
theorem Sound.held_of_lent (hs : s.Sound) (hlent : ∀ c ∈ s.calls, c.use.isLast = false) : s.held = true := by
  cases hs.owned with
  | lent _ hheld => exact hheld
  | given past c hcalls _ hlast _ => simp [hlent c (by simp [hcalls])] at hlast

/-- A call that may begin keeps the state sound. -/
theorem Sound.step_call (hs : s.Sound) {use : HandleUse} (hcan : s.canCall use t = true) :
    ({ s with calls := s.calls ++ [.start use t] } : WorkerLife α).Sound := by
  obtain ⟨hlent, hfree, hrunning⟩ := canCall_iff.mp hcan
  have hheld := hs.held_of_lent hlent
  constructor
  case fits =>
    intro c hc
    rcases List.mem_append.mp hc with hc | hc
    · exact hs.fits c hc
    · obtain rfl := List.mem_singleton.mp hc
      exact .begins use t
  case owned =>
    cases huse : use.isLast with
    | false =>
      refine .lent (fun c hc => ?_) hheld
      rcases List.mem_append.mp hc with hc | hc
      · exact hlent c hc
      · exact List.mem_singleton.mp hc ▸ huse
    | true =>
      refine .given s.calls (.start use t) rfl (fun p hp => ⟨hlent p hp, hfree huse p hp⟩) huse ?_
      simp [hheld, HandleCall.leaves, HandleCall.start]
  case running =>
    intro c hc hown hdone
    rcases List.mem_append.mp hc with hc | hc
    · exact hs.running c hc hown hdone
    · obtain rfl := List.mem_singleton.mp hc
      exact hrunning hown

/-- So does one that moves on. -/
theorem Sound.step_move (hs : s.Sound) {held : Bool} {c' : HandleCall α} (hn : s.calls[n]? = some c)
    (hmoves : c.Moves s.own s.thread s.held held c') :
    ({ s with held, calls := s.calls.set n c' } : WorkerLife α).Sound := by
  have hc := List.mem_of_getElem? hn
  obtain ⟨hdone, huse, hthread⟩ := hmoves.same
  obtain ⟨hfits, hheld⟩ := (hs.fits c hc).moves (hs.held hc hdone) hmoves
  constructor
  case fits =>
    intro d hd
    rcases List.mem_or_eq_of_mem_set hd with hd | rfl
    · exact hs.fits d hd
    · exact hfits
  case owned =>
    cases hs.owned with
    | lent hlent _ =>
      have hlast : c'.use.isLast = false := huse ▸ hlent c hc
      refine .lent (fun d hd => ?_) (by simp [hheld, HandleCall.leaves, hlast])
      rcases List.mem_or_eq_of_mem_set hd with hd | rfl
      · exact hlent d hd
      · exact hlast
    | given past d hcalls hpast hlast _ =>
      -- The calls in front are done, so it is the last one that has moved.
      rw [hcalls] at hn
      rcases Nat.lt_or_ge n past.length with hlt | hge
      · rw [List.getElem?_append_left hlt] at hn
        simp [(hpast c (List.mem_of_getElem? hn)).2] at hdone
      · rw [List.getElem?_append_right hge] at hn
        obtain ⟨hzero, rfl⟩ : n - past.length = 0 ∧ d = c := by
          simpa using List.getElem?_eq_some_iff.mp hn
        refine .given past c' ?_ hpast (huse ▸ hlast) hheld
        simp [hcalls, List.set_append_right _ _ hge, hzero]
  case running =>
    intro d hd hown hdone'
    rcases List.mem_or_eq_of_mem_set hd with hd | rfl
    · exact hs.running d hd hown hdone'
    · exact hs.running c hc (hthread ▸ hown) hdone

theorem canFinish_iff :
    s.canFinish = true ↔ s.thread = .running ∧ ∀ c ∈ s.calls, c.thread = s.own → c.isDone = true := by
  cases hthread : s.thread <;> simp [canFinish, hthread, ThreadPhase.hasReturned, imp_iff_not_or]

/-- So does the thread, when it does not come back and all calls on it are done. -/
theorem Sound.step_thread (hs : s.Sound) (hreturned : s.thread.hasReturned = true → thread.hasReturned = true)
    (hgone : ∀ outcome, s.thread.outcome? = some outcome → thread.outcome? = some outcome)
    (hown : ∀ c ∈ s.calls, c.thread = s.own → c.isDone = true) : ({ s with thread } : WorkerLife α).Sound where
  fits := fun c hc => (hs.fits c hc).later hreturned hgone
  owned := by
    cases hs.owned with
    | lent hlent hheld => exact .lent hlent hheld
    | given past c hcalls hpast hlast hheld => exact .given past c hcalls hpast hlast hheld
  running := fun c hc h hdone => absurd (hown c hc h) (by simp [hdone])

/-- Every step does. -/
theorem Sound.step (hs : s.Sound) (h : s.step a = some s') : s'.Sound := by
  rcases step_cases h with ⟨use, t, -, hcan, rfl⟩ | ⟨n, c, held, c', -, hn, hmoves, rfl⟩ | ⟨outcome, -, hcan, rfl⟩ |
    ⟨outcome, -, hthread, rfl⟩
  · exact hs.step_call hcan
  · exact hs.step_move hn hmoves
  · obtain ⟨hrunning, hown⟩ := canFinish_iff.mp hcan
    exact hs.step_thread (fun _ => rfl) (by simp [hrunning, ThreadPhase.outcome?]) hown
  · -- The function has returned, so none of its own calls is going on.
    refine hs.step_thread (fun _ => rfl) (by simp [hthread, ThreadPhase.outcome?]) fun c hc hown => ?_
    by_contra hdone
    have hrunning := hs.running c hc hown (Bool.not_eq_true _ ▸ hdone)
    simp [hthread, ThreadPhase.hasReturned] at hrunning

/-- So do any steps. -/
theorem Sound.run (hs : s.Sound) (steps : List (LifeStep α)) : (s.run steps).Sound := by
  induction steps generalizing s with
  | nil => exact hs
  | cons a steps ih =>
    refine ih (s := (s.step a).getD s) ?_
    cases h : s.step a with
    | none => exact hs
    | some s' => exact hs.step h

/-! ## Counting -/

/-- How often the stop action was run. -/
def runs (s : WorkerLife α) : Nat :=
  (s.calls.map (·.runs)).sum

/-- How often somebody set out to join the thread. -/
def joins (s : WorkerLife α) : Nat :=
  (s.calls.map (·.joins)).sum

/-- The handle is ended at most once. -/
theorem Sound.last_le (hs : s.Sound) : s.calls.countP (·.use.isLast) ≤ 1 := by
  cases hs.owned with
  | lent hlent _ =>
    rw [List.countP_eq_zero.mpr fun c hc => by simp [hlent c hc]]
    exact Nat.zero_le 1
  | given past c hcalls hpast _ _ =>
    rw [hcalls, List.countP_append, List.countP_eq_zero.mpr fun p hp => by simp [(hpast p hp).1], Nat.zero_add]
    exact List.countP_le_length

/-- Calls that join at most once, and only if they were given the handle, do not join more often than it was given. -/
theorem sum_joins_le {calls : List (HandleCall α)} (h : ∀ c ∈ calls, c.joins ≤ if c.use.isLast then 1 else 0) :
    (calls.map (·.joins)).sum ≤ calls.countP (·.use.isLast) := by
  induction calls with
  | nil => exact Nat.le_refl 0
  | cons c calls ih =>
    have hc := h c List.mem_cons_self
    have hrest := ih fun d hd => h d (List.mem_cons_of_mem c hd)
    rw [List.map_cons, List.sum_cons, List.countP_cons, Nat.add_comm]
    exact Nat.add_le_add hrest hc

/-- The thread is joined at most once. -/
theorem Sound.joins_le (hs : s.Sound) : s.joins ≤ 1 :=
  Nat.le_trans (sum_joins_le fun c hc => (hs.fits c hc).joins_le) hs.last_le

/-- Calls that run the stop action once if they do not only look run it once for every signal and every stop and drop. -/
theorem sum_runs {calls : List (HandleCall α)} (h : ∀ c ∈ calls, c.runs = if c.use = .isFinished then 0 else 1) :
    (calls.map (·.runs)).sum = calls.countP (·.use = .signal) + calls.countP (·.use.isLast) := by
  induction calls with
  | nil => rfl
  | cons c calls ih =>
    have hc := h c List.mem_cons_self
    have hrest := ih fun d hd => h d (List.mem_cons_of_mem c hd)
    cases huse : c.use <;> simp [huse, hc, hrest, HandleUse.isLast] <;> omega

/-! ## The next step of a call -/

/-- The next step of a call, by its phase. -/
theorem step_next (hn : s.calls[n]? = some c) :
    s.step (.next n) = (c.next s.own s.thread s.held).map fun (held, c) => { s with held, calls := s.calls.set n c } := by
  simp [WorkerLife.step, hn]

/-- A call that has no next step waits for the end of the thread, on another one. -/
theorem Sound.next_eq_none (hs : s.Sound) (hn : s.calls[n]? = some c) (hdone : c.isDone = false)
    (hnone : s.step (.next n) = none) : c.phase = .joining ∧ c.thread ≠ s.own ∧ s.thread.outcome? = none := by
  rw [step_next hn, Option.map_eq_none_iff, HandleCall.next_eq_none_iff] at hnone
  rcases hnone with hnone | ⟨hphase, hthere⟩
  · simp [hdone] at hnone
  · exact ⟨hphase, (hs.fits c (List.mem_of_getElem? hn)).other_of_joining hphase, hthere⟩

/-- A call on the thread of the worker always has a next step, and the function is running. -/
theorem Sound.own_next (hs : s.Sound) (hn : s.calls[n]? = some c) (hown : c.thread = s.own) (hdone : c.isDone = false) :
    s.thread = .running ∧ ∃ s', s.step (.next n) = some s' := by
  refine ⟨ThreadPhase.eq_running (hs.running c (List.mem_of_getElem? hn) hown hdone), ?_⟩
  refine Option.ne_none_iff_exists'.mp fun hnone => ?_
  exact (hs.next_eq_none hn hdone hnone).2.1 hown

/-- A step of a call that leaves the handle as it is. -/
theorem step_next_of_eq {c' : HandleCall α} (hn : s.calls[n]? = some c)
    (hnext : c.next s.own s.thread s.held = some (s.held, c')) : s.step (.next n) = some { s with calls := s.calls.set n c' } := by
  rw [step_next hn, hnext, Option.map_some]

end WorkerLife

end Switchboard
