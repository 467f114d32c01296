import Switchboard.Proofs.Thread.Life

/-!
# The law of a worker

What holds of a worker however the calls at its handle, its function and its thread take their steps, and whenever the function
comes to its end. The main statement is `worker_law`: the stop action is run once for every signal and once for the stop or the
drop at the end; the thread is joined at most once, and never by itself; a stop or a drop that has returned on another thread
finds the function returned, and a stop gives its value; a stop on the thread of the worker gives nothing and waits for nobody;
and a panic of the function is raised by whoever joins.

What is performed on a `Worker`, one step after another, is what such a life comes to when nobody interrupts a call
(`Worker.Shows.performAll`).
-/

namespace Switchboard

variable {α : Type} {own t : Nat}

/-! ## Calls that nobody interrupts -/

namespace WorkerLife

variable {s : WorkerLife α} {use : HandleUse} {outcome : WorkerEnd α}

/-- Later steps begin where the earlier ones end. -/
theorem run_append (steps later : List (LifeStep α)) : s.run (steps ++ later) = (s.run steps).run later :=
  List.foldl_append

/-- A call that may begin begins. -/
theorem run_call (hcan : s.canCall use t = true) (steps : List (LifeStep α)) :
    s.run (.call use t :: steps) = ({ s with calls := s.calls ++ [.start use t] } : WorkerLife α).run steps := by
  simp [run, step, hcan]

/-- A signal that nobody interrupts runs the stop action. -/
theorem run_signal (hheld : s.held = true) :
    ({ s with calls := s.calls ++ [.start .signal t] } : WorkerLife α).run (List.replicate 2 (.next s.calls.length)) =
      { s with calls := s.calls ++ [⟨.signal, t, .done .nothing, none, 1, none, 0⟩] } := by
  simp [run, List.replicate, step, HandleCall.start, HandleCall.next, HandleCall.settle, HandleUse.isLast, hheld]

/-- The question whether the function is over is answered in one step. -/
theorem run_isFinished (hheld : s.held = true) :
    ({ s with calls := s.calls ++ [.start .isFinished t] } : WorkerLife α).run [.next s.calls.length] =
      { s with calls := s.calls ++ [⟨.isFinished, t, .done (.flag s.thread.hasReturned), none, 0, none, 0⟩] } := by
  simp [run, step, HandleCall.start, HandleCall.next, HandleCall.settle, hheld]

/-- On the thread of the worker a stop comes to its end by itself. -/
theorem run_stop_own (hheld : s.held = true) :
    ({ s with calls := s.calls ++ [.start .stop s.own] } : WorkerLife α).run (List.replicate 4 (.next s.calls.length)) =
      { s with held := false, calls := s.calls ++ [⟨.stop, s.own, .done .notJoined, some .notJoined, 1, none, 0⟩] } := by
  simp [run, List.replicate, step, HandleCall.start, HandleCall.next, HandleCall.settle, HandleUse.isLast, HandleUse.answer,
    hheld]

/-- On another thread a stop or a drop comes to wait. -/
theorem run_to_joining (hlast : use.isLast = true) (hother : t ≠ s.own) (hheld : s.held = true) :
    ({ s with calls := s.calls ++ [.start use t] } : WorkerLife α).run (List.replicate 3 (.next s.calls.length)) =
      { s with held := false, calls := s.calls ++ [⟨use, t, .joining, none, 1, none, 1⟩] } := by
  have huse : use ≠ .isFinished := by
    rintro rfl
    cases hlast
  simp [run, List.replicate, step, HandleCall.start, HandleCall.next, hlast, hother, hheld, huse]

/-- It goes on when the thread is gone. -/
theorem run_joining (own t : Nat) (outcome : WorkerEnd α) (past : List (HandleCall α)) (hlast : use.isLast = true) :
    ∃ pending, (⟨own, .gone outcome, false, past ++ [⟨use, t, .joining, none, 1, none, 1⟩]⟩ : WorkerLife α).run
        (List.replicate 2 (.next past.length)) =
      ⟨own, .gone outcome, false, past ++ [⟨use, t, .done (use.answer (some outcome)), pending, 1, none, 1⟩]⟩ := by
  have hgone : (ThreadPhase.gone outcome).outcome? = some outcome := rfl
  cases use with
  | stop | drop => simp [run, List.replicate, step, HandleCall.next, HandleCall.settle, hgone]
  | signal | isFinished => cases hlast

/-- The function and the thread come to their ends, or have done so before. -/
theorem run_finish (hown : ∀ c ∈ s.calls, c.thread = s.own → c.isDone = true)
    (hthread : s.thread = .running ∨ s.thread = .gone outcome) :
    s.run [.finish outcome, .leave] = { s with thread := .gone outcome } := by
  rcases hthread with hthread | hthread
  · have hcan : s.canFinish = true := canFinish_iff.mpr ⟨hthread, hown⟩
    simp [run, step, hcan]
  · have hcannot : s.canFinish = false := by simp [canFinish, hthread, ThreadPhase.hasReturned]
    cases s
    simp_all [run, step]

end WorkerLife

/-! ## The worker that a life shows -/

/-- Whether a step gives the handle away. -/
def WorkerStep.isLast : WorkerStep → Bool
  | .stop | .drop | .stopSelf => true
  | .signal | .isFinished | .waitFinished => false

/-- Between two calls, a worker and the answers so far are those of a life. -/
structure Worker.Shows (own : Nat) (w : Worker α) (answers : List (WorkerAnswer α)) (s : WorkerLife α) : Prop where
  own : s.own = own
  thread : s.thread = if w.ended then .gone w.outcome else .running
  held : s.held = w.held
  runs : s.runs = w.stops
  joins : s.joins = w.joins
  answers : s.answers = answers
  quiet : ∀ c ∈ s.calls, c.isDone = true
  lent : w.held = true → ∀ c ∈ s.calls, c.use.isLast = false

/-- A stop of a worker that is held waits for the function and gives its outcome. -/
theorem Worker.stop_eq {w : Worker α} (hheld : w.held = true) :
    w.stop = (some w.outcome, { w with stops := w.stops + 1, held := false, ended := true, joins := w.joins + 1 }) := by
  simp [stop, hheld, finish, canEnd]

/-- The same as it is performed. -/
theorem WorkerStep.perform_stop_eq {w : Worker α} (hheld : w.held = true) :
    WorkerStep.stop.perform w = (HandleUse.stop.answer (some w.outcome),
      { w with stops := w.stops + 1, held := false, ended := true, joins := w.joins + 1 }) := by
  cases houtcome : w.outcome <;> simp [perform, Worker.stop_eq hheld, houtcome, HandleUse.answer]

/-- So it is with a drop. -/
theorem WorkerStep.perform_drop_eq {w : Worker α} (hheld : w.held = true) :
    WorkerStep.drop.perform w = (HandleUse.drop.answer (some w.outcome),
      { w with stops := w.stops + 1, held := false, ended := true, joins := w.joins + 1 }) := by
  cases houtcome : w.outcome <;> simp [perform, Worker.stop_eq hheld, houtcome, HandleUse.answer]

namespace Worker.Shows

variable {w w' : Worker α} {s s' : WorkerLife α} {answers : List (WorkerAnswer α)}

/-- A worker that is started shows the beginning of a life. -/
theorem start (own : Nat) (outcome : WorkerEnd α) (waits : Bool) :
    (Worker.start outcome waits).Shows own [] (WorkerLife.start own) :=
  ⟨rfl, rfl, rfl, rfl, rfl, rfl, by simp [WorkerLife.start], by simp [WorkerLife.start]⟩

/-- A held worker can be called from any thread, and from its own while the function runs. -/
theorem canCall (h : w.Shows own answers s) (hheld : w.held = true) {use : HandleUse} (hrunning : t = own → w.ended = false) :
    s.canCall use t = true := by
  refine WorkerLife.canCall_iff.mpr ⟨h.lent hheld, fun _ => h.quiet, fun hown => ?_⟩
  rw [h.thread, hrunning (hown.trans h.own)]
  rfl

/-- One more call that is done. -/
theorem call (h : w.Shows own answers s) {c : HandleCall α} {answer : WorkerAnswer α} (hdone : c.phase = .done answer)
    (hown : s'.own = s.own) (hcalls : s'.calls = s.calls ++ [c])
    (hthread : s'.thread = if w'.ended then .gone w'.outcome else .running) (hheld : s'.held = w'.held)
    (hruns : w.stops + c.runs = w'.stops) (hjoins : w.joins + c.joins = w'.joins)
    (hlent : w'.held = true → w.held = true ∧ c.use.isLast = false) : w'.Shows own (answers ++ [answer]) s' where
  own := hown.trans h.own
  thread := hthread
  held := hheld
  runs := by
    rw [← hruns, ← h.runs]
    simp [WorkerLife.runs, hcalls]
  joins := by
    rw [← hjoins, ← h.joins]
    simp [WorkerLife.joins, hcalls]
  answers := by
    rw [← h.answers]
    simp [WorkerLife.answers, hcalls, hdone]
  quiet := by
    intro d hd
    rw [hcalls, List.mem_append, List.mem_singleton] at hd
    rcases hd with hd | rfl
    · exact h.quiet d hd
    · simp [HandleCall.isDone, hdone]
  lent := by
    intro hheld d hd
    obtain ⟨hbefore, hlast⟩ := hlent hheld
    rw [hcalls, List.mem_append, List.mem_singleton] at hd
    rcases hd with hd | rfl
    · exact h.lent hbefore d hd
    · exact hlast

/-- A signal on a worker is one in its life. -/
theorem perform_signal (h : w.Shows own answers s) (hheld : w.held = true) (hother : t ≠ own) :
    w.signal.Shows own (answers ++ [.nothing]) (s.run (.call .signal t :: List.replicate 2 (.next s.calls.length))) := by
  rw [WorkerLife.run_call (h.canCall hheld fun hown => absurd hown hother), WorkerLife.run_signal (h.held.trans hheld), signal,
    if_pos hheld]
  exact h.call rfl rfl rfl h.thread h.held rfl rfl fun _ => ⟨hheld, rfl⟩

/-- So is the question whether it is over. -/
theorem perform_isFinished (h : w.Shows own answers s) (hheld : w.held = true) (hother : t ≠ own) :
    w.Shows own (answers ++ [.flag w.isFinished]) (s.run [.call .isFinished t, .next s.calls.length]) := by
  rw [WorkerLife.run_call (h.canCall hheld fun hown => absurd hown hother), WorkerLife.run_isFinished (h.held.trans hheld)]
  have hflag : w.isFinished = s.thread.hasReturned := by
    rw [h.thread, isFinished, hheld]
    cases w.ended <;> rfl
  rw [hflag]
  exact h.call rfl rfl rfl h.thread h.held rfl rfl fun _ => ⟨hheld, rfl⟩

/-- Its thread runs or is gone with the outcome. -/
theorem thread_cases (h : w.Shows own answers s) : s.thread = .running ∨ s.thread = .gone w.outcome := by
  rw [h.thread]
  cases w.ended
  · exact .inl rfl
  · exact .inr rfl

/-- The function comes to its end if it is able to. -/
theorem finish (h : w.Shows own answers s) :
    w.finish.Shows own answers (s.run (if w.canEnd then [.finish w.outcome, .leave] else [])) := by
  cases hcan : w.canEnd with
  | false =>
    have hsame : w.finish = w := by simp [Worker.finish, hcan]
    rw [hsame]
    exact h
  | true =>
    rw [if_pos rfl, WorkerLife.run_finish (fun c hc _ => h.quiet c hc) h.thread_cases]
    exact { h with thread := by simp [Worker.finish, hcan] }

/-- A stop or a drop on another thread, during which the function comes to its end. -/
theorem perform_last (h : w.Shows own answers s) (hheld : w.held = true) (hother : t ≠ own) (use : HandleUse)
    (hlast : use.isLast = true) :
    ({ w with stops := w.stops + 1, held := false, ended := true, joins := w.joins + 1 } : Worker α).Shows own
      (answers ++ [use.answer (some w.outcome)])
      (s.run (.call use t :: (List.replicate 3 (.next s.calls.length) ++ [.finish w.outcome, .leave] ++
        List.replicate 2 (.next s.calls.length)))) := by
  have hother' : t ≠ s.own := fun hown => hother (hown.trans h.own)
  -- The call that waits does not keep the function from its end, being on another thread.
  have hothers : ∀ c ∈ s.calls ++ [⟨use, t, .joining, none, 1, none, 1⟩], c.thread = s.own → c.isDone = true := by
    intro c hc hown
    rcases List.mem_append.mp hc with hc | hc
    · exact h.quiet c hc
    · obtain rfl := List.mem_singleton.mp hc
      exact absurd hown hother'
  obtain ⟨pending, hjoined⟩ := WorkerLife.run_joining s.own t w.outcome s.calls hlast
  have hfinish := WorkerLife.run_finish
    (s := ⟨s.own, s.thread, false, s.calls ++ [⟨use, t, .joining, none, 1, none, 1⟩]⟩) hothers h.thread_cases
  rw [WorkerLife.run_call (h.canCall hheld fun hown => absurd hown hother), WorkerLife.run_append, WorkerLife.run_append,
    WorkerLife.run_to_joining hlast hother' (h.held.trans hheld), hfinish, hjoined]
  exact h.call rfl rfl rfl rfl rfl rfl rfl nofun

/-- A stop on the thread of the worker is a stop in its life that joins nobody. -/
theorem perform_stopSelf (h : w.Shows own answers s) (hheld : w.held = true) (hrunning : w.ended = false) :
    w.stopSelf.2.Shows own (answers ++ [.notJoined])
      (s.run (.call .stop own :: List.replicate 4 (.next s.calls.length))) := by
  obtain rfl := h.own
  rw [WorkerLife.run_call (h.canCall hheld fun _ => hrunning), WorkerLife.run_stop_own (h.held.trans hheld), stopSelf,
    if_pos hheld]
  exact h.call rfl rfl rfl h.thread rfl rfl rfl nofun

/-- Whatever is done with a worker while its handle holds the thread is some steps of a life. -/
theorem perform (h : w.Shows own answers s) (hheld : w.held = true) (a : WorkerStep)
    (hself : a = .stopSelf → w.ended = false) :
    ∃ steps, (a.perform w).2.Shows own (answers ++ [(a.perform w).1]) (s.run steps) := by
  have hother : own + 1 ≠ own := Nat.succ_ne_self own
  cases a with
  | signal => exact ⟨_, h.perform_signal hheld hother⟩
  | isFinished => exact ⟨_, h.perform_isFinished hheld hother⟩
  | waitFinished =>
    have hlook := h.finish.perform_isFinished hheld hother
    rw [← WorkerLife.run_append] at hlook
    exact ⟨_, hlook⟩
  | stop =>
    rw [WorkerStep.perform_stop_eq hheld]
    exact ⟨_, h.perform_last hheld hother .stop rfl⟩
  | drop =>
    rw [WorkerStep.perform_drop_eq hheld]
    exact ⟨_, h.perform_last hheld hother .drop rfl⟩
  | stopSelf => exact ⟨_, h.perform_stopSelf hheld (hself rfl)⟩

/-- Only a stop or a drop gives the handle away. -/
theorem held_perform {a : WorkerStep} (ha : a.isLast = false) : (a.perform w).2.held = w.held := by
  cases a with
  | signal =>
    simp only [WorkerStep.perform, signal]
    split <;> rfl
  | isFinished | waitFinished => rfl
  | stop | drop | stopSelf => cases ha

/-- So is a sequence of them. -/
theorem performAll (h : w.Shows own answers s) (hheld : w.held = true) {lent : List WorkerStep} {last : WorkerStep}
    (hlent : ∀ a ∈ lent, a.isLast = false) (hself : last = .stopSelf → (WorkerStep.performAll w lent).2.ended = false) :
    ∃ steps, (WorkerStep.performAll w (lent ++ [last])).2.Shows own
      (answers ++ (WorkerStep.performAll w (lent ++ [last])).1.map (·.1)) (s.run steps) := by
  induction lent generalizing w answers s with
  | nil => exact h.perform hheld last hself
  | cons a lent ih =>
    have ha := hlent a List.mem_cons_self
    obtain ⟨before, hfirst⟩ := h.perform hheld a (by rintro rfl; cases ha)
    obtain ⟨behind, hrest⟩ := ih hfirst ((held_perform ha).trans hheld) (fun b hb => hlent b (List.mem_cons_of_mem a hb)) hself
    rw [← WorkerLife.run_append, List.append_assoc] at hrest
    exact ⟨before ++ behind, hrest⟩

end Worker.Shows

/-! ## The law -/

/-- What holds of a worker and the calls at its handle after some steps. -/
structure LifeLaw (s : WorkerLife α) : Prop where
  /-- The handle is given to one call at most, which stops the worker or drops the handle. -/
  last : s.calls.countP (·.use.isLast) ≤ 1
  /-- A call runs the stop action at most once, and it has run it from its first step on, unless it only looks. -/
  runs : ∀ c ∈ s.calls, c.runs ≤ 1 ∧ (c.runs = 0 ↔ c.use = .isFinished ∨ c.phase = .reaching ∧ c.pending = none)
  /-- When no call is going on, the stop action was run once for every signal and once for the stop or the drop at the end. -/
  counted : (∀ c ∈ s.calls, c.isDone = true) → s.runs = s.calls.countP (·.use = .signal) + s.calls.countP (·.use.isLast)
  /-- The drop that follows a stop brings the answer of the stop, and does nothing else. -/
  emptied : ∀ n c answer, s.calls[n]? = some c → c.pending = some answer → c.isDone = false →
    s.step (.next n) = some { s with calls := s.calls.set n { c with phase := .done answer } }
  /-- Looking tells whether the function has returned, and does nothing else. -/
  looks : ∀ n c, s.calls[n]? = some c → c.use = .isFinished → c.isDone = false →
    s.step (.next n) = some { s with calls := s.calls.set n { c with phase := .done (.flag s.thread.hasReturned) } }
  /-- The thread is joined at most once, and never by itself. -/
  joins : s.joins ≤ 1 ∧ ∀ c ∈ s.calls, c.thread = s.own → c.joins = 0
  /-- A stop or a drop on another thread joins, unless the stop action panics. -/
  joined : ∀ c ∈ s.calls, c.use.isLast = true → c.thread ≠ s.own → c.isDone = true → c.fault = none → c.joins = 1
  /-- When it has returned, the function has returned and the thread is gone; a stop gives the value of the function. -/
  returned : ∀ c ∈ s.calls, c.use.isLast = true → c.thread ≠ s.own → ∀ answer, c.phase = .done answer →
    (∀ text, answer ≠ .panicked text) →
      ∃ value, s.thread = .gone (.returned value) ∧ answer = if c.use = .stop then .joined value else .nothing
  /-- Whoever has joined raises the panic of the function, if that is how it ended. -/
  raised : ∀ c ∈ s.calls, c.joins ≠ 0 → ∀ answer, c.phase = .done answer →
    ∃ outcome, s.thread = .gone outcome ∧ ∀ text, outcome = .panicked text → answer = .panicked text
  /-- A panic of any other call is that of the stop action. -/
  spared : ∀ c ∈ s.calls, c.joins = 0 → ∀ text, c.phase = .done (.panicked text) → c.fault = some text
  /-- A stop on the thread of the worker gives nothing, unless the stop action panics. -/
  alone : ∀ c ∈ s.calls, c.use = .stop → c.thread = s.own → ∀ answer, c.phase = .done answer →
    answer = c.fault.elim .notJoined .panicked
  /-- It comes to that in four steps of its own, while the function is running. -/
  unjoined : ∀ s', s.step (.call .stop s.own) = some s' → s.thread = .running ∧
    s'.run (List.replicate 4 (.next s.calls.length)) =
      { s with held := false, calls := s.calls ++ [⟨.stop, s.own, .done .notJoined, some .notJoined, 1, none, 0⟩] }
  /-- Whoever else takes steps, a call on the thread of the worker waits for nobody. -/
  unhindered : ∀ n c, s.calls[n]? = some c → c.thread = s.own → c.isDone = false →
    s.thread = .running ∧ ∃ s', s.step (.next n) = some s'
  /-- A call on another thread waits for nothing but the end of the thread that it joins. -/
  waits : ∀ n c, s.calls[n]? = some c → c.isDone = false → s.step (.next n) = none →
    c.phase = .joining ∧ s.thread.outcome? = none
  /-- Every step of a call leaves fewer to it. -/
  wanes : ∀ n c s', s.calls[n]? = some c → s.step (.next n) = some s' →
    ∃ c', s'.calls[n]? = some c' ∧ c'.remaining < c.remaining

/-- The laws of a worker. -/
structure WorkerLaw (α : Type) : Prop where
  /-- The law of its life holds after any steps, in any order. -/
  life : ∀ (own : Nat) (steps : List (LifeStep α)), LifeLaw ((WorkerLife.start own).run steps)
  /-- What is performed on a worker one after another, with what is given the handle at the end, is some steps of a life. The
  worker that stops itself is running. -/
  performed : ∀ (own : Nat) (outcome : WorkerEnd α) (waits : Bool) (lent : List WorkerStep) (last : WorkerStep),
    (∀ a ∈ lent, a.isLast = false) →
    (last = .stopSelf → (WorkerStep.performAll (.start outcome waits) lent).2.ended = false) →
    ∃ steps, (WorkerStep.performAll (.start outcome waits) (lent ++ [last])).2.Shows own
      ((WorkerStep.performAll (.start outcome waits) (lent ++ [last])).1.map (·.1)) ((WorkerLife.start own).run steps)

/-- The law of a worker. -/
theorem worker_law : WorkerLaw α := by
  constructor
  case life =>
    intro own steps
    have hs : ((WorkerLife.start own : WorkerLife α).run steps).Sound := (WorkerLife.sound_start own).run steps
    constructor
    case last => exact hs.last_le
    case runs => exact fun c hc => ⟨(hs.fits c hc).runs_le, (hs.fits c hc).runs_eq_zero_iff⟩
    case counted => exact fun hdone => WorkerLife.sum_runs fun c hc => (hs.fits c hc).runs_eq (hdone c hc)
    case emptied =>
      intro n c answer hn hpending hdone
      have hc := List.mem_of_getElem? hn
      exact WorkerLife.step_next_of_eq hn ((hs.fits c hc).next_pending (hs.held hc hdone) hdone hpending)
    case looks =>
      intro n c hn huse hdone
      have hc := List.mem_of_getElem? hn
      exact WorkerLife.step_next_of_eq hn ((hs.fits c hc).next_isFinished (hs.held hc hdone) hdone huse)
    case joins => exact ⟨hs.joins_le, fun c hc => (hs.fits c hc).joins_own⟩
    case joined =>
      intro c hc hlast hother hdone hfault
      obtain ⟨answer, hphase⟩ := HandleCall.isDone_iff.mp hdone
      exact ((hs.fits c hc).came hlast hphase).joins_eq hother hfault
    case returned =>
      intro c hc hlast hother answer hphase hreturns
      obtain ⟨value, hgone, hanswer⟩ := ((hs.fits c hc).came hlast hphase).of_returns hother hreturns
      exact ⟨value, ThreadPhase.outcome?_eq_some_iff.mp hgone, hanswer⟩
    case raised =>
      intro c hc hjoins answer hphase
      have hfits := hs.fits c hc
      obtain ⟨outcome, hgone, hanswer⟩ := (hfits.came (hfits.isLast_of_joins hjoins) hphase).of_joins hjoins
      refine ⟨outcome, ThreadPhase.outcome?_eq_some_iff.mp hgone, fun text htext => ?_⟩
      rw [hanswer, htext]
      rfl
    case spared => exact fun c hc hjoins text hphase => (hs.fits c hc).fault_eq hphase hjoins
    case alone =>
      intro c hc huse hown answer hphase
      have hcame := (hs.fits c hc).came (by simp [huse, HandleUse.isLast]) hphase
      rw [huse] at hcame
      exact hcame.alone_eq hown
    case unjoined =>
      intro s' h
      simp only [WorkerLife.step, Option.ite_none_right_eq_some, Option.some.injEq] at h
      obtain ⟨hcan, rfl⟩ := h
      obtain ⟨hlent, -, hrunning⟩ := WorkerLife.canCall_iff.mp hcan
      exact ⟨ThreadPhase.eq_running (hrunning rfl), WorkerLife.run_stop_own (hs.held_of_lent hlent)⟩
    case unhindered => exact fun n c hn hown hdone => hs.own_next hn hown hdone
    case waits =>
      intro n c hn hdone hnone
      obtain ⟨hphase, -, hthere⟩ := hs.next_eq_none hn hdone hnone
      exact ⟨hphase, hthere⟩
    case wanes =>
      intro n c s' hn h
      rw [WorkerLife.step_next hn] at h
      obtain ⟨⟨held, c'⟩, hnext, rfl⟩ := Option.map_eq_some_iff.mp h
      have hc := List.mem_of_getElem? hn
      have hdone := (HandleCall.Moves.next hnext).same.1
      refine ⟨c', ?_, ((hs.fits c hc).next (hs.held hc hdone) hnext).2.2⟩
      exact List.getElem?_set_self (List.getElem?_eq_some_iff.mp hn).1
  case performed =>
    exact fun own outcome waits _ _ hlent hself => (Worker.Shows.start own outcome waits).performAll rfl hlent hself

/-- A signal, and a stop that waits while the function comes to its end. -/
example :
    let s : WorkerLife Nat := (WorkerLife.start 0).run [.call .signal 1, .next 0, .next 0, .call .stop 2, .next 1, .next 1,
      .next 1, .next 1, .finish (.returned 7), .next 1, .leave, .next 1, .next 1]
    s.answers = [.nothing, .joined 7] ∧ s.runs = 2 ∧ s.joins = 1 := by decide

end Switchboard
