import Mathlib
import Switchboard.Socket.Network
import Switchboard.Socket.Poll

/-!
# How long a lookup waits

A lookup sees a clock: it is read once before the first attempt, which settles the deadline, and again after every attempt that
fails. An attempt takes its time, and a sleep lasts as long as was asked or longer. `readingAfter` is what the clock shows
after an attempt, by the sleeps that were asked for; every clock on which sleeps last as long as asked is one of these
(`readingAfter_onClock`).

`polling_law` says what comes of a lookup by such a clock, whenever it starts and whatever its attempts find: it takes what the
first attempt finds that finds something, it gives up only at or past its deadline, and each sleep ends its time by one interval or
to the deadline, so that the attempts are bounded.

At a site that others may change between the attempts, such a lookup comes to what `Site.lookup`, which does not wait, comes to at
the site of the last attempt (`Site.Awaited`).
-/

namespace Switchboard

variable {α σ ρ : Type}

/-- The reading of the clock after the `k`-th attempt behind the first `n`, which starts at the time `now`. -/
def readingAfter (attempt : Nat → Attempt α) (sleeps : List Nat) (n now : Nat) : Nat → Nat
  | 0 => now + (attempt n).took
  | k + 1 => readingAfter attempt sleeps n now k + sleeps.getD k 0 + (attempt (n + k)).overslept + (attempt (n + k + 1)).took

/-- Behind the first sleep the clock shows what it would show if the lookup had started there. -/
theorem readingAfter_cons (attempt : Nat → Attempt α) (sleep : Nat) (sleeps : List Nat) (n now k : Nat) :
    readingAfter attempt (sleep :: sleeps) n now (k + 1) =
      readingAfter attempt sleeps (n + 1) (now + (attempt n).took + sleep + (attempt n).overslept) k := by
  induction k with
  | zero => rfl
  | succ k ih =>
    rw [readingAfter, ih, readingAfter, List.getD_cons_succ, ← Nat.add_assoc, Nat.add_right_comm n k 1]

/-- What a lookup does that makes its attempts behind the first `n`, from the time `now` on. -/
structure Polls (attempt : Nat → Attempt α) (deadline n now : Nat) (p : Polled α) : Prop where
  /-- There is a first attempt, and one more after each sleep. -/
  attempts : p.attempts = n + p.sleeps.length + 1
  /-- All attempts but the last one fail, each before the deadline. -/
  failed : ∀ k < p.sleeps.length, (attempt (n + k)).found = none ∧ readingAfter attempt p.sleeps n now k < deadline
  /-- What the last attempt finds is what the lookup finds. -/
  found : p.found = (attempt (n + p.sleeps.length)).found
  /-- If that is nothing, the clock was read after it, at or past the deadline. -/
  gaveUp : p.found = none → p.clock = readingAfter attempt p.sleeps n now p.sleeps.length ∧ deadline ≤ p.clock
  /-- The thread asks to sleep for the interval, or for what is left to the deadline. -/
  asked : ∀ k sleep, p.sleeps[k]? = some sleep →
    sleep = min pollInterval (deadline - readingAfter attempt p.sleeps n now k)
  /-- The time that is left bounds the sleeps. -/
  bounded : p.sleeps.length ≤ (deadline - now) ⌈/⌉ pollInterval

/-! ## The loop -/

section Loop

variable {attempt : Nat → Attempt α} {deadline n now : Nat}

/-- What an attempt finds ends the loop. -/
theorem pollFrom_of_found {x : α} (h : (attempt n).found = some x) :
    pollFrom attempt deadline n now = ⟨some x, n + 1, [], now⟩ := by
  rw [pollFrom]
  simp only [h]

/-- So does one that fails at the deadline or behind it. -/
theorem pollFrom_of_deadline (h : (attempt n).found = none) (hdeadline : deadline ≤ now + (attempt n).took) :
    pollFrom attempt deadline n now = ⟨none, n + 1, [], now + (attempt n).took⟩ := by
  rw [pollFrom]
  simp only [h, if_pos hdeadline]

/-- After an attempt that fails in time the thread sleeps, and the loop goes on. -/
theorem pollFrom_of_sleep {sleep : Nat} (h : (attempt n).found = none) (hdeadline : now + (attempt n).took < deadline)
    (hsleep : sleep = min pollInterval (deadline - (now + (attempt n).took))) :
    pollFrom attempt deadline n now =
      { pollFrom attempt deadline (n + 1) (now + (attempt n).took + sleep + (attempt n).overslept) with
        sleeps := sleep :: (pollFrom attempt deadline (n + 1)
          (now + (attempt n).took + sleep + (attempt n).overslept)).sleeps } := by
  subst hsleep
  rw [pollFrom]
  simp only [h, if_neg (Nat.not_le.mpr hdeadline)]

/-- A sleep takes one interval of the time that is left, or all of it. -/
theorem succ_ceilDiv_le {left rest : Nat} (sleep : Nat) (hleft : 0 < left) (hsleep : sleep = pollInterval ∨ rest = 0)
    (hrest : rest + sleep ≤ left) : rest ⌈/⌉ pollInterval + 1 ≤ left ⌈/⌉ pollInterval := by
  simp only [Nat.ceilDiv_eq_add_pred_div, pollInterval] at *
  omega

/-- What the loop does is one attempt that fails in time, a sleep, and what it does from the next attempt on. -/
theorem Polls.cons {sleep : Nat} {rest : Polled α} (h : (attempt n).found = none)
    (hdeadline : now + (attempt n).took < deadline)
    (hsleep : sleep = min pollInterval (deadline - (now + (attempt n).took)))
    (hrest : Polls attempt deadline (n + 1) (now + (attempt n).took + sleep + (attempt n).overslept) rest) :
    Polls attempt deadline n now { rest with sleeps := sleep :: rest.sleeps } := by
  have hnext : ∀ k, n + 1 + k = n + (k + 1) := fun k => by omega
  constructor
  case attempts =>
    rw [hrest.attempts, List.length_cons]
    omega
  case failed =>
    intro k hk
    cases k with
    | zero => exact ⟨h, hdeadline⟩
    | succ k =>
      rw [readingAfter_cons, ← hnext]
      exact hrest.failed k (Nat.lt_of_succ_lt_succ hk)
  case found => rw [hrest.found, List.length_cons, hnext]
  case gaveUp =>
    intro hnone
    rw [List.length_cons, readingAfter_cons]
    exact hrest.gaveUp hnone
  case asked =>
    intro k other hother
    cases k with
    | zero =>
      obtain rfl := Option.some.inj hother
      exact hsleep
    | succ k =>
      rw [readingAfter_cons]
      exact hrest.asked k other hother
  case bounded =>
    refine Nat.le_trans (Nat.succ_le_succ hrest.bounded) ?_
    have hpositive : 0 < pollInterval := by decide
    refine succ_ceilDiv_le sleep (by omega) ?_ (by omega)
    rcases Nat.le_total pollInterval (deadline - (now + (attempt n).took)) with hle | hle
    · exact .inl (hsleep.trans (Nat.min_eq_left hle))
    · rw [Nat.min_eq_right hle] at hsleep
      exact .inr (by omega)

end Loop

/-- The loop of a lookup, from any of its attempts on. -/
theorem polls_pollFrom (attempt : Nat → Attempt α) (deadline n now : Nat) :
    Polls attempt deadline n now (pollFrom attempt deadline n now) := by
  induction n, now using pollFrom.induct attempt deadline with
  | case1 n now a x hfound =>
    rw [pollFrom_of_found hfound]
    exact ⟨rfl, nofun, hfound.symm, nofun, nofun, Nat.zero_le _⟩
  | case2 n now a hfailed reading hdeadline =>
    rw [pollFrom_of_deadline hfailed hdeadline]
    exact ⟨rfl, nofun, hfailed.symm, fun _ => ⟨rfl, hdeadline⟩, nofun, Nat.zero_le _⟩
  | case3 n now a hfailed reading hdeadline sleep ih =>
    rw [pollFrom_of_sleep hfailed (Nat.not_le.mp hdeadline) rfl]
    exact .cons hfailed (Nat.not_le.mp hdeadline) rfl ih

/-! ## By the clock -/

/-- What comes of a lookup that starts at a time and waits that long, by what its attempts find and by what the clock shows after
each. -/
structure Awaits (found : Nat → Option α) (clock : Nat → Nat) (start timeout : Nat) (p : Polled α) : Prop where
  /-- At least one attempt is made, -/
  tried : 0 < p.attempts
  /-- and not more than one after each interval that has begun. -/
  bounded : p.attempts ≤ timeout ⌈/⌉ pollInterval + 1
  /-- What is found is what the first attempt finds that finds something, if every one before it ended in time. -/
  found_iff : ∀ x, p.found = some x ↔ ∃ k, found k = some x ∧ ∀ j < k, found j = none ∧ clock j < start + timeout
  /-- Nothing is found only if an attempt failed and the clock showed the deadline, or more, after it. -/
  gaveUp : p.found = none → ∃ k, k + 1 = p.attempts ∧ found k = none ∧ start + timeout ≤ clock k
  /-- The thread sleeps between two attempts, -/
  between : p.attempts = p.sleeps.length + 1
  /-- when time is left; not longer than the interval, and not past the deadline. -/
  asked : ∀ k sleep, p.sleeps[k]? = some sleep →
    clock k < start + timeout ∧ 0 < sleep ∧ sleep ≤ pollInterval ∧ clock k + sleep ≤ start + timeout

/-- What the attempts find and what the clock shows after them is all that counts. -/
theorem Polls.awaits {attempt : Nat → Attempt α} {found : Nat → Option α} {clock : Nat → Nat} {start timeout : Nat}
    {p : Polled α} (h : Polls attempt (start + timeout) 0 start p) (hfound : ∀ k, (attempt k).found = found k)
    (hclock : ∀ k < p.attempts, readingAfter attempt p.sleeps 0 start k = clock k) : Awaits found clock start timeout p := by
  have hattempts : p.attempts = p.sleeps.length + 1 := by simpa using h.attempts
  have hfailed : ∀ k < p.sleeps.length, found k = none ∧ clock k < start + timeout := by
    intro k hk
    have hk' := h.failed k hk
    rwa [Nat.zero_add, hfound, hclock k (by omega)] at hk'
  have hlast : p.found = found p.sleeps.length := by
    rw [h.found, Nat.zero_add, hfound]
  have hgave : p.found = none → start + timeout ≤ clock p.sleeps.length := by
    intro hnone
    obtain ⟨hshown, hdeadline⟩ := h.gaveUp hnone
    rwa [hshown, hclock _ (by omega)] at hdeadline
  constructor
  case tried => omega
  case bounded =>
    have hsleeps := h.bounded
    rw [Nat.add_sub_cancel_left] at hsleeps
    omega
  case found_iff =>
    intro x
    constructor
    · exact fun hx => ⟨p.sleeps.length, hlast.symm.trans hx, hfailed⟩
    · rintro ⟨k, hk, hbefore⟩
      rcases Nat.lt_trichotomy k p.sleeps.length with hlt | rfl | hlt
      · -- an attempt before the last one has failed
        cases (hfailed k hlt).1.symm.trans hk
      · exact hlast.trans hk
      · -- the last attempt failed in time, so that there would have been another one
        obtain ⟨hnone, hintime⟩ := hbefore _ hlt
        exact absurd hintime (Nat.not_lt.mpr (hgave (hlast.trans hnone)))
  case gaveUp => exact fun hnone => ⟨p.sleeps.length, hattempts.symm, hlast.symm.trans hnone, hgave hnone⟩
  case between => exact hattempts
  case asked =>
    intro k sleep hsleep
    have hk : k < p.sleeps.length := (List.getElem?_eq_some_iff.mp hsleep).1
    have hintime := (hfailed k hk).2
    have hasked := h.asked k sleep hsleep
    rw [hclock k (by omega)] at hasked
    have hpositive : 0 < pollInterval := by decide
    exact ⟨hintime, by omega, by omega, by omega⟩

/-- The attempts of a lookup on a clock: the first one takes what the clock shows after it, and all other time goes into sleeps
that last longer than was asked. -/
def Attempt.onClock (found : Nat → Option α) (clock : Nat → Nat) (start deadline k : Nat) : Attempt α where
  found := found k
  took := if k = 0 then clock 0 - start else 0
  overslept := clock (k + 1) - (clock k + min pollInterval (deadline - clock k))

/-- Every clock is shown by some attempts, if sleeps last as long as asked on it. -/
theorem readingAfter_onClock {found : Nat → Option α} {clock : Nat → Nat} {start deadline : Nat} {p : Polled α}
    (hstart : start ≤ clock 0)
    (hsleeps : ∀ k, clock k < deadline → clock k + min pollInterval (deadline - clock k) ≤ clock (k + 1))
    (h : Polls (Attempt.onClock found clock start deadline) deadline 0 start p) :
    ∀ k < p.attempts, readingAfter (Attempt.onClock found clock start deadline) p.sleeps 0 start k = clock k := by
  have hattempts : p.attempts = p.sleeps.length + 1 := by simpa using h.attempts
  intro k hk
  induction k with
  | zero =>
    change start + (clock 0 - start) = clock 0
    omega
  | succ k ih =>
    have hk' : k < p.sleeps.length := by omega
    have hshown := ih (by omega)
    have hintime := (h.failed k hk').2
    have hasked := h.asked k p.sleeps[k] (List.getElem?_eq_getElem hk')
    rw [hshown] at hintime hasked
    have hlasts := hsleeps k hintime
    rw [readingAfter, hshown, List.getD_eq_getElem _ _ hk', hasked, Nat.zero_add]
    change _ + (clock (k + 1) - (clock k + min pollInterval (deadline - clock k))) +
      (if k + 1 = 0 then clock 0 - start else 0) = clock (k + 1)
    rw [if_neg k.succ_ne_zero]
    omega

/-! ## At a site -/

namespace Network

variable {n n' : Network σ ρ} {name : String}

/-- An attempt that fails changes nothing. -/
theorem connect_of_error {e : SystemError} (h : (n.connect name).1 = .error e) : (n.connect name).2 = n := by
  unfold connect at h ⊢
  repeat' split
  all_goals simp_all

/-- One that succeeds makes no object. -/
theorem objects_connect (n : Network σ ρ) (name : String) : (n.connect name).2.objects = n.objects := by
  simp only [connect, accept, addConnection]
  repeat' split
  all_goals rfl

end Network

namespace Site

variable {s : Site σ ρ} {name : String}

/-- A lookup that does not wait finds nothing if its attempt fails. -/
theorem run_lookup_of_error {e : SystemError} (h : (s.network.connect name).1 = .error e) :
    ((lookup name).run s).value = some none ∧ ((lookup name).run s).state = s := by
  have hconnect : s.network.connect name = (.error e, s.network) := Prod.ext h (Network.connect_of_error h)
  simp [lookup, Act.run_bind, hconnect]

/-- It makes an object on the new connection if its attempt succeeds. -/
theorem run_lookup_of_ok {c : Nat} (h : (s.network.connect name).1 = .ok c) :
    ((lookup name).run s).value = some (some s.network.objects.length) ∧
      ((lookup name).run s).state.network.objects = s.network.objects ++ [⟨name, c, true, []⟩] := by
  have hconnect : s.network.connect name = (.ok c, (s.network.connect name).2) := Prod.ext h rfl
  have hobjects := Network.objects_connect s.network name
  simp only [lookup, Act.run_bind, run_onNetwork]
  rw [hconnect]
  simp [hobjects]

/-- A lookup for a name, at what a site is during each of its attempts, comes to what one that does not wait comes to at the last
of them. -/
structure Awaited (name : String) (site : Nat → Site σ ρ) (p : Polled Nat) : Prop where
  /-- At the others it finds nothing and changes nothing. -/
  before : ∀ k, k + 1 < p.attempts →
    ((lookup name).run (site k)).value = some none ∧ ((lookup name).run (site k)).state = site k
  nothing : p.found = none → ∃ k, k + 1 = p.attempts ∧
    ((lookup name).run (site k)).value = some none ∧ ((lookup name).run (site k)).state = site k
  something : ∀ c, p.found = some c → ∃ k, k + 1 = p.attempts ∧
    ((lookup name).run (site k)).value = some (some (site k).network.objects.length) ∧
      ((lookup name).run (site k)).state.network.objects = (site k).network.objects ++ [⟨name, c, true, []⟩]

end Site

/-- So it does, if its attempts find what the site offers at the time. -/
theorem Polls.awaited {attempt : Nat → Attempt Nat} {deadline now : Nat} {p : Polled Nat} {name : String}
    {site : Nat → Site σ ρ} (h : Polls attempt deadline 0 now p)
    (hsite : ∀ k, (attempt k).found = ((site k).network.connect name).1.toOption) : Site.Awaited name site p := by
  have hattempts : p.attempts = p.sleeps.length + 1 := by simpa using h.attempts
  have hfound : p.found = ((site p.sleeps.length).network.connect name).1.toOption := by
    rw [h.found, Nat.zero_add, hsite]
  constructor
  case before =>
    intro k hk
    obtain ⟨hfailed, -⟩ := h.failed k (by omega)
    rw [Nat.zero_add, hsite] at hfailed
    cases hconnect : ((site k).network.connect name).1 with
    | error e => exact Site.run_lookup_of_error hconnect
    | ok c =>
      rw [hconnect] at hfailed
      cases hfailed
  case nothing =>
    intro hnone
    rw [hfound] at hnone
    cases hconnect : ((site p.sleeps.length).network.connect name).1 with
    | error e => exact ⟨_, hattempts.symm, Site.run_lookup_of_error hconnect⟩
    | ok c =>
      rw [hconnect] at hnone
      cases hnone
  case something =>
    intro c hc
    rw [hfound] at hc
    cases hconnect : ((site p.sleeps.length).network.connect name).1 with
    | error e =>
      rw [hconnect] at hc
      cases hc
    | ok c' =>
      rw [hconnect] at hc
      obtain rfl := Option.some.inj hc
      exact ⟨_, hattempts.symm, Site.run_lookup_of_ok hconnect⟩

/-! ## The law -/

/-- How long a lookup waits. -/
structure PollingLaw : Prop where
  /-- The interval is fifty milliseconds, in nanoseconds. -/
  interval : pollInterval = 50 * 10 ^ 6
  /-- A lookup, by the time since its start. -/
  sinceStart : ∀ {α : Type} (attempt : Nat → Attempt α) (timeout : Nat),
    Awaits (fun k => (attempt k).found) (readingAfter attempt (poll attempt timeout).sleeps 0 0) 0 timeout (poll attempt timeout)
  /-- A lookup that starts at any time, on any clock on which sleeps last as long as asked. -/
  onClock : ∀ {α : Type} (found : Nat → Option α) (clock : Nat → Nat) (start timeout : Nat), start ≤ clock 0 →
    (∀ k, clock k < start + timeout → clock k + min pollInterval (start + timeout - clock k) ≤ clock (k + 1)) →
    Awaits found clock start timeout
      (pollFrom (Attempt.onClock found clock start (start + timeout)) (start + timeout) 0 start)
  /-- A lookup at a site, which may be another one at each of its attempts. -/
  atSite : ∀ {σ ρ : Type} (name : String) (site : Nat → Site σ ρ) (attempt : Nat → Attempt Nat) (timeout : Nat),
    (∀ k, (attempt k).found = ((site k).network.connect name).1.toOption) → Site.Awaited name site (poll attempt timeout)

/-- The law of waiting for a service. -/
theorem polling_law : PollingLaw := by
  constructor
  case interval => rfl
  case sinceStart =>
    intro α attempt timeout
    have hpolls := polls_pollFrom attempt (0 + timeout) 0 0
    rw [Nat.zero_add timeout] at hpolls
    refine Polls.awaits ?_ (fun _ => rfl) fun _ _ => rfl
    rwa [Nat.zero_add]
  case onClock =>
    intro α found clock start timeout hstart hsleeps
    have hpolls := polls_pollFrom (Attempt.onClock found clock start (start + timeout)) (start + timeout) 0 start
    exact hpolls.awaits (fun _ => rfl) (readingAfter_onClock hstart hsleeps hpolls)
  case atSite => exact fun name site attempt timeout hsite => (polls_pollFrom attempt timeout 0 0).awaited hsite

end Switchboard
