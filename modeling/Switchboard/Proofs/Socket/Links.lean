import Mathlib.Data.List.Nodup
import Switchboard.Socket.Watch

/-!
# What is known of the death links of an object

`DeathWatch.Sound` is kept by every step of the calls that link, of the hosts, of the watchers and of the drop
(`DeathWatch.Sound.step`), and so by every run.

It has two parts for each link. `Watcher.Fits` is about the link and its host: a watcher is awake when its connection has come
to its end, and its recipient is called when the object is marked as dead. `Watcher.Drops` is about the link and the drop: the
links on the list of the object are unlinked in their order, and the drop leaves one behind when its watcher has ended, unless
that watcher's thread does the dropping.
-/

namespace Switchboard

/-! ## A link and its host -/

/-- Whether the watcher of a call in that phase was started. -/
def LinkPhase.hasWatcher : LinkPhase → Bool
  | .listing | .accepted => true
  | _ => false

/-- Whether a watcher in that phase has seen the end of its connection. -/
def WatchPhase.isAwake : WatchPhase → Bool
  | .idle | .waiting => false
  | _ => true

namespace Watcher

/-- How often the recipient was called: once from the call on, unless the watcher found itself unlinked. -/
def Called (w : Watcher) : Prop :=
  match w.phase with
  | .calling | .leaving => w.calls = 1
  | .ended => w.calls = 1 ∨ w.calls = 0 ∧ w.unlinked = true
  | _ => w.calls = 0

/-- A recipient is called at most once. -/
theorem Called.calls_le {w : Watcher} (h : w.Called) : w.calls ≤ 1 := by
  unfold Called at h
  split at h <;> omega

/-- The flag alone changes nothing about the calls. -/
theorem Called.flagged {w : Watcher} (h : w.Called) : ({ w with unlinked := true } : Watcher).Called := by
  unfold Called at h ⊢
  cases hphase : w.phase with
  | ended =>
    rw [hphase] at h
    exact h.imp_right fun h => ⟨h.1, rfl⟩
  | _ =>
    rw [hphase] at h
    exact h

/-- What is known of a link and its host. -/
structure Fits (host : LastHost) (alive : Bool) (w : Watcher) : Prop where
  started : w.phase = .idle ↔ w.link.hasWatcher = false
  awake : w.phase.isAwake = true → w.closed = true
  called : w.Called
  /-- A recipient is called when the object is marked as dead. -/
  dead : w.phase = .marked ∨ w.calls ≠ 0 → alive = false
  known : w.host ≤ host.number
  opened : w.link = .checking ∨ w.link = .connecting → w.closed = false
  /-- A connection is closed by its host, or when the object is dropped. -/
  reason : w.closed = true → host.hasStopped w.host = true ∨ w.unlinked = true
  /-- A host that is down has closed its connections. -/
  shut : host.isDown w.host = true → w.link.isConnected = true → w.closed = true

/-- A new link fits. -/
theorem Fits.new (host : LastHost) (alive : Bool) : DeathWatch.newLink.Fits host alive where
  started := iff_of_true rfl rfl
  awake h := by cases h
  called := rfl
  dead h := by simp [DeathWatch.newLink] at h
  known := Nat.zero_le _
  opened _ := rfl
  reason h := by cases h
  shut _ h := by cases h

end Watcher

/-! ## A link and the drop -/

namespace DropPhase

/-- Who drops the object. -/
def dropper? : DropPhase → Option Dropper
  | .held => none
  | .unlinking d _ | .closing d _ _ | .joining d _ _ | .dropped d => some d

/-- The link that the drop is at. -/
def current? : DropPhase → Option Nat
  | .closing _ n _ | .joining _ n _ => some n
  | _ => none

/-- The links whose flags are not set yet. -/
def ahead (order : List Nat) : DropPhase → List Nat
  | .held => order
  | .unlinking _ rest | .closing _ _ rest | .joining _ _ rest => rest
  | .dropped _ => []

/-- A watcher whose thread has done the dropping goes on when the object is dropped. -/
theorem dropped_of_dropper {drop : DropPhase} {n : Nat} (h : drop.dropper? = some (.watcher n))
    (hon : drop.isGoingOn n = false) : ∃ d, drop = .dropped d := by
  cases drop with
  | held => cases h
  | dropped d => exact ⟨d, rfl⟩
  | unlinking d | closing d | joining d =>
    obtain rfl := Option.some.inj h
    simp [isGoingOn] at hon

end DropPhase

namespace Watcher

/-- What is known of a link when its object is dropped. -/
structure Drops (order : List Nat) (drop : DropPhase) (n : Nat) (w : Watcher) : Prop where
  listed : w.link = .accepted ↔ n ∈ order
  flagged : w.unlinked = true ↔ n ∈ order ∧ n ∉ drop.ahead order
  settled : drop ≠ .held → w.link.isOver = true
  /-- The drop leaves a link behind when its watcher has ended, unless that is its own thread. -/
  behind : w.unlinked = true → drop.current? ≠ some n →
    w.closed = true ∧ (w.phase = .ended ∨ drop.dropper? = some (.watcher n))
  joined : ∀ d rest, drop = .joining d n rest → w.closed = true ∧ d ≠ .watcher n
  /-- A watcher whose thread does the dropping is in its recipient. -/
  own : drop.dropper? = some (.watcher n) →
    w.phase.isInRecipient = true ∨ (∃ d, drop = .dropped d) ∧ w.phase = .ended

variable {order : List Nat} {drop drop' : DropPhase} {n : Nat} {w : Watcher}

/-- Of a held object no link is unlinked. -/
theorem Drops.of_held (hlisted : w.link = .accepted ↔ n ∈ order) (hunlinked : w.unlinked = false) :
    w.Drops order .held n where
  listed := hlisted
  flagged := by simp [hunlinked, DropPhase.ahead]
  settled h := absurd rfl h
  behind h := by simp [hunlinked] at h
  joined _ _ h := by cases h
  own h := by cases h

/-- As long as the object is held, nothing is unlinked. -/
theorem Drops.unlinked_of_held (h : w.Drops order .held n) : w.unlinked = false :=
  Bool.eq_false_iff.mpr fun hunlinked => absurd (h.flagged.mp hunlinked).1 (h.flagged.mp hunlinked).2

/-- The end of the connection changes nothing else. -/
theorem Drops.closed (h : w.Drops order drop n) : ({ w with closed := true } : Watcher).Drops order drop n :=
  ⟨h.listed, h.flagged, h.settled, fun hunlinked hcurrent => ⟨rfl, (h.behind hunlinked hcurrent).2⟩,
    fun d rest hdrop => ⟨rfl, (h.joined d rest hdrop).2⟩, h.own⟩

/-- The drop goes on, and may leave behind the link that it was at. -/
theorem Drops.goOn (h : w.Drops order drop n) (hheld : drop ≠ .held) (hdropped : ∀ d, drop ≠ .dropped d)
    (hdropper : drop'.dropper? = drop.dropper?) (hahead : n ∈ drop'.ahead order ↔ n ∈ drop.ahead order)
    (hbehind : drop.current? = some n → drop'.current? ≠ some n →
      w.closed = true ∧ (w.phase = .ended ∨ drop.dropper? = some (.watcher n)))
    (hjoined : ∀ d rest, drop' = .joining d n rest → w.closed = true ∧ d ≠ .watcher n) : w.Drops order drop' n where
  listed := h.listed
  flagged := h.flagged.trans (and_congr_right fun _ => (not_congr hahead).symm)
  settled _ := h.settled hheld
  behind hunlinked hcurrent := by
    rw [hdropper]
    by_cases hat : drop.current? = some n
    · exact hbehind hat hcurrent
    · exact h.behind hunlinked hat
  joined := hjoined
  own hown := by
    rcases h.own (hdropper ▸ hown) with hphase | ⟨⟨d, hd⟩, -⟩
    · exact .inl hphase
    · exact absurd hd (hdropped d)

end Watcher

/-! ## The invariant -/

namespace DeathWatch

/-- The invariant of all orders of steps. -/
structure Sound (s : DeathWatch) : Prop where
  nodup : s.order.Nodup
  known : ∀ n ∈ s.order, n < s.watchers.length
  /-- The list of the object falls into the links behind the drop, the one it is at and those ahead. -/
  split : ∃ past, s.order = past ++ (s.drop.current?.toList ++ s.drop.ahead s.order)
  fits : ∀ (n : Nat) (w : Watcher), s.watchers[n]? = some w → w.Fits s.host s.alive
  drops : ∀ (n : Nat) (w : Watcher), s.watchers[n]? = some w → w.Drops s.order s.drop n

/-- The beginning is sound. -/
theorem sound_start : start.Sound where
  nodup := List.nodup_nil
  known := by simp [start]
  split := ⟨[], rfl⟩
  fits := by simp [start]
  drops := by simp [start]

variable {s s' : DeathWatch} {n : Nat} {w : Watcher}

/-- While a call that links goes on, the object is held. -/
theorem Sound.held (hs : s.Sound) (hn : s.watchers[n]? = some w) (hover : w.link.isOver = false) : s.drop = .held := by
  by_contra hdrop
  rw [(hs.drops n w hn).settled hdrop] at hover
  cases hover

/-- Its link is not on the list. -/
theorem Sound.unlisted (hs : s.Sound) (hn : s.watchers[n]? = some w) (hover : w.link.isOver = false) : n ∉ s.order := by
  intro hmem
  rw [(hs.drops n w hn).listed.mpr hmem] at hover
  cases hover

/-- The same of a sound state. -/
theorem Sound.unlinked_of_held (hs : s.Sound) (hheld : s.drop = .held) (hn : s.watchers[n]? = some w) :
    w.unlinked = false := by
  have hdrops := hs.drops n w hn
  rw [hheld] at hdrops
  exact hdrops.unlinked_of_held

/-- A change of one link changes no other. -/
theorem getElem?_update {f : Watcher → Watcher} {m : Nat} {v : Watcher} (hn : s.watchers[n]? = some w)
    (hm : (s.update n f).watchers[m]? = some v) : n = m ∧ v = f w ∨ n ≠ m ∧ s.watchers[m]? = some v := by
  rw [update, List.getElem?_modify] at hm
  by_cases h : n = m
  · subst h
    rw [hn] at hm
    exact .inl ⟨rfl, by simpa using hm.symm⟩
  · exact .inr ⟨h, by simpa [h] using hm⟩

/-- A change of one link, and of what surrounds the links, keeps them sound if each fits what surrounds it then. -/
theorem Sound.changed (hs : s.Sound) (hn : s.watchers[n]? = some w) {f : Watcher → Watcher} {t : DeathWatch}
    (hwatchers : t.watchers = s.watchers) (hnodup : t.order.Nodup) (hknown : ∀ m ∈ t.order, m < s.watchers.length)
    (hsplit : ∃ past, t.order = past ++ (t.drop.current?.toList ++ t.drop.ahead t.order))
    (hself : (f w).Fits t.host t.alive ∧ (f w).Drops t.order t.drop n)
    (hothers : ∀ (m : Nat) (v : Watcher), n ≠ m → v.Fits s.host s.alive → v.Drops s.order s.drop m →
      v.Fits t.host t.alive ∧ v.Drops t.order t.drop m) : (t.update n f).Sound := by
  have heach : ∀ (m : Nat) (v : Watcher), (t.update n f).watchers[m]? = some v →
      v.Fits t.host t.alive ∧ v.Drops t.order t.drop m := by
    intro m v hm
    rcases getElem?_update (hwatchers ▸ hn) hm with ⟨rfl, rfl⟩ | ⟨hne, hm⟩
    · exact hself
    · rw [hwatchers] at hm
      exact hothers m v hne (hs.fits m v hm) (hs.drops m v hm)
  refine ⟨hnodup, fun m hm => ?_, hsplit, fun m v hm => (heach m v hm).1, fun m v hm => (heach m v hm).2⟩
  rw [update, List.length_modify, hwatchers]
  exact hknown m hm

/-- A change of one link that at most marks the object as dead. -/
theorem Sound.updated (hs : s.Sound) {f : Watcher → Watcher} (hn : s.watchers[n]? = some w) {alive : Bool}
    (halive : s.alive = false → alive = false) (hfits : (f w).Fits s.host alive) (hdrops : (f w).Drops s.order s.drop n) :
    ({ s with alive }.update n f).Sound := by
  refine hs.changed hn rfl hs.nodup hs.known hs.split ⟨hfits, hdrops⟩ fun m v _ hv hv' => ⟨?_, hv'⟩
  exact ⟨hv.started, hv.awake, hv.called, fun h => halive (hv.dead h), hv.known, hv.opened, hv.reason, hv.shut⟩

/-! ## Calls that link -/

/-- A call that links goes on, and does not put its link on the list. -/
theorem Sound.called (hs : s.Sound) (hn : s.watchers[n]? = some w) {f : Watcher → Watcher} {link : LinkPhase} {host : Nat}
    {phase : WatchPhase} (hf : f w = { w with link, host, phase }) (hover : w.link.isOver = false)
    (hlink : link ≠ .accepted) (hphase : phase = w.phase ∨ w.phase = .idle ∧ phase = .waiting)
    (hstarted : phase = .idle ↔ link.hasWatcher = false) (hknown : host ≤ s.host.number)
    (hopened : link = .checking ∨ link = .connecting → w.closed = false)
    (hreason : w.closed = true → s.host.hasStopped host = true)
    (hshut : s.host.isDown host = true → link.isConnected = true → w.closed = true) : (s.update n f).Sound := by
  have hfits := hs.fits n w hn
  have hunlinked := hs.unlinked_of_held (hs.held hn hover) hn
  refine hs.updated hn id ?_ ?_ <;> rw [hf]
  · rcases hphase with rfl | ⟨hidle, rfl⟩
    · exact ⟨hstarted, hfits.awake, hfits.called, hfits.dead, hknown, hopened, fun h => .inl (hreason h), hshut⟩
    · have hcalls : w.calls = 0 := by simpa [Watcher.Called, hidle] using hfits.called
      refine ⟨hstarted, fun h => ?_, hcalls, fun h => ?_, hknown, hopened, fun h => .inl (hreason h), hshut⟩
      · cases h
      · simp [hcalls] at h
  · rw [hs.held hn hover]
    exact .of_held (iff_of_false hlink (hs.unlisted hn hover)) hunlinked

/-- It stays with its host, and its watcher is not started. -/
theorem Sound.linked (hs : s.Sound) (hn : s.watchers[n]? = some w) {link : LinkPhase} (hover : w.link.isOver = false)
    (hidle : w.link.hasWatcher = false) (hlink : link.hasWatcher = false)
    (hopened : link = .checking ∨ link = .connecting → w.closed = false)
    (hconnected : link.isConnected = true → w.link.isConnected = true) : (s.setLink n link).Sound := by
  have hfits := hs.fits n w hn
  refine hs.called hn rfl hover ?_ (.inl rfl) (iff_of_true (hfits.started.mpr hidle) hlink) hfits.known hopened ?_ ?_
  · rintro rfl
    cases hlink
  · intro hclosed
    refine (hfits.reason hclosed).resolve_right ?_
    simp [hs.unlinked_of_held (hs.held hn hover) hn]
  · exact fun hdown h => hfits.shut hdown (hconnected h)

/-- A call that links connects to the last host. -/
theorem Sound.connected (hs : s.Sound) (hn : s.watchers[n]? = some w) (hlink : w.link = .connecting)
    (hlistening : s.host.phase = .listening) :
    (s.update n fun w => { w with link := .asking, host := s.host.number }).Sound := by
  have hfits := hs.fits n w hn
  have hopen := hfits.opened (.inr hlink)
  refine hs.called hn rfl (by rw [hlink]; rfl) (by simp) (.inl rfl) (hfits.started.trans (by rw [hlink]; rfl)) (Nat.le_refl _)
    (by simp) ?_ ?_
  · simp [hopen]
  · simp [LastHost.isDown, hlistening]

/-- It starts the watcher. -/
theorem Sound.started (hs : s.Sound) (hn : s.watchers[n]? = some w) (hlink : w.link = .starting) :
    (s.update n fun w => { w with link := .listing, phase := .waiting }).Sound := by
  have hover : w.link.isOver = false := by rw [hlink]; rfl
  have hfits := hs.fits n w hn
  refine hs.called hn rfl hover (by simp) (.inr ⟨hfits.started.mpr (by rw [hlink]; rfl), rfl⟩)
    (iff_of_false (by simp) (by simp [LinkPhase.hasWatcher])) hfits.known (by simp) ?_
    fun hdown _ => hfits.shut hdown (by rw [hlink]; rfl)
  intro hclosed
  refine (hfits.reason hclosed).resolve_right ?_
  simp [hs.unlinked_of_held (hs.held hn hover) hn]

/-- It puts its link on the list. -/
theorem Sound.listed (hs : s.Sound) (hn : s.watchers[n]? = some w) (hlink : w.link = .listing) :
    ({ s with order := s.order ++ [n] }.setLink n .accepted).Sound := by
  have hover : w.link.isOver = false := by rw [hlink]; rfl
  have hheld := hs.held hn hover
  have hunlinked := hs.unlinked_of_held hheld hn
  have hout := hs.unlisted hn hover
  refine hs.changed hn rfl ?_ ?_ ⟨[], by simp [hheld, DropPhase.current?, DropPhase.ahead]⟩ ⟨?_, ?_⟩
    fun m v hne hv hv' => ⟨hv, ?_⟩
  · refine List.nodup_append.mpr ⟨hs.nodup, List.nodup_singleton n, fun m hm k hk => ?_⟩
    rintro rfl
    exact hout (List.mem_singleton.mp hk ▸ hm)
  · intro m hm
    rcases List.mem_append.mp hm with hm | hm
    · exact hs.known m hm
    · exact List.mem_singleton.mp hm ▸ (List.getElem?_eq_some_iff.mp hn).1
  · have hfits := hs.fits n w hn
    refine ⟨?_, hfits.awake, hfits.called, hfits.dead, hfits.known, by simp, hfits.reason,
      fun h _ => hfits.shut h (by rw [hlink]; rfl)⟩
    rw [hfits.started, hlink]
    rfl
  · rw [hheld]
    exact .of_held (iff_of_true rfl (List.mem_append_right _ List.mem_cons_self)) hunlinked
  · rw [hheld] at hv' ⊢
    refine .of_held (hv'.listed.trans ?_) hv'.unlinked_of_held
    simp [Ne.symm hne]

/-- A step of a link keeps the state sound; there is one case for each phase of it. -/
theorem Sound.step_link (hs : s.Sound) (h : s.step (.link n) = some s') : s'.Sound := by
  obtain ⟨w, hn, h⟩ := Option.bind_eq_some_iff.mp h
  have hfits := hs.fits n w hn
  cases hlink : w.link with
  | accepted | refused => simp [stepLink, hlink] at h
  | checking =>
    simp only [stepLink, hlink, Option.some.injEq] at h
    subst h
    have hopen := hfits.opened (.inl hlink)
    refine hs.linked hn (by rw [hlink]; rfl) (by rw [hlink]; rfl) ?_ (fun _ => hopen) ?_ <;> split <;>
      simp [LinkPhase.hasWatcher, LinkPhase.isConnected]
  | connecting =>
    simp only [stepLink, hlink] at h
    split at h
    · rename_i hlistening
      obtain rfl := Option.some.inj h
      exact hs.connected hn hlink hlistening
    · obtain rfl := Option.some.inj h
      exact hs.linked hn (by rw [hlink]; rfl) (by rw [hlink]; rfl) rfl (by simp) (by simp [LinkPhase.isConnected])
  | asking =>
    simp only [stepLink, hlink] at h
    split at h
    · obtain rfl := Option.some.inj h
      exact hs.linked hn (by rw [hlink]; rfl) (by rw [hlink]; rfl) rfl (by simp) (by simp [hlink, LinkPhase.isConnected])
    · simp only [Option.ite_none_right_eq_some, Option.some.injEq] at h
      obtain ⟨-, rfl⟩ := h
      exact hs.linked hn (by rw [hlink]; rfl) (by rw [hlink]; rfl) rfl (by simp) (by simp [LinkPhase.isConnected])
  | starting =>
    simp only [stepLink, hlink, Option.some.injEq] at h
    subst h
    exact hs.started hn hlink
  | listing =>
    simp only [stepLink, hlink, Option.some.injEq] at h
    subst h
    exact hs.listed hn hlink

/-- A call that links begins. -/
theorem Sound.step_call (hs : s.Sound) (hheld : s.drop = .held) :
    ({ s with watchers := s.watchers ++ [newLink] } : DeathWatch).Sound := by
  have heach : ∀ (m : Nat) (v : Watcher), (s.watchers ++ [newLink])[m]? = some v →
      v.Fits s.host s.alive ∧ v.Drops s.order s.drop m := by
    intro m v hm
    rcases Nat.lt_or_ge m s.watchers.length with hlt | hge
    · rw [List.getElem?_append_left hlt] at hm
      exact ⟨hs.fits m v hm, hs.drops m v hm⟩
    · rw [List.getElem?_append_right hge] at hm
      obtain rfl := List.mem_singleton.mp (List.mem_of_getElem? hm)
      refine ⟨.new s.host s.alive, ?_⟩
      rw [hheld]
      refine .of_held (iff_of_false (by simp [newLink]) fun hmem => ?_) rfl
      exact absurd (hs.known m hmem) (Nat.not_lt.mpr hge)
  refine ⟨hs.nodup, fun m hm => ?_, hs.split, fun m v hm => (heach m v hm).1, fun m v hm => (heach m v hm).2⟩
  rw [List.length_append]
  exact Nat.lt_add_right 1 (hs.known m hm)

/-! ## The hosts -/

/-- The hosts change, and the links fit them then. -/
theorem Sound.hosted (hs : s.Sound) {host : LastHost} (hknown : s.host.number ≤ host.number)
    (hstopped : ∀ k, k ≤ s.host.number → s.host.hasStopped k = true → host.hasStopped k = true)
    (hdown : ∀ w ∈ s.watchers, w.host ≤ s.host.number → host.isDown w.host = true → w.link.isConnected = true →
      s.host.isDown w.host = true ∨ w.closed = true) : ({ s with host } : DeathWatch).Sound := by
  refine ⟨hs.nodup, hs.known, hs.split, fun n w hn => ?_, hs.drops⟩
  have hfits := hs.fits n w hn
  refine ⟨hfits.started, hfits.awake, hfits.called, hfits.dead, Nat.le_trans hfits.known hknown, hfits.opened, fun h => ?_,
    fun h hconnected => ?_⟩
  · exact (hfits.reason h).imp_left (hstopped w.host hfits.known)
  · rcases hdown w (List.mem_of_getElem? hn) hfits.known h hconnected with h | h
    · exact hfits.shut h hconnected
    · exact h

/-- So does a step of a host. -/
theorem Sound.step_host (hs : s.Sound) {a : WatchStep} (ha : a = .stop ∨ a = .shutDown ∨ a = .publish)
    (h : s.step a = some s') : s'.Sound := by
  rcases ha with rfl | rfl | rfl
  · simp only [step, Option.ite_none_right_eq_some, Option.some.injEq] at h
    obtain ⟨hlistening, rfl⟩ := h
    refine hs.hosted (Nat.le_refl _) (fun k _ _ => by simp [LastHost.hasStopped]) fun w _ _ hdown _ => .inl ?_
    simpa [LastHost.isDown, hlistening] using hdown
  · simp only [step, Option.ite_none_right_eq_some, Option.some.injEq] at h
    obtain ⟨⟨hstopping, hall⟩, rfl⟩ := h
    refine hs.hosted (Nat.le_refl _) (fun k _ _ => by simp [LastHost.hasStopped]) fun w hw hknown _ hconnected => ?_
    have hshut := List.all_eq_true.mp hall w hw
    simp only [hconnected, Bool.not_true, Bool.false_or, Bool.or_eq_true, bne_iff_ne] at hshut
    refine hshut.symm.imp_left fun hne => ?_
    simp [LastHost.isDown, Nat.lt_of_le_of_ne hknown hne]
  · simp only [step, Option.ite_none_right_eq_some, Option.some.injEq] at h
    obtain ⟨hdown, rfl⟩ := h
    refine hs.hosted (Nat.le_succ _) (fun k hk _ => ?_) fun w _ hknown _ _ => .inl ?_
    · simp [LastHost.hasStopped, Nat.lt_succ_of_le hk]
    · simp [LastHost.isDown, hdown]

/-- The host closes a connection. -/
theorem Sound.closed (hs : s.Sound) (hn : s.watchers[n]? = some w) (hstopping : s.host.phase = .stopping)
    (hconnected : w.link.isConnected = true) : (s.update n fun w => { w with closed := true }).Sound := by
  have hfits := hs.fits n w hn
  refine hs.updated hn id ?_ (hs.drops n w hn).closed
  refine ⟨hfits.started, fun _ => rfl, hfits.called, hfits.dead, hfits.known, fun hlink => ?_, fun _ => .inl ?_, fun _ _ => rfl⟩
  · rcases hlink with hlink | hlink <;> rw [show w.link = _ from hlink] at hconnected <;> cases hconnected
  · simp [LastHost.hasStopped, hstopping]

/-- A handler acknowledges a link. -/
theorem Sound.acknowledged (hs : s.Sound) (hn : s.watchers[n]? = some w) :
    (s.update n fun w => { w with acknowledged := true }).Sound := by
  have hfits := hs.fits n w hn
  have hdrops := hs.drops n w hn
  exact hs.updated hn id
    ⟨hfits.started, hfits.awake, hfits.called, hfits.dead, hfits.known, hfits.opened, hfits.reason, hfits.shut⟩
    ⟨hdrops.listed, hdrops.flagged, hdrops.settled, hdrops.behind, hdrops.joined, hdrops.own⟩

/-! ## The watchers -/

/-- A watcher goes on from the end of its connection; its thread stays where it is while it drops the object. -/
theorem Sound.moved (hs : s.Sound) (hn : s.watchers[n]? = some w) {f : Watcher → Watcher} {phase : WatchPhase} {calls : Nat}
    {alive : Bool} (hf : f w = { w with phase, calls }) (hclosed : w.closed = true) (hidle : w.phase ≠ .idle)
    (hended : w.phase ≠ .ended) (hphase : phase ≠ .idle) (hcalled : ({ w with phase, calls } : Watcher).Called)
    (hdead : phase = .marked ∨ calls ≠ 0 → alive = false) (halive : s.alive = false → alive = false)
    (hown : w.phase.isInRecipient = true → s.drop.isGoingOn n = false ∧ (phase.isInRecipient = true ∨ phase = .ended)) :
    ({ s with alive }.update n f).Sound := by
  have hfits := hs.fits n w hn
  have hdrops := hs.drops n w hn
  refine hs.updated hn halive ?_ ?_ <;> rw [hf]
  · exact ⟨iff_of_false hphase fun h => hidle (hfits.started.mpr h), fun _ => hclosed, hcalled, hdead, hfits.known,
      hfits.opened, hfits.reason, hfits.shut⟩
  · refine ⟨hdrops.listed, hdrops.flagged, hdrops.settled, fun hunlinked hcurrent => ?_, hdrops.joined, fun hdropper => ?_⟩
    · rcases hdrops.behind hunlinked hcurrent with ⟨-, h | h⟩
      · exact absurd h hended
      · exact ⟨hclosed, .inr h⟩
    · rcases hdrops.own hdropper with h | ⟨-, h⟩
      · obtain ⟨hon, hphase⟩ := hown h
        exact hphase.imp_right fun h => ⟨DropPhase.dropped_of_dropper hdropper hon, h⟩
      · exact absurd h hended

/-- So does a step of a watcher. -/
theorem Sound.step_watcher (hs : s.Sound) (h : s.step (.watcher n) = some s') : s'.Sound := by
  obtain ⟨w, hn, h⟩ := Option.bind_eq_some_iff.mp h
  have hfits := hs.fits n w hn
  have hcalled := hfits.called
  have hdead := hfits.dead
  cases hphase : w.phase with
  | idle | ended => simp [stepWatcher, hphase] at h
  | waiting =>
    simp only [stepWatcher, hphase, Option.ite_none_right_eq_some, Option.some.injEq] at h
    obtain ⟨hclosed, rfl⟩ := h
    have hcalls : w.calls = 0 := by simpa [Watcher.Called, hphase] using hcalled
    exact hs.moved hn rfl hclosed (by simp [hphase]) (by simp [hphase]) (by simp) hcalls (by simp [hcalls]) id
      (by simp [hphase, WatchPhase.isInRecipient])
  | woken =>
    simp only [stepWatcher, hphase, Option.some.injEq] at h
    subst h
    have hcalls : w.calls = 0 := by simpa [Watcher.Called, hphase] using hcalled
    refine hs.moved hn rfl (hfits.awake (by rw [hphase]; rfl)) (by simp [hphase]) (by simp [hphase]) ?_ ?_ ?_ id
      (by simp [hphase, WatchPhase.isInRecipient]) <;> cases hunlinked : w.unlinked <;> simp [Watcher.Called, hcalls]
  | linked =>
    simp only [stepWatcher, hphase, Option.some.injEq] at h
    subst h
    have hcalls : w.calls = 0 := by simpa [Watcher.Called, hphase] using hcalled
    exact hs.moved hn rfl (hfits.awake (by rw [hphase]; rfl)) (by simp [hphase]) (by simp [hphase]) (by simp) hcalls
      (fun _ => rfl) (fun _ => rfl) (by simp [hphase, WatchPhase.isInRecipient])
  | marked =>
    simp only [stepWatcher, hphase, Option.some.injEq] at h
    subst h
    have hcalls : w.calls = 0 := by simpa [Watcher.Called, hphase] using hcalled
    exact hs.moved hn rfl (hfits.awake (by rw [hphase]; rfl)) (by simp [hphase]) (by simp [hphase]) (by simp)
      (by simp [Watcher.Called, hcalls]) (fun _ => hdead (.inl hphase)) id (by simp [hphase, WatchPhase.isInRecipient])
  | calling | leaving =>
    simp only [stepWatcher, hphase, Option.ite_none_left_eq_some, Option.some.injEq, Bool.not_eq_true] at h
    obtain ⟨hon, rfl⟩ := h
    have hcalls : w.calls = 1 := by simpa [Watcher.Called, hphase] using hcalled
    exact hs.moved hn rfl (hfits.awake (by rw [hphase]; rfl)) (by simp [hphase]) (by simp [hphase]) (by simp)
      (by simp [Watcher.Called, hcalls]) (fun _ => hdead (.inr (by simp [hcalls]))) id
      (by simp [hon, WatchPhase.isInRecipient])

/-! ## The drop -/

/-- Whoever can drop the object finds it held and no call going on. -/
theorem canDrop_iff {d : Dropper} : s.canDrop d = true ↔ s.drop = .held ∧ (∀ w ∈ s.watchers, w.link.isOver = true) ∧
    ∀ n, d = .watcher n → ∃ w, s.watchers[n]? = some w ∧ w.phase.isInRecipient = true := by
  cases d with
  | outside => simp [canDrop]
  | watcher n => simp [canDrop, Option.any_eq_true, and_assoc]

/-- So does the beginning of the drop. -/
theorem Sound.step_drop (hs : s.Sound) {d : Dropper} (hcan : s.canDrop d = true) :
    ({ s with drop := .unlinking d s.order } : DeathWatch).Sound := by
  obtain ⟨hheld, hover, hdropper⟩ := canDrop_iff.mp hcan
  refine ⟨hs.nodup, hs.known, ⟨[], rfl⟩, hs.fits, fun n w hn => ?_⟩
  have hdrops := hs.drops n w hn
  rw [hheld] at hdrops
  refine ⟨hdrops.listed, hdrops.flagged, fun _ => hover w (List.mem_of_getElem? hn), fun h => ?_, fun d' rest h => ?_,
    fun h => ?_⟩
  · rw [hdrops.unlinked_of_held] at h
    cases h
  · cases h
  · obtain ⟨v, hv, hphase⟩ := hdropper n (Option.some.inj h)
    obtain rfl := Option.some.inj (hv.symm.trans hn)
    exact .inl hphase

/-- A link on the list is there. -/
theorem Sound.exists_of_mem (hs : s.Sound) (hn : n ∈ s.order) : ∃ w, s.watchers[n]? = some w :=
  ⟨_, List.getElem?_eq_getElem (hs.known n hn)⟩

/-- A link on the list stands on it once. -/
theorem Sound.of_split (hs : s.Sound) {past rest : List Nat} (hsplit : s.order = past ++ n :: rest) :
    n ∈ s.order ∧ n ∉ rest := by
  have hnodup := hs.nodup
  rw [hsplit] at hnodup ⊢
  exact ⟨List.mem_append_right _ List.mem_cons_self, (List.nodup_cons.mp (List.nodup_append.mp hnodup).2.1).1⟩

/-- The flag of the next link is set. -/
theorem Sound.flagged (hs : s.Sound) {d : Dropper} {rest : List Nat} (hdrop : s.drop = .unlinking d (n :: rest)) :
    ({ s with drop := .closing d n rest }.update n fun w => { w with unlinked := true }).Sound := by
  obtain ⟨past, hsplit⟩ := hs.split
  rw [hdrop] at hsplit
  obtain ⟨hmem, hrest⟩ := hs.of_split hsplit
  obtain ⟨w, hn⟩ := hs.exists_of_mem hmem
  have hfits := hs.fits n w hn
  have hdrops := hs.drops n w hn
  rw [hdrop] at hdrops
  refine hs.changed hn rfl hs.nodup hs.known ⟨past, hsplit⟩ ⟨?_, ?_⟩ fun m v hne hv hv' => ⟨hv, ?_⟩
  · exact ⟨hfits.started, hfits.awake, hfits.called.flagged, hfits.dead, hfits.known, hfits.opened, fun _ => .inr rfl,
      hfits.shut⟩
  · refine ⟨hdrops.listed, iff_of_true rfl ⟨hmem, hrest⟩, fun _ => hdrops.settled (by simp), fun _ h => absurd rfl h,
      fun d rest h => ?_, fun h => .inl ((hdrops.own h).resolve_right (by simp))⟩
    cases h
  · rw [hdrop] at hv'
    refine hv'.goOn (by simp) (by simp) rfl ?_ (fun h => by cases h) (fun d rest h => by cases h)
    simp [DropPhase.ahead, Ne.symm hne]

/-- The connection of the link that the drop is at is closed, and its watcher is waited for unless that is its own thread. -/
theorem Sound.shut (hs : s.Sound) {d : Dropper} {rest : List Nat} (hdrop : s.drop = .closing d n rest) :
    ({ s with drop := if d = Dropper.watcher n then .unlinking d rest else .joining d n rest }.update n
      fun w => { w with closed := true }).Sound := by
  obtain ⟨past, hsplit⟩ := hs.split
  rw [hdrop] at hsplit
  obtain ⟨hmem, hrest⟩ := hs.of_split hsplit
  obtain ⟨w, hn⟩ := hs.exists_of_mem hmem
  have hfits := hs.fits n w hn
  have hdrops := hs.drops n w hn
  rw [hdrop] at hdrops
  have hflagged : w.unlinked = true := hdrops.flagged.mpr ⟨hmem, hrest⟩
  have hlink := hdrops.listed.mpr hmem
  refine hs.changed hn rfl hs.nodup hs.known ?_ ⟨?_, ?_⟩ fun m v hne hv hv' => ⟨hv, ?_⟩
  · by_cases hown : d = .watcher n
    · exact ⟨past ++ [n], by simpa [hown, DropPhase.current?, DropPhase.ahead] using hsplit⟩
    · exact ⟨past, by simpa [hown, DropPhase.current?, DropPhase.ahead] using hsplit⟩
  · exact ⟨hfits.started, fun _ => rfl, hfits.called, hfits.dead, hfits.known, by simp [hlink], fun _ => .inr hflagged,
      fun _ _ => rfl⟩
  · by_cases hown : d = .watcher n
    · simp only [hown, if_true]
      rw [hown] at hdrops
      exact hdrops.closed.goOn (by simp) (by simp) rfl .rfl (fun _ _ => ⟨rfl, .inr rfl⟩) (fun d rest h => by cases h)
    · simp only [hown, if_false]
      refine hdrops.closed.goOn (by simp) (by simp) rfl .rfl (fun _ h => absurd rfl h) fun d' rest' h => ?_
      obtain ⟨rfl, -, -⟩ := DropPhase.joining.inj h
      exact ⟨rfl, hown⟩
  · rw [hdrop] at hv'
    by_cases hown : d = .watcher n
    · simp only [hown, if_true]
      rw [hown] at hv'
      refine hv'.goOn (by simp) (by simp) rfl .rfl (fun h => absurd (Option.some.inj h) hne) (fun d rest h => by cases h)
    · simp only [hown, if_false]
      refine hv'.goOn (by simp) (by simp) rfl .rfl (fun h => absurd (Option.some.inj h) hne) fun d' rest' h => ?_
      exact absurd (DropPhase.joining.inj h).2.1 hne

/-- The watcher that was waited for has ended. -/
theorem Sound.joined (hs : s.Sound) {d : Dropper} {rest : List Nat} (hdrop : s.drop = .joining d n rest)
    (hended : (s.watchers[n]?).all (·.phase == .ended) = true) : ({ s with drop := .unlinking d rest } : DeathWatch).Sound := by
  obtain ⟨past, hsplit⟩ := hs.split
  rw [hdrop] at hsplit
  refine ⟨hs.nodup, hs.known, ⟨past ++ [n], ?_⟩, hs.fits, fun m v hm => ?_⟩
  · simpa [DropPhase.current?, DropPhase.ahead] using hsplit
  have hdrops := hs.drops m v hm
  rw [hdrop] at hdrops
  refine hdrops.goOn (by simp) (by simp) rfl .rfl (fun h _ => ?_) (fun d rest h => by cases h)
  obtain rfl := Option.some.inj h
  rw [hm] at hended
  exact ⟨(hdrops.joined d rest rfl).1, .inl (by simpa using hended)⟩

/-- So does every later step of it. -/
theorem Sound.step_goOn (hs : s.Sound) (h : s.step .goOn = some s') : s'.Sound := by
  change s.stepDrop = some s' at h
  cases hdrop : s.drop with
  | held | dropped d => simp [stepDrop, hdrop] at h
  | unlinking d rest =>
    cases rest with
    | nil =>
      simp only [stepDrop, hdrop, Option.some.injEq] at h
      subst h
      obtain ⟨past, hsplit⟩ := hs.split
      rw [hdrop] at hsplit
      refine ⟨hs.nodup, hs.known, ⟨past, hsplit⟩, hs.fits, fun n w hn => ?_⟩
      have hdrops := hs.drops n w hn
      rw [hdrop] at hdrops
      exact hdrops.goOn (by simp) (by simp) rfl .rfl (fun h => by cases h) (fun d rest h => by cases h)
    | cons n rest =>
      simp only [stepDrop, hdrop, Option.some.injEq] at h
      subst h
      exact hs.flagged hdrop
  | closing d n rest =>
    simp only [stepDrop, hdrop, Option.some.injEq] at h
    subst h
    exact hs.shut hdrop
  | joining d n rest =>
    simp only [stepDrop, hdrop, Option.ite_none_right_eq_some, Option.some.injEq] at h
    obtain ⟨hended, rfl⟩ := h
    exact hs.joined hdrop hended

/-! ## Every step -/

/-- Every step does. -/
theorem Sound.step {a : WatchStep} (hs : s.Sound) (h : s.step a = some s') : s'.Sound := by
  cases a with
  | stop => exact hs.step_host (.inl rfl) h
  | shutDown => exact hs.step_host (.inr (.inl rfl)) h
  | publish => exact hs.step_host (.inr (.inr rfl)) h
  | link n => exact hs.step_link h
  | watcher n => exact hs.step_watcher h
  | goOn => exact hs.step_goOn h
  | close n =>
    obtain ⟨w, hn, h⟩ := Option.bind_eq_some_iff.mp h
    simp only [Option.ite_none_right_eq_some, Option.some.injEq] at h
    obtain ⟨⟨hstopping, -, hconnected, -⟩, rfl⟩ := h
    exact hs.closed hn hstopping hconnected
  | call =>
    simp only [DeathWatch.step, Option.ite_none_right_eq_some, Option.some.injEq] at h
    obtain ⟨hheld, rfl⟩ := h
    exact hs.step_call hheld
  | fail n =>
    obtain ⟨w, hn, h⟩ := Option.bind_eq_some_iff.mp h
    simp only [Option.ite_none_right_eq_some, Option.some.injEq] at h
    obtain ⟨hlink, rfl⟩ := h
    refine hs.linked hn ?_ ?_ rfl (by simp) (by simp [LinkPhase.isConnected]) <;> rcases hlink with hlink | hlink <;>
      rw [hlink] <;> rfl
  | handler n =>
    obtain ⟨w, hn, h⟩ := Option.bind_eq_some_iff.mp h
    simp only [Option.ite_none_right_eq_some, Option.some.injEq] at h
    obtain ⟨-, rfl⟩ := h
    exact hs.acknowledged hn
  | drop d =>
    obtain ⟨hcan, hs'⟩ := Option.ite_none_right_eq_some.mp (h : (if s.canDrop d then _ else none) = some s')
    obtain rfl := Option.some.inj hs'
    exact hs.step_drop hcan

/-- So do any steps. -/
theorem Sound.run (hs : s.Sound) (steps : List WatchStep) : (s.run steps).Sound := by
  induction steps generalizing s with
  | nil => exact hs
  | cons a steps ih =>
    refine ih (s := (s.step a).getD s) ?_
    cases h : s.step a with
    | none => exact hs
    | some s' => exact hs.step h

end DeathWatch

end Switchboard
