import Mathlib.Data.List.Basic
import Switchboard.Socket.Turns
import Switchboard.Proofs.Socket.Transparency

/-!
# Every order of the calls at one connection

What holds of a connection however the steps of its calls and of its handler come about. The main statement is `turns_law`: no
more than one message is under way, and it is that of the call that holds the lock; every call gets the answer of the service to
its own request; and the requests are answered once each, in the order in which their calls took the lock.

There is nothing on the wire that tells whose a reply is. What carries the law is `Turns.Sound`: the calls that took the lock
are done, all but the holder, and the turn of the holder has one shape in each of its phases (`Turns.Underway`), so that the
only reply on the wire is the holder's.

Calls on an object of a site come to what transactions on it come to, one after another (`Site.run_transactAll_turns`).
-/

namespace Switchboard

variable {σ ρ α : Type}

/-- A sum after one of its members was changed. -/
theorem sum_map_modify {β : Type} {f : β → Nat} {xs : List β} {n : Nat} {x : β} (g : β → β) (hn : xs[n]? = some x) :
    ((xs.modify n g).map f).sum + f x = (xs.map f).sum + f (g x) := by
  induction xs generalizing n with
  | nil => simp at hn
  | cons y xs ih =>
    cases n with
    | zero =>
      obtain rfl : y = x := by simpa using hn
      simp only [List.modify_zero_cons, List.map_cons, List.sum_cons]
      omega
    | succ n =>
      have hsum := ih (n := n) (by simpa using hn)
      simp only [List.modify_succ_cons, List.map_cons, List.sum_cons]
      omega

/-! ## What calls and handler carry -/

/-- Whether a call in that phase has sent its request. -/
def CallPhase.hasSent : CallPhase α → Bool
  | .arriving | .sending => false
  | _ => true

/-- The reply that a call in that phase has received. -/
def CallPhase.reply? : CallPhase α → Option α
  | .leaving reply | .done reply => some reply
  | _ => none

/-- The request that the handler has received and that the service has not answered. -/
def HandlerPhase.request? : HandlerPhase ρ α → Option ρ
  | .serving request => some request
  | _ => none

/-- The reply that the handler has not sent yet. -/
def HandlerPhase.reply? : HandlerPhase ρ α → Option α
  | .sending reply => some reply
  | _ => none

namespace Turns

variable {answer : ρ → σ → α × σ}

/-- The service after some requests, one after another. -/
def stateAfter (answer : ρ → σ → α × σ) (s : σ) : List ρ → σ
  | [] => s
  | r :: rest => stateAfter answer (answer r s).2 rest

/-- The replies of the service to some requests, one after another. -/
def repliesTo (answer : ρ → σ → α × σ) (s : σ) : List ρ → List α
  | [] => []
  | r :: rest => (answer r s).1 :: repliesTo answer (answer r s).2 rest

@[simp] theorem stateAfter_nil (s : σ) : stateAfter answer s [] = s := rfl

@[simp] theorem repliesTo_nil (s : σ) : repliesTo answer s [] = [] := rfl

/-- One more request is answered in the state that the others have left. -/
theorem stateAfter_snoc (s : σ) (rs : List ρ) (r : ρ) :
    stateAfter answer s (rs ++ [r]) = (answer r (stateAfter answer s rs)).2 := by
  induction rs generalizing s with
  | nil => rfl
  | cons r' rs ih => exact ih _

/-- Its reply is the last one. -/
theorem repliesTo_snoc (s : σ) (rs : List ρ) (r : ρ) :
    repliesTo answer s (rs ++ [r]) = repliesTo answer s rs ++ [(answer r (stateAfter answer s rs)).1] := by
  induction rs generalizing s with
  | nil => rfl
  | cons r' rs ih =>
    rw [List.cons_append, repliesTo, ih]
    rfl

/-- The requests of some calls. -/
def requestsOf (calls : List (Call ρ α)) (ns : List Nat) : List ρ :=
  ns.filterMap fun n => (calls[n]?).map (·.request)

/-- The requests that were sent, in the order in which their calls took the lock. -/
def sent (t : Turns σ ρ α) : List ρ :=
  t.order.filterMap fun n => (t.calls[n]?).bind fun c => if c.phase.hasSent then some c.request else none

/-- The replies that were received, in the order in which their calls took the lock. -/
def received (t : Turns σ ρ α) : List α :=
  t.order.filterMap fun n => (t.calls[n]?).bind (·.phase.reply?)

/-! ## Calls that are done -/

/-- The calls are done, one after another, and each has the answer of the service to its own request. -/
def Settled (answer : ρ → σ → α × σ) (calls : List (Call ρ α)) : σ → List Nat → Prop
  | _, [] => True
  | s, n :: rest =>
    ∃ c, calls[n]? = some c ∧ c.phase = .done (answer c.request s).1 ∧ Settled answer calls (answer c.request s).2 rest

variable {calls calls' : List (Call ρ α)} {s : σ} {ns : List Nat}

/-- The requests of calls come in the order of the calls. -/
theorem requestsOf_append (calls : List (Call ρ α)) (ms ns : List Nat) :
    requestsOf calls (ms ++ ns) = requestsOf calls ms ++ requestsOf calls ns :=
  List.filterMap_append

theorem requestsOf_singleton {n : Nat} {c : Call ρ α} (h : calls[n]? = some c) : requestsOf calls [n] = [c.request] := by
  simp [requestsOf, h]

/-- Calls with the same requests have the same requests in any order. -/
theorem requestsOf_congr (h : ∀ n ∈ ns, (calls'[n]?).map (·.request) = (calls[n]?).map (·.request)) :
    requestsOf calls' ns = requestsOf calls ns :=
  List.filterMap_congr h

/-- What is settled stays so as long as its calls stay. -/
theorem Settled.congr (h : Settled answer calls s ns) (hsame : ∀ n ∈ ns, calls'[n]? = calls[n]?) :
    Settled answer calls' s ns := by
  induction ns generalizing s with
  | nil => trivial
  | cons n rest ih =>
    obtain ⟨c, hc, hphase, hrest⟩ := h
    refine ⟨c, (hsame n List.mem_cons_self).trans hc, hphase, ih hrest fun m hm => ?_⟩
    exact hsame m (List.mem_cons_of_mem n hm)

/-- A call that is settled is done. -/
theorem Settled.done (h : Settled answer calls s ns) {n : Nat} (hn : n ∈ ns) :
    ∃ c reply, calls[n]? = some c ∧ c.phase = .done reply := by
  induction ns generalizing s with
  | nil => cases hn
  | cons m rest ih =>
    obtain ⟨c, hc, hphase, hrest⟩ := h
    rcases List.mem_cons.mp hn with rfl | hn
    · exact ⟨c, _, hc, hphase⟩
    · exact ih hrest hn

/-- One more call is done. -/
theorem Settled.snoc (h : Settled answer calls s ns) {n : Nat} {c : Call ρ α} (hc : calls[n]? = some c)
    (hphase : c.phase = .done (answer c.request (stateAfter answer s (requestsOf calls ns))).1) :
    Settled answer calls s (ns ++ [n]) := by
  induction ns generalizing s with
  | nil => exact ⟨c, hc, hphase, trivial⟩
  | cons m rest ih =>
    obtain ⟨d, hd, hdone, hrest⟩ := h
    refine ⟨d, hd, hdone, ih hrest ?_⟩
    rw [hphase]
    simp [requestsOf, hd, stateAfter]

/-- Each of the calls has the answer to its own request, behind the requests of the calls before it. -/
theorem Settled.own (h : Settled answer calls s ns) {k n : Nat} {c : Call ρ α} (hk : ns[k]? = some n)
    (hc : calls[n]? = some c) :
    c.phase = .done (answer c.request (stateAfter answer s (requestsOf calls (ns.take k)))).1 := by
  induction ns generalizing s k with
  | nil => simp at hk
  | cons m rest ih =>
    obtain ⟨d, hd, hdone, hrest⟩ := h
    cases k with
    | zero =>
      obtain rfl : m = n := by simpa using hk
      obtain rfl := Option.some.inj (hd.symm.trans hc)
      exact hdone
    | succ k =>
      rw [ih hrest (by simpa using hk)]
      simp [requestsOf, hd, stateAfter]

/-- The calls have sent their requests and received the replies. -/
theorem Settled.sent_received (h : Settled answer calls s ns) :
    (ns.filterMap fun n => (calls[n]?).bind fun c => if c.phase.hasSent then some c.request else none) =
        requestsOf calls ns ∧
      (ns.filterMap fun n => (calls[n]?).bind (·.phase.reply?)) = repliesTo answer s (requestsOf calls ns) := by
  induction ns generalizing s with
  | nil => exact ⟨rfl, rfl⟩
  | cons n rest ih =>
    obtain ⟨c, hc, hphase, hrest⟩ := h
    obtain ⟨hsent, hreceived⟩ := ih hrest
    constructor
    · simpa [requestsOf, hc, hphase, CallPhase.hasSent] using hsent
    · simpa [requestsOf, hc, hphase, CallPhase.reply?, repliesTo] using hreceived

/-! ## The turn of the holder -/

/-- What lies between the calls and the service, and the service itself. -/
structure Line (σ ρ α : Type) where
  requests : List ρ
  handler : HandlerPhase ρ α
  replies : List α
  served : List ρ
  service : σ

def line (t : Turns σ ρ α) : Line σ ρ α :=
  ⟨t.requests, t.handler, t.replies, t.served, t.service⟩

/-- What lies there in the turn of a call with a request, in each phase of the call: `past` are the requests that were answered
before, and `s` is the service behind them. -/
inductive Underway (answer : ρ → σ → α × σ) (past : List ρ) (s : σ) (r : ρ) : CallPhase α → Line σ ρ α → Prop
  | sending : Underway answer past s r .sending ⟨[], .receiving, [], past, s⟩
  | asked : Underway answer past s r .receiving ⟨[r], .receiving, [], past, s⟩
  | serving : Underway answer past s r .receiving ⟨[], .serving r, [], past, s⟩
  | served : Underway answer past s r .receiving ⟨[], .sending (answer r s).1, [], past ++ [r], (answer r s).2⟩
  | replied : Underway answer past s r .receiving ⟨[], .receiving, [(answer r s).1], past ++ [r], (answer r s).2⟩
  | leaving : Underway answer past s r (.leaving (answer r s).1) ⟨[], .receiving, [], past ++ [r], (answer r s).2⟩

/-- The turns that have been taken: `past` are the calls that are done, and the holder's turn is under way. -/
inductive Taken (answer : ρ → σ → α × σ) (service : σ) (t : Turns σ ρ α) : Prop
  | free (holder : t.holder = none) (settled : Settled answer t.calls service t.order)
      (line : t.line = ⟨[], .receiving, [], requestsOf t.calls t.order,
        stateAfter answer service (requestsOf t.calls t.order)⟩)
  | held (n : Nat) (c : Call ρ α) (past : List Nat) (holder : t.holder = some n) (order : t.order = past ++ [n])
      (call : t.calls[n]? = some c) (settled : Settled answer t.calls service past)
      (underway : Underway answer (requestsOf t.calls past) (stateAfter answer service (requestsOf t.calls past)) c.request
        c.phase t.line)

/-- The invariant of all orders of steps. -/
structure Sound (answer : ρ → σ → α × σ) (service : σ) (t : Turns σ ρ α) : Prop where
  /-- No call takes the lock twice. -/
  nodup : t.order.Nodup
  /-- The calls that have not taken the lock are those that wait for it. -/
  waiting : ∀ n c, t.calls[n]? = some c → (c.phase = .arriving ↔ n ∉ t.order)
  taken : t.Taken answer service

/-- The beginning is sound. -/
theorem sound_start (service : σ) : (start service : Turns σ ρ α).Sound answer service where
  nodup := List.nodup_nil
  waiting := by simp [start]
  taken := .free rfl trivial rfl

variable {service : σ} {t t' : Turns σ ρ α} {n : Nat} {c : Call ρ α}

/-- A call is put into a phase, and the others stay. -/
theorem getElem?_setPhase (phase : CallPhase α) (m : Nat) :
    (t.setPhase n phase).calls[m]? = (t.calls[m]?).map fun c => if n = m then { c with phase } else c := by
  rw [setPhase, List.getElem?_modify]
  split <;> simp

theorem getElem?_setPhase_self (hc : t.calls[n]? = some c) (phase : CallPhase α) :
    (t.setPhase n phase).calls[n]? = some { c with phase } := by
  rw [getElem?_setPhase, hc]
  simp

theorem getElem?_setPhase_of_ne {m : Nat} (hne : n ≠ m) (phase : CallPhase α) :
    (t.setPhase n phase).calls[m]? = t.calls[m]? := by
  rw [getElem?_setPhase]
  simp [hne]

/-- The phases of the calls do not change their requests. -/
theorem requestsOf_setPhase (phase : CallPhase α) (ns : List Nat) :
    requestsOf (t.setPhase n phase).calls ns = requestsOf t.calls ns := by
  refine requestsOf_congr fun m _ => ?_
  rw [getElem?_setPhase]
  cases t.calls[m]? with
  | none => rfl
  | some c => by_cases h : n = m <;> simp [h]

/-- Only calls take the lock. -/
theorem Sound.known (hs : t.Sound answer service) (hn : n ∈ t.order) : ∃ c, t.calls[n]? = some c := by
  cases hs.taken with
  | free holder settled line =>
    obtain ⟨c, -, hc, -⟩ := settled.done hn
    exact ⟨c, hc⟩
  | held m c past holder order call settled underway =>
    rw [order] at hn
    rcases List.mem_append.mp hn with hn | hn
    · obtain ⟨c, -, hc, -⟩ := settled.done hn
      exact ⟨c, hc⟩
    · exact ⟨c, List.mem_singleton.mp hn ▸ call⟩

/-- A call that is neither waiting for the lock nor done holds it, and its turn is under way. -/
theorem Sound.held (hs : t.Sound answer service) (hc : t.calls[n]? = some c) (harrived : c.phase ≠ .arriving)
    (hdone : ∀ reply, c.phase ≠ .done reply) :
    ∃ past, t.holder = some n ∧ t.order = past ++ [n] ∧ Settled answer t.calls service past ∧
      Underway answer (requestsOf t.calls past) (stateAfter answer service (requestsOf t.calls past)) c.request c.phase
        t.line := by
  have hmem : n ∈ t.order := by
    by_contra hout
    exact harrived ((hs.waiting n c hc).mpr hout)
  have hpast : ∀ {past : List Nat}, Settled answer t.calls service past → n ∉ past := by
    intro past hsettled hn
    obtain ⟨d, reply, hd, hphase⟩ := hsettled.done hn
    obtain rfl := Option.some.inj (hd.symm.trans hc)
    exact hdone reply hphase
  cases hs.taken with
  | free holder settled line => exact absurd hmem (hpast settled)
  | held m d past holder order call settled underway =>
    rw [order] at hmem
    rcases List.mem_append.mp hmem with hn | hn
    · exact absurd hn (hpast settled)
    · obtain rfl := List.mem_singleton.mp hn
      obtain rfl := Option.some.inj (call.symm.trans hc)
      exact ⟨past, holder, order, settled, underway⟩

/-! ## Every step keeps the turns sound -/

/-- A step of the holder that stays the holder. -/
theorem Sound.stepped (hs : t.Sound answer service) (hc : t.calls[n]? = some c) {past : List Nat} {phase : CallPhase α}
    (horder : t.order = past ++ [n]) (hsettled : Settled answer t.calls service past) (hphase : phase ≠ .arriving)
    {u : Turns σ ρ α} (hholder : u.holder = some n) (hcalls : u.calls = t.calls) (horder' : u.order = t.order)
    (hunderway : Underway answer (requestsOf t.calls past) (stateAfter answer service (requestsOf t.calls past)) c.request
      phase u.line) : (u.setPhase n phase).Sound answer service := by
  have hnodup : (past ++ [n]).Nodup := horder ▸ hs.nodup
  have hout : ∀ m ∈ past, n ≠ m := by
    rintro m hm rfl
    exact (List.nodup_append.mp hnodup).2.2 n hm n List.mem_cons_self rfl
  have hself : (u.setPhase n phase).calls[n]? = some { c with phase } := getElem?_setPhase_self (hcalls ▸ hc) phase
  constructor
  case nodup => exact horder' ▸ hs.nodup
  case waiting =>
    intro m d hd
    change d.phase = .arriving ↔ m ∉ u.order
    rw [horder']
    by_cases hm : n = m
    · subst hm
      obtain rfl := Option.some.inj (hself.symm.trans hd)
      refine iff_of_false hphase fun hnot => hnot ?_
      rw [horder]
      exact List.mem_append_right _ List.mem_cons_self
    · rw [getElem?_setPhase_of_ne hm, hcalls] at hd
      exact hs.waiting m d hd
  case taken =>
    refine .held n { c with phase } past hholder (horder'.trans horder) hself ?_ ?_
    · refine hsettled.congr fun m hm => ?_
      rw [getElem?_setPhase_of_ne (hout m hm), hcalls]
    · rw [requestsOf_setPhase, hcalls]
      exact hunderway

/-- A call takes the lock when nobody has it: the calls before it are done. -/
theorem Sound.takes (hs : t.Sound answer service) (hc : t.calls[n]? = some c) (hphase : c.phase = .arriving)
    (hfree : t.holder = none) :
    ({ t with holder := some n, order := t.order ++ [n] }.setPhase n .sending).Sound answer service := by
  have hout : n ∉ t.order := (hs.waiting n c hc).mp hphase
  have hself : ({ t with holder := some n, order := t.order ++ [n] }.setPhase n .sending).calls[n]? =
      some { c with phase := .sending } :=
    getElem?_setPhase_self (t := { t with holder := some n, order := t.order ++ [n] }) hc _
  constructor
  case nodup => exact List.nodup_append.mpr ⟨hs.nodup, List.nodup_singleton n, fun m hm k hk => by
    rintro rfl
    exact hout (List.mem_singleton.mp hk ▸ hm)⟩
  case waiting =>
    intro m d hd
    by_cases hm : n = m
    · subst hm
      obtain rfl := Option.some.inj (hself.symm.trans hd)
      exact iff_of_false (by simp) fun hnot => hnot (List.mem_append_right _ List.mem_cons_self)
    · rw [getElem?_setPhase_of_ne hm] at hd
      refine (hs.waiting m d hd).trans (not_congr ?_)
      change m ∈ t.order ↔ m ∈ t.order ++ [n]
      simp [Ne.symm hm]
  case taken =>
    cases hs.taken with
    | held m d past holder => exact absurd (hfree.symm.trans holder) (by simp)
    | free holder settled line =>
      refine .held n { c with phase := .sending } t.order rfl rfl hself ?_ ?_
      · refine settled.congr fun m hm => getElem?_setPhase_of_ne ?_ _
        rintro rfl
        exact hout hm
      · rw [requestsOf_setPhase]
        change Underway answer _ _ _ _ t.line
        rw [line]
        exact .sending

/-- The holder lets go of the lock: it is done, with the answer to its own request. -/
theorem Sound.leaves (hs : t.Sound answer service) {reply : α} (hc : t.calls[n]? = some c) (hphase : c.phase = .leaving reply) :
    ({ t with holder := none }.setPhase n (.done reply)).Sound answer service := by
  obtain ⟨past, hholder, horder, hsettled, hunderway⟩ := hs.held hc (by simp [hphase]) (by simp [hphase])
  have hself : ({ t with holder := none }.setPhase n (.done reply)).calls[n]? = some { c with phase := .done reply } :=
    getElem?_setPhase_self (t := { t with holder := none }) hc _
  have hmem : n ∈ t.order := by
    rw [horder]
    exact List.mem_append_right _ List.mem_cons_self
  have hnodup : (past ++ [n]).Nodup := horder ▸ hs.nodup
  have hout : ∀ m ∈ past, n ≠ m := by
    rintro m hm rfl
    exact (List.nodup_append.mp hnodup).2.2 n hm n List.mem_cons_self rfl
  constructor
  case nodup => exact hs.nodup
  case waiting =>
    intro m d hd
    by_cases hm : n = m
    · subst hm
      obtain rfl := Option.some.inj (hself.symm.trans hd)
      exact iff_of_false (by simp) fun hnot => hnot hmem
    · rw [getElem?_setPhase_of_ne hm] at hd
      exact hs.waiting m d hd
  case taken =>
    have hpast : Settled answer ({ t with holder := none }.setPhase n (.done reply)).calls service past :=
      hsettled.congr fun m hm => getElem?_setPhase_of_ne (hout m hm) _
    rw [hphase] at hunderway
    generalize hline : t.line = l at hunderway
    cases hunderway with
    | leaving =>
      have hrequests : requestsOf ({ t with holder := none }.setPhase n (.done (answer c.request
          (stateAfter answer service (requestsOf t.calls past))).1)).calls t.order =
          requestsOf t.calls past ++ [c.request] := by
        rw [requestsOf_setPhase, horder, requestsOf_append, requestsOf_singleton hc]
      refine .free rfl ?_ ?_
      · change Settled answer _ service t.order
        rw [horder]
        refine hpast.snoc hself ?_
        rw [requestsOf_setPhase]
      · change t.line = ⟨_, _, _, requestsOf _ t.order, stateAfter answer service (requestsOf _ t.order)⟩
        rw [hrequests, stateAfter_snoc, hline]

/-- A step of a call keeps the state sound; only the call that holds the lock has more than one. -/
theorem Sound.step_call (hs : t.Sound answer service) (h : t.step answer (.call n) = some t') : t'.Sound answer service := by
  obtain ⟨c, hc, h⟩ := Option.bind_eq_some_iff.mp h
  cases hphase : c.phase with
  | arriving =>
    simp only [stepCall, hphase, Option.isNone_iff_eq_none, Option.ite_none_right_eq_some, Option.some.injEq] at h
    obtain ⟨hfree, rfl⟩ := h
    exact hs.takes hc hphase hfree
  | sending =>
    obtain ⟨past, hholder, horder, hsettled, hunderway⟩ := hs.held hc (by simp [hphase]) (by simp [hphase])
    simp only [stepCall, hphase, Option.some.injEq] at h
    subst h
    rw [hphase] at hunderway
    generalize hline : t.line = l at hunderway
    cases hunderway with
    | sending =>
      obtain ⟨hrequests, hhandler, hreplies, hserved, hservice⟩ := Line.mk.inj hline
      refine hs.stepped hc horder hsettled (by simp) hholder rfl rfl ?_
      rw [line, hrequests, hhandler, hreplies, hserved, hservice]
      exact .asked
  | receiving =>
    obtain ⟨past, hholder, horder, hsettled, hunderway⟩ := hs.held hc (by simp [hphase]) (by simp [hphase])
    simp only [stepCall, hphase] at h
    split at h
    · cases h
    · rename_i reply rest hreplies
      obtain rfl := Option.some.inj h
      rw [hphase] at hunderway
      generalize hline : t.line = l at hunderway
      -- of the shapes of a turn only one has a reply on the wire
      cases hunderway with
      | replied =>
        obtain ⟨hrequests, hhandler, hreplies', hserved, hservice⟩ := Line.mk.inj hline
        obtain ⟨rfl, rfl⟩ := List.cons.inj (hreplies.symm.trans hreplies')
        refine hs.stepped hc horder hsettled (by simp) hholder rfl rfl ?_
        rw [line, hrequests, hhandler, hserved, hservice]
        exact .leaving
      | asked | serving | served => exact absurd (hreplies.symm.trans (Line.mk.inj hline).2.2.1) (by simp)
  | leaving reply =>
    simp only [stepCall, hphase, Option.some.injEq] at h
    subst h
    exact hs.leaves hc hphase
  | done reply =>
    simp only [stepCall, hphase] at h
    cases h

/-- The handler goes on with the turn of the holder, and changes nothing but what lies between the calls and the service. -/
theorem Sound.step_handler (hs : t.Sound answer service) (h : t.step answer .handler = some t') :
    t'.Sound answer service := by
  have hframe : t'.calls = t.calls ∧ t'.order = t.order ∧ t'.holder = t.holder := by
    simp only [step, stepHandler] at h
    split at h
    · split at h
      · cases h
      · obtain rfl := Option.some.inj h
        exact ⟨rfl, rfl, rfl⟩
    · obtain rfl := Option.some.inj h
      exact ⟨rfl, rfl, rfl⟩
    · obtain rfl := Option.some.inj h
      exact ⟨rfl, rfl, rfl⟩
  obtain ⟨hcalls, horder, hholder⟩ := hframe
  refine ⟨horder ▸ hs.nodup, by rw [hcalls, horder]; exact hs.waiting, ?_⟩
  cases hs.taken with
  | free holder settled line =>
    obtain ⟨hrequests, hhandler, -, -, -⟩ := Line.mk.inj line
    simp only [step, stepHandler, hhandler, hrequests] at h
    cases h
  | held n c past holder order call settled underway =>
    refine .held n c past (hholder.trans holder) (horder.trans order) (hcalls ▸ call) (hcalls ▸ settled) ?_
    rw [hcalls]
    generalize hline : t.line = l at underway
    generalize c.phase = phase at underway ⊢
    cases underway with
    | asked =>
      obtain ⟨hrequests, hhandler, hreplies, hserved, hservice⟩ := Line.mk.inj hline
      simp only [step, stepHandler, hhandler, hrequests, Option.some.injEq] at h
      rw [← h, line, hreplies, hserved, hservice]
      exact .serving
    | serving =>
      obtain ⟨hrequests, hhandler, hreplies, hserved, hservice⟩ := Line.mk.inj hline
      simp only [step, stepHandler, hhandler, Option.some.injEq] at h
      rw [← h, line, hrequests, hreplies, hserved, hservice]
      exact .served
    | served =>
      obtain ⟨hrequests, hhandler, hreplies, hserved, hservice⟩ := Line.mk.inj hline
      simp only [step, stepHandler, hhandler, Option.some.injEq] at h
      rw [← h, line, hrequests, hreplies, hserved, hservice]
      exact .replied
    | sending | replied | leaving =>
      obtain ⟨hrequests, hhandler, -, -, -⟩ := Line.mk.inj hline
      simp only [step, stepHandler, hhandler, hrequests] at h
      cases h

/-- A call that begins waits for the lock. -/
theorem Sound.step_arrive (hs : t.Sound answer service) (r : ρ) :
    ({ t with calls := t.calls ++ [⟨r, .arriving⟩] } : Turns σ ρ α).Sound answer service := by
  have hold : ∀ {m : Nat} {d : Call ρ α}, t.calls[m]? = some d → (t.calls ++ [⟨r, .arriving⟩])[m]? = some d := by
    intro m d hd
    rw [List.getElem?_append_left (List.getElem?_eq_some_iff.mp hd).1, hd]
  have hsame : ∀ m ∈ t.order, (t.calls ++ [⟨r, .arriving⟩])[m]? = t.calls[m]? := by
    intro m hm
    obtain ⟨d, hd⟩ := hs.known hm
    rw [hd]
    exact hold hd
  constructor
  case nodup => exact hs.nodup
  case waiting =>
    intro m d hd
    rcases Nat.lt_or_ge m t.calls.length with hlt | hge
    · rw [List.getElem?_append_left hlt] at hd
      exact hs.waiting m d hd
    · rw [List.getElem?_append_right hge] at hd
      obtain rfl := List.mem_singleton.mp (List.mem_of_getElem? hd)
      refine iff_of_true rfl fun hm => ?_
      obtain ⟨d, hd⟩ := hs.known hm
      exact absurd (List.getElem?_eq_some_iff.mp hd).1 (Nat.not_lt.mpr hge)
  case taken =>
    cases hs.taken with
    | free holder settled line =>
      refine .free holder (settled.congr hsame) ?_
      rw [requestsOf_congr fun m hm => congrArg _ (hsame m hm)]
      exact line
    | held n c past holder order call settled underway =>
      have hpast : ∀ m ∈ past, (t.calls ++ [⟨r, .arriving⟩])[m]? = t.calls[m]? :=
        fun m hm => hsame m (order ▸ List.mem_append_left _ hm)
      refine .held n c past holder order (hold call) (settled.congr hpast) ?_
      rw [requestsOf_congr fun m hm => congrArg _ (hpast m hm)]
      exact underway

/-- So does every step. -/
theorem Sound.step (hs : t.Sound answer service) {a : TurnStep ρ} (h : t.step answer a = some t') :
    t'.Sound answer service := by
  cases a with
  | arrive r =>
    obtain rfl := Option.some.inj h
    exact hs.step_arrive r
  | call n => exact hs.step_call h
  | handler => exact hs.step_handler h

/-- So do any steps. -/
theorem Sound.run (hs : t.Sound answer service) (steps : List (TurnStep ρ)) : (t.run answer steps).Sound answer service := by
  induction steps generalizing t with
  | nil => exact hs
  | cons a steps ih =>
    refine ih (t := (t.step answer a).getD t) ?_
    cases h : t.step answer a with
    | none => exact hs
    | some t' => exact hs.step h

/-! ## What is under way -/

/-- A reply that a call has received is the answer to its own request, behind the requests of the calls that took the lock
before it. -/
theorem Sound.own (hs : t.Sound answer service) (hc : t.calls[n]? = some c) {reply : α} (hreply : c.phase.reply? = some reply) :
    ∃ k, t.order[k]? = some n ∧
      reply = (answer c.request (stateAfter answer service (requestsOf t.calls (t.order.take k)))).1 := by
  have hmem : n ∈ t.order := by
    by_contra hout
    rw [(hs.waiting n c hc).mpr hout] at hreply
    cases hreply
  have hpast : ∀ {past : List Nat}, Settled answer t.calls service past → n ∈ past →
      ∃ k, past[k]? = some n ∧
        reply = (answer c.request (stateAfter answer service (requestsOf t.calls (past.take k)))).1 := by
    intro past hsettled hn
    obtain ⟨k, hk⟩ := List.getElem?_of_mem hn
    have hphase := hsettled.own hk hc
    rw [hphase] at hreply
    exact ⟨k, hk, (Option.some.inj hreply).symm⟩
  cases hs.taken with
  | free holder settled line => exact hpast settled hmem
  | held m d past holder order call settled underway =>
    rw [order] at hmem ⊢
    rcases List.mem_append.mp hmem with hn | hn
    · obtain ⟨k, hk, hreply⟩ := hpast settled hn
      have hlt := (List.getElem?_eq_some_iff.mp hk).1
      refine ⟨k, (List.getElem?_append_left hlt).trans hk, ?_⟩
      rw [List.take_append_of_le_length (Nat.le_of_lt hlt)]
      exact hreply
    · obtain rfl := List.mem_singleton.mp hn
      obtain rfl := Option.some.inj (call.symm.trans hc)
      refine ⟨past.length, List.getElem?_concat_length, ?_⟩
      rw [List.take_left]
      generalize t.line = l at underway
      generalize d.phase = phase at underway hreply
      cases underway with
      | leaving => exact (Option.some.inj hreply).symm
      | sending | asked | serving | served | replied => cases hreply

/-- The requests that were sent are those that the service has answered, the one that it is answering, and the one under way;
its replies are those that were received, the one under way, and the one about to be sent. -/
theorem Sound.conserves (hs : t.Sound answer service) :
    t.sent = t.served ++ t.handler.request?.toList ++ t.requests ∧
      repliesTo answer service t.served = t.received ++ t.replies ++ t.handler.reply?.toList ∧
      t.service = stateAfter answer service t.served := by
  cases hs.taken with
  | free holder settled line =>
    obtain ⟨hrequests, hhandler, hreplies, hserved, hservice⟩ := Line.mk.inj line
    obtain ⟨hsent, hreceived⟩ := settled.sent_received
    rw [sent, received, hsent, hreceived, hrequests, hhandler, hreplies, hserved, hservice]
    simp [HandlerPhase.request?, HandlerPhase.reply?]
  | held n c past holder order call settled underway =>
    obtain ⟨hsent, hreceived⟩ := settled.sent_received
    rw [sent, received, order, List.filterMap_append, List.filterMap_append, hsent, hreceived]
    generalize hline : t.line = l at underway
    generalize hphase : c.phase = phase at underway
    cases underway <;> obtain ⟨hrequests, hhandler, hreplies, hserved, hservice⟩ := Line.mk.inj hline <;>
      rw [hrequests, hhandler, hreplies, hserved, hservice] <;>
      simp [call, hphase, CallPhase.hasSent, CallPhase.reply?, HandlerPhase.request?, HandlerPhase.reply?, repliesTo_snoc,
        stateAfter_snoc]

/-- What is under way is the holder's. -/
theorem Sound.underway (hs : t.Sound answer service) :
    t.requests.length + t.replies.length ≤ 1 ∧
      ((t.requests ≠ [] ∨ t.replies ≠ []) → ∃ n c past, t.holder = some n ∧ t.order = past ++ [n] ∧ t.calls[n]? = some c ∧
        c.phase = .receiving ∧ (∀ r ∈ t.requests, r = c.request) ∧
        ∀ reply ∈ t.replies, reply = (answer c.request (stateAfter answer service (requestsOf t.calls past))).1) := by
  cases hs.taken with
  | free holder settled line =>
    obtain ⟨hrequests, -, hreplies, -, -⟩ := Line.mk.inj line
    rw [hrequests, hreplies]
    exact ⟨by simp, fun h => by simp at h⟩
  | held n c past holder order call settled underway =>
    generalize hline : t.line = l at underway
    generalize hphase : c.phase = phase at underway
    cases underway <;> obtain ⟨hrequests, -, hreplies, -, -⟩ := Line.mk.inj hline <;> rw [hrequests, hreplies] <;>
      refine ⟨by simp, fun h => ?_⟩
    case asked | replied => exact ⟨n, c, past, holder, order, call, hphase, by simp, by simp⟩
    case sending | serving | served | leaving => simp at h

/-- When all calls are done, each has taken the lock, and the service has answered their requests in that order. -/
theorem Sound.finished (hs : t.Sound answer service) (hdone : ∀ c ∈ t.calls, ∃ reply, c.phase = .done reply) :
    t.order.Perm (List.range t.calls.length) ∧ t.served = requestsOf t.calls t.order ∧
      t.received = repliesTo answer service (requestsOf t.calls t.order) := by
  cases hs.taken with
  | held n c past holder order call settled underway =>
    obtain ⟨reply, hphase⟩ := hdone c (List.mem_of_getElem? call)
    rw [hphase] at underway
    cases underway
  | free holder settled line =>
    obtain ⟨-, -, -, hserved, -⟩ := Line.mk.inj line
    refine ⟨(List.perm_ext_iff_of_nodup hs.nodup List.nodup_range).mpr fun n => ?_, hserved, settled.sent_received.2⟩
    rw [List.mem_range]
    constructor
    · intro hn
      obtain ⟨c, -, hc, -⟩ := settled.done hn
      exact (List.getElem?_eq_some_iff.mp hc).1
    · intro hlt
      by_contra hout
      obtain ⟨reply, hphase⟩ := hdone t.calls[n] (List.getElem_mem hlt)
      have harriving := (hs.waiting n _ (List.getElem?_eq_getElem hlt)).mpr hout
      rw [hphase] at harriving
      cases harriving

end Turns

/-! ## Nobody waits forever -/

/-- The steps that a call in that phase still brings about, its own and those of the handler that a request which is not sent
yet will take. -/
def CallPhase.remaining : CallPhase α → Nat
  | .arriving => 7
  | .sending => 6
  | .receiving => 2
  | .leaving _ => 1
  | .done _ => 0

def HandlerPhase.remaining : HandlerPhase ρ α → Nat
  | .receiving => 0
  | .serving _ => 2
  | .sending _ => 1

namespace Turns

/-- The steps that all calls and the handler have before them. -/
def remaining (t : Turns σ ρ α) : Nat :=
  (t.calls.map (·.phase.remaining)).sum + 3 * t.requests.length + t.handler.remaining

variable {answer : ρ → σ → α × σ} {service : σ} {t t' : Turns σ ρ α} {n : Nat} {c : Call ρ α}

/-- The steps before a call change with its phase alone. -/
theorem sum_setPhase (hc : t.calls[n]? = some c) (phase : CallPhase α) :
    ((t.setPhase n phase).calls.map (·.phase.remaining)).sum + c.phase.remaining =
      (t.calls.map (·.phase.remaining)).sum + phase.remaining := by
  have hsum := sum_map_modify (f := fun c : Call ρ α => c.phase.remaining) (fun c => { c with phase }) hc
  exact hsum

/-- A step that is not the beginning of a call leaves one step fewer. -/
theorem remaining_step {a : TurnStep ρ} (h : t.step answer a = some t') (ha : ∀ r, a ≠ .arrive r) :
    t'.remaining + 1 = t.remaining := by
  cases a with
  | arrive r => exact absurd rfl (ha r)
  | call n =>
    obtain ⟨c, hc, h⟩ := Option.bind_eq_some_iff.mp h
    cases hphase : c.phase with
    | arriving =>
      simp only [stepCall, hphase, Option.ite_none_right_eq_some, Option.some.injEq] at h
      obtain ⟨-, rfl⟩ := h
      have hsum := sum_setPhase (t := { t with holder := some n, order := t.order ++ [n] }) hc (.sending : CallPhase α)
      rw [hphase] at hsum
      simp only [remaining, setPhase, CallPhase.remaining] at hsum ⊢
      omega
    | sending =>
      simp only [stepCall, hphase, Option.some.injEq] at h
      subst h
      have hsum := sum_setPhase (t := { t with requests := t.requests ++ [c.request] }) hc (.receiving : CallPhase α)
      rw [hphase] at hsum
      simp only [remaining, setPhase, CallPhase.remaining, List.length_append, List.length_singleton] at hsum ⊢
      omega
    | receiving =>
      simp only [stepCall, hphase] at h
      split at h
      · cases h
      · rename_i reply replies hreplies
        obtain rfl := Option.some.inj h
        have hsum := sum_setPhase (t := { t with replies }) hc (.leaving reply)
        rw [hphase] at hsum
        simp only [remaining, setPhase, CallPhase.remaining] at hsum ⊢
        omega
    | leaving reply =>
      simp only [stepCall, hphase, Option.some.injEq] at h
      subst h
      have hsum := sum_setPhase (t := { t with holder := none }) hc (.done reply)
      rw [hphase] at hsum
      simp only [remaining, setPhase, CallPhase.remaining] at hsum ⊢
      omega
    | done reply =>
      simp only [stepCall, hphase] at h
      cases h
  | handler =>
    simp only [step, stepHandler] at h
    split at h
    · rename_i hhandler
      split at h
      · cases h
      · rename_i request requests hrequests
        obtain rfl := Option.some.inj h
        simp only [remaining, hhandler, hrequests, HandlerPhase.remaining, List.length_cons]
        omega
    · rename_i request hhandler
      obtain rfl := Option.some.inj h
      simp only [remaining, hhandler, HandlerPhase.remaining]
    · rename_i reply hhandler
      obtain rfl := Option.some.inj h
      simp only [remaining, hhandler, HandlerPhase.remaining]

/-- Unless all calls are done, the call that holds the lock goes on, or the handler does it for it; or one that waits takes the
lock. -/
theorem Sound.proceeds (hs : t.Sound answer service) (hc : c ∈ t.calls) (hdone : ∀ reply, c.phase ≠ .done reply) :
    ∃ a, (t.step answer a).isSome ∧ ∀ r, a ≠ .arrive r := by
  obtain ⟨n, hn⟩ := List.getElem?_of_mem hc
  cases hs.taken with
  | free holder settled line =>
    have hphase : c.phase = .arriving := by
      refine (hs.waiting n c hn).mpr fun hmem => ?_
      obtain ⟨d, reply, hd, hphase⟩ := settled.done hmem
      obtain rfl := Option.some.inj (hd.symm.trans hn)
      exact hdone reply hphase
    exact ⟨.call n, by simp [Turns.step, hn, stepCall, hphase, holder], by simp⟩
  | held m d past holder order call settled underway =>
    generalize hline : t.line = l at underway
    generalize hphase : d.phase = phase at underway
    cases underway <;> obtain ⟨hrequests, hhandler, hreplies, -, -⟩ := Line.mk.inj hline
    case sending | leaving => exact ⟨.call m, by simp [Turns.step, call, stepCall, hphase], by simp⟩
    case replied => exact ⟨.call m, by simp [Turns.step, call, stepCall, hphase, hreplies], by simp⟩
    case asked => exact ⟨.handler, by simp [Turns.step, stepHandler, hhandler, hrequests], by simp⟩
    case serving | served => exact ⟨.handler, by simp [Turns.step, stepHandler, hhandler], by simp⟩

end Turns

/-! ## What holds after any steps -/

namespace Turns

/-- What holds of the calls at one connection to a service, after any steps. -/
structure Orderly (answer : ρ → σ → α × σ) (service : σ) (t : Turns σ ρ α) : Prop where
  /-- No more than one message is under way, and it is that of the call that holds the lock: its request, or the answer of the
  service to its request behind those of the calls before it. -/
  underway : t.requests.length + t.replies.length ≤ 1 ∧
    ((t.requests ≠ [] ∨ t.replies ≠ []) → ∃ n c past, t.holder = some n ∧ t.order = past ++ [n] ∧ t.calls[n]? = some c ∧
      c.phase = .receiving ∧ (∀ r ∈ t.requests, r = c.request) ∧
      ∀ reply ∈ t.replies, reply = (answer c.request (stateAfter answer service (requestsOf t.calls past))).1)
  /-- A reply that a call has received is the answer of the service to its own request, behind the requests of the calls that
  took the lock before it. -/
  own : ∀ n c reply, t.calls[n]? = some c → c.phase.reply? = some reply → ∃ k, t.order[k]? = some n ∧
    reply = (answer c.request (stateAfter answer service (requestsOf t.calls (t.order.take k)))).1
  /-- No call takes the lock twice, and only calls take it. -/
  once : t.order.Nodup ∧ ∀ n ∈ t.order, n < t.calls.length
  /-- The requests that were sent, in the order of the lock, are those that the service has answered, the one that it is to
  answer and the one under way. -/
  requests : t.sent = t.served ++ t.handler.request?.toList ++ t.requests
  /-- The answers of the service are the replies that were received, in the order of the lock, the one under way and the one
  that is to be sent. -/
  replies : repliesTo answer service t.served = t.received ++ t.replies ++ t.handler.reply?.toList
  /-- The service has gone through the requests that it answered, and nothing else. -/
  state : t.service = stateAfter answer service t.served
  /-- Once all calls are done, each has taken the lock, and the service has answered their requests in that order. -/
  finished : (∀ c ∈ t.calls, ∃ reply, c.phase = .done reply) →
    t.order.Perm (List.range t.calls.length) ∧ t.served = requestsOf t.calls t.order ∧
      t.received = repliesTo answer service (requestsOf t.calls t.order)
  /-- Unless all calls are done, one of them or the handler can go on. -/
  proceeds : ∀ c ∈ t.calls, (∀ reply, c.phase ≠ .done reply) → ∃ a, (t.step answer a).isSome ∧ ∀ r, a ≠ .arrive r
  /-- Every step of theirs leaves one step fewer. -/
  wanes : ∀ a t', t.step answer a = some t' → (∀ r, a ≠ .arrive r) → t'.remaining + 1 = t.remaining

/-- It holds of every state that satisfies the invariant. -/
theorem Sound.orderly {answer : ρ → σ → α × σ} {service : σ} {t : Turns σ ρ α} (hs : t.Sound answer service) :
    t.Orderly answer service := by
  obtain ⟨hrequests, hreplies, hstate⟩ := hs.conserves
  constructor
  case underway => exact hs.underway
  case own => exact fun n c reply hc hreply => hs.own hc hreply
  case once =>
    refine ⟨hs.nodup, fun n hn => ?_⟩
    obtain ⟨c, hc⟩ := hs.known hn
    exact (List.getElem?_eq_some_iff.mp hc).1
  case requests => exact hrequests
  case replies => exact hreplies
  case state => exact hstate
  case finished => exact hs.finished
  case proceeds => exact fun c hc hdone => hs.proceeds hc hdone
  case wanes => exact fun a t' h ha => remaining_step h ha

end Turns

/-! ## The calls of a connected object -/

/-- How a handler answers transactions, as far as the service returns. -/
def Service.Handled (service : Service σ) (answer : UInt32 × Json → σ → HostReply × σ) : Prop :=
  ∀ code data b r, ((service code data).run b).value = some r →
    answer (code, data) b = (.ofResult r, ((service code data).run b).state)

/-- Transactions in a row on a service come to what its handler replies, in the same order. -/
theorem Service.Handled.run_transactAll {service : Service σ} {answer : UInt32 × Json → σ → HostReply × σ}
    (h : service.Handled answer) {calls : List (UInt32 × Json)} {b : σ}
    (hvalue : ((service.transactAll calls).run b).value ≠ none) :
    ((service.transactAll calls).run b).value.map (List.map (Except.mapError .acrossSocket)) =
        some ((Turns.repliesTo answer b calls).map HostReply.result) ∧
      ((service.transactAll calls).run b).state = Turns.stateAfter answer b calls := by
  induction calls generalizing b with
  | nil => exact ⟨rfl, rfl⟩
  | cons call rest ih =>
    obtain ⟨code, data⟩ := call
    cases hr : ((service code data).run b).value with
    | none => exact absurd (run_transactAll_of_hang rest hr).1 hvalue
    | some r =>
      obtain ⟨hserved, hleft⟩ := run_transactAll_cons rest hr
      have hothers : ((service.transactAll rest).run ((service code data).run b).state).value ≠ none := by
        intro hnone
        rw [hserved, hnone] at hvalue
        exact hvalue rfl
      obtain ⟨hvalues, hstate⟩ := ih hothers
      obtain ⟨others, hothers⟩ := Option.ne_none_iff_exists'.mp hothers
      rw [hothers] at hvalues hserved
      rw [hserved, hleft, hstate, Turns.repliesTo, Turns.stateAfter, h code data b r hr]
      refine ⟨?_, rfl⟩
      rw [List.map_cons, ← Option.some.inj hvalues, result_ofResult]
      rfl

/-- Whatever the order of the steps, calls that are all done have come to what transactions on the connected object come to, one
after another in the order in which the calls took the lock. -/
theorem Site.run_transactAll_turns {τ : Type} {s : Site σ τ} {b : Nat} {service : Service σ} (hc : s.Connected b service)
    {answer : UInt32 × Json → σ → HostReply × σ} (hanswer : service.Handled answer) {steps : List (TurnStep (UInt32 × Json))}
    {t : Turns σ (UInt32 × Json) HostReply} (ht : t = (Turns.start s.backend).run answer steps)
    (hdone : ∀ c ∈ t.calls, ∃ reply, c.phase = .done reply) (hcarried : service.Carries s.backend t.served)
    (hvalue : ((service.transactAll t.served).run s.backend).value ≠ none) :
    ((Service.transactAll (Site.transact b) t.served).run s).value = some (t.received.map HostReply.result) ∧
      ((Service.transactAll (Site.transact b) t.served).run s).state.backend = t.service := by
  have hs : t.Sound answer s.backend := ht ▸ (Turns.sound_start s.backend).run steps
  obtain ⟨-, hserved, hreceived⟩ := hs.finished hdone
  obtain ⟨-, -, hstate⟩ := hs.conserves
  obtain ⟨hsite, hbackend, -⟩ := Site.run_transactAll_of_connected hc hcarried
  obtain ⟨hvalues, hleft⟩ := hanswer.run_transactAll hvalue
  rw [hsite, hbackend, hvalues, hleft, hreceived, ← hserved, hstate]
  exact ⟨rfl, rfl⟩

/-! ## The law -/

/-- The laws of the calls at one connection. -/
structure TurnsLaw (σ : Type) : Prop where
  /-- Calls and handler keep their order after any steps, whatever the requests, the answers and the service are. -/
  orderly : ∀ {ρ α : Type} (answer : ρ → σ → α × σ) (service : σ) (steps : List (TurnStep ρ)),
    ((Turns.start service).run answer steps).Orderly answer service
  /-- Calls on an object that is connected to a host, once they are all done, have come to what transactions come to that are made
  one after another, in the order in which the calls took the lock. -/
  connected : ∀ {τ : Type} (s : Site σ τ) (b : Nat) (service : Service σ) (answer : UInt32 × Json → σ → HostReply × σ)
    (steps : List (TurnStep (UInt32 × Json))) (t : Turns σ (UInt32 × Json) HostReply), s.Connected b service →
    service.Handled answer → t = (Turns.start s.backend).run answer steps → (∀ c ∈ t.calls, ∃ reply, c.phase = .done reply) →
    service.Carries s.backend t.served → ((service.transactAll t.served).run s.backend).value ≠ none →
    ((Service.transactAll (Site.transact b) t.served).run s).value = some (t.received.map HostReply.result) ∧
      ((Service.transactAll (Site.transact b) t.served).run s).state.backend = t.service

/-- The law of the calls at one connection, in every order of their steps. -/
theorem turns_law : TurnsLaw σ where
  orderly _ service steps := ((Turns.sound_start service).run steps).orderly
  connected _ _ _ _ _ _ hc hanswer ht hdone hcarried hvalue :=
    Site.run_transactAll_turns hc hanswer ht hdone hcarried hvalue

/-- Two calls of a counter: the second one asks first, and waits for the first one to take its reply. -/
example :
    let add (r s : Nat) : Nat × Nat := (r + s, r + s)
    let t := (Turns.start 0).run add [.arrive 5, .arrive 7, .call 1, .call 0, .call 1, .handler, .call 0, .handler, .handler,
      .call 0, .call 1, .call 1, .call 0, .call 0, .handler, .handler, .handler, .call 0, .call 0]
    t.calls = [⟨5, .done 12⟩, ⟨7, .done 7⟩] ∧ t.order = [1, 0] ∧ t.served = [7, 5] := by decide

end Switchboard
