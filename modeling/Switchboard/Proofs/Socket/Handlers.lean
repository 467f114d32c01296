import Switchboard.Proofs.Socket.Steps

/-!
# Handlers that leave their loops

A handler serves its connection until it meets a frame that is no request, or an answer that does not fit into a frame
(`left_serve`). It leaves its loop then, and nothing else: the host keeps its own end of the connection, so the connection
stays open, and a client that waits for an answer waits on.

`handler_law` says of every run when such a connection is closed: when its host is shut down, or accepts another connection
(`Network.Left`); and what the client that waits on it comes to meanwhile. A client may wait forever
(`client_left_waiting`).
-/

namespace Switchboard

variable {σ ρ : Type}

/-! ## What a step does to the connections -/

/-- A handler that is stuck does not leave its loop when its connection is closed. -/
theorem Connection.not_stuck_of_close {k : Connection} (hended : k.close.handler = .ended) : k.handler ≠ .stuck := by
  intro hstuck
  rw [Connection.close, hstuck] at hended
  cases hended

namespace Network

variable {n n' : Network σ ρ} {c h : Nat}

/-- What one step does: the connections are left alone, or one is accepted, or one is used, or those of a host are closed. -/
inductive Change (n : Network σ ρ) : Network σ ρ → Prop where
  | quiet (made : Bool) (files : List (String × FileEntry)) (added : List (Host σ)) (objects : List (SocketObject ρ)) :
      Change n { n with made, files, hosts := n.hosts ++ added, objects }
  | accepted (h : Nat) (objects : List (SocketObject ρ)) : Change n { (n.accept h).2 with objects }
  | used {n' : Network σ ρ} (h : n.UsesObject n') : Change n n'
  | ended (h : Nat) (files : List (String × FileEntry)) :
      Change n { n.closeAll (·.isOf h) with
        hosts := n.hosts.modify h fun host => { host with running := false }, files }

/-- A step that leaves the hosts alone too. -/
theorem Change.tidy (made : Bool) (files : List (String × FileEntry)) (objects : List (SocketObject ρ)) :
    n.Change { n with made, files, objects } := by
  have h := quiet (n := n) made files [] objects
  rwa [List.append_nil] at h

theorem Change.refl : n.Change n :=
  .used (.inl rfl)

/-- To accept is a change. -/
theorem Change.of_accepts (h : n.Accepts n') : n.Change n' := by
  rcases h with rfl | ⟨g, objects, rfl⟩
  · exact .refl
  · exact .accepted g objects

/-- A handler that is out of its loop after a step was so before, or left it by the step; that closes the connection only with
the host. -/
theorem Change.of_ended (hn : n.Sound) (hchange : n.Change n') {k' : Connection} (hk' : n'.connections[c]? = some k')
    (hended : k'.handler = .ended) :
    ∃ k, n.connections[c]? = some k ∧ (k.handler = .ended ∨ k.handler = .serving ∧
      ∀ h, k.server = .host h → (k'.closed = true ↔ n'.isRunning h = false)) := by
  cases hchange with
  | quiet made files added objects => exact ⟨k', hk', .inl hended⟩
  | accepted g objects =>
    rcases Nat.lt_or_ge c n.connections.length with hc | hc
    · have hk := List.getElem?_eq_getElem hc
      change (n.accept g).2.connections[c]? = some k' at hk'
      rw [getElem?_accept_of_lt hc, hk, Option.map_some] at hk'
      obtain rfl := Option.some.inj hk'
      refine ⟨_, hk, .inl ?_⟩
      split at hended
      · rename_i hreaped
        simp only [Bool.and_eq_true, beq_iff_eq] at hreaped
        exact hreaped.2
      · exact hended
    · -- a new connection is served
      change (n.accept g).2.connections[c]? = some k' at hk'
      have hlt := (List.getElem?_eq_some_iff.mp hk').1
      rw [length_accept] at hlt
      obtain rfl : c = n.connections.length := by omega
      rw [getElem?_accept_new] at hk'
      obtain rfl := Option.some.inj hk'
      cases hended
  | used huses =>
    rcases huses with rfl | ⟨o, -, -, f, hf, rfl⟩
    · exact ⟨k', hk', .inl hended⟩
    · by_cases hc : o.connection = c
      · subst hc
        rw [getElem?_updateConnection_self] at hk'
        obtain ⟨k, hk, rfl⟩ := Option.map_eq_some_iff.mp hk'
        refine ⟨k, hk, ?_⟩
        have hused := hf k hk
        by_cases hserving : k.handler = .serving
        · have hopen := hn.open_of_serving hk hserving
          refine .inr ⟨hserving, fun h hserver => ?_⟩
          have hrunning : (n.updateConnection o.connection f).isRunning h = true := hn.isRunning_of_open hk hserver hopen
          rw [hused.closed, hopen, hrunning]
          simp
        · exact .inl ((hused.handler hserving).symm.trans hended)
      · rw [getElem?_updateConnection_ne f hc] at hk'
        exact ⟨k', hk', .inl hended⟩
  | ended g files =>
    change (n.closeAll (·.isOf g)).connections[c]? = some k' at hk'
    rw [getElem?_closeAll] at hk'
    obtain ⟨k, hk, rfl⟩ := Option.map_eq_some_iff.mp hk'
    refine ⟨k, hk, ?_⟩
    by_cases hof : k.isOf g = true
    · simp only [hof, if_true] at hended ⊢
      have hstuck := Connection.not_stuck_of_close hended
      cases hhandler : k.handler with
      | ended => exact .inl rfl
      | stuck => exact absurd hhandler hstuck
      | serving =>
        refine .inr ⟨rfl, fun h hserver => ?_⟩
        obtain rfl := (isOf_iff_of_server hserver).mp hof
        exact iff_of_true rfl ((isRunning_shutdown h).trans (by simp))
    · rw [if_neg hof] at hended
      exact .inl hended

end Network

namespace Site

variable {s : Site σ ρ} {c : Nat}

/-- A publication is one. -/
theorem change_publish (name : String) (service : Service σ) :
    s.network.Change ((publish name service).run s).state.network := by
  have hkeeps : ∃ made files added, ((publish name service).run s).state.network =
      { s.network with made, files, hosts := s.network.hosts ++ added } := by
    refine keeps_publish
      (P := fun m => ∃ made files added, m = { s.network with made, files, hosts := s.network.hosts ++ added })
      ?_ ?_ name service s ⟨s.network.made, s.network.files, [], by simp⟩
    · rintro m made files ⟨-, -, added, rfl⟩
      exact ⟨made, files, added, rfl⟩
    · rintro m host ⟨made, files, added, rfl⟩
      exact ⟨made, files, added ++ [host], by simp⟩
  obtain ⟨made, files, added, heq⟩ := hkeeps
  rw [heq]
  exact .quiet made files added s.network.objects

/-- A shutdown is one. -/
theorem change_shutdown (hn : s.network.Sound) (h : Nat) :
    s.network.Change ((shutdown h).run s).state.network := by
  rcases shutdown_cases hn h with hsame | ⟨g, -, haccept⟩ | ⟨files, hended⟩
  · rw [hsame]
    exact .refl
  · rw [haccept]
    exact .accepted g s.network.objects
  · rw [hended]
    exact .ended h files

/-- A lookup is one. -/
theorem change_lookup (hn : s.network.Sound) (name : String) :
    s.network.Change ((lookup name).run s).state.network :=
  .of_accepts (accepts_lookup hn name)

/-- A link is one. -/
theorem change_link (hn : s.network.Sound) (b : Nat) (r : ρ) : s.network.Change ((link b r).run s).state.network :=
  .of_accepts (accepts_link hn b r)

/-- Putting something into the directory is one. -/
theorem change_obstruct (name : String) (e : FileEntry) : s.network.Change (s.network.obstruct name e).2 := by
  unfold Network.obstruct
  simp only
  split
  · split
    · exact .tidy true _ s.network.objects
    · exact .tidy true _ s.network.objects
  · exact .tidy true _ s.network.objects

/-- Every step is. -/
theorem change_act (hn : s.network.Sound) (a : SiteStep σ ρ) : s.network.Change (a.act.run s).state.network := by
  cases a with
  | publish name service => simpa [SiteStep.act] using change_publish name service
  | shutdown h => exact change_shutdown hn h
  | lookup name => simpa [SiteStep.act] using change_lookup hn name
  | link b r => simpa [SiteStep.act] using change_link hn b r
  | transact b code data => simpa [SiteStep.act] using Network.Change.used (usesObject_transact hn b code data)
  | write b bytes => exact .used (usesObject_write hn b bytes)
  | read b => exact .used (usesObject_read hn b)
  | watch => exact .tidy s.network.made s.network.files _
  | drop b => exact .tidy s.network.made s.network.files _
  | obstruct name directory => exact change_obstruct name _
  | remove name => exact .tidy s.network.made _ s.network.objects
  | elsewhere f => exact .refl

/-- A handler that is out of its loop after some steps was so before them, or left it by one of them. -/
theorem exists_leaving (hn : s.network.Sound) (steps : List (SiteStep σ ρ)) {k : Connection}
    (hk : (s.after steps).network.connections[c]? = some k) (hended : k.handler = .ended) :
    (∃ k₀, s.network.connections[c]? = some k₀ ∧ k₀.handler = .ended) ∨
      ∃ early a late k₀ k₁, steps = early ++ a :: late ∧ (s.after early).network.connections[c]? = some k₀ ∧
        k₀.handler = .serving ∧ (s.after (early ++ [a])).network.connections[c]? = some k₁ ∧ k₁.handler = .ended ∧
        ∀ h, k₀.server = .host h → (k₁.closed = true ↔ (s.after (early ++ [a])).network.isRunning h = false) := by
  induction steps generalizing s with
  | nil => exact .inl ⟨k, hk, hended⟩
  | cons a steps ih =>
    rcases ih (hn.moves (moves_act hn a)) hk with ⟨k₁, hk₁, hended₁⟩ | ⟨early, a', late, k₀, k₁, rfl, hleaving⟩
    · obtain ⟨k₀, hk₀, hbefore | ⟨hserving, hclosed⟩⟩ := (change_act hn a).of_ended hn hk₁ hended₁
      · exact .inl ⟨k₀, hk₀, hbefore⟩
      · exact .inr ⟨[], a, steps, k₀, k₁, rfl, hk₀, hserving, hk₁, hended₁, hclosed⟩
    · exact .inr ⟨a :: early, a', late, k₀, k₁, rfl, hleaving⟩

end Site

/-! ## How long the connection stays open -/

namespace Network

variable {n n' : Network σ ρ} {c h count : Nat}

/-- The handler of a connection of a host left its loop, and the connection is closed if and only if the host was shut down or
has accepted a connection after the first few ones. -/
structure Left (n : Network σ ρ) (c h count : Nat) : Prop where
  count_le : count ≤ n.connections.length
  closed_iff : ∃ k, n.connections[c]? = some k ∧ k.server = .host h ∧ k.handler = .ended ∧
    (k.closed = true ↔ n.isRunning h = false ∨ ∃ c', count ≤ c' ∧ n.hostOf c' = some h)

/-- When a handler leaves its loop no connection is newer. -/
theorem left_of_ended {k : Connection} (hk : n.connections[c]? = some k) (hserver : k.server = .host h)
    (hended : k.handler = .ended) (hclosed : k.closed = true ↔ n.isRunning h = false) :
    n.Left c h n.connections.length := by
  refine ⟨Nat.le_refl _, k, hk, hserver, hended, hclosed.trans (or_iff_left ?_).symm⟩
  rintro ⟨c', hc', hhost⟩
  obtain ⟨k', hk', -⟩ := hostOf_eq_some_iff.mp hhost
  exact absurd (List.getElem?_eq_some_iff.mp hk').1 (Nat.not_lt.mpr hc')

/-- A connection that its handler has left is left after every move. -/
theorem Left.move (hn : n.Sound) (hleft : n.Left c h count) (hm : n.Move n') : n'.Left c h count := by
  obtain ⟨hcount, k, hk, hserver, hended, hclosed⟩ := hleft
  have hlt := (List.getElem?_eq_some_iff.mp hk).1
  cases hm with
  | tidy made files => exact ⟨hcount, k, hk, hserver, hended, hclosed⟩
  | arrange objects fits kept => exact ⟨hcount, k, hk, hserver, hended, hclosed⟩
  | publish host =>
    obtain ⟨g, host', hserver', hg, -, -⟩ := hn.served c k hk
    obtain rfl : h = g := Server.host.inj (hserver.symm.trans hserver')
    refine ⟨hcount, k, hk, hserver, hended, ?_⟩
    rw [isRunning_of_host (getElem?_hosts_of_lt hg), ← isRunning_of_host hg]
    exact hclosed
  | accept g running =>
    refine ⟨by rw [length_accept]; omega, ?_⟩
    by_cases hg : g = h
    · subst hg
      refine ⟨k.close, ?_, hserver, ?_, iff_of_true rfl (.inr ⟨n.connections.length, hcount, ?_⟩)⟩
      · rw [getElem?_accept_of_lt hlt, hk, Option.map_some, if_pos]
        simp [isOf_iff_of_server hserver, hended]
      · rw [Connection.close, hended]
        rfl
      · rw [hostOf_accept, if_pos rfl]
    · have hnot : ¬(k.isOf g && k.handler == .ended) = true := by
        simp [isOf_iff_of_server hserver, Ne.symm hg]
      refine ⟨k, ?_, hserver, hended, hclosed.trans (or_congr Iff.rfl (exists_congr fun c' => and_congr_right fun _ => ?_))⟩
      · rw [getElem?_accept_of_lt hlt, hk, Option.map_some, if_neg hnot]
      · rw [hostOf_accept]
        split
        · rename_i hc'
          subst hc'
          have hnone : n.hostOf n.connections.length = none := by simp [Network.hostOf]
          simp [hnone, hg]
        · exact Iff.rfl
  | use c' f used apart =>
    refine ⟨by simpa [updateConnection] using hcount, ?_⟩
    simp only [hostOf_updateConnection used]
    by_cases hc : c' = c
    · subst hc
      have hused := used k hk
      refine ⟨f k, ?_, hused.server.trans hserver, ?_, ?_⟩
      · rw [getElem?_updateConnection_self, hk, Option.map_some]
      · rw [hused.handler (by simp [hended]), hended]
      · rw [hused.closed]
        exact hclosed
    · exact ⟨k, (getElem?_updateConnection_ne f hc).trans hk, hserver, hended, hclosed⟩
  | shutdown g =>
    refine ⟨by simpa [closeAll] using hcount, ?_⟩
    simp only [isRunning_shutdown]
    by_cases hg : g = h
    · subst hg
      refine ⟨k.close, ?_, hserver, ?_, iff_of_true rfl (.inl (by simp))⟩
      · rw [getElem?_closeAll, hk, Option.map_some, if_pos ((isOf_iff_of_server hserver).mpr rfl)]
      · rw [Connection.close, hended]
        rfl
    · refine ⟨k, ?_, hserver, hended, hclosed.trans (or_congr (by simp [hg]) (exists_congr fun c' => ?_))⟩
      · rw [getElem?_closeAll, hk, Option.map_some, if_neg (mt (isOf_iff_of_server hserver).mp (Ne.symm hg))]
      · exact and_congr_right fun _ => by rw [← hostOf_closeAll (·.isOf g) c']; rfl

/-- So it is after any moves. -/
theorem Left.moves (hn : n.Sound) (hleft : n.Left c h count) (hm : n.Moves n') : n'.Left c h count := by
  induction hm with
  | none => exact hleft
  | more hmoves hmove ih => exact ih.move (hn.moves hmoves) hmove

end Network

/-! ## What a client waits for -/

namespace Network

variable {n n' : Network σ ρ} {c : Nat}

/-- No whole answer is there on a connection that is not served. -/
def Unanswered (n : Network σ ρ) (c : Nat) : Prop :=
  ∃ k, n.connections[c]? = some k ∧ k.handler ≠ .serving ∧ Frame.next k.arrived = .incomplete

/-- A connection without an answer gets none by a move. -/
theorem Unanswered.move (h : n.Unanswered c) (hm : n.Move n') : n'.Unanswered c := by
  obtain ⟨k, hk, hidle, hnext⟩ := h
  obtain ⟨k', hk', rfl | rfl | hused⟩ := hm.connection hk
  · exact ⟨_, hk', hidle, hnext⟩
  · exact ⟨_, hk', close_ne_serving k, hnext⟩
  · refine ⟨k', hk', ?_, ?_⟩
    · rw [hused.handler hidle]
      exact hidle
    · rw [hused.arrived hidle hnext]
      exact hnext

/-- So it gets none by any moves. -/
theorem Unanswered.moves (h : n.Unanswered c) (hm : n.Moves n') : n'.Unanswered c := by
  induction hm with
  | none => exact h
  | more _ hmove ih => exact ih.move hmove

end Network

/-- Nothing is received as long as no frame is whole. -/
theorem Frame.receive?_eq_none_iff {α : Type} [Parcel α] {stream : List UInt8} :
    (Frame.receive? stream : Option (Except TubeError α × List UInt8)) = none ↔ Frame.next stream = .incomplete := by
  unfold Frame.receive?
  cases Frame.next stream <;> simp

namespace Site

variable {s : Site σ ρ} {b c : Nat}

/-- What a transaction does when it waits for the answer. -/
def awaitAnswer (c : Nat) : Act (Site σ ρ) (Except ServiceError Json) := do
  match ← receive c with
  | .error e => pure (.error e.toService)
  | .ok reply => pure reply.result

/-- What a transaction does after it tried to send its request. -/
def proceed (c : Nat) : Except TubeError Unit → Act (Site σ ρ) (Except ServiceError Json)
  | .error e => pure (.error e.toService)
  | .ok () => awaitAnswer c

@[simp] theorem proceed_ok (sent : Unit) : (proceed c (.ok sent) : Act (Site σ ρ) _) = awaitAnswer c := rfl

/-- A transaction sends its request and waits for the answer. -/
theorem run_transact {o : SocketObject ρ} (ho : s.network.objects[b]? = some o) (halive : o.alive = true) (code : UInt32)
    (data : Json) :
    (transact b code data).run s = (send o.connection (.transact code data) >>= proceed o.connection).run s := by
  have hproceed : (transact b code data).run s = (exchange o.connection (.transact code data) >>= fun answer =>
      pure (answer.bind (·.result))).run s := by
    rw [transact, Act.run_bind]
    simp only [Act.run_get, ho, halive, Bool.not_true, Bool.false_eq_true, if_false]
    refine congrArg (fun f => (exchange o.connection (.transact code data) >>= f).run s) (funext fun answer => ?_)
    cases answer <;> rfl
  rw [hproceed, exchange, bind_assoc]
  refine congrArg (fun f => (send o.connection (.transact code data) >>= f).run s) (funext fun sent => ?_)
  cases sent with
  | error e => exact pure_bind _ _
  | ok sent =>
    rw [bind_assoc, proceed, awaitAnswer]
    refine congrArg (receive o.connection >>= ·) (funext fun received => ?_)
    cases received <;> exact pure_bind _ _

/-- Where no whole answer is there, a transaction waits forever, unless the connection is closed. -/
theorem run_awaitAnswer {k : Connection} (hk : s.network.connections[c]? = some k)
    (hnext : Frame.next k.arrived = .incomplete) :
    (awaitAnswer c).run s = ⟨if k.closed then some (.error .deadObject) else none, s, []⟩ := by
  rw [awaitAnswer, Act.run_bind, run_receive_of_incomplete hk (Frame.receive?_eq_none_iff.mpr hnext)]
  cases k.closed with
  | false => rfl
  | true => rfl

/-- It waits nowhere else. -/
theorem waiting_of_awaitAnswer (h : ((awaitAnswer c).run s).value = none) :
    ∃ k, s.network.connections[c]? = some k ∧ k.closed = false ∧ Frame.next k.arrived = .incomplete ∧
      ((awaitAnswer c).run s).state = s := by
  rw [awaitAnswer, Act.run_bind] at h
  cases hk : s.network.connections[c]? with
  | none =>
    have hrun : (receive c).run s = ⟨some (.error .disconnected), s, []⟩ := by simp [receive, Act.run_bind, hk]
    rw [hrun] at h
    cases h
  | some k =>
    cases hr : (Frame.receive? k.arrived : Option (Except TubeError HostReply × List UInt8)) with
    | some received =>
      rw [run_receive hk hr] at h
      cases hresult : received.1 <;> simp [hresult] at h
    | none =>
      have hnext := Frame.receive?_eq_none_iff.mp hr
      have hrun := run_awaitAnswer hk hnext
      refine ⟨k, rfl, ?_, hnext, by rw [hrun]⟩
      rw [run_receive_of_incomplete hk hr] at h
      cases hclosed : k.closed with
      | false => rfl
      | true =>
        rw [hclosed] at h
        cases h

/-- A handler holds nobody up. -/
theorem value_attend : ((attend c : Act (Site σ ρ) Unit).run s).value = some () := by
  rw [attend, Act.run_bind]
  simp only [Act.run_get]
  split
  · rfl
  · split
    · rfl
    · split
      · rfl
      · split
        · rfl
        · rfl

/-- Nor does a client wait while it sends. -/
theorem value_send (request : HostRequest) : ((send c request : Act (Site σ ρ) _).run s).value ≠ none := by
  unfold send
  split
  · simp
  · rw [write, Act.run_bind]
    simp only [Act.run_get]
    split
    · simp
    · rw [Act.run_bind_of_value rfl, Act.run_bind_of_value value_attend]
      simp

/-- A transaction that waits forever has an open connection on which no whole answer is. -/
theorem waiting_of_transact {o : SocketObject ρ} (ho : s.network.objects[b]? = some o) {code : UInt32} {data : Json}
    (h : ((transact b code data).run s).value = none) :
    ∃ k, ((transact b code data).run s).state.network.connections[o.connection]? = some k ∧ k.closed = false ∧
      Frame.next k.arrived = .incomplete := by
  cases halive : o.alive with
  | false =>
    have hrun : (transact b code data).run s = ⟨some (.error .deadObject), s, []⟩ := by
      simp [transact, Act.run_bind, ho, halive]
    rw [hrun] at h
    cases h
  | true =>
    rw [run_transact ho halive, Act.run_bind] at h ⊢
    cases hsend : ((send o.connection (.transact code data)).run s).value with
    | none => exact absurd hsend (value_send _)
    | some sent =>
      cases sent with
      | error e =>
        rw [hsend] at h
        cases h
      | ok sent =>
        simp only [hsend, proceed_ok] at h ⊢
        obtain ⟨k, hk, hopen, hnext, hstate⟩ := waiting_of_awaitAnswer h
        rw [hstate]
        exact ⟨k, hk, hopen, hnext⟩

/-- Bytes can be written on an open connection. -/
theorem value_write_of_open {k : Connection} (hk : s.network.connections[c]? = some k) (hopen : k.closed = false)
    (bytes : List UInt8) : ((write c bytes).run s).value = some (.ok ()) := by
  rw [write, Act.run_bind]
  simp only [Act.run_get, hk, Option.all_some, hopen, Bool.false_eq_true, if_false]
  rw [Act.run_bind_of_value rfl, Act.run_bind_of_value value_attend]
  rfl

/-- On a closed connection nothing is sent. -/
theorem transact_of_closed {o : SocketObject ρ} {k : Connection} {code : UInt32} {data : Json} {frame : List UInt8}
    (ho : s.network.objects[b]? = some o) (hk : s.network.connections[o.connection]? = some k) (hclosed : k.closed = true)
    (hframe : Frame.encode (Parcel.toText (HostRequest.transact code data)) = .ok frame) :
    (transact b code data).run s = ⟨some (.error .deadObject), s, []⟩ := by
  cases halive : o.alive with
  | false => simp [transact, Act.run_bind, ho, halive]
  | true =>
    have hsend : (send o.connection (.transact code data)).run s = ⟨some (.error .disconnected), s, []⟩ := by
      unfold send
      rw [hframe]
      simp [write, Act.run_bind, hk, hclosed]
    rw [run_transact ho halive, Act.run_bind, hsend]
    rfl

/-- A transaction waits forever if and only if its connection is open and its request brings no whole answer. -/
theorem transact_waits_iff (hn : s.network.Sound) {o : SocketObject ρ} {k : Connection} {code : UInt32} {data : Json}
    {frame : List UInt8} (ho : s.network.objects[b]? = some o) (halive : o.alive = true)
    (hk : s.network.connections[o.connection]? = some k)
    (hframe : Frame.encode (Parcel.toText (HostRequest.transact code data)) = .ok frame) :
    ((transact b code data).run s).value = none ↔ k.closed = false ∧
      ∃ k', ((write o.connection frame).run s).state.network.connections[o.connection]? = some k' ∧
        Frame.next k'.arrived = .incomplete := by
  cases hclosed : k.closed with
  | true =>
    rw [transact_of_closed ho hk hclosed hframe]
    simp
  | false =>
    have hwritten := value_write_of_open hk hclosed frame
    have hrun : ((transact b code data).run s).value =
        ((awaitAnswer o.connection).run ((write o.connection frame).run s).state).value := by
      rw [run_transact ho halive, Act.run_bind, send, hframe]
      simp only [hwritten, proceed_ok]
    rw [hrun]
    constructor
    · intro hwaits
      obtain ⟨k', hk', -, hnext, -⟩ := waiting_of_awaitAnswer hwaits
      exact ⟨rfl, k', hk', hnext⟩
    · rintro ⟨-, k', hk', hnext⟩
      -- writing does not close the connection
      obtain ⟨-, f, hf, heq⟩ := keeps_write (n := s.network) frame s (.refl fun k => hn.host_of_connection)
      have hstate : (s.network.updateConnection o.connection f).connections[o.connection]? = some k' := by
        rw [← heq]
        exact hk'
      rw [Network.getElem?_updateConnection_self, hk, Option.map_some] at hstate
      have hopen : k'.closed = false := by
        rw [← Option.some.inj hstate, (hf k hk).closed]
        exact hclosed
      rw [run_awaitAnswer hk' hnext, hopen]
      rfl

/-- On an open connection that is not served, and on which no whole answer is, a request is sent and not answered. -/
theorem transact_of_idle {o : SocketObject ρ} {k : Connection} {code : UInt32} {data : Json} {frame : List UInt8}
    (ho : s.network.objects[b]? = some o) (halive : o.alive = true) (hk : s.network.connections[o.connection]? = some k)
    (hopen : k.closed = false) (hidle : k.handler ≠ .serving) (hnext : Frame.next k.arrived = .incomplete)
    (hframe : Frame.encode (Parcel.toText (HostRequest.transact code data)) = .ok frame) :
    (transact b code data).run s =
      ⟨none, { s with network := s.network.updateConnection o.connection fun k => { k with pending := k.pending ++ frame } },
        []⟩ := by
  let asked (k : Connection) : Connection := { k with pending := k.pending ++ frame }
  have hasked : (s.network.updateConnection o.connection asked).connections[o.connection]? = some (asked k) := by
    rw [Network.getElem?_updateConnection_self, hk, Option.map_some]
  have hattend := run_attend_of_idle (s := ⟨s.backend, s.network.updateConnection o.connection asked⟩) hasked hidle
  have hsend : (send o.connection (.transact code data)).run s =
      ⟨some (.ok ()), ⟨s.backend, s.network.updateConnection o.connection asked⟩, []⟩ := by
    unfold send
    rw [hframe]
    exact run_write hk hopen hattend
  have hwait := run_awaitAnswer (s := ⟨s.backend, s.network.updateConnection o.connection asked⟩) hasked hnext
  rw [show (asked k).closed = false from hopen] at hwait
  rw [run_transact ho halive, Act.run_bind, hsend]
  simp only [proceed_ok, hwait]
  rfl

/-- What a handler makes of bytes that are written on its connection. -/
theorem connection_write {k : Connection} {h : Nat} {host : Host σ} (bytes : List UInt8)
    (hk : s.network.connections[c]? = some k) (hopen : k.closed = false) (hserving : k.handler = .serving)
    (hserver : k.server = .host h) (hh : s.network.hosts[h]? = some host) :
    ((write c bytes).run s).state.network.connections[c]? =
      some (({ k with pending := k.pending ++ bytes } : Connection).attended
        ((serve host.service (k.pending ++ bytes)).run s.backend).value) := by
  rw [run_write_of_serving bytes hk hopen hserving hserver hh, Network.getElem?_updateConnection_self, hk, Option.map_some]

end Site

/-! ## The law -/

/-- What comes of the connections whose handlers leave their loops, after some steps that lead to a site. -/
structure HandlerLaw (start : Site σ ρ) (steps : List (SiteStep σ ρ)) (s : Site σ ρ) : Prop where
  /-- A handler leaves its loop when it meets a frame that is no request or an answer that does not fit into a frame; its
  connection stays open. -/
  leaves : ∀ (c : Nat) (k : Connection) (bytes : List UInt8), s.network.connections[c]? = some k → k.handler = .serving →
    ∃ h host k', k.server = .host h ∧ s.network.hosts[h]? = some host ∧
      ((Site.write c bytes).run s).state.network.connections[c]? = some k' ∧ k'.closed = false ∧
      match ((serve host.service (k.pending ++ bytes)).run s.backend).value with
      | none => k'.handler = .stuck
      | some served => k'.handler = .ended ↔ (∃ e, (HostRequest.scan (k.pending ++ bytes)).2 = .refused e) ∨
          served.answers.length < (HostRequest.scan (k.pending ++ bytes)).1.length
  /-- A handler that is out of its loop left it by one of the steps, and its connection is closed if and only if the host was shut
  down or has accepted another connection since. -/
  left : ∀ (c : Nat) (k : Connection), s.network.connections[c]? = some k → k.handler = .ended →
    ∃ early a late k₀ k₁ h, steps = early ++ a :: late ∧ k.server = .host h ∧
      (start.after early).network.connections[c]? = some k₀ ∧ k₀.handler = .serving ∧
      (start.after (early ++ [a])).network.connections[c]? = some k₁ ∧ k₁.handler = .ended ∧
      (k.closed = true ↔ s.network.isRunning h = false ∨
        ∃ c', (start.after (early ++ [a])).network.connections.length ≤ c' ∧ s.network.hostOf c' = some h)
  /-- A transaction on a closed connection fails at once. -/
  refused : ∀ (b : Nat) (o : SocketObject ρ) (k : Connection) (code : UInt32) (data : Json) (frame : List UInt8),
    s.network.objects[b]? = some o → s.network.connections[o.connection]? = some k → k.closed = true →
    Frame.encode (Parcel.toText (HostRequest.transact code data)) = .ok frame →
    (Site.transact b code data).run s = ⟨some (.error .deadObject), s, []⟩
  /-- A transaction on an open one waits if and only if there is no whole answer once its request was written. -/
  waits : ∀ (b : Nat) (o : SocketObject ρ) (k : Connection) (code : UInt32) (data : Json) (frame : List UInt8),
    s.network.objects[b]? = some o → o.alive = true → s.network.connections[o.connection]? = some k →
    Frame.encode (Parcel.toText (HostRequest.transact code data)) = .ok frame →
    (((Site.transact b code data).run s).value = none ↔ k.closed = false ∧
      ∃ k', ((Site.write o.connection frame).run s).state.network.connections[o.connection]? = some k' ∧
        Frame.next k'.arrived = .incomplete)
  /-- A transaction that waits on a handler which is out of its loop fails if and only if, after whatever steps, the host was shut
  down or has accepted another connection; it waits on otherwise. -/
  stranded : ∀ (b : Nat) (o : SocketObject ρ) (code : UInt32) (data : Json), s.network.objects[b]? = some o →
    ((Site.transact b code data).run s).value = none →
    (∃ k, ((Site.transact b code data).run s).state.network.connections[o.connection]? = some k ∧ k.handler = .ended) →
    ∃ h, ((Site.transact b code data).run s).state.network.hostOf o.connection = some h ∧
      ∀ later t, t = ((Site.transact b code data).run s).state.after later →
        (((Site.awaitAnswer o.connection).run t).value = some (.error .deadObject) ↔ t.network.isRunning h = false ∨
          ∃ c', ((Site.transact b code data).run s).state.network.connections.length ≤ c' ∧
            t.network.hostOf c' = some h) ∧
        (((Site.awaitAnswer o.connection).run t).value = some (.error .deadObject) ∨
          ((Site.awaitAnswer o.connection).run t).value = none)

/-- The law of handlers, after any steps of anybody. -/
theorem handler_law (backend : σ) (dir : String) (steps : List (SiteStep σ ρ)) :
    HandlerLaw (Site.new backend dir) steps ((Site.new backend dir).after steps) := by
  have hstart : (Site.new backend dir : Site σ ρ).network.Sound := Network.sound_new dir
  have hn := Site.sound_after (ρ := ρ) backend dir steps
  constructor
  case leaves =>
    intro c k bytes hk hserving
    obtain ⟨h, host, hserver, hh, -, -⟩ := hn.served c k hk
    have hopen := hn.open_of_serving hk hserving
    have hwritten := Site.connection_write bytes hk hopen hserving hserver hh
    refine ⟨h, host, _, hserver, hh, hwritten, ?_⟩
    cases hserved : ((serve host.service (k.pending ++ bytes)).run ((Site.new backend dir).after steps).backend).value with
    | none => exact ⟨hopen, rfl⟩
    | some served =>
      refine ⟨hopen, Iff.trans ?_ (left_serve hserved)⟩
      simp only [Connection.attended]
      cases served.left with
      | none => exact iff_of_true rfl rfl
      | some rest => exact iff_of_false (by simp) (by simp)
  case left =>
    intro c k hk hended
    rcases Site.exists_leaving hstart steps hk hended with
      ⟨k₀, hk₀, -⟩ | ⟨early, a, late, k₀, k₁, rfl, hk₀, hserving, hk₁, hended₁, hclosed⟩
    · cases hk₀
    · have hbefore := hstart.moves (Site.moves_after hstart early)
      have hafter := hstart.moves (Site.moves_after hstart (early ++ [a]))
      obtain ⟨h, hserver₀⟩ := hbefore.host_of_connection hk₀
      have hstep : (Site.new backend dir).after (early ++ [a]) = (a.act.run ((Site.new backend dir).after early)).state :=
        Site.after_append _ early [a]
      have hhost₀ : ((Site.new backend dir).after early).network.hostOf c = some h :=
        Network.hostOf_eq_some_iff.mpr ⟨k₀, hk₀, hserver₀⟩
      have hhost₁ : ((Site.new backend dir).after (early ++ [a])).network.hostOf c = some h := by
        rw [hstep]
        exact (Site.moves_act hbefore a).hostOf hhost₀
      have hserver₁ := Network.server_of_hostOf hhost₁ hk₁
      have hleft := Network.left_of_ended hk₁ hserver₁ hended₁ (hclosed h hserver₀)
      have hsplit : (Site.new backend dir : Site σ ρ).after (early ++ a :: late) =
          ((Site.new backend dir).after (early ++ [a])).after late := by
        rw [← Site.after_append, List.append_assoc]
        rfl
      rw [hsplit] at hk ⊢
      obtain ⟨-, k', hk', hserver, -, hiff⟩ := hleft.moves hafter (Site.moves_after hafter late)
      obtain rfl := Option.some.inj (hk'.symm.trans hk)
      exact ⟨early, a, late, k₀, k₁, h, rfl, hserver, hk₀, hserving, hk₁, hended₁, hiff⟩
  case refused => exact fun b o k code data frame ho hk hclosed hframe => Site.transact_of_closed ho hk hclosed hframe
  case waits => exact fun b o k code data frame ho halive hk hframe => Site.transact_waits_iff hn ho halive hk hframe
  case stranded =>
    rintro b o code data ho hwaits ⟨k, hk, hended⟩
    obtain ⟨k', hk', hopen, hnext⟩ := Site.waiting_of_transact ho hwaits
    obtain rfl := Option.some.inj (hk'.symm.trans hk)
    have hsound := hn.moves ((Site.usesObject_transact hn b code data).moves hn)
    obtain ⟨h, hserver⟩ := hsound.host_of_connection hk
    have hrunning := hsound.isRunning_of_open hk hserver hopen
    have hleft := Network.left_of_ended hk hserver hended (by rw [hopen, hrunning]; simp)
    refine ⟨h, Network.hostOf_eq_some_iff.mpr ⟨_, hk, hserver⟩, ?_⟩
    rintro later t rfl
    have hmoves := Site.moves_after hsound later
    obtain ⟨-, k₁, hk₁, -, -, hiff⟩ := hleft.moves hsound hmoves
    -- nobody answers any more
    have hunanswered : Network.Unanswered _ o.connection := ⟨_, hk, by simp [hended], hnext⟩
    obtain ⟨k₂, hk₂, -, hnext₂⟩ := hunanswered.moves hmoves
    obtain rfl := Option.some.inj (hk₁.symm.trans hk₂)
    rw [Site.run_awaitAnswer hk₁ hnext₂, ← hiff]
    cases k₁.closed with
    | false => exact ⟨iff_of_false (by simp) (by simp), .inr rfl⟩
    | true => exact ⟨iff_of_true rfl rfl, .inl rfl⟩

/-! ### A client that waits for nothing -/

namespace Stranded

open OneService

/-- The client writes a header that announces an empty text. -/
def refused : Site Unit Unit :=
  found.after [.write 0 [0, 0, 0, 0]]

/-- The site after the refused frame, in one piece. -/
theorem refused_eq : refused =
    ⟨(), "d", true, [("a", .socket (.host 0))], [⟨"a", Service.echo, true⟩], [],
      [{ Connection.fresh (.host 0) with handler := .ended }], [⟨"a", 0, true, []⟩]⟩ := by
  have hk : (found : Site Unit Unit).network.connections[0]? = some (.fresh (.host 0)) := by
    rw [found_eq]
    rfl
  have hh : (found : Site Unit Unit).network.hosts[0]? = some ⟨"a", Service.echo, true⟩ := by
    rw [found_eq]
    rfl
  have ho : (found : Site Unit Unit).network.objects[0]? = some ⟨"a", 0, true, []⟩ := by
    rw [found_eq]
    rfl
  have hnext : Frame.next ((Connection.fresh (.host 0)).pending ++ [0, 0, 0, 0]) = .refused .emptyBody [] := by cbv
  have hrun : refused = (((SiteStep.write 0 [0, 0, 0, 0]).act : Act (Site Unit Unit) Unit).run found).state := rfl
  rw [hrun, SiteStep.act, Site.onObject, Act.run_bind]
  simp only [Act.run_get, ho, Act.run_map]
  rw [Site.run_write_of_serving [0, 0, 0, 0] hk rfl rfl rfl hh, run_serve_of_refused _ hnext, found_eq]
  rfl

end Stranded

open Stranded

/-- The handler of the connection has met a frame that is no request and is out of its loop; the connection is open, and the next
transaction on it waits forever. -/
theorem client_left_waiting :
    (∃ k, refused.network.connections[0]? = some k ∧ k.handler = .ended ∧ k.closed = false) ∧
      ((Site.transact 0 1 .null).run refused).value = none ∧
      ∃ k, ((Site.transact 0 1 .null).run refused).state.network.connections[0]? = some k ∧ k.handler = .ended ∧
        k.closed = false := by
  have hk : refused.network.connections[0]? = some { Connection.fresh (.host 0) with handler := .ended } := by
    rw [refused_eq]
    rfl
  have ho : refused.network.objects[0]? = some ⟨"a", 0, true, []⟩ := by
    rw [refused_eq]
    rfl
  obtain ⟨frame, hframe⟩ : ∃ frame, Frame.encode (Parcel.toText (HostRequest.transact 1 .null)) = .ok frame :=
    ⟨_, by cbv⟩
  have hrun := Site.transact_of_idle ho rfl hk rfl (by simp) rfl hframe
  refine ⟨⟨_, hk, rfl, rfl⟩, by rw [hrun], ?_⟩
  rw [hrun, Network.getElem?_updateConnection_self, hk]
  exact ⟨_, rfl, rfl, rfl⟩

end Switchboard
