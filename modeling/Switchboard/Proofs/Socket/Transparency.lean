import Switchboard.Proofs.Socket.Messages
import Switchboard.Proofs.Socket.DeathLink
import Switchboard.Proofs.Socket.Handlers
import Switchboard.Proofs.Socket.Publishing
import Switchboard.Scenario.Single

/-!
# Transactions across a socket

An object is connected (`Site.Connected`) when a live host serves its connection and nothing is under way on it; a lookup makes
such an object. One transaction on it runs the service of the host once, on the code and the payload of the client, brings the
result back with its error in translation, and leaves the object connected (`Site.run_transact_of_connected`).

`transparency_law` says so of every sequence of transactions whose messages can be carried (`Service.Carries`): the client gets
what the service returns when it is called directly, and what an object of the same process over the same service returns.
-/

namespace Switchboard

variable {σ ρ : Type}

/-! ## Connected objects -/

/-- A connection that a host serves, and on which nothing is under way. -/
structure Connection.Idle (k : Connection) (h : Nat) : Prop where
  server : k.server = .host h
  serving : k.handler = .serving
  opened : k.closed = false
  pending : k.pending = []
  arrived : k.arrived = []

/-- The connection after its handler took bytes of the client. -/
def Connection.fed (bytes : List UInt8) (outcome : Option Served) (k : Connection) : Connection :=
  ({ k with pending := k.pending ++ bytes } : Connection).attended outcome

/-- A connection on which one answer was sent and received is idle as before. -/
theorem Connection.Idle.fed_received {k : Connection} {h : Nat} (hidle : k.Idle h) (bytes answer : List UInt8) :
    { k.fed bytes (some ⟨[answer], some []⟩) with arrived := [] } = k := by
  obtain ⟨-, hserving, -, hpending, harrived⟩ := hidle
  cases k
  simp only at hserving hpending harrived
  simp [Connection.fed, Connection.attended, hserving, hpending, harrived]

/-- An object that is not known to be dead, on an idle connection to a live host of the service. -/
def Site.Connected (s : Site σ ρ) (b : Nat) (service : Service σ) : Prop :=
  ∃ o k h host, s.network.objects[b]? = some o ∧ o.alive = true ∧ s.network.connections[o.connection]? = some k ∧
    k.Idle h ∧ s.network.hosts[h]? = some host ∧ host.running = true ∧ host.service = service

namespace Site

variable {s : Site σ ρ} {b : Nat} {service : Service σ}

/-- Whether an object is connected is a matter of the network alone. -/
theorem Connected.of_network_eq {t : Site σ ρ} (h : s.Connected b service) (hn : t.network = s.network) :
    t.Connected b service := by
  rw [Connected, hn]
  exact h

/-- A lookup connects a new object to the host that listens. -/
theorem connected_lookup {name : String} {h : Nat} {host : Host σ} (hl : s.network.listener? name = some h)
    (hh : s.network.hosts[h]? = some host) :
    ((lookup name).run s).value = some (some s.network.objects.length) ∧
      ((lookup name).run s).state.Connected s.network.objects.length host.service ∧
      ((lookup name).run s).state.backend = s.backend := by
  have hrunning : host.running = true := by
    rw [← Network.isRunning_of_host hh]
    exact Network.isRunning_of_listener hl
  rw [run_lookup_of_listener hl]
  refine ⟨rfl, ⟨⟨name, s.network.connections.length, true, []⟩, .fresh (.host h), h, host, ?_, rfl, ?_, ?_, hh, hrunning,
    rfl⟩, rfl⟩
  · exact List.getElem?_concat_length
  · exact Network.getElem?_accept_new
  · exact ⟨rfl, rfl, rfl, rfl, rfl⟩

/-! ## One transaction -/

section Transaction

variable {code : UInt32} {data : Json}

/-- What the client has sent is served. -/
theorem run_send_of_idle {c h : Nat} {k : Connection} {host : Host σ} (hk : s.network.connections[c]? = some k)
    (hidle : k.Idle h) (hh : s.network.hosts[h]? = some host) (hrequest : HostRequest.Carried code data) :
    (send c (.transact code data)).run s =
      ⟨some (.ok ()), ⟨((serve host.service (HostRequest.frame code data)).run s.backend).state,
        s.network.updateConnection c (Connection.fed (HostRequest.frame code data)
          ((serve host.service (HostRequest.frame code data)).run s.backend).value)⟩, []⟩ := by
  have hwrite := run_write_of_serving (HostRequest.frame code data) hk hidle.opened hidle.serving hidle.server hh
  rw [hidle.pending, List.nil_append] at hwrite
  rw [send, hrequest.encode_eq]
  exact hwrite

/-- An answer that has arrived is received. -/
theorem run_awaitAnswer_of_arrived {c : Nat} {k : Connection} {reply : HostReply} {rest : List UInt8}
    (hk : s.network.connections[c]? = some k) (hr : Frame.receive? k.arrived = some (.ok reply, rest)) :
    (awaitAnswer c).run s =
      ⟨some reply.result, { s with network := s.network.updateConnection c fun k => { k with arrived := rest } }, []⟩ := by
  rw [awaitAnswer, Act.run_bind, run_receive hk hr]
  rfl

/-- The service runs once, on the code and the payload of the client; its result comes back, and the network is as before. -/
theorem run_transact_of_connected (hc : s.Connected b service) (hrequest : HostRequest.Carried code data)
    {r : Except ServiceError Json} (hr : ((service code data).run s.backend).value = some r)
    (hreply : HostReply.Carried r) :
    (transact b code data).run s =
      ⟨some (r.mapError .acrossSocket), ⟨((service code data).run s.backend).state, s.network⟩, []⟩ := by
  obtain ⟨o, k, h, host, ho, halive, hk, hidle, hh, -, rfl⟩ := hc
  have hsend := run_send_of_idle hk hidle hh hrequest
  rw [run_serve_transact hrequest hr hreply] at hsend
  have hanswered := Network.getElem?_updateConnection_self (n := s.network) (c := o.connection)
    (Connection.fed (HostRequest.frame code data) (some ⟨[HostReply.frame r], some []⟩))
  rw [hk, Option.map_some] at hanswered
  have harrived : (Connection.fed (HostRequest.frame code data) (some ⟨[HostReply.frame r], some []⟩) k).arrived =
      HostReply.frame r := by
    simp [Connection.fed, Connection.attended, hidle.arrived]
  have hawait := run_awaitAnswer_of_arrived (s := ⟨((host.service code data).run s.backend).state,
    s.network.updateConnection o.connection (Connection.fed (HostRequest.frame code data) (some ⟨[HostReply.frame r], some []⟩))⟩)
    hanswered (harrived ▸ hreply.receive_frame)
  -- once the answer is received, nothing is under way again
  have hback : (s.network.updateConnection o.connection
      (Connection.fed (HostRequest.frame code data) (some ⟨[HostReply.frame r], some []⟩))).updateConnection o.connection
        (fun k => { k with arrived := [] }) = s.network := by
    rw [Network.updateConnection_updateConnection]
    exact Network.updateConnection_eq_self hk (hidle.fed_received _ _)
  simp only [hback] at hawait
  rw [run_transact ho halive, Act.run_bind, hsend]
  simp only [proceed_ok]
  rw [hawait, result_ofResult]
  rfl

/-- Where nothing is answered, the service has run all the same, and the client waits forever. -/
theorem run_transact_of_silent (hc : s.Connected b service) (hrequest : HostRequest.Carried code data)
    (hsilent : ∀ served, ((serve service (HostRequest.frame code data)).run s.backend).value = some served →
      served.answers = []) :
    ((transact b code data).run s).value = none ∧
      ((transact b code data).run s).state.backend = ((serve service (HostRequest.frame code data)).run s.backend).state := by
  obtain ⟨o, k, h, host, ho, halive, hk, hidle, hh, -, rfl⟩ := hc
  have hsend := run_send_of_idle hk hidle hh hrequest
  generalize ((serve host.service (HostRequest.frame code data)).run s.backend).value = outcome at hsend hsilent
  have hstuck := Network.getElem?_updateConnection_self (n := s.network) (c := o.connection)
    (Connection.fed (HostRequest.frame code data) outcome)
  rw [hk, Option.map_some] at hstuck
  have harrived : (Connection.fed (HostRequest.frame code data) outcome k).arrived = [] := by
    cases outcome with
    | none => exact hidle.arrived
    | some served => simp [Connection.fed, Connection.attended, hidle.arrived, hsilent served rfl]
  have hopen : (Connection.fed (HostRequest.frame code data) outcome k).closed = false := by
    cases outcome <;> exact hidle.opened
  have hwait := run_awaitAnswer (s := ⟨((serve host.service (HostRequest.frame code data)).run s.backend).state,
    s.network.updateConnection o.connection (Connection.fed (HostRequest.frame code data) outcome)⟩) hstuck
    (by rw [harrived]; rfl)
  rw [hopen] at hwait
  rw [run_transact ho halive, Act.run_bind, hsend]
  simp only [proceed_ok]
  rw [hwait]
  exact ⟨rfl, rfl⟩

/-- A service that never returns has run all the same, and the client waits forever. -/
theorem run_transact_of_hang (hc : s.Connected b service) (hrequest : HostRequest.Carried code data)
    (hr : ((service code data).run s.backend).value = none) :
    ((transact b code data).run s).value = none ∧
      ((transact b code data).run s).state.backend = ((service code data).run s.backend).state := by
  have hserve := run_serve_transact_of_hang hrequest hr
  have hrun := run_transact_of_silent hc hrequest (by simp [hserve])
  rw [hserve] at hrun
  exact hrun

/-- An answer that the client gets is the service's, however long the messages are: a request that is too long is not sent, an
answer that is too long does not come. -/
theorem answer_of_connected (hc : s.Connected b service) (hdata : data.Travels 125)
    (htravels : ∀ v, ((service code data).run s.backend).value = some (.ok v) → v.Travels 126) {v : Json}
    (h : ((transact b code data).run s).value = some (.ok v)) :
    ((service code data).run s.backend).value = some (.ok v) ∧
      ((transact b code data).run s).state.backend = ((service code data).run s.backend).state := by
  by_cases hfits : (Parcel.toText (HostRequest.transact code data)).utf8ByteSize ≤ Frame.sizeLimit
  · have hrequest : HostRequest.Carried code data := ⟨hdata, hfits⟩
    cases hr : ((service code data).run s.backend).value with
    | none =>
      obtain ⟨hwaits, -⟩ := run_transact_of_hang hc hrequest hr
      cases hwaits.symm.trans h
    | some r =>
      by_cases hreply : (Parcel.toText (HostReply.ofResult r)).utf8ByteSize ≤ Frame.sizeLimit
      · have hrun := run_transact_of_connected hc hrequest hr ⟨fun u hu => htravels u (hu ▸ hr), hreply⟩
        rw [hrun] at h ⊢
        cases r with
        | ok u => exact ⟨h, rfl⟩
        | error e => cases h
      · have hserve := run_serve_transact_of_oversized hrequest hr (Nat.lt_of_not_le hreply)
        obtain ⟨hwaits, -⟩ := run_transact_of_silent hc hrequest (by simp [hserve])
        cases hwaits.symm.trans h
  · obtain ⟨o, k, -, -, ho, halive, -⟩ := hc
    rw [run_transact ho halive, send, Frame.encode_eq_error (Nat.lt_of_not_le hfits)] at h
    cases h

end Transaction

end Site

/-! ## Many transactions -/

/-- Every message of the transactions can be carried, as the service goes through them. -/
def Service.Carries (service : Service σ) : σ → List (UInt32 × Json) → Prop
  | _, [] => True
  | b, (code, data) :: rest =>
    HostRequest.Carried code data ∧ ∀ r, ((service code data).run b).value = some r →
      HostReply.Carried r ∧ service.Carries ((service code data).run b).state rest

namespace Service

variable {service : Service σ} {code : UInt32} {data : Json} {b : σ} (rest : List (UInt32 × Json))

theorem run_transactAll_nil : (service.transactAll []).run b = ⟨some [], b, []⟩ := rfl

/-- Behind a transaction that waits forever there is no other. -/
theorem run_transactAll_of_hang (h : ((service code data).run b).value = none) :
    ((service.transactAll ((code, data) :: rest)).run b).value = none ∧
      ((service.transactAll ((code, data) :: rest)).run b).state = ((service code data).run b).state := by
  rw [transactAll, Act.run_bind_of_hang h]
  exact ⟨rfl, rfl⟩

/-- The others follow the first one. -/
theorem run_transactAll_cons {r : Except ServiceError Json} (h : ((service code data).run b).value = some r) :
    ((service.transactAll ((code, data) :: rest)).run b).value =
        ((service.transactAll rest).run ((service code data).run b).state).value.map (r :: ·) ∧
      ((service.transactAll ((code, data) :: rest)).run b).state =
        ((service.transactAll rest).run ((service code data).run b).state).state := by
  rw [transactAll, Act.run_bind_of_value h, Act.run_bind]
  cases ((service.transactAll rest).run ((service code data).run b).state).value with
  | none => exact ⟨rfl, rfl⟩
  | some others => exact ⟨rfl, rfl⟩

end Service

/-- Transactions across a socket come to what the service makes of them, errors in translation. -/
theorem Site.run_transactAll_of_connected {s : Site σ ρ} {b : Nat} {service : Service σ} {calls : List (UInt32 × Json)}
    (hc : s.Connected b service) (hcarried : service.Carries s.backend calls) :
    ((Service.transactAll (Site.transact b) calls).run s).value =
        ((service.transactAll calls).run s.backend).value.map (List.map (Except.mapError .acrossSocket)) ∧
      ((Service.transactAll (Site.transact b) calls).run s).state.backend = ((service.transactAll calls).run s.backend).state ∧
      (((service.transactAll calls).run s.backend).value ≠ none →
        ((Service.transactAll (Site.transact b) calls).run s).state.network = s.network) := by
  induction calls generalizing s with
  | nil => exact ⟨rfl, rfl, fun _ => rfl⟩
  | cons call rest ih =>
    obtain ⟨code, data⟩ := call
    obtain ⟨hrequest, hanswer⟩ := hcarried
    cases hr : ((service code data).run s.backend).value with
    | none =>
      obtain ⟨hvalue, hbackend⟩ := run_transact_of_hang hc hrequest hr
      obtain ⟨hvalue', hstate'⟩ := Service.run_transactAll_of_hang rest hvalue
      obtain ⟨hserved, hleft⟩ := Service.run_transactAll_of_hang rest hr
      rw [hvalue', hstate', hserved, hleft, hbackend]
      exact ⟨rfl, rfl, fun h => absurd rfl h⟩
    | some r =>
      obtain ⟨hreply, hothers⟩ := hanswer r hr
      have hrun := run_transact_of_connected hc hrequest hr hreply
      obtain ⟨hvalue, hstate⟩ := Service.run_transactAll_cons rest (congrArg Outcome.value hrun)
      obtain ⟨hserved, hleft⟩ := Service.run_transactAll_cons rest hr
      rw [hrun] at hvalue hstate
      obtain ⟨hvalues, hbackend, hnetwork⟩ :=
        ih (s := ⟨((service code data).run s.backend).state, s.network⟩) (hc.of_network_eq rfl) hothers
      rw [hvalue, hstate, hserved, hleft, hvalues, hbackend]
      refine ⟨?_, rfl, fun h => hnetwork fun hnone => h (by rw [hnone]; rfl)⟩
      cases ((service.transactAll rest).run ((service code data).run s.backend).state).value with
      | none => rfl
      | some others => rfl

/-! ## In the same process -/

namespace World

variable {w : World σ} {n b : Nat} {service : Service σ}

/-- A live object of the same process over a service, which refuses no transactions. -/
def Answers (w : World σ) (n : Nat) (service : Service σ) : Prop :=
  ∃ o, w.directory.object? n = some o ∧ o.alive = true ∧ o.failTransactions = false ∧ o.service = service

/-- Such an object hands every transaction to its service. -/
theorem run_transact_process (h : w.Answers n service) (code : UInt32) (data : Json) :
    (transact (.process n) code data).run w =
      ⟨((service code data).run w.backend).value,
        { w with
          directory := w.directory.update n (·.count)
          backend := ((service code data).run w.backend).state },
        ((service code data).run w.backend).log⟩ := by
  obtain ⟨o, ho, halive, hfail, rfl⟩ := h
  simp only [transact, Act.run_bind, Act.run_get, ho]
  simp only [Act.run_modify, LocalObject.answer, halive, hfail, Bool.not_true, Bool.false_eq_true, if_false]
  rfl

/-- It goes on doing so. -/
theorem Answers.after_transact (h : w.Answers n service) (backend : σ) :
    ({ w with directory := w.directory.update n (·.count), backend } : World σ).Answers n service := by
  obtain ⟨o, ho, halive, hfail, rfl⟩ := h
  have hobject : w.directory.objects[n]? = some o := ho
  refine ⟨o.count, ?_, halive, hfail, rfl⟩
  change (w.directory.objects.modify n (·.count))[n]? = _
  rw [List.getElem?_modify, hobject]
  simp

/-- Transactions on such an object are those of its service. -/
theorem run_transactAll_process (h : w.Answers n service) (calls : List (UInt32 × Json)) :
    ((Service.transactAll (transact (.process n)) calls).run w).value = ((service.transactAll calls).run w.backend).value ∧
      ((Service.transactAll (transact (.process n)) calls).run w).state.backend =
        ((service.transactAll calls).run w.backend).state := by
  induction calls generalizing w with
  | nil => exact ⟨rfl, rfl⟩
  | cons call rest ih =>
    obtain ⟨code, data⟩ := call
    have hrun := run_transact_process h code data
    cases hr : ((service code data).run w.backend).value with
    | none =>
      obtain ⟨hvalue, hstate⟩ := Service.run_transactAll_of_hang rest ((congrArg Outcome.value hrun).trans hr)
      obtain ⟨hserved, hleft⟩ := Service.run_transactAll_of_hang rest hr
      rw [hvalue, hstate, hserved, hleft, hrun]
      exact ⟨rfl, rfl⟩
    | some r =>
      obtain ⟨hvalue, hstate⟩ := Service.run_transactAll_cons rest ((congrArg Outcome.value hrun).trans hr)
      obtain ⟨hserved, hleft⟩ := Service.run_transactAll_cons rest hr
      obtain ⟨hvalues, hbackend⟩ := ih (h.after_transact ((service code data).run w.backend).state)
      rw [hvalue, hstate, hserved, hleft, hrun, hvalues, hbackend]
      exact ⟨rfl, rfl⟩

/-- A transaction on an object across a socket is one at the site of the world. -/
theorem run_transact_socket (b : Nat) (code : UInt32) (data : Json) (w : World σ) :
    (transact (.socket b) code data).run w =
      ⟨((Site.transact b code data).run w.site).value, w.withSite ((Site.transact b code data).run w.site).state,
        ((Site.transact b code data).run w.site).log⟩ :=
  run_onSite (Site.transact b code data)

/-- If the object is connected, it comes to what the service makes of it, its error in translation. -/
theorem run_transact_of_connected (h : w.site.Connected b service) {code : UInt32} {data : Json}
    (hrequest : HostRequest.Carried code data) {r : Except ServiceError Json}
    (hr : ((service code data).run w.backend).value = some r) (hreply : HostReply.Carried r) :
    (transact (.socket b) code data).run w =
      ⟨some (r.mapError .acrossSocket), w.withSite ⟨((service code data).run w.backend).state, w.network⟩, []⟩ := by
  rw [run_transact_socket, Site.run_transact_of_connected h hrequest hr hreply]
  rfl

/-- Transactions on an object across a socket are those at the site of the world. -/
theorem run_transactAll_socket (calls : List (UInt32 × Json)) :
    ((Service.transactAll (transact (.socket b)) calls).run w).value =
        ((Service.transactAll (Site.transact b) calls).run w.site).value ∧
      ((Service.transactAll (transact (.socket b)) calls).run w).state =
        w.withSite ((Service.transactAll (Site.transact b) calls).run w.site).state := by
  induction calls generalizing w with
  | nil => exact ⟨rfl, rfl⟩
  | cons call rest ih =>
    obtain ⟨code, data⟩ := call
    have hrun := run_transact_socket b code data w
    cases hr : ((Site.transact b code data).run w.site).value with
    | none =>
      obtain ⟨hvalue, hstate⟩ := Service.run_transactAll_of_hang rest ((congrArg Outcome.value hrun).trans hr)
      obtain ⟨hserved, hleft⟩ := Service.run_transactAll_of_hang rest hr
      rw [hvalue, hstate, hserved, hleft, hrun]
      exact ⟨rfl, rfl⟩
    | some r =>
      obtain ⟨hvalue, hstate⟩ := Service.run_transactAll_cons rest ((congrArg Outcome.value hrun).trans hr)
      obtain ⟨hserved, hleft⟩ := Service.run_transactAll_cons rest hr
      obtain ⟨hvalues, hstates⟩ := ih (w := w.withSite ((Site.transact b code data).run w.site).state)
      rw [hvalue, hstate, hserved, hleft, hrun, hvalues, hstates]
      exact ⟨rfl, rfl⟩

end World

/-! ## The law -/

/-- A service that makes a note of every transaction notes those that were made, in their order. -/
theorem Service.note_transactAll {service : Service σ} {note : σ → List (UInt32 × Json)}
    (hnote : ∀ code data b, note ((service code data).run b).state = note b ++ [(code, data)])
    {calls : List (UInt32 × Json)} {b : σ} (hvalue : ((service.transactAll calls).run b).value ≠ none) :
    note ((service.transactAll calls).run b).state = note b ++ calls := by
  induction calls generalizing b with
  | nil => simp [run_transactAll_nil]
  | cons call rest ih =>
    obtain ⟨code, data⟩ := call
    cases hr : ((service code data).run b).value with
    | none => exact absurd (run_transactAll_of_hang rest hr).1 hvalue
    | some r =>
      obtain ⟨hserved, hleft⟩ := run_transactAll_cons rest hr
      have hothers : ((service.transactAll rest).run ((service code data).run b).state).value ≠ none := by
        intro hnone
        rw [hserved, hnone] at hvalue
        exact hvalue rfl
      rw [hleft, ih hothers, hnote, List.append_assoc]
      rfl

/-- What comes of transactions across a socket, at one site. -/
structure TransparencyLaw (s : Site σ Recipient) : Prop where
  /-- A lookup of a service that was just published connects an object to it. -/
  connects : ∀ (name : String) (service : Service σ) (h : Nat) (t : Site σ Recipient),
    ((Site.publish name service).run s).value = some (.ok h) → t = ((Site.publish name service).run s).state →
    ((Site.lookup name).run t).value = some (some t.network.objects.length) ∧
      ((Site.lookup name).run t).state.Connected t.network.objects.length service
  /-- Transactions come to what the service makes of them, errors in translation, and the object stays connected unless the
  service never returned. -/
  answered : ∀ (b : Nat) (service : Service σ) (calls : List (UInt32 × Json)), s.Connected b service →
    service.Carries s.backend calls →
    ((Service.transactAll (Site.transact b) calls).run s).value =
        ((service.transactAll calls).run s.backend).value.map (List.map (Except.mapError .acrossSocket)) ∧
      ((Service.transactAll (Site.transact b) calls).run s).state.backend = ((service.transactAll calls).run s.backend).state ∧
      (((service.transactAll calls).run s.backend).value ≠ none →
        ((Service.transactAll (Site.transact b) calls).run s).state.Connected b service)
  /-- The service runs exactly once for each transaction, in order, on its code and payload. -/
  noted : ∀ (b : Nat) (service : Service σ) (calls : List (UInt32 × Json)) (note : σ → List (UInt32 × Json)),
    s.Connected b service → service.Carries s.backend calls →
    (∀ code data b, note ((service code data).run b).state = note b ++ [(code, data)]) →
    ((Service.transactAll (Site.transact b) calls).run s).value ≠ none →
    note ((Service.transactAll (Site.transact b) calls).run s).state.backend = note s.backend ++ calls
  /-- An object of the same process over the service comes to the same, but for the translation. -/
  alike : ∀ (w : World σ) (b n : Nat) (service : Service σ) (calls : List (UInt32 × Json)), w.site = s →
    s.Connected b service → w.Answers n service → service.Carries s.backend calls →
    ((Service.transactAll (World.transact (.socket b)) calls).run w).value =
        ((Service.transactAll (World.transact (.process n)) calls).run w).value.map
          (List.map (Except.mapError .acrossSocket)) ∧
      ((Service.transactAll (World.transact (.socket b)) calls).run w).state.backend =
        ((Service.transactAll (World.transact (.process n)) calls).run w).state.backend

/-- The law of transactions across a socket, at every site. -/
theorem transparency_law (s : Site σ Recipient) : TransparencyLaw s := by
  constructor
  case connects =>
    rintro name service h t hok rfl
    rcases Site.publish_cases (s := s) name service with ⟨e, files, hrefused, -, -⟩ | ⟨-, hstate, haddress, hdots⟩
    · rw [hrefused] at hok
      cases hok
    · have hlistener := Site.listener_withHost service haddress hdots
      have hhost : (s.withHost name service).network.hosts[s.network.hosts.length]? = some ⟨name, service, true⟩ :=
        List.getElem?_concat_length
      obtain ⟨hvalue, hconnected, -⟩ := Site.connected_lookup hlistener hhost
      rw [hstate]
      exact ⟨hvalue, hconnected⟩
  case answered =>
    intro b service calls hc hcarried
    obtain ⟨hvalue, hbackend, hnetwork⟩ := Site.run_transactAll_of_connected hc hcarried
    exact ⟨hvalue, hbackend, fun hcame => hc.of_network_eq (hnetwork hcame)⟩
  case noted =>
    intro b service calls note hc hcarried hnote hcame
    obtain ⟨hvalue, hbackend, -⟩ := Site.run_transactAll_of_connected hc hcarried
    rw [hbackend]
    refine Service.note_transactAll hnote fun hnone => hcame ?_
    rw [hvalue, hnone]
    rfl
  case alike =>
    rintro w b n service calls rfl hc hanswers hcarried
    obtain ⟨hvalue, hbackend, -⟩ := Site.run_transactAll_of_connected hc hcarried
    obtain ⟨hsocket, hsite⟩ := World.run_transactAll_socket (w := w) (b := b) calls
    obtain ⟨hprocess, hleft⟩ := World.run_transactAll_process hanswers calls
    rw [hsocket, hsite, hprocess, hleft, hvalue]
    exact ⟨rfl, hbackend⟩

/-! ### Two transactions with an echo -/

namespace Echo

open OneService

/-- A client with an object across a socket, and one of its own process, over the same service. -/
def world : World Unit :=
  { (World.new () "d").withSite found with directory := (Directory.empty.register "a" Service.echo).2 }

def calls : List (UInt32 × Json) :=
  [(1, .int 5), (2, .object [("\n", .array [.null])])]

/-- The object that was found is connected. -/
theorem connected : (found : Site Unit Recipient).Connected 0 Service.echo := by
  rw [found_eq]
  exact ⟨_, _, 0, _, rfl, rfl, rfl, ⟨rfl, rfl, rfl, rfl, rfl⟩, rfl, rfl, rfl⟩

theorem answers : world.Answers 0 Service.echo :=
  ⟨_, rfl, rfl, rfl, rfl⟩

/-- The frames of these calls fit. -/
theorem carries : (Service.echo : Service Unit).Carries () calls := by
  have hreply : ∀ code data r, ((Service.echo code data : Act Unit _).run ()).value = some r → r = .ok data := by
    intro code data r hr
    exact (Option.some.inj hr).symm
  have hok : ∀ {data v : Json}, (.ok data : Except ServiceError Json) = .ok v → v = data := fun h => (Except.ok.inj h).symm
  refine ⟨⟨⟨rfl, by decide, by decide⟩, by cbv⟩, fun r hr => ?_⟩
  obtain rfl := hreply _ _ _ hr
  refine ⟨⟨fun v hv => ?_, by cbv⟩, ⟨⟨⟨by cbv, by decide, by decide⟩, by cbv⟩, fun r hr => ?_⟩⟩
  · obtain rfl := hok hv
    exact ⟨rfl, by decide, by decide⟩
  · obtain rfl := hreply _ _ _ hr
    refine ⟨⟨fun v hv => ?_, by cbv⟩, trivial⟩
    obtain rfl := hok hv
    exact ⟨by cbv, by decide, by decide⟩

end Echo

/-- Both payloads come back as they were sent, across the socket as in the same process. -/
theorem echo_across_socket :
    ((Service.transactAll (World.transact (.socket 0)) Echo.calls).run Echo.world).value =
        some (Echo.calls.map fun call => .ok call.2) ∧
      ((Service.transactAll (World.transact (.process 0)) Echo.calls).run Echo.world).value =
        some (Echo.calls.map fun call => .ok call.2) := by
  have hlaw := (transparency_law OneService.found).alike Echo.world 0 0 Service.echo Echo.calls rfl Echo.connected Echo.answers
    Echo.carries
  have hprocess := (World.run_transactAll_process Echo.answers Echo.calls).1
  rw [hlaw.1, hprocess]
  exact ⟨rfl, rfl⟩

end Switchboard
