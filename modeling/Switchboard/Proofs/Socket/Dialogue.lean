import Switchboard.Proofs.Socket.Transparency
import Switchboard.Proofs.Tube.Streams
import Switchboard.Socket.Dialogue

/-!
# What a handler has done so far

Whatever bytes a client writes, they begin with some requests, one behind the other, and behind the last one stands something that
is no request, or not yet one (`HostRequest.Front`, `HostRequest.Longest`). In every order of the steps of a dialogue the
handler has carried out the first requests of this front, and has answered them, or all of them but the last one
(`Dialogue.Sound.run`). Where it stands tells which (`Dialogue.Course`): it leaves its loop behind the last request of the
front, or with an answer that it owes (`Dialogue.Owes`).
-/

namespace Switchboard

variable {σ : Type}

/-! ## The front of a stream -/

namespace HostRequest

variable {s t rest rest' middle body : List UInt8} {requests requests' early late : List HostRequest} {request : HostRequest}

/-- A stream begins with whole frames that hold these requests, one behind the other, and goes on with the rest. -/
def Front (requests : List HostRequest) (stream rest : List UInt8) : Prop :=
  ∃ bodies, (∀ body ∈ bodies, Frame.Admits body.length) ∧
    bodies.map Parcel.ofMessage = requests.map (Except.ok : HostRequest → Except TubeError HostRequest) ∧
    stream = Frame.stream bodies ++ rest

/-- The requests are all those at the front: the rest does not begin with another one. -/
structure Longest (requests : List HostRequest) (stream rest : List UInt8) : Prop where
  front : Front requests stream rest
  ends : ∀ request later, ¬Front [request] rest later

/-- Without requests the whole stream is the rest. -/
theorem front_nil_iff : Front [] s rest ↔ s = rest := by
  constructor
  · rintro ⟨bodies, -, hmessages, rfl⟩
    obtain rfl := List.map_eq_nil_iff.mp hmessages
    rfl
  · rintro rfl
    exact ⟨[], List.forall_mem_nil _, rfl, rfl⟩

/-- The first request of a front is the one in the first frame. -/
theorem front_cons_iff :
    Front (request :: requests) s rest ↔ ∃ body middle, Frame.next s = .frame body middle ∧
      (Parcel.ofMessage body : Except TubeError HostRequest) = .ok request ∧ Front requests middle rest := by
  constructor
  · rintro ⟨bodies, hadmits, hmessages, rfl⟩
    cases bodies with
    | nil => cases hmessages
    | cons body bodies =>
      obtain ⟨hbody, hbodies⟩ := List.forall_mem_cons.mp hadmits
      obtain ⟨hrequest, hrequests⟩ := List.cons.inj hmessages
      refine ⟨body, Frame.stream bodies ++ rest, ?_, hrequest, bodies, hbodies, hrequests, rfl⟩
      rw [Frame.stream_cons, List.append_assoc]
      exact Frame.next_ofBody hbody _
  · rintro ⟨body, middle, hnext, hrequest, bodies, hadmits, hmessages, rfl⟩
    obtain ⟨hbody, rfl⟩ := Frame.next_eq_frame_iff.mp hnext
    refine ⟨body :: bodies, List.forall_mem_cons.mpr ⟨hbody, hadmits⟩, ?_, ?_⟩
    · rw [List.map_cons, List.map_cons, hrequest, hmessages]
    · rw [Frame.stream_cons, List.append_assoc]

/-- A front of one request is a frame that holds it. -/
theorem front_singleton_iff :
    Front [request] s rest ↔ ∃ body, Frame.next s = .frame body rest ∧
      (Parcel.ofMessage body : Except TubeError HostRequest) = .ok request := by
  simp [front_cons_iff, front_nil_iff]

/-- A front falls apart between any two of its requests, and is put together so. -/
theorem front_append_iff : Front (early ++ late) s rest ↔ ∃ middle, Front early s middle ∧ Front late middle rest := by
  induction early generalizing s with
  | nil => simp [front_nil_iff]
  | cons request early ih =>
    simp only [List.cons_append, front_cons_iff, ih]
    constructor
    · rintro ⟨body, tail, hnext, hbody, middle, hearly, hlate⟩
      exact ⟨middle, ⟨body, tail, hnext, hbody, hearly⟩, hlate⟩
    · rintro ⟨middle, ⟨body, tail, hnext, hbody, hearly⟩, hlate⟩
      exact ⟨body, tail, hnext, hbody, middle, hearly, hlate⟩

/-- One more request is received behind a front. -/
theorem Front.concat (h : Front requests s rest) (hnext : Frame.next rest = .frame body t)
    (hbody : (Parcel.ofMessage body : Except TubeError HostRequest) = .ok request) : Front (requests ++ [request]) s t :=
  front_append_iff.mpr ⟨rest, h, front_singleton_iff.mpr ⟨body, hnext, hbody⟩⟩

/-- Bytes that are written later stand behind the rest. -/
theorem Front.append (h : Front requests s rest) (t : List UInt8) : Front requests (s ++ t) (rest ++ t) := by
  obtain ⟨bodies, hadmits, hmessages, rfl⟩ := h
  exact ⟨bodies, hadmits, hmessages, List.append_assoc _ _ _⟩

/-- Every front is a part of the longest one. -/
theorem Longest.of_front (h : Longest requests s rest) (h' : Front requests' s rest') :
    ∃ more, requests = requests' ++ more ∧ Longest more rest' rest := by
  induction requests' generalizing s requests with
  | nil =>
    obtain rfl := front_nil_iff.mp h'
    exact ⟨requests, rfl, h⟩
  | cons request requests' ih =>
    obtain ⟨body, middle, hnext, hmessage, hfront'⟩ := front_cons_iff.mp h'
    cases requests with
    | nil =>
      obtain rfl := front_nil_iff.mp h.front
      exact absurd (front_singleton_iff.mpr ⟨body, hnext, hmessage⟩) (h.ends request middle)
    | cons first requests =>
      obtain ⟨body₁, middle₁, hnext₁, hmessage₁, hfront⟩ := front_cons_iff.mp h.front
      obtain ⟨rfl, rfl⟩ := Frame.Next.frame.inj (hnext₁.symm.trans hnext)
      obtain rfl := Except.ok.inj (hmessage₁.symm.trans hmessage)
      obtain ⟨more, rfl, hmore⟩ := ih ⟨hfront, h.ends⟩ hfront'
      exact ⟨more, rfl, hmore⟩

/-- There is only one longest front. -/
theorem Longest.unique (h : Longest requests s rest) (h' : Longest requests' s rest') : requests' = requests ∧ rest' = rest := by
  obtain ⟨more, hrequests, hmore⟩ := h.of_front h'.front
  cases more with
  | nil => exact ⟨by rw [hrequests, List.append_nil], front_nil_iff.mp hmore.front⟩
  | cons request more =>
    obtain ⟨body, middle, hnext, hmessage, -⟩ := front_cons_iff.mp hmore.front
    exact absurd (front_singleton_iff.mpr ⟨body, hnext, hmessage⟩) (h'.ends request middle)

/-! ### Where no request stands -/

/-- Why no request is received from a stream to which nothing is added. -/
inductive Missing : List UInt8 → TubeError → Prop where
  /-- It ends within a frame, or there is nothing of it. -/
  | cut {stream : List UInt8} (next : Frame.next stream = .incomplete) : Missing stream .disconnected
  /-- A frame announces an impossible length. -/
  | refused {stream rest : List UInt8} {e : TubeError} (next : Frame.next stream = .refused e rest) : Missing stream e
  /-- A frame holds something else. -/
  | undecodable {stream body rest : List UInt8} {e : TubeError} (next : Frame.next stream = .frame body rest)
      (message : (Parcel.ofMessage body : Except TubeError HostRequest) = .error e) : Missing stream e

/-- Bytes that come later change nothing about a frame that is no request. -/
theorem Missing.append {e : TubeError} (h : Missing s e) (hwhole : Frame.next s ≠ .incomplete) (t : List UInt8) :
    Missing (s ++ t) e := by
  cases h with
  | cut next => exact absurd next hwhole
  | refused next => exact .refused (Frame.next_append_of_refused next t)
  | undecodable next message => exact .undecodable (Frame.next_append_of_frame next t) message

/-- What a request asks of the service. -/
def call? : HostRequest → Option (UInt32 × Json)
  | .transact code data => some (code, data)
  | .linkToDeath => none

/-- The calls that requests ask for, in their order. -/
def calls (requests : List HostRequest) : List (UInt32 × Json) :=
  requests.filterMap call?

/-- The reply to a request, by the result of the call that it asks for. -/
inductive Gets : HostRequest → List (Except ServiceError Json) → HostReply → Prop where
  | value (code : UInt32) (data v : Json) : Gets (.transact code data) [.ok v] (.reply v)
  | unknown (code : UInt32) (data : Json) (other : UInt32) :
    Gets (.transact code data) [.error (.unknownTransaction other)] (.unknownTransaction other)
  | failed (code : UInt32) (data : Json) (e : ServiceError) (known : ∀ other, e ≠ .unknownTransaction other) :
    Gets (.transact code data) [.error e] (.failed e.message)
  | linked : Gets .linkToDeath [] .linked

/-- The replies to requests, one for each, by the results of the calls that they ask for. -/
inductive GetAll : List HostRequest → List (Except ServiceError Json) → List HostReply → Prop where
  | nil : GetAll [] [] []
  | cons {request : HostRequest} {requests : List HostRequest} {own results : List (Except ServiceError Json)}
      {reply : HostReply} {replies : List HostReply} (first : request.Gets own reply) (others : GetAll requests results replies) :
    GetAll (request :: requests) (own ++ results) (reply :: replies)

end HostRequest

/-- An answer that is short enough for a frame. -/
def HostReply.Fits (reply : HostReply) : Prop :=
  (Parcel.toText reply).utf8ByteSize ≤ Frame.sizeLimit

instance (reply : HostReply) : Decidable reply.Fits :=
  inferInstanceAs (Decidable (_ ≤ _))

/-- The frame of an answer. -/
def HostReply.framed (reply : HostReply) : List UInt8 :=
  Frame.framed (Parcel.toText reply)

namespace HostRequest

variable {requests : List HostRequest} {request : HostRequest} {own results : List (Except ServiceError Json)}
  {reply : HostReply} {replies : List HostReply} {frames : List (List UInt8)}

/-- The result of a call makes the reply. -/
theorem gets_ofResult (code : UInt32) (data : Json) (r : Except ServiceError Json) :
    Gets (.transact code data) [r] (.ofResult r) := by
  cases r with
  | ok v => exact .value code data v
  | error e =>
    cases e with
    | unknownTransaction other => exact .unknown code data other
    | badParcel | deadObject | failedTransaction | publish | transport => exact .failed code data _ nofun

/-- The last request gets its reply behind the others. -/
theorem GetAll.concat (h : GetAll requests results replies) (hlast : request.Gets own reply) :
    GetAll (requests ++ [request]) (results ++ own) (replies ++ [reply]) := by
  induction h with
  | nil =>
    have hone : GetAll [request] (own ++ []) [reply] := .cons hlast .nil
    rw [List.append_nil] at hone
    exact hone
  | cons first _ ih =>
    rw [List.append_assoc]
    exact .cons first ih

/-- Requests are answered by these frames, one for each, by the results of the calls that they ask for. -/
def Answered (requests : List HostRequest) (results : List (Except ServiceError Json)) (frames : List (List UInt8)) : Prop :=
  ∃ replies, GetAll requests results replies ∧ (∀ reply ∈ replies, reply.Fits) ∧ frames = replies.map HostReply.framed

/-- No request, no answer. -/
theorem answered_nil : Answered [] [] [] :=
  ⟨[], .nil, List.forall_mem_nil _, rfl⟩

/-- One more answer that fits. -/
theorem Answered.concat (h : Answered requests results frames) (hlast : request.Gets own reply) (hfits : reply.Fits) :
    Answered (requests ++ [request]) (results ++ own) (frames ++ [reply.framed]) := by
  obtain ⟨replies, hreplies, hall, rfl⟩ := h
  refine ⟨replies ++ [reply], hreplies.concat hlast, ?_, ?_⟩
  · exact List.forall_mem_append.mpr ⟨hall, List.forall_mem_singleton.mpr hfits⟩
  · rw [List.map_append]
    rfl

end HostRequest

/-- A call of a service may come to a result, depending on the state that it meets. -/
def Service.Gives (service : Service σ) (call : UInt32 × Json) (r : Except ServiceError Json) : Prop :=
  ∃ b, ((service call.1 call.2).run b).value = some r

/-! ## What a handler can do -/

/-- What a handler does by itself, or with a client that takes its answer. -/
def DialogueStep.IsServing (a : DialogueStep σ) : Prop :=
  a = .handler ∨ a = .take

/-- Of a frame that is refused only the header is taken. -/
theorem Frame.length_of_next_refused {s rest : List UInt8} {e : TubeError} (h : Frame.next s = .refused e rest) :
    rest.length ≤ s.length := by
  unfold Frame.next at h
  split at h
  · rename_i a b c d tail
    have hrest : rest = tail := by
      dsimp only at h
      split at h
      · cases h
        rfl
      · split at h
        · cases h
          rfl
        · split at h <;> cases h
    simp only [hrest, List.length_cons]
    omega
  · cases h

namespace Dialogue

open HostRequest

variable {service : Service σ} {c c' : Dialogue σ} {reply : HostReply}

/-- The handler receives a request, or none and leaves its loop. -/
theorem receive_cases (h : c.receive = some c') :
    (∃ body rest request, Frame.next c.pending = .frame body rest ∧
        (Parcel.ofMessage body : Except TubeError HostRequest) = .ok request ∧
        c' = { c with pending := rest, phase := .carrying request }) ∨
      ∃ e rest, Missing c.pending e ∧ (Frame.next c.pending = .incomplete → c.writes = false) ∧
        rest.length ≤ c.pending.length ∧ c' = { c with pending := rest, phase := .ended (.receive e) } := by
  unfold receive at h
  split at h
  · rename_i hnext
    split at h
    · cases h
    · rename_i hover
      exact .inr ⟨_, c.pending, .cut hnext, fun _ => Bool.eq_false_iff.mpr hover, Nat.le_refl _, (Option.some.inj h).symm⟩
  · rename_i e rest hnext
    have hwhole : Frame.next c.pending ≠ .incomplete := by simp [hnext]
    exact .inr ⟨e, rest, .refused hnext, fun hcut => absurd hcut hwhole, Frame.length_of_next_refused hnext,
      (Option.some.inj h).symm⟩
  · rename_i body rest hnext
    have hwhole : Frame.next c.pending ≠ .incomplete := by simp [hnext]
    split at h
    · rename_i e hbody
      exact .inr ⟨e, rest, .undecodable hnext hbody, fun hcut => absurd hcut hwhole,
        Nat.le_of_lt (Frame.length_of_next_frame hnext), (Option.some.inj h).symm⟩
    · rename_i request hbody
      exact .inl ⟨body, rest, request, hnext, hbody, (Option.some.inj h).symm⟩

/-- It waits only for a client that may write more. -/
theorem receive_eq_none_iff : c.receive = none ↔ c.writes = true ∧ Frame.next c.pending = .incomplete := by
  unfold receive
  split
  · rename_i hnext
    simp [hnext]
  · rename_i hnext
    simp [hnext]
  · rename_i hnext
    split <;> simp [hnext]

/-- A call that never returns leaves the handler stuck. -/
theorem carryOut_of_hang {code : UInt32} {data : Json} (h : ((service code data).run c.backend).value = none) :
    c.carryOut service (.transact code data) =
      { c with
        backend := ((service code data).run c.backend).state
        phase := .stuck
        handled := c.handled ++ [.transact code data]
        calls := c.calls ++ [(code, data)] } := by
  simp [carryOut, h]

/-- A call that returns makes the reply. -/
theorem carryOut_of_value {code : UInt32} {data : Json} {r : Except ServiceError Json}
    (h : ((service code data).run c.backend).value = some r) :
    c.carryOut service (.transact code data) =
      { c with
        backend := ((service code data).run c.backend).state
        phase := .sending (.ofResult r)
        handled := c.handled ++ [.transact code data]
        calls := c.calls ++ [(code, data)]
        results := c.results ++ [r] } := by
  simp [carryOut, h]

/-- An answer cannot be sent if it is too long, or if nobody takes it. -/
theorem fail_cases (h : c.fail reply = some c') :
    ∃ e, c' = { c with phase := .ended (.send e) } ∧
      (¬reply.Fits ∧ e = .messageTooLarge (Parcel.toText reply).utf8ByteSize ∨
        reply.Fits ∧ c.takes = false ∧ e = .disconnected) := by
  by_cases hfits : reply.Fits
  · rw [fail, Frame.encode_eq hfits, Option.ite_none_left_eq_some] at h
    obtain ⟨hgone, h⟩ := h
    exact ⟨_, (Option.some.inj h).symm, .inr ⟨hfits, Bool.eq_false_iff.mpr hgone, rfl⟩⟩
  · rw [fail, Frame.encode_eq_error (Nat.not_le.mp hfits)] at h
    exact ⟨_, (Option.some.inj h).symm, .inl ⟨hfits, rfl⟩⟩

/-- Any other answer is taken. -/
theorem deliver_eq_some_iff :
    c.deliver reply = some c' ↔
      reply.Fits ∧ c.takes = true ∧ c' = { c with phase := .receiving, sent := c.sent ++ [reply.framed] } := by
  by_cases hfits : reply.Fits
  · rw [deliver, Frame.encode_eq hfits, Option.ite_none_right_eq_some, Option.some.injEq]
    exact ⟨fun ⟨htakes, hstep⟩ => ⟨hfits, htakes, hstep.symm⟩, fun ⟨_, htakes, hstep⟩ => ⟨htakes, hstep.symm⟩⟩
  · rw [deliver, Frame.encode_eq_error (Nat.not_le.mp hfits)]
    exact ⟨nofun, fun ⟨h, _⟩ => absurd h hfits⟩

/-- A handler that goes on receives, carries a request out, or is rid of an answer. -/
theorem serving_cases {a : DialogueStep σ} (ha : a.IsServing) (h : c.step service a = some c') :
    (c.phase = .receiving ∧ c.receive = some c') ∨
      (∃ request, c.phase = .carrying request ∧ c' = c.carryOut service request) ∨
      ∃ reply, c.phase = .sending reply ∧ (c.fail reply = some c' ∨ c.deliver reply = some c') := by
  rcases ha with rfl | rfl <;> simp only [step] at h <;> cases hphase : c.phase <;> simp_all [eq_comm]

/-- An answer is taken, or cannot be sent. -/
theorem deliver_or_fail (c : Dialogue σ) (reply : HostReply) : (c.deliver reply).isSome ∨ (c.fail reply).isSome := by
  by_cases hfits : reply.Fits
  · rw [deliver, fail, Frame.encode_eq hfits]
    cases c.takes
    · exact .inr rfl
    · exact .inl rfl
  · rw [fail, Frame.encode_eq_error (Nat.not_le.mp hfits)]
    exact .inr rfl

end Dialogue

/-- A call of a service may never return, depending on the state that it meets. -/
def Service.Hangs (service : Service σ) (call : UInt32 × Json) : Prop :=
  ∃ b, ((service call.1 call.2).run b).value = none

/-! ## Where a handler stands -/

namespace Dialogue

open HostRequest

variable {service : Service σ} {c c' : Dialogue σ} {phase : ServingPhase} {reply : HostReply} {e : TubeError}

/-- The requests that were carried out are answered but for the last one, which gets this reply. -/
def Owes (c : Dialogue σ) (reply : HostReply) : Prop :=
  ∃ early last results own, c.handled = early ++ [last] ∧ c.results = results ++ own ∧ Answered early results c.sent ∧
    last.Gets own reply

/-- What a handler has done, by where it stands. -/
inductive Course (c : Dialogue σ) : ServingPhase → Prop where
  | receiving (front : Front c.handled c.written c.pending) (answered : Answered c.handled c.results c.sent) :
    Course c .receiving
  | carrying (request : HostRequest) (front : Front (c.handled ++ [request]) c.written c.pending)
      (answered : Answered c.handled c.results c.sent) : Course c (.carrying request)
  | sending (reply : HostReply) (front : Front c.handled c.written c.pending) (owes : c.Owes reply) : Course c (.sending reply)
  | stuck (early : List HostRequest) (code : UInt32) (data : Json) (front : Front c.handled c.written c.pending)
      (handled : c.handled = early ++ [.transact code data]) (answered : Answered early c.results c.sent) : Course c .stuck
  /-- It has received no request, and will not receive another one. -/
  | unreceived (rest : List UInt8) (e : TubeError) (front : Front c.handled c.written rest) (missing : Missing rest e)
      (cut : Frame.next rest = .incomplete → c.writes = false) (answered : Answered c.handled c.results c.sent) :
    Course c (.ended (.receive e))
  /-- It owes an answer that is too long. -/
  | overlong (reply : HostReply) (front : Front c.handled c.written c.pending) (owes : c.Owes reply) (long : ¬reply.Fits) :
    Course c (.ended (.send (.messageTooLarge (Parcel.toText reply).utf8ByteSize)))
  /-- It owes an answer that nobody takes. -/
  | left (reply : HostReply) (front : Front c.handled c.written c.pending) (owes : c.Owes reply) (fits : reply.Fits)
      (gone : c.takes = false) : Course c (.ended (.send .disconnected))

/-- Nothing changes about it when the connection is closed, or others make use of the service. -/
theorem Course.congr (h : c.Course phase) (hwritten : c'.written = c.written) (hpending : c'.pending = c.pending)
    (hhandled : c'.handled = c.handled) (hresults : c'.results = c.results) (hsent : c'.sent = c.sent)
    (hwrites : c.writes = false → c'.writes = false) (htakes : c.takes = false → c'.takes = false) : c'.Course phase := by
  obtain ⟨_, _, _, written, pending, _, handled, _, results, sent⟩ := c
  obtain ⟨_, _, _, _, _, _, _, _, _, _⟩ := c'
  dsimp only at hwritten hpending hhandled hresults hsent hwrites htakes
  subst hwritten hpending hhandled hresults hsent
  cases h with
  | receiving front answered => exact .receiving front answered
  | carrying request front answered => exact .carrying request front answered
  | sending reply front owes => exact .sending reply front owes
  | stuck early code data front handled answered => exact .stuck early code data front handled answered
  | unreceived rest e front missing cut answered =>
    exact .unreceived rest e front missing (fun hcut => hwrites (cut hcut)) answered
  | overlong reply front owes long => exact .overlong reply front owes long
  | left reply front owes fits gone => exact .left reply front owes fits (htakes gone)

/-- Bytes that are written stand behind those that were not received yet. -/
theorem Course.write (h : c.Course phase) (hopen : c.writes = true) (bytes : List UInt8) :
    ({ c with written := c.written ++ bytes, pending := c.pending ++ bytes } : Dialogue σ).Course phase := by
  cases h with
  | receiving front answered => exact .receiving (front.append bytes) answered
  | carrying request front answered => exact .carrying request (front.append bytes) answered
  | sending reply front owes => exact .sending reply (front.append bytes) owes
  | stuck early code data front handled answered => exact .stuck early code data (front.append bytes) handled answered
  | unreceived rest e front missing cut answered =>
    have hwhole : Frame.next rest ≠ .incomplete := by
      intro hcut
      rw [cut hcut] at hopen
      cases hopen
    refine .unreceived (rest ++ bytes) e (front.append bytes) (missing.append hwhole bytes) (fun hcut => ?_) answered
    cases missing with
    | cut next => exact absurd next hwhole
    | refused next => cases hcut.symm.trans (Frame.next_append_of_refused next bytes)
    | undecodable next message => cases hcut.symm.trans (Frame.next_append_of_frame next bytes)
  | overlong reply front owes long => exact .overlong reply (front.append bytes) owes long
  | left reply front owes fits gone => exact .left reply (front.append bytes) owes fits gone

/-- The handler carries a request out. -/
theorem Course.carryOut {request : HostRequest} (h : c.Course (.carrying request)) (service : Service σ) :
    (c.carryOut service request).Course (c.carryOut service request).phase := by
  cases h with
  | carrying _ front answered =>
    cases request with
    | linkToDeath =>
      exact .sending .linked front
        ⟨c.handled, .linkToDeath, c.results, [], rfl, (List.append_nil _).symm, answered, .linked⟩
    | transact code data =>
      cases hvalue : ((service code data).run c.backend).value with
      | none =>
        rw [carryOut_of_hang hvalue]
        exact .stuck c.handled code data front rfl answered
      | some r =>
        rw [carryOut_of_value hvalue]
        exact .sending (.ofResult r) front
          ⟨c.handled, .transact code data, c.results, [r], rfl, rfl, answered, gets_ofResult code data r⟩

/-! ## Every step keeps it -/

/-- What holds of a dialogue after any steps. -/
structure Sound (service : Service σ) (c : Dialogue σ) : Prop where
  course : c.Course c.phase
  /-- The calls are those that the requests ask for. -/
  calls : c.calls = HostRequest.calls c.handled
  /-- They have come to these results, but for the one that a stuck handler waits for. -/
  results : ∃ early late, c.calls = early ++ late ∧ List.Forall₂ service.Gives early c.results ∧
    (∀ call ∈ late, service.Hangs call) ∧ (c.phase = .stuck ↔ late ≠ [])

/-- Nothing is done yet. -/
theorem sound_start (service : Service σ) (backend : σ) : (start backend).Sound service where
  course := .receiving (front_nil_iff.mpr rfl) answered_nil
  calls := rfl
  results := ⟨[], [], rfl, .nil, List.forall_mem_nil _, by simp [start]⟩

/-- What a call adds to the calls and to the results. -/
theorem Sound.carryOut {request : HostRequest} (h : c.Sound service) (hphase : c.phase = .carrying request) :
    (c.carryOut service request).Sound service := by
  have hcourse := h.course
  rw [hphase] at hcourse
  obtain ⟨early, late, hcalls, hgives, -, hlate⟩ := h.results
  have hbusy : c.phase ≠ .stuck := by
    rw [hphase]
    exact nofun
  obtain rfl := not_ne_iff.mp fun hnonempty => hbusy (hlate.mpr hnonempty)
  rw [List.append_nil] at hcalls
  rw [← hcalls] at hgives
  refine ⟨hcourse.carryOut service, ?_, ?_⟩
  · cases request with
    | linkToDeath => exact h.calls.trans (by simp [Dialogue.carryOut, HostRequest.calls, call?])
    | transact code data =>
      have hall : c.calls ++ [(code, data)] = HostRequest.calls (c.handled ++ [.transact code data]) := by
        rw [h.calls, HostRequest.calls, HostRequest.calls, List.filterMap_append]
        rfl
      exact hall
  · cases request with
    | linkToDeath => exact ⟨c.calls, [], (List.append_nil _).symm, hgives, List.forall_mem_nil _, by simp [Dialogue.carryOut]⟩
    | transact code data =>
      cases hvalue : ((service code data).run c.backend).value with
      | none =>
        rw [carryOut_of_hang hvalue]
        exact ⟨c.calls, [(code, data)], rfl, hgives, List.forall_mem_singleton.mpr ⟨c.backend, hvalue⟩, by simp⟩
      | some r =>
        rw [carryOut_of_value hvalue]
        refine ⟨c.calls ++ [(code, data)], [], (List.append_nil _).symm, ?_, List.forall_mem_nil _, by simp⟩
        exact List.rel_append hgives (.cons ⟨c.backend, hvalue⟩ .nil)

/-- A step that makes no call leaves the calls and the results. -/
theorem Sound.of_course (h : c.Sound service) (hcourse : c'.Course c'.phase) (hcalls : c'.calls = c.calls)
    (hhandled : c'.handled = c.handled) (hresults : c'.results = c.results) (hstuck : c'.phase = .stuck ↔ c.phase = .stuck) :
    c'.Sound service := by
  refine ⟨hcourse, by rw [hcalls, hhandled, h.calls], ?_⟩
  rw [hcalls, hresults, hstuck]
  exact h.results

/-- The handler receives a request, or finds that it will not receive one. -/
theorem Sound.receive (h : c.Sound service) (hphase : c.phase = .receiving) (hstep : c.receive = some c') : c'.Sound service := by
  have hcourse := h.course
  rw [hphase] at hcourse
  cases hcourse with
  | receiving front answered =>
    obtain ⟨body, rest, request, hnext, hbody, rfl⟩ | ⟨e, rest, hmissing, hcut, -, rfl⟩ := receive_cases hstep
    · exact h.of_course (.carrying request (front.concat hnext hbody) answered) rfl rfl rfl (by simp [hphase])
    · exact h.of_course (.unreceived c.pending e front hmissing hcut answered) rfl rfl rfl (by simp [hphase])

/-- It leaves its loop with an answer that it owes. -/
theorem Sound.fail (h : c.Sound service) (hphase : c.phase = .sending reply) (hstep : c.fail reply = some c') :
    c'.Sound service := by
  have hcourse := h.course
  rw [hphase] at hcourse
  cases hcourse with
  | sending _ front owes =>
    obtain ⟨e, rfl, ⟨hlong, rfl⟩ | ⟨hfits, hgone, rfl⟩⟩ := fail_cases hstep
    · exact h.of_course (.overlong reply front owes hlong) rfl rfl rfl (by simp [hphase])
    · exact h.of_course (.left reply front owes hfits hgone) rfl rfl rfl (by simp [hphase])

/-- Its answer is taken. -/
theorem Sound.deliver (h : c.Sound service) (hphase : c.phase = .sending reply) (hstep : c.deliver reply = some c') :
    c'.Sound service := by
  have hcourse := h.course
  rw [hphase] at hcourse
  cases hcourse with
  | sending _ front owes =>
    obtain ⟨hfits, -, rfl⟩ := deliver_eq_some_iff.mp hstep
    obtain ⟨early, last, results, own, hhandled, hresults, hanswered, hlast⟩ := owes
    have hall := hanswered.concat hlast hfits
    rw [← hhandled, ← hresults] at hall
    exact h.of_course (.receiving front hall) rfl rfl rfl (by simp [hphase])

/-- Whoever takes the step. -/
theorem Sound.step {a : DialogueStep σ} (h : c.Sound service) (hstep : c.step service a = some c') : c'.Sound service := by
  cases a with
  | write bytes =>
    rw [Dialogue.step, Option.ite_none_right_eq_some] at hstep
    obtain ⟨hopen, hstep⟩ := hstep
    obtain rfl := Option.some.inj hstep
    exact h.of_course (h.course.write hopen bytes) rfl rfl rfl Iff.rfl
  | close writing taking =>
    obtain rfl := Option.some.inj hstep
    exact h.of_course (h.course.congr rfl rfl rfl rfl rfl (by simp_all) (by simp_all)) rfl rfl rfl Iff.rfl
  | other backend =>
    obtain rfl := Option.some.inj hstep
    exact h.of_course (h.course.congr rfl rfl rfl rfl rfl id id) rfl rfl rfl Iff.rfl
  | take | handler =>
    obtain ⟨hphase, hreceive⟩ | ⟨request, hphase, rfl⟩ | ⟨reply, hphase, hfail | hdeliver⟩ :=
      serving_cases (by simp [DialogueStep.IsServing]) hstep
    · exact h.receive hphase hreceive
    · exact h.carryOut hphase
    · exact h.fail hphase hfail
    · exact h.deliver hphase hdeliver

/-- So it holds after any steps. -/
theorem Sound.run (h : c.Sound service) (steps : List (DialogueStep σ)) : (c.run service steps).Sound service := by
  induction steps generalizing c with
  | nil => exact h
  | cons a steps ih =>
    refine ih (c := (c.step service a).getD c) ?_
    cases hstep : c.step service a with
    | none => exact h
    | some c' => exact h.step hstep

/-! ## How far the handler has come -/

/-- The requests that were carried out are a front of what was written. -/
theorem Course.front (h : c.Course phase) : ∃ rest, Front c.handled c.written rest := by
  cases h with
  | carrying request front answered =>
    obtain ⟨middle, hfront, -⟩ := front_append_iff.mp front
    exact ⟨middle, hfront⟩
  | unreceived rest e front missing cut answered => exact ⟨rest, front⟩
  | receiving front | sending reply front | stuck early code data front | overlong reply front | left reply front =>
    exact ⟨c.pending, front⟩

/-- All of them are answered, or all but the last one. -/
theorem Course.answered (h : c.Course phase) :
    ∃ early late results own, c.handled = early ++ late ∧ late.length ≤ 1 ∧ c.results = results ++ own ∧
      Answered early results c.sent := by
  cases h with
  | receiving front answered | carrying request front answered | unreceived rest e front missing cut answered =>
    exact ⟨c.handled, [], c.results, [], (List.append_nil _).symm, Nat.zero_le 1, (List.append_nil _).symm, answered⟩
  | stuck early code data front handled answered =>
    exact ⟨early, _, c.results, [], handled, Nat.le_refl 1, (List.append_nil _).symm, answered⟩
  | sending reply front owes | overlong reply front owes | left reply front owes =>
    obtain ⟨early, last, results, own, hhandled, hresults, hanswered, -⟩ := owes
    exact ⟨early, [last], results, own, hhandled, Nat.le_refl 1, hresults, hanswered⟩

end Dialogue

/-! ## Until it comes to rest -/

/-- The steps that a handler still takes with the request in its hands. -/
def ServingPhase.remaining : ServingPhase → Nat
  | .receiving => 1
  | .carrying _ => 3
  | .sending _ => 2
  | .stuck | .ended _ => 0

namespace Dialogue

variable {service : Service σ} {c c' : Dialogue σ} {a : DialogueStep σ}

/-- A bound on the steps that the handler has before it. -/
def remaining (c : Dialogue σ) : Nat :=
  4 * c.pending.length + c.phase.remaining

/-- Every step of it leaves fewer. -/
theorem remaining_step (ha : a.IsServing) (h : c.step service a = some c') : c'.remaining < c.remaining := by
  obtain ⟨hphase, hreceive⟩ | ⟨request, hphase, rfl⟩ | ⟨reply, hphase, hfail | hdeliver⟩ := serving_cases ha h
  · obtain ⟨body, rest, request, hnext, -, rfl⟩ | ⟨e, rest, -, -, hrest, rfl⟩ := receive_cases hreceive
    · have hrest := Frame.length_of_next_frame hnext
      simp only [remaining, hphase, ServingPhase.remaining]
      omega
    · simp only [remaining, hphase, ServingPhase.remaining]
      omega
  · cases request with
    | linkToDeath => simp [remaining, hphase, ServingPhase.remaining, carryOut]
    | transact code data =>
      cases hvalue : ((service code data).run c.backend).value with
      | none => simp [carryOut_of_hang hvalue, remaining, hphase, ServingPhase.remaining]
      | some r => simp [carryOut_of_value hvalue, remaining, hphase, ServingPhase.remaining]
  · obtain ⟨e, rfl, -⟩ := fail_cases hfail
    simp [remaining, hphase, ServingPhase.remaining]
  · obtain ⟨-, -, rfl⟩ := deliver_eq_some_iff.mp hdeliver
    simp [remaining, hphase, ServingPhase.remaining]

/-- Later steps begin where the earlier ones end. -/
theorem run_append (steps more : List (DialogueStep σ)) : c.run service (steps ++ more) = (c.run service steps).run service more :=
  List.foldl_append

/-- A possible step is taken. -/
theorem run_cons (h : c.step service a = some c') (more : List (DialogueStep σ)) :
    c.run service (a :: more) = c'.run service more := by
  rw [run, List.foldl_cons, h]
  rfl

/-- Neither the handler nor the answer that it is sending can go on. -/
def AtRest (service : Service σ) (c : Dialogue σ) : Prop :=
  ∀ a : DialogueStep σ, a.IsServing → c.step service a = none

/-- There it has left its loop, or waits for the service, or for a client that may write more. -/
theorem AtRest.cases (h : c.AtRest service) :
    (∃ reason, c.phase = .ended reason) ∨ c.phase = .stuck ∨
      c.phase = .receiving ∧ c.writes = true ∧ Frame.next c.pending = .incomplete := by
  have hhandler := h .handler (.inl rfl)
  have htake := h .take (.inr rfl)
  cases hphase : c.phase with
  | receiving =>
    simp only [Dialogue.step, hphase] at hhandler
    exact .inr (.inr ⟨rfl, receive_eq_none_iff.mp hhandler⟩)
  | carrying request =>
    simp only [Dialogue.step, hphase] at hhandler
    cases hhandler
  | sending reply =>
    simp only [Dialogue.step, hphase] at hhandler htake
    have hsome := deliver_or_fail c reply
    simp [hhandler, htake] at hsome
  | stuck => exact .inr (.inl rfl)
  | ended reason => exact .inl ⟨reason, rfl⟩

end Dialogue

/-! ## A handler that has the service for itself -/

namespace Service

variable {service : Service σ} {calls : List (UInt32 × Json)} {results : List (Except ServiceError Json)} {b : σ}

/-- One more call is made in the state that the others have left. -/
theorem run_transactAll_concat (h : ((service.transactAll calls).run b).value = some results) (code : UInt32) (data : Json) :
    ((service.transactAll (calls ++ [(code, data)])).run b).value =
        ((service code data).run ((service.transactAll calls).run b).state).value.map (results ++ [·]) ∧
      ((service.transactAll (calls ++ [(code, data)])).run b).state =
        ((service code data).run ((service.transactAll calls).run b).state).state := by
  induction calls generalizing b results with
  | nil =>
    obtain rfl := Option.some.inj h
    rw [List.nil_append, run_transactAll_nil]
    cases hr : ((service code data).run b).value with
    | none => exact run_transactAll_of_hang [] hr
    | some r => exact run_transactAll_cons [] hr
  | cons call calls ih =>
    obtain ⟨first, payload⟩ := call
    cases hr : ((service first payload).run b).value with
    | none =>
      rw [(run_transactAll_of_hang calls hr).1] at h
      cases h
    | some r =>
      obtain ⟨hvalue, hstate⟩ := run_transactAll_cons calls hr
      rw [hvalue, Option.map_eq_some_iff] at h
      obtain ⟨others, hothers, rfl⟩ := h
      obtain ⟨hvalue', hstate'⟩ := run_transactAll_cons (calls ++ [(code, data)]) hr
      obtain ⟨hlast, hleft⟩ := ih hothers
      rw [List.cons_append, hvalue', hstate', hstate, hlast, hleft, Option.map_map]
      exact ⟨rfl, rfl⟩

end Service

namespace Dialogue

variable {service : Service σ} {c c' : Dialogue σ} {a : DialogueStep σ} {b : σ}

/-- The calls of the handler, one after another, come to its results and leave the state of the service. -/
structure Alone (service : Service σ) (b : σ) (c : Dialogue σ) : Prop where
  state : ((service.transactAll c.calls).run b).state = c.backend
  results : c.phase ≠ .stuck → ((service.transactAll c.calls).run b).value = some c.results
  stuck : c.phase = .stuck → ((service.transactAll c.calls).run b).value = none

/-- A step that makes no call keeps that. -/
theorem Alone.of_eq (h : c.Alone service b) (hcalls : c'.calls = c.calls) (hbackend : c'.backend = c.backend)
    (hresults : c'.results = c.results) (hphase : c'.phase = .stuck ↔ c.phase = .stuck) : c'.Alone service b := by
  refine ⟨?_, fun hbusy => ?_, fun hstuck => ?_⟩
  · rw [hcalls, hbackend, h.state]
  · rw [hcalls, hresults, h.results fun hstuck => hbusy (hphase.mpr hstuck)]
  · rw [hcalls, h.stuck (hphase.mp hstuck)]

/-- So does one that makes a call. -/
theorem Alone.carryOut {request : HostRequest} (h : c.Alone service b) (hphase : c.phase = .carrying request) :
    (c.carryOut service request).Alone service b := by
  have hbusy : c.phase ≠ .stuck := by
    rw [hphase]
    exact nofun
  have hresults := h.results hbusy
  cases request with
  | linkToDeath => exact h.of_eq rfl rfl rfl (by simp [Dialogue.carryOut, hphase])
  | transact code data =>
    obtain ⟨hvalue, hstate⟩ := Service.run_transactAll_concat hresults code data
    rw [h.state] at hvalue hstate
    cases hr : ((service code data).run c.backend).value with
    | none =>
      rw [hr] at hvalue
      rw [carryOut_of_hang hr]
      exact ⟨hstate, fun hbusy => absurd rfl hbusy, fun _ => hvalue⟩
    | some r =>
      rw [hr] at hvalue
      rw [carryOut_of_value hr]
      exact ⟨hstate, fun _ => hvalue, nofun⟩

/-- As long as nobody else makes use of the service. -/
theorem Alone.step (h : c.Alone service b) (ha : ∀ backend, a ≠ .other backend) (hstep : c.step service a = some c') :
    c'.Alone service b := by
  cases a with
  | write bytes =>
    rw [Dialogue.step, Option.ite_none_right_eq_some] at hstep
    obtain rfl := Option.some.inj hstep.2
    exact h.of_eq rfl rfl rfl Iff.rfl
  | close writing taking =>
    obtain rfl := Option.some.inj hstep
    exact h.of_eq rfl rfl rfl Iff.rfl
  | other backend => exact absurd rfl (ha backend)
  | take | handler =>
    obtain ⟨hphase, hreceive⟩ | ⟨request, hphase, rfl⟩ | ⟨reply, hphase, hfail | hdeliver⟩ :=
      serving_cases (by simp [DialogueStep.IsServing]) hstep
    · obtain ⟨body, rest, request, -, -, rfl⟩ | ⟨e, rest, -, -, -, rfl⟩ := receive_cases hreceive
      · exact h.of_eq rfl rfl rfl (by simp [hphase])
      · exact h.of_eq rfl rfl rfl (by simp [hphase])
    · exact h.carryOut hphase
    · obtain ⟨e, rfl, -⟩ := fail_cases hfail
      exact h.of_eq rfl rfl rfl (by simp [hphase])
    · obtain ⟨-, -, rfl⟩ := deliver_eq_some_iff.mp hdeliver
      exact h.of_eq rfl rfl rfl (by simp [hphase])

/-- So it is after any steps among which nobody else does. -/
theorem Alone.run (h : c.Alone service b) {steps : List (DialogueStep σ)} (hsteps : ∀ backend, .other backend ∉ steps) :
    (c.run service steps).Alone service b := by
  induction steps generalizing c with
  | nil => exact h
  | cons a steps ih =>
    have hrest : ∀ backend, .other backend ∉ steps := fun backend hmem => hsteps backend (List.mem_cons_of_mem a hmem)
    refine ih (c := (c.step service a).getD c) ?_ hrest
    cases hstep : c.step service a with
    | none => exact h
    | some c' =>
      refine h.step (fun backend ha => ?_) hstep
      rw [ha] at hsteps
      exact hsteps backend List.mem_cons_self

end Dialogue

end Switchboard
