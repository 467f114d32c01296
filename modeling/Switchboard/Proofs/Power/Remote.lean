import Switchboard.Proofs.Parcel.RoundTrip
import Switchboard.Proofs.Power.Queries
import Switchboard.Proofs.Socket.Transparency

/-!
# Queries about power over transactions

The stub reads the query and the ids that the proxy sent, and the proxy reads the items that the stub sent: over its own stub the
proxy is the implementation (`PowerStats.proxy_stub`), but that the ids of a query that takes none are dropped. `forwarding_law`
says so of an object in the same process, whatever the implementation does: each query is asked of it once, with the ids as
they were given, and its items or its error come back.
-/

namespace Switchboard

variable {σ : Type}

namespace PowerQuery

/-- The ids that a query is asked with. -/
def given (q : PowerQuery) (ids : List Int32) : List Int32 :=
  if q.takesIds then ids else []

/-- No two queries have one transaction. -/
@[simp] theorem ofCode?_code (q : PowerQuery) : ofCode? q.code = some q := by
  cases q <;> rfl

/-- The shapes of all items are faithful. -/
theorem isFaithful_items (q : PowerQuery) : (Parcel.shape (List q.Item)).isFaithful = true := by
  cases q <;> decide

end PowerQuery

namespace PowerStats

variable {hal : PowerStats σ} {q : PowerQuery} {ids : List Int32}

/-- The ids of a query are read from its payload; no ids are no ids. -/
theorem readIds_payload (h : q.takesIds = true) : readIds (q.payload ids) = .ok ids := by
  rw [readIds, PowerQuery.payload, if_pos h, readParcel_toJson (by decide)]
  rfl

/-- A reply is the payload of what the implementation gives. -/
theorem reply_eq (hal : PowerStats σ) (q : PowerQuery) (ids : List Int32) :
    reply hal q ids = Except.map Parcel.toJson <$> hal q ids := by
  rw [reply, map_eq_pure_bind]
  refine congrArg (hal q ids >>= ·) (funext fun answer => ?_)
  cases answer <;> rfl

/-- The stub answers the payload of a query from the implementation. -/
theorem stub_payload (hal : PowerStats σ) (q : PowerQuery) (ids : List Int32) :
    stub hal q.code (q.payload ids) = reply hal q (q.given ids) := by
  rw [stub, PowerQuery.ofCode?_code, PowerQuery.given]
  dsimp only
  by_cases h : q.takesIds = true
  · rw [if_pos h, if_pos h, readIds_payload h]
  · rw [if_neg h, if_neg h]

/-- The items of an answer are read back, and an error stays as it is. -/
theorem read_reply (q : PowerQuery) (answer : Except ServiceError (List q.Item)) :
    (answer.map Parcel.toJson).bind (readParcel (List q.Item)) = answer := by
  cases answer with
  | error e => rfl
  | ok items => exact readParcel_toJson q.isFaithful_items items

/-- Over its stub the proxy is the implementation. -/
theorem proxy_stub (hal : PowerStats σ) (q : PowerQuery) (ids : List Int32) :
    proxy (stub hal) q ids = hal q (q.given ids) := by
  have hstub := stub_payload hal q ids
  rw [PowerQuery.payload] at hstub
  rw [proxy, Service.transact_eq, hstub, reply_eq, Functor.map_map]
  simp only [read_reply, id_map']

end PowerStats

/-! ## In the same process -/

namespace World

variable {w : World σ} {n : Nat}

/-- The world after one more transaction on an object of the process. -/
def transacted (n : Nat) (backend : σ) (w : World σ) : World σ :=
  { w with directory := w.directory.update n (·.count), backend }

/-- Over an object of the process the proxy is the implementation, on the state of the services. -/
theorem run_proxy_process {hal : PowerStats σ} (h : w.Answers n (PowerStats.stub hal)) (q : PowerQuery) (ids : List Int32) :
    (PowerStats.proxy (transact (.process n)) q ids).run w =
      ⟨((hal q (q.given ids)).run w.backend).value, w.transacted n ((hal q (q.given ids)).run w.backend).state,
        ((hal q (q.given ids)).run w.backend).log⟩ := by
  have hproxy := PowerStats.proxy_stub hal q ids
  rw [PowerStats.proxy, Service.transact_eq] at hproxy ⊢
  rw [Act.run_map, run_transact_process h, ← hproxy, Act.run_map]
  rfl

end World

namespace PowerStats

/-- What a query came to. -/
abbrev Answered : Type :=
  (q : PowerQuery) × Except ServiceError (List q.Item)

/-- Asks one query after the other. -/
def askAll (hal : PowerStats σ) : List PowerRequest → Act σ (List Answered)
  | [] => pure []
  | request :: rest => do
    let answer ← hal request.query request.ids
    let answers ← hal.askAll rest
    pure (⟨request.query, answer⟩ :: answers)

variable {hal : PowerStats σ} {request : PowerRequest} {b : σ} (rest : List PowerRequest)

/-- Behind a query that waits forever there is no other. -/
theorem run_askAll_of_hang (h : ((hal request.query request.ids).run b).value = none) :
    ((hal.askAll (request :: rest)).run b).value = none ∧
      ((hal.askAll (request :: rest)).run b).state = ((hal request.query request.ids).run b).state := by
  rw [askAll, Act.run_bind_of_hang h]
  exact ⟨rfl, rfl⟩

/-- The others follow the first one. -/
theorem run_askAll_cons {answer : Except ServiceError (List request.query.Item)}
    (h : ((hal request.query request.ids).run b).value = some answer) :
    ((hal.askAll (request :: rest)).run b).value =
        ((hal.askAll rest).run ((hal request.query request.ids).run b).state).value.map (⟨request.query, answer⟩ :: ·) ∧
      ((hal.askAll (request :: rest)).run b).state =
        ((hal.askAll rest).run ((hal request.query request.ids).run b).state).state := by
  rw [askAll, Act.run_bind_of_value h, Act.run_bind]
  cases ((hal.askAll rest).run ((hal request.query request.ids).run b).state).value with
  | none => exact ⟨rfl, rfl⟩
  | some answers => exact ⟨rfl, rfl⟩

/-- An implementation that writes down what it is asked goes to work as it did. -/
theorem run_recorded (hal : PowerStats σ) (q : PowerQuery) (ids : List Int32) (r : PowerRecord σ) :
    (hal.recorded q ids).run r =
      ⟨((hal q ids).run r.backend).value, ⟨((hal q ids).run r.backend).state, r.requests ++ [⟨q, ids⟩]⟩,
        ((hal q ids).run r.backend).log⟩ :=
  rfl

/-- It has written down all it was asked once it has answered all. -/
theorem run_askAll_recorded (hal : PowerStats σ) (requests : List PowerRequest) (r : PowerRecord σ) :
    ((hal.recorded.askAll requests).run r).value = ((hal.askAll requests).run r.backend).value ∧
      ((hal.recorded.askAll requests).run r).state.backend = ((hal.askAll requests).run r.backend).state ∧
      (((hal.askAll requests).run r.backend).value ≠ none →
        ((hal.recorded.askAll requests).run r).state.requests = r.requests ++ requests) := by
  induction requests generalizing r with
  | nil => exact ⟨rfl, rfl, fun _ => (List.append_nil _).symm⟩
  | cons request rest ih =>
    have hrun := hal.run_recorded request.query request.ids r
    cases hv : ((hal request.query request.ids).run r.backend).value with
    | none =>
      obtain ⟨hvalue, hstate⟩ := run_askAll_of_hang rest ((congrArg Outcome.value hrun).trans hv)
      obtain ⟨hasked, hleft⟩ := run_askAll_of_hang rest hv
      rw [hvalue, hstate, hasked, hleft, hrun]
      exact ⟨rfl, rfl, fun h => absurd rfl h⟩
    | some answer =>
      obtain ⟨hvalue, hstate⟩ := run_askAll_cons rest ((congrArg Outcome.value hrun).trans hv)
      obtain ⟨hasked, hleft⟩ := run_askAll_cons rest hv
      rw [hrun] at hvalue hstate
      obtain ⟨hvalues, hbackend, hrequests⟩ :=
        ih ⟨((hal request.query request.ids).run r.backend).state, r.requests ++ [request]⟩
      rw [hvalue, hstate, hasked, hleft, hvalues, hbackend]
      refine ⟨rfl, rfl, fun hcame => ?_⟩
      rw [hrequests fun hnone => hcame (by rw [hnone]; rfl), List.append_assoc]
      rfl

end PowerStats

/-- The request that an implementation gets. -/
def PowerRequest.given (request : PowerRequest) : PowerRequest :=
  ⟨request.query, request.query.given request.ids⟩

namespace World

variable {w : World σ} {n : Nat} {hal : PowerStats σ}

/-- Queries through the proxy, one after the other, are those of the implementation. -/
theorem run_askAll_process (h : w.Answers n (PowerStats.stub hal)) (requests : List PowerRequest) :
    ((PowerStats.askAll (PowerStats.proxy (transact (.process n))) requests).run w).value =
        ((hal.askAll (requests.map PowerRequest.given)).run w.backend).value ∧
      ((PowerStats.askAll (PowerStats.proxy (transact (.process n))) requests).run w).state.backend =
        ((hal.askAll (requests.map PowerRequest.given)).run w.backend).state := by
  induction requests generalizing w with
  | nil => exact ⟨rfl, rfl⟩
  | cons request rest ih =>
    have hrun := run_proxy_process h request.query request.ids
    rw [List.map_cons]
    cases hv : ((hal request.given.query request.given.ids).run w.backend).value with
    | none =>
      obtain ⟨hvalue, hstate⟩ := PowerStats.run_askAll_of_hang rest ((congrArg Outcome.value hrun).trans hv)
      obtain ⟨hasked, hleft⟩ := PowerStats.run_askAll_of_hang (rest.map PowerRequest.given) hv
      rw [hvalue, hstate, hasked, hleft, hrun]
      exact ⟨rfl, rfl⟩
    | some answer =>
      obtain ⟨hvalue, hstate⟩ := PowerStats.run_askAll_cons rest ((congrArg Outcome.value hrun).trans hv)
      obtain ⟨hasked, hleft⟩ := PowerStats.run_askAll_cons (rest.map PowerRequest.given) hv
      rw [hrun] at hvalue hstate
      obtain ⟨hvalues, hbackend⟩ := ih (h.after_transact ((hal request.given.query request.given.ids).run w.backend).state)
      rw [hvalue, hstate, hasked, hleft]
      exact ⟨congrArg _ hvalues, hbackend⟩

end World

/-! ## The law -/

/-- What an implementation is asked over an object in the same process, and what comes back. -/
structure ForwardingLaw (hal : PowerStats σ) : Prop where
  /-- A query comes to what the implementation makes of it with the ids that were given: the same items or the same error, or no
  answer at all, and the same state and records; there is one transaction more. -/
  asked : ∀ (w : World σ) (n : Nat) (q : PowerQuery) (ids : List Int32), w.Answers n (PowerStats.stub hal) →
    (PowerStats.proxy (World.transact (.process n)) q ids).run w =
      ⟨((hal q (q.given ids)).run w.backend).value, w.transacted n ((hal q (q.given ids)).run w.backend).state,
        ((hal q (q.given ids)).run w.backend).log⟩
  /-- The implementation gets that one request, whatever it makes of it. -/
  noted : ∀ (w : World (PowerRecord σ)) (n : Nat) (q : PowerQuery) (ids : List Int32),
    w.Answers n (PowerStats.stub hal.recorded) →
    ((PowerStats.proxy (World.transact (.process n)) q ids).run w).value =
        ((hal q (q.given ids)).run w.backend.backend).value ∧
      ((PowerStats.proxy (World.transact (.process n)) q ids).run w).state.backend =
        ⟨((hal q (q.given ids)).run w.backend.backend).state, w.backend.requests ++ [⟨q, q.given ids⟩]⟩
  /-- Queries that follow one another come to what they come to when the implementation is asked directly, and it gets each of
  them, in their order. -/
  in_turn : ∀ (w : World (PowerRecord σ)) (n : Nat) (requests : List PowerRequest),
    w.Answers n (PowerStats.stub hal.recorded) →
    ((PowerStats.askAll (PowerStats.proxy (World.transact (.process n))) requests).run w).value =
        ((hal.askAll (requests.map PowerRequest.given)).run w.backend.backend).value ∧
      ((PowerStats.askAll (PowerStats.proxy (World.transact (.process n))) requests).run w).state.backend.backend =
        ((hal.askAll (requests.map PowerRequest.given)).run w.backend.backend).state ∧
      (((hal.askAll (requests.map PowerRequest.given)).run w.backend.backend).value ≠ none →
        ((PowerStats.askAll (PowerStats.proxy (World.transact (.process n))) requests).run w).state.backend.requests =
          w.backend.requests ++ requests.map PowerRequest.given)

/-- The law of queries over an object in the same process, for every implementation. -/
theorem forwarding_law (hal : PowerStats σ) : ForwardingLaw hal := by
  constructor
  case asked => exact fun w n q ids h => World.run_proxy_process h q ids
  case noted =>
    intro w n q ids h
    rw [World.run_proxy_process h, PowerStats.run_recorded]
    exact ⟨rfl, rfl⟩
  case in_turn =>
    intro w n requests h
    obtain ⟨hvalue, hbackend⟩ := World.run_askAll_process h requests
    rw [hvalue, hbackend]
    exact hal.run_askAll_recorded _ _

/-! ### Ids at the ends of their range -/

namespace Forwarded

/-- A process with the sample device, which has not been asked anything. -/
def world : World (PowerRecord Device) :=
  { World.new ⟨.sample, []⟩ "d" with
    directory := (Directory.empty.register powerServiceName (PowerStats.stub Device.stats.recorded)).2 }

def requests : List PowerRequest :=
  [⟨.consumed, [1, 0, 1]⟩, ⟨.readings, [2147483647, -2147483648]⟩, ⟨.consumers, []⟩]

/-- What the device answers. -/
def replies : List PowerStats.Answered :=
  [⟨.consumed, .ok [(⟨1, 60000, 480000⟩ : EnergyConsumerResult), ⟨0, 60000, 1250000⟩, ⟨1, 60000, 480000⟩]⟩,
    ⟨.readings, .error (.failedTransaction "invalid channel id 2147483647")⟩, ⟨.consumers, .ok ([0, 1] : List Int32)⟩]

/-- The object answers for the stub. -/
theorem answers : world.Answers 0 (PowerStats.stub Device.stats.recorded) :=
  ⟨_, rfl, rfl, rfl, rfl⟩

end Forwarded

/-- Items come in the order of the ids, and twice where an id is there twice; the error is that of the device. -/
theorem sample_forwarded :
    ((PowerStats.askAll (PowerStats.proxy (World.transact (.process 0))) Forwarded.requests).run Forwarded.world).value =
        some Forwarded.replies ∧
      ((PowerStats.askAll (PowerStats.proxy (World.transact (.process 0))) Forwarded.requests).run
        Forwarded.world).state.backend.requests = Forwarded.requests := by
  obtain ⟨hvalue, -, hrequests⟩ :=
    (forwarding_law Device.stats).in_turn Forwarded.world 0 Forwarded.requests Forwarded.answers
  have hasked : ((Device.stats.askAll (Forwarded.requests.map PowerRequest.given)).run .sample).value =
      some Forwarded.replies := rfl
  exact ⟨hvalue.trans hasked, hrequests fun hnone => nomatch hasked.symm.trans hnone⟩

end Switchboard
