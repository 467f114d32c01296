import Switchboard.Proofs.Capture.Words
import Switchboard.Proofs.Parcel.Retract
import Switchboard.Proofs.Power.Remote

/-!
# What stubs ask of implementations

A transaction means at most one call on the implementation behind a stub: `PowerRequest.Meant` and `CaptureCall.Meant` say which,
by the number of the transaction and its payload. The stub makes that call and no other, and makes its reply of what the call
brings; a transaction that means no call is refused before the implementation is asked anything. `DispatchLaw` says so of any
stub, and `stubs_law` of the two that there are.
-/

namespace Switchboard

/-! ## What a payload holds -/

/-- The payload holds ids: null no ids, and a list its items, which are all ids. -/
inductive HoldsIds : Json → List Int32 → Prop where
  | null : HoldsIds .null []
  | list (ids : List Int32) : HoldsIds (.array (ids.map fun id => .number (.int id.toInt))) ids

/-- What cannot be read is reported as a payload that cannot be decoded. -/
theorem badParcel_of_unread {α : Type} [Parcel α] {data : Json} (h : ∀ x, readParcel α data ≠ .ok x) :
    ∃ fault, readParcel α data = .error (.badParcel fault) := by
  rw [readParcel] at h ⊢
  cases hread : Parcel.ofJson (α := α) data with
  | error fault => exact ⟨fault, rfl⟩
  | ok x => exact absurd (by rw [hread]; rfl) (h x)

/-- A user is read from its number, and from nothing else. -/
theorem readParcel_user_iff {data : Json} {user : UserId} :
    readParcel UserId data = .ok user ↔ data = .number (.int user.number.toInt) :=
  readParcel_iff rfl (fun _ => rfl) data user

/-- The number tells the user. -/
theorem UserId.eq_of_written {data : Json} {user user' : UserId} (h : data = .number (.int user.number.toInt))
    (h' : data = .number (.int user'.number.toInt)) : user = user' :=
  Except.ok.inj ((readParcel_user_iff.mpr h).symm.trans (readParcel_user_iff.mpr h'))

/-- A flag is read from a flag, and from nothing else. -/
theorem readParcel_bool_iff {data : Json} {b : Bool} : readParcel Bool data = .ok b ↔ data = .bool b :=
  readParcel_iff rfl (fun _ => rfl) data b

/-- Items are all ids if they are what ids are written as. -/
theorem denotes_ids_iff {items : List Json} {ids : List Int32} :
    List.Forall₂ (Shape.int .i32).Denotes items ids ↔ items = ids.map fun id => .number (.int id.toInt) := by
  induction ids generalizing items with
  | nil => exact List.forall₂_nil_right_iff
  | cons id ids ih =>
    refine List.forall₂_cons_right_iff.trans ?_
    constructor
    · rintro ⟨v, rest, rfl, hrest, rfl⟩
      rw [ih.mp hrest]
      rfl
    · rintro rfl
      exact ⟨_, _, rfl, ih.mpr rfl, rfl⟩

/-- What may be ids is read as what it denotes. -/
theorem readParcel_optionalIds_iff (data : Json) (ids : Option (List Int32)) :
    readParcel (Option (List Int32)) data = .ok ids ↔
      (Parcel.shape (Option (List Int32))).Denotes data (Parcel.toCarrier ids) :=
  readParcel_iff (by decide) (Parcel.isFull_option (Parcel.isFull_list fun _ => rfl)) data ids

/-- Ids are read from what holds them. -/
theorem readIds_iff {data : Json} {ids : List Int32} : PowerStats.readIds data = .ok ids ↔ HoldsIds data ids := by
  rw [PowerStats.readIds, map_eq_ok_iff]
  constructor
  · rintro ⟨read, hread, rfl⟩
    have hdenotes := (readParcel_optionalIds_iff data read).mp hread
    cases read with
    | none =>
      obtain rfl : data = .null := hdenotes
      exact .null
    | some ids =>
      obtain ⟨-, items, rfl, hitems⟩ := hdenotes
      obtain rfl : items = List.map _ (List.map id ids) := denotes_ids_iff.mp hitems
      rw [List.map_id]
      exact .list ids
  · intro h
    cases h with
    | null => exact ⟨none, (readParcel_optionalIds_iff _ _).mpr rfl, rfl⟩
    | list =>
      have hitems : List.Forall₂ (Shape.int .i32).Denotes (ids.map fun id => .number (.int id.toInt)) (List.map id ids) :=
        denotes_ids_iff.mpr (congrArg (List.map _) (List.map_id ids).symm)
      exact ⟨some ids, (readParcel_optionalIds_iff _ _).mpr ⟨Json.noConfusion, _, rfl, hitems⟩, rfl⟩

/-- One item that is no id spoils the whole list, wherever it stands. -/
theorem HoldsIds.of_item {front rest : List Json} {v : Json} {ids : List Int32} (h : HoldsIds (.array (front ++ v :: rest)) ids) :
    ∃ id : Int32, v = .number (.int id.toInt) := by
  generalize hdata : Json.array (front ++ v :: rest) = data at h
  cases h with
  | null => cases hdata
  | list =>
    have hmem : v ∈ ids.map fun id => Json.number (.int id.toInt) := Json.array.inj hdata ▸ by simp
    obtain ⟨id, -, hid⟩ := List.mem_map.mp hmem
    exact ⟨id, hid.symm⟩

/-- A payload holds one list of ids. -/
theorem HoldsIds.unique {data : Json} {ids ids' : List Int32} (h : HoldsIds data ids) (h' : HoldsIds data ids') : ids = ids' :=
  Except.ok.inj ((readIds_iff.mpr h).symm.trans (readIds_iff.mpr h'))

/-- What holds no ids is a bad payload. -/
theorem badParcel_of_no_ids {data : Json} (h : ∀ ids, ¬HoldsIds data ids) :
    ∃ fault, PowerStats.readIds data = .error (.badParcel fault) := by
  have hunread : ∀ read, readParcel (Option (List Int32)) data ≠ .ok read := fun read hread =>
    h _ (readIds_iff.mp (map_eq_ok_iff.mpr ⟨read, hread, rfl⟩))
  obtain ⟨fault, hread⟩ := badParcel_of_unread hunread
  exact ⟨fault, by rw [PowerStats.readIds, hread]; rfl⟩

/-! ## What transactions mean -/

/-- The transaction means a request for power statistics. Only three of the queries look at the payload. -/
inductive PowerRequest.Meant : UInt32 → Json → PowerRequest → Prop where
  | entities (data : Json) : Meant 1 data ⟨.entities, []⟩
  | residency {data : Json} {ids : List Int32} (h : HoldsIds data ids) : Meant 2 data ⟨.residency, ids⟩
  | consumers (data : Json) : Meant 3 data ⟨.consumers, []⟩
  | consumed {data : Json} {ids : List Int32} (h : HoldsIds data ids) : Meant 4 data ⟨.consumed, ids⟩
  | meters (data : Json) : Meant 5 data ⟨.meters, []⟩
  | readings {data : Json} {ids : List Int32} (h : HoldsIds data ids) : Meant 6 data ⟨.readings, ids⟩

/-- The transaction means a call of the service of capture sessions. Asking for the flag does not look at the payload. -/
inductive CaptureCall.Meant : UInt32 → Json → CaptureCall → Prop where
  | list {data : Json} {user : UserId} (h : data = .number (.int user.number.toInt)) : Meant 1 data (.list user)
  | destroy {data : Json} {user : UserId} (h : data = .number (.int user.number.toInt)) : Meant 2 data (.destroy user)
  | getAllowed (data : Json) : Meant 3 data .getAllowed
  | setAllowed {data : Json} {b : Bool} (h : data = .bool b) : Meant 4 data (.setAllowed b)

/-- The reply to a request, from what the implementation makes of it. -/
def PowerRequest.reply {σ : Type} (hal : PowerStats σ) (request : PowerRequest) : Act σ (Except ServiceError Json) :=
  Except.map Parcel.toJson <$> hal request.query request.ids

/-- The reply to a call, from what the implementation makes of it. -/
def CaptureCall.reply {σ : Type} (service : CaptureService σ) : CaptureCall → Act σ (Except ServiceError Json)
  | .list user => CaptureService.await <$> service.list user
  | .destroy user => CaptureService.await <$> service.destroy user
  | .getAllowed => (fun b => .ok (.bool b)) <$> service.allowed
  | .setAllowed b => (fun () => .ok .null) <$> service.setAllowed b

/-- What a stub does with each transaction: it makes the call that is meant, and none when none is meant. -/
structure DispatchLaw {σ ρ : Type} (codes : List UInt32) (meant : UInt32 → Json → ρ → Prop)
    (reply : ρ → Act σ (Except ServiceError Json)) (stub : Service σ) : Prop where
  /-- At most one call is meant. -/
  one : ∀ {code data call other}, meant code data call → meant code data other → call = other
  /-- Its transaction is among the known ones. -/
  known : ∀ {code data call}, meant code data call → code ∈ codes
  /-- The stub does what the call that is meant does, and nothing else. -/
  called : ∀ {code data call}, meant code data call → stub code data = reply call
  /-- An unknown transaction is refused at once. -/
  unknown : ∀ code data, code ∉ codes → stub code data = pure (.error (.unknownTransaction code))
  /-- So is a payload of which a known transaction can make no call. -/
  undecoded : ∀ code data, code ∈ codes → (∀ call, ¬meant code data call) →
    ∃ fault, stub code data = pure (.error (.badParcel fault))

namespace PowerQuery

/-- Other codes than the six mean no query. -/
theorem ofCode?_eq_none {code : UInt32} (h : code ∉ ([1, 2, 3, 4, 5, 6] : List UInt32)) : ofCode? code = none := by
  refine List.find?_eq_none.mpr fun q _ hq => h ?_
  obtain rfl := beq_iff_eq.mp hq
  cases q <;> decide

/-- Each of the six means one. -/
theorem exists_code {code : UInt32} (h : code ∈ ([1, 2, 3, 4, 5, 6] : List UInt32)) : ∃ q : PowerQuery, q.code = code := by
  simp only [List.mem_cons, List.not_mem_nil, or_false] at h
  rcases h with rfl | rfl | rfl | rfl | rfl | rfl
  exacts [⟨.entities, rfl⟩, ⟨.residency, rfl⟩, ⟨.consumers, rfl⟩, ⟨.consumed, rfl⟩, ⟨.meters, rfl⟩,
    ⟨.readings, rfl⟩]

end PowerQuery

namespace PowerRequest

variable {σ : Type} {code : UInt32} {data : Json} {request : PowerRequest}

/-- A request is meant by the transaction of its query; it has the ids of the payload, if the query takes ids. -/
theorem meant_iff : Meant code data request ↔ code = request.query.code ∧
    if request.query.takesIds then HoldsIds data request.ids else request.ids = [] := by
  constructor
  · intro h
    cases h with
    | entities | consumers | meters => exact ⟨rfl, rfl⟩
    | residency h | consumed h | readings h => exact ⟨rfl, h⟩
  · rintro ⟨rfl, h⟩
    obtain ⟨q, ids⟩ := request
    cases q with
    | entities => obtain rfl : ids = [] := h; exact .entities data
    | residency => exact .residency h
    | consumers => obtain rfl : ids = [] := h; exact .consumers data
    | consumed => exact .consumed h
    | meters => obtain rfl : ids = [] := h; exact .meters data
    | readings => exact .readings h

/-- The stub of power statistics keeps the law of dispatching. -/
theorem dispatch (hal : PowerStats σ) : DispatchLaw [1, 2, 3, 4, 5, 6] Meant (reply hal) (PowerStats.stub hal) := by
  constructor
  case one =>
    intro code data call other h h'
    cases h with
    | entities | consumers | meters => cases h'; rfl
    | residency h => cases h' with | residency h' => rw [h.unique h']
    | consumed h => cases h' with | consumed h' => rw [h.unique h']
    | readings h => cases h' with | readings h' => rw [h.unique h']
  case known =>
    intro code data call h
    cases h <;> decide
  case called =>
    intro code data call h
    obtain ⟨rfl, hids⟩ := meant_iff.mp h
    rw [PowerStats.stub, PowerQuery.ofCode?_code, reply, ← PowerStats.reply_eq]
    dsimp only
    split
    · rename_i htakes
      rw [if_pos htakes] at hids
      rw [readIds_iff.mpr hids]
    · rename_i htakes
      rw [if_neg htakes] at hids
      rw [hids]
  case unknown =>
    intro code data h
    rw [PowerStats.stub, PowerQuery.ofCode?_eq_none h]
  case undecoded =>
    intro code data hcode hnone
    obtain ⟨q, rfl⟩ := PowerQuery.exists_code hcode
    rw [PowerStats.stub, PowerQuery.ofCode?_code]
    dsimp only
    split
    · rename_i htakes
      have hnoIds : ∀ ids, ¬HoldsIds data ids := fun ids hids => by
        refine hnone ⟨q, ids⟩ (meant_iff.mpr ⟨rfl, ?_⟩)
        rw [if_pos htakes]
        exact hids
      obtain ⟨fault, hread⟩ := badParcel_of_no_ids hnoIds
      exact ⟨fault, by rw [hread]⟩
    · rename_i htakes
      refine absurd ?_ (hnone ⟨q, []⟩)
      refine meant_iff.mpr ⟨rfl, ?_⟩
      rw [if_neg htakes]

end PowerRequest

namespace CaptureCode

/-- No two transactions have one number. -/
@[simp] theorem ofCode?_code (c : CaptureCode) : ofCode? c.code = some c := by
  cases c <;> rfl

/-- Other codes than the four mean no transaction on sessions. -/
theorem ofCode?_eq_none {code : UInt32} (h : code ∉ ([1, 2, 3, 4] : List UInt32)) : ofCode? code = none := by
  refine List.find?_eq_none.mpr fun c _ hc => h ?_
  obtain rfl := beq_iff_eq.mp hc
  cases c <;> decide

/-- Each of the four means one. -/
theorem exists_code {code : UInt32} (h : code ∈ ([1, 2, 3, 4] : List UInt32)) : ∃ c : CaptureCode, c.code = code := by
  simp only [List.mem_cons, List.not_mem_nil, or_false] at h
  rcases h with rfl | rfl | rfl | rfl
  exacts [⟨.listSessions, rfl⟩, ⟨.destroySessions, rfl⟩, ⟨.getAllowed, rfl⟩, ⟨.setAllowed, rfl⟩]

end CaptureCode

namespace CaptureCall

variable {σ : Type}

/-- The stub of capture sessions keeps the law of dispatching. -/
theorem dispatch (service : CaptureService σ) : DispatchLaw [1, 2, 3, 4] Meant (reply service) service.stub := by
  constructor
  case one =>
    intro code data call other h h'
    cases h with
    | getAllowed => cases h'; rfl
    | list h => cases h' with | list h' => rw [UserId.eq_of_written h h']
    | destroy h => cases h' with | destroy h' => rw [UserId.eq_of_written h h']
    | setAllowed h => cases h' with | setAllowed h' => rw [Json.bool.inj (h.symm.trans h')]
  case known =>
    intro code data call h
    cases h <;> decide
  case called =>
    intro code data call h
    cases h with
    | list h => subst h; exact CaptureService.stub_list service _
    | destroy h => subst h; exact CaptureService.stub_destroy service _
    | getAllowed => rfl
    | setAllowed h => subst h; exact CaptureService.stub_setAllowed service _
  case unknown =>
    intro code data h
    rw [CaptureService.stub, CaptureCode.ofCode?_eq_none h]
  case undecoded =>
    intro code data hcode hnone
    obtain ⟨c, rfl⟩ := CaptureCode.exists_code hcode
    rw [CaptureService.stub, CaptureCode.ofCode?_code]
    cases c with
    | listSessions =>
      have hunread : ∀ user, readParcel UserId data ≠ .ok user := fun user hread =>
        hnone _ (.list (readParcel_user_iff.mp hread))
      obtain ⟨fault, hread⟩ := badParcel_of_unread hunread
      exact ⟨fault, by rw [hread]⟩
    | destroySessions =>
      have hunread : ∀ user, readParcel UserId data ≠ .ok user := fun user hread =>
        hnone _ (.destroy (readParcel_user_iff.mp hread))
      obtain ⟨fault, hread⟩ := badParcel_of_unread hunread
      exact ⟨fault, by rw [hread]⟩
    | getAllowed => exact absurd (.getAllowed data) (hnone _)
    | setAllowed =>
      have hunread : ∀ b, readParcel Bool data ≠ .ok b := fun b hread =>
        hnone _ (.setAllowed (readParcel_bool_iff.mp hread))
      obtain ⟨fault, hread⟩ := badParcel_of_unread hunread
      exact ⟨fault, by rw [hread]⟩

end CaptureCall

/-! ## What an implementation notes -/

/-- Where no call is meant, the stub does nothing but refuse. -/
theorem DispatchLaw.untouched {σ ρ : Type} {codes : List UInt32} {meant : UInt32 → Json → ρ → Prop}
    {reply : ρ → Act σ (Except ServiceError Json)} {stub : Service σ} (h : DispatchLaw codes meant reply stub)
    {code : UInt32} {data : Json} (hnone : ∀ call, ¬meant code data call) : ∃ e, stub code data = pure (.error e) := by
  by_cases hcode : code ∈ codes
  · obtain ⟨fault, hstub⟩ := h.undecoded code data hcode hnone
    exact ⟨_, hstub⟩
  · exact ⟨_, h.unknown code data hcode⟩

/-- An implementation that notes its requests has noted the one that the reply is made of. -/
theorem PowerRequest.state_reply_recorded {σ : Type} (hal : PowerStats σ) (request : PowerRequest) (r : PowerRecord σ) :
    ((request.reply hal.recorded).run r).state =
      ⟨((request.reply hal).run r.backend).state, r.requests ++ [request]⟩ := by
  rw [reply, reply, Act.run_map, Act.run_map, PowerStats.run_recorded]

/-- An implementation that notes its calls has noted the one that the reply is made of. -/
theorem CaptureCall.state_reply_noted {σ : Type} (service : CaptureService σ) (call : CaptureCall) (s : σ)
    (calls : List CaptureCall) :
    ((call.reply service.noted).run (s, calls)).state = (((call.reply service).run s).state, calls ++ [call]) := by
  cases call <;> simp [reply, CaptureService.noted, note, Act.run_bind]

/-- What a command on the sessions of a user is replied with. -/
structure CommandLaw {σ : Type} (code : UInt32) (command : UserId → Act σ Delivery) (stub : Service σ) : Prop where
  /-- Its answer, without the code of the answer. -/
  answered : ∀ user s answer data, ((command user).run s).value = some (.answered answer data) →
    ((stub code (.number (.int user.number.toInt))).run s).value = some (.ok (Parcel.toJson data))
  /-- A receiver that is given up is a failed transaction. -/
  dropped : ∀ user s, ((command user).run s).value = some .dropped →
    ((stub code (.number (.int user.number.toInt))).run s).value =
      some (.error (.failedTransaction "no result from service: channel is empty and sending half is closed"))
  /-- So is one that is kept until the time is over. -/
  kept : ∀ user s, ((command user).run s).value = some .kept →
    ((stub code (.number (.int user.number.toInt))).run s).value =
      some (.error (.failedTransaction "no result from service: timed out waiting on channel"))

/-- A stub that waits for what its command delivers keeps the law of commands. -/
theorem CommandLaw.of_await {σ : Type} {code : UInt32} {command : UserId → Act σ Delivery} {stub : Service σ}
    (h : ∀ user, stub code (.number (.int user.number.toInt)) = CaptureService.await <$> command user) :
    CommandLaw code command stub := by
  constructor
  case answered =>
    intro user s answer data hvalue
    rw [h, Act.run_map, hvalue]
    rfl
  case dropped =>
    intro user s hvalue
    rw [h, Act.run_map, hvalue]
    rfl
  case kept =>
    intro user s hvalue
    rw [h, Act.run_map, hvalue]
    rfl

/-! ## The law -/

/-- Stubs touch the implementation only on a valid transaction. -/
structure StubsLaw {σ τ : Type} (hal : PowerStats σ) (service : CaptureService τ) : Prop where
  /-- Power statistics: the query of the transaction, with the ids of the payload. -/
  power : DispatchLaw [1, 2, 3, 4, 5, 6] PowerRequest.Meant (PowerRequest.reply hal) (PowerStats.stub hal)
  /-- One item of a list that is no id is enough to refuse it, wherever it stands. -/
  late : ∀ code ∈ ([2, 4, 6] : List UInt32), ∀ front v rest, (∀ id : Int32, v ≠ .number (.int id.toInt)) →
    ∃ fault, PowerStats.stub hal code (.array (front ++ v :: rest)) = pure (.error (.badParcel fault))
  /-- The implementation is asked once for what is meant. -/
  power_noted : ∀ {code data request}, PowerRequest.Meant code data request → ∀ r,
    ((PowerStats.stub hal.recorded code data).run r).state =
      ⟨((PowerStats.stub hal code data).run r.backend).state, r.requests ++ [request]⟩
  /-- It is asked nothing where nothing is meant. -/
  power_untouched : ∀ {code data}, (∀ request, ¬PowerRequest.Meant code data request) → ∀ r, ∃ e,
    (PowerStats.stub hal.recorded code data).run r = ⟨some (.error e), r, []⟩
  /-- Capture sessions: the command or the flag of the transaction, with the user or the flag of the payload. -/
  capture : DispatchLaw [1, 2, 3, 4] CaptureCall.Meant (CaptureCall.reply service) service.stub
  /-- The implementation is called once for what is meant. -/
  capture_noted : ∀ {code data call}, CaptureCall.Meant code data call → ∀ s calls,
    ((service.noted.stub code data).run (s, calls)).state = (((service.stub code data).run s).state, calls ++ [call])
  /-- It is not called where nothing is meant. -/
  capture_untouched : ∀ {code data}, (∀ call, ¬CaptureCall.Meant code data call) → ∀ s calls, ∃ e,
    (service.noted.stub code data).run (s, calls) = ⟨some (.error e), (s, calls), []⟩
  /-- The commands on sessions are replied with what is delivered. -/
  list : CommandLaw 1 service.list service.stub
  destroy : CommandLaw 2 service.destroy service.stub

/-- The law of the stubs, for all implementations. -/
theorem stubs_law {σ τ : Type} (hal : PowerStats σ) (service : CaptureService τ) : StubsLaw hal service := by
  have hpower := PowerRequest.dispatch hal
  have hcapture := CaptureCall.dispatch service
  constructor
  case power => exact hpower
  case capture => exact hcapture
  case late =>
    intro code hcode front v rest hv
    have hids : ∀ ids, ¬HoldsIds (.array (front ++ v :: rest)) ids := fun ids h => (h.of_item).elim hv
    simp only [List.mem_cons, List.not_mem_nil, or_false] at hcode
    rcases hcode with rfl | rfl | rfl
    all_goals
      refine hpower.undecoded _ _ (by decide) fun request h => ?_
      cases h with | _ h => exact hids _ h
  case power_noted =>
    intro code data request h r
    rw [(PowerRequest.dispatch hal.recorded).called h, hpower.called h]
    exact PowerRequest.state_reply_recorded hal request r
  case power_untouched =>
    intro code data hnone r
    obtain ⟨e, he⟩ := (PowerRequest.dispatch hal.recorded).untouched hnone
    exact ⟨e, by rw [he, Act.run_pure]⟩
  case capture_noted =>
    intro code data call h s calls
    rw [(CaptureCall.dispatch service.noted).called h, hcapture.called h]
    exact CaptureCall.state_reply_noted service call s calls
  case capture_untouched =>
    intro code data hnone s calls
    obtain ⟨e, he⟩ := (CaptureCall.dispatch service.noted).untouched hnone
    exact ⟨e, by rw [he, Act.run_pure]⟩
  case list => exact .of_await fun user => CaptureService.stub_list service user
  case destroy => exact .of_await fun user => CaptureService.stub_destroy service user

end Switchboard
