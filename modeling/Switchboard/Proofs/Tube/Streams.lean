import Switchboard.Tube.Duplex
import Switchboard.Proofs.Parcel.Grammar
import Switchboard.Proofs.Tube.Frames

/-!
# What becomes of a stream of messages

Messages that were sent stand one behind the other, and each attempt to receive takes the frame in front, whatever it makes of its
body (`Duplex.receive_of_frame`). So a connection is a queue of values while it is used (`Duplex.Holds`,
`TubeUse.inTurn_of_holds`), and when the sender is gone the values that are left are received before the end
(`Duplex.Holds.receiveEach_drop`). A stream that is cut holds the frames wholly before the cut, and of the next one nothing is
taken (`Frame.stream_take`).

`stream_law` puts together what the two ends may rely on.
-/

namespace Switchboard

/-! ## Streams of frames -/

namespace Frame

/-- The frames of bodies, one behind the other. -/
def stream (bodies : List (List UInt8)) : List UInt8 :=
  bodies.flatMap ofBody

@[simp] theorem stream_nil : stream [] = [] := rfl

@[simp] theorem stream_cons (body : List UInt8) (bodies : List (List UInt8)) :
    stream (body :: bodies) = ofBody body ++ stream bodies :=
  List.flatMap_cons

/-- Bodies one after another have their frames one after another. -/
theorem stream_append (bodies bodies' : List (List UInt8)) : stream (bodies ++ bodies') = stream bodies ++ stream bodies' :=
  List.flatMap_append

/-- A stream that is cut holds the frames wholly before the cut, and behind them nothing that can be taken. -/
theorem stream_take (bodies : List (List UInt8)) (h : ∀ body ∈ bodies, Admits body.length) (k : Nat) :
    ∃ whole tail, whole ≤ bodies.length ∧ (stream (bodies.take whole)).length ≤ k ∧
      (whole < bodies.length → k < (stream (bodies.take (whole + 1))).length) ∧
      (stream bodies).take k = stream (bodies.take whole) ++ tail ∧ next tail = .incomplete := by
  induction bodies generalizing k with
  | nil => exact ⟨0, [], Nat.le_refl _, Nat.zero_le _, fun hlt => absurd hlt (Nat.lt_irrefl _), List.take_nil, rfl⟩
  | cons body rest ih =>
    obtain ⟨hbody, hrest⟩ := List.forall_mem_cons.mp h
    by_cases hk : k < (ofBody body).length
    · refine ⟨0, (ofBody body).take k, Nat.zero_le _, Nat.zero_le _, fun _ => ?_, ?_, next_take_ofBody hbody hk⟩
      · simpa using hk
      · rw [stream_cons, List.take_append_of_le_length (Nat.le_of_lt hk)]
        rfl
    · obtain ⟨j, rfl⟩ := Nat.exists_eq_add_of_le (Nat.not_lt.mp hk)
      obtain ⟨whole, tail, hle, hbefore, hnext, htake, htail⟩ := ih hrest j
      refine ⟨whole + 1, tail, Nat.succ_le_succ hle, ?_, fun hlt => ?_, ?_, htail⟩
      · rw [List.take_succ_cons, stream_cons, List.length_append]
        omega
      · have hj := hnext (Nat.lt_of_succ_lt_succ hlt)
        rw [List.take_succ_cons, stream_cons, List.length_append]
        omega
      · rw [stream_cons, List.take_length_add_append, htake, List.take_succ_cons, stream_cons, List.append_assoc]

end Frame

/-! ## Values that can be sent -/

/-- A value that can be sent and read back: one in transit, with whole numbers, not too deep and not too long. -/
structure Json.Sendable (v : Json) : Prop where
  travels : v.Travels Scan.depthLimit
  fits : v.text.utf8ByteSize ≤ Frame.sizeLimit

/-- The body of its frame. -/
def Json.body (v : Json) : List UInt8 :=
  bytesOf v.text

namespace Json.Sendable

variable {v : Json}

/-- The body of a value that can be sent fits into a frame. -/
theorem admits (h : v.Sendable) : Frame.Admits v.body.length := by
  rw [body, length_bytesOf]
  exact ⟨v.utf8ByteSize_text_pos, h.fits⟩

/-- It is read back from its body. -/
theorem ofMessage_body (h : v.Sendable) : (Parcel.ofMessage v.body : Except TubeError Json) = .ok v := by
  obtain ⟨hcanonical, hwhole, hdepth⟩ := h.travels
  refine ofMessage_toText hwhole hdepth ?_
  have hread := Shape.read_any .text v
  rwa [hcanonical] at hread

end Json.Sendable

/-- A text of no value is no message for which any value is wanted. -/
theorem ofMessage_malformed {body : List UInt8} {fault : SyntaxFault} (h : Json.ofBytes? body = .error fault) :
    (Parcel.ofMessage body : Except TubeError Json) = .error (.json (.malformed fault)) := by
  have hread : ∀ d : Draft, (Parcel.read .text d : Except ParcelFault Json) = d.value.mapError .malformed := by
    intro d
    change ((Shape.any).read .text d).map id = _
    rw [Shape.read.eq_def]
    dsimp only
    cases d.value <;> rfl
  rw [Json.ofBytes?, Draft.readWhole] at h
  rw [Parcel.ofMessage, Parcel.ofBytes, Draft.readWhole]
  dsimp only at h ⊢
  rw [hread]
  cases hvalue : (Draft.ofBytes body).1.value with
  | error e =>
    rw [hvalue] at h
    obtain rfl := Except.error.inj h
    rfl
  | ok v =>
    rw [hvalue] at h
    dsimp only [Except.mapError] at h ⊢
    split at h
    · cases h
    · rename_i hblank
      obtain rfl := Except.error.inj h
      rw [if_neg hblank]
      rfl

/-! ## One end of a connection -/

namespace Duplex

variable {d : Duplex} {n m : Nat} {s t : List UInt8} {side : Side}

@[simp] theorem arrived_setArrived : (d.setArrived s side).arrived side = s := by
  cases side <;> rfl

@[simp] theorem side_setArrived : (d.setArrived s side).side n = d.side n := by
  cases side <;> rfl

@[simp] theorem isOver_setArrived (other : Side) : (d.setArrived s side).isOver other = d.isOver other := by
  cases side <;> rfl

@[simp] theorem setArrived_setArrived : (d.setArrived s side).setArrived t side = d.setArrived t side := by
  cases side <;> rfl

@[simp] theorem drop_setArrived : (d.setArrived s side).drop n = (d.drop n).setArrived s side := by
  cases side <;> rfl

@[simp] theorem arrived_drop : (d.drop n).arrived side = d.arrived side := by
  cases side <;> rfl

@[simp] theorem side_drop : (d.drop n).side m = d.side m := by
  unfold Duplex.side drop
  simp only [List.getElem?_modify]
  split <;> cases d.ends[m]? <;> rfl

/-- Putting back what has arrived changes nothing. -/
theorem setArrived_arrived : d.setArrived (d.arrived side) side = d := by
  cases side <;> rfl

/-- A message that is too long is refused, and nothing is written. -/
theorem send_of_long {text : String} (h : Frame.sizeLimit < text.utf8ByteSize) :
    d.send n text = (.error (.messageTooLarge text.utf8ByteSize), d) := by
  rw [send, Frame.encode_eq_error h]

/-- Any other message is put behind those that are there, unless there is nobody to receive it. -/
theorem send_of_fits {text : String} (h : text.utf8ByteSize ≤ Frame.sizeLimit) (hopen : d.isOver (d.side n) = false) :
    d.send n text =
      (.ok (), d.setArrived (d.arrived (d.side n).other ++ Frame.framed text) (d.side n).other) := by
  rw [send, Frame.encode_eq h]
  dsimp only
  rw [write, hopen]
  rfl

/-- A message that is not sent leaves the connection as it was. -/
theorem send_error {text : String} {e : TubeError} (h : (d.send n text).1 = .error e) : (d.send n text).2 = d := by
  rw [send] at h ⊢
  cases hencode : Frame.encode text with
  | error e => rfl
  | ok frame =>
    rw [hencode] at h
    dsimp only at h ⊢
    unfold write at h ⊢
    dsimp only at h ⊢
    split
    · rfl
    · rename_i hopen
      rw [if_neg hopen] at h
      cases h

section Receive

variable {α : Type} [Parcel α]

/-- The frame in front is taken, and no more, whatever its body is read as. -/
theorem receive_of_frame {body rest : List UInt8} (h : d.arrived (d.side n) = Frame.ofBody body ++ rest)
    (hbody : Frame.Admits body.length) :
    (d.receive n : Except TubeError α × Duplex) = (Parcel.ofMessage body, d.setArrived rest (d.side n)) := by
  unfold receive Frame.receive?
  dsimp only
  rw [h, Frame.next_ofBody hbody]

/-- Where no frame is, none is received. -/
theorem receive_of_incomplete (h : Frame.next (d.arrived (d.side n)) = .incomplete) :
    (d.receive n : Except TubeError α × Duplex) =
      (.error (if d.isOver (d.side n) then .disconnected else .receive .wouldBlock), d.setArrived [] (d.side n)) := by
  unfold receive Frame.receive?
  dsimp only
  rw [h]

/-- Receives again and again. -/
def receiveEach (n : Nat) : Nat → Duplex → List (Except TubeError α) × Duplex
  | 0, d => ([], d)
  | count + 1, d =>
    let (result, d) := d.receive n
    let (results, d) := receiveEach n count d
    (result :: results, d)

/-- At the end there is nothing but the end. -/
theorem receiveEach_of_over (count : Nat) (hover : d.isOver (d.side n) = true)
    (h : Frame.next (d.arrived (d.side n)) = .incomplete) :
    (receiveEach n count d : List (Except TubeError α) × Duplex).1 = List.replicate count (.error .disconnected) := by
  induction count generalizing d with
  | zero => rfl
  | succ count ih =>
    have hreceive : (d.receive n : Except TubeError α × Duplex) = (.error .disconnected, d.setArrived [] (d.side n)) := by
      rw [receive_of_incomplete h, hover]
      rfl
    have hrest : (receiveEach n count (d.setArrived [] (d.side n)) : List (Except TubeError α) × Duplex).1 =
        List.replicate count (.error .disconnected) := by
      refine ih ?_ ?_
      · simpa using hover
      · rw [side_setArrived, arrived_setArrived]
        rfl
    rw [receiveEach, hreceive]
    dsimp only
    rw [hrest]
    rfl

end Receive

/-- Values that stand in front of the end are received before it. -/
theorem receiveEach_values {values : List Json} {tail : List UInt8} (extra : Nat) (hvalues : ∀ v ∈ values, v.Sendable)
    (h : d.arrived (d.side n) = Frame.stream (values.map Json.body) ++ tail) (hover : d.isOver (d.side n) = true)
    (htail : Frame.next tail = .incomplete) :
    (receiveEach n (values.length + extra) d : List (Except TubeError Json) × Duplex).1 =
      values.map .ok ++ List.replicate extra (.error .disconnected) := by
  induction values generalizing d with
  | nil =>
    rw [List.length_nil, Nat.zero_add]
    exact receiveEach_of_over extra hover (h ▸ htail)
  | cons v rest ih =>
    obtain ⟨hv, hrest⟩ := List.forall_mem_cons.mp hvalues
    rw [List.map_cons, Frame.stream_cons, List.append_assoc] at h
    have hreceive : (d.receive n : Except TubeError Json × Duplex) = _ := receive_of_frame h hv.admits
    have hothers := ih (d := d.setArrived (Frame.stream (rest.map Json.body) ++ tail) (d.side n)) hrest
      (by rw [side_setArrived, arrived_setArrived]) (by simpa using hover)
    rw [List.length_cons, Nat.add_right_comm, receiveEach, hreceive]
    dsimp only
    rw [hothers, hv.ofMessage_body]
    rfl

/-! ## Messages of different types -/

/-- A type that a message is received as. -/
structure Wanted where
  type : Type
  parcel : Parcel type

instance (w : Wanted) : Parcel w.type := w.parcel

/-- What was received, and as what. -/
abbrev Received : Type 1 :=
  (w : Wanted) × Except TubeError w.type

/-- Receives one message after the other, each as a type of its own. -/
def receiveAs (n : Nat) : List Wanted → Duplex → List Received × Duplex
  | [], d => ([], d)
  | w :: rest, d =>
    let (result, d) := (d.receive n : Except TubeError w.type × Duplex)
    let (results, d) := receiveAs n rest d
    (⟨w, result⟩ :: results, d)

/-- Each attempt takes its own frame, whatever those before it made of theirs. -/
theorem receiveAs_stream {bodies : List (List UInt8)} {rest : List UInt8} (wanted : List Wanted)
    (hbodies : ∀ body ∈ bodies, Frame.Admits body.length) (hlength : wanted.length = bodies.length)
    (h : d.arrived (d.side n) = Frame.stream bodies ++ rest) :
    receiveAs n wanted d =
      (List.zipWith (fun w body => ⟨w, Parcel.ofMessage body⟩) wanted bodies, d.setArrived rest (d.side n)) := by
  induction bodies generalizing d wanted with
  | nil =>
    obtain rfl := List.length_eq_zero_iff.mp hlength
    obtain rfl : d.arrived (d.side n) = rest := h
    rw [receiveAs, setArrived_arrived]
    rfl
  | cons body bodies ih =>
    obtain ⟨hbody, hbodies⟩ := List.forall_mem_cons.mp hbodies
    cases wanted with
    | nil => cases hlength
    | cons w wanted =>
      rw [Frame.stream_cons, List.append_assoc] at h
      have hreceive : (d.receive n : Except TubeError w.type × Duplex) = _ := receive_of_frame h hbody
      have hothers := ih (d := d.setArrived (Frame.stream bodies ++ rest) (d.side n)) wanted hbodies
        (Nat.succ.inj hlength) (by rw [side_setArrived, arrived_setArrived])
      rw [receiveAs, hreceive]
      dsimp only
      rw [hothers, side_setArrived, setArrived_setArrived]
      rfl

/-! ## A queue of values -/

/-- Values that were sent from one end and are not received at the other: both ends are there, and the one that sends is the last
of its side. -/
structure Holds (d : Duplex) (n m : Nat) (queue : List Json) : Prop where
  across : (d.side n).other = d.side m
  opened : d.isOver (d.side n) = false
  awaited : d.isOver (d.side m) = false
  last : (d.drop n).isOver (d.side m) = true
  arrived : d.arrived (d.side m) = Frame.stream (queue.map Json.body)
  sendable : ∀ v ∈ queue, v.Sendable

/-- What has arrived may be another queue of values that can be sent. -/
theorem Holds.setArrived {queue queue' : List Json} (h : d.Holds n m queue) (hsendable : ∀ v ∈ queue', v.Sendable) :
    (d.setArrived (Frame.stream (queue'.map Json.body)) (d.side m)).Holds n m queue' where
  across := by simpa using h.across
  opened := by simpa using h.opened
  awaited := by simpa using h.awaited
  last := by simpa using h.last
  arrived := by rw [side_setArrived, arrived_setArrived]
  sendable := hsendable

/-- When the sender is gone, what it sent is received before the end. -/
theorem Holds.receiveEach_drop {queue : List Json} (h : d.Holds n m queue) (extra : Nat) :
    (receiveEach m (queue.length + extra) (d.drop n) : List (Except TubeError Json) × Duplex).1 =
      queue.map .ok ++ List.replicate extra (.error .disconnected) := by
  have harrived : (d.drop n).arrived ((d.drop n).side m) = Frame.stream (queue.map Json.body) ++ [] := by
    rw [side_drop, arrived_drop, List.append_nil]
    exact h.arrived
  refine receiveEach_values extra h.sendable harrived ?_ rfl
  rw [side_drop]
  exact h.last

end Duplex

/-- What is done with a connection: its one end sends, its other end receives. -/
inductive TubeUse where
  | send (v : Json)
  | receive

namespace TubeUse

/-- What a use returns: for one that receives, the value. -/
abbrev Result : Type :=
  Except TubeError (Option Json)

/-- Uses a connection that one end sends on and another receives from. -/
def act (n m : Nat) : TubeUse → Duplex → Result × Duplex
  | .send v, d => ((d.send n v.text).1.map fun () => none, (d.send n v.text).2)
  | .receive, d => ((d.receive m).1.map some, (d.receive m : Except TubeError Json × Duplex).2)

/-- Uses a queue in its place. -/
def queued : TubeUse → List Json → Result × List Json
  | .send v, queue => (.ok none, queue ++ [v])
  | .receive, [] => (.error (.receive .wouldBlock), [])
  | .receive, v :: queue => (.ok (some v), queue)

/-- Does one thing after the other. -/
def inTurn {τ : Type} (act : TubeUse → τ → Result × τ) : List TubeUse → τ → List Result × τ
  | [], t => ([], t)
  | use :: rest, t =>
    let (result, t) := act use t
    let (results, t) := inTurn act rest t
    (result :: results, t)

/-- What is sent can be sent. -/
def IsSendable : TubeUse → Prop
  | .send v => v.Sendable
  | .receive => True

open Duplex in
/-- A connection is used like a queue. -/
theorem act_of_holds {d : Duplex} {n m : Nat} {queue : List Json} (h : d.Holds n m queue) (use : TubeUse)
    (huse : use.IsSendable) :
    (use.act n m d).1 = (use.queued queue).1 ∧ (use.act n m d).2.Holds n m (use.queued queue).2 := by
  cases use with
  | send v =>
    have hv : v.Sendable := huse
    have hall : ∀ u ∈ queue ++ [v], u.Sendable := by
      intro u hu
      rcases List.mem_append.mp hu with hu | hu
      · exact h.sendable u hu
      · obtain rfl := List.mem_singleton.mp hu
        exact hv
    have hframe : d.arrived (d.side m) ++ Frame.framed v.text = Frame.stream ((queue ++ [v]).map Json.body) := by
      rw [h.arrived, List.map_append, Frame.stream_append, Frame.framed_eq]
      simp [Json.body]
    have hsend := send_of_fits hv.fits h.opened
    rw [h.across, hframe] at hsend
    rw [act, hsend]
    exact ⟨rfl, h.setArrived hall⟩
  | receive =>
    cases queue with
    | nil =>
      have hreceive : (d.receive m : Except TubeError Json × Duplex) = _ :=
        receive_of_incomplete (by rw [h.arrived]; rfl)
      rw [h.awaited] at hreceive
      rw [act, hreceive]
      exact ⟨rfl, h.setArrived (List.forall_mem_nil _)⟩
    | cons v queue =>
      obtain ⟨hv, hqueue⟩ := List.forall_mem_cons.mp h.sendable
      have harrived := h.arrived
      rw [List.map_cons, Frame.stream_cons] at harrived
      have hreceive : (d.receive m : Except TubeError Json × Duplex) = _ := receive_of_frame harrived hv.admits
      rw [act, hreceive, hv.ofMessage_body]
      exact ⟨rfl, h.setArrived hqueue⟩

/-- Sending and receiving in turn is putting into a queue and taking from it. -/
theorem inTurn_of_holds {d : Duplex} {n m : Nat} {queue : List Json} (h : d.Holds n m queue) (uses : List TubeUse)
    (huses : ∀ use ∈ uses, use.IsSendable) :
    (inTurn (act n m) uses d).1 = (inTurn queued uses queue).1 ∧
      (inTurn (act n m) uses d).2.Holds n m (inTurn queued uses queue).2 := by
  induction uses generalizing d queue with
  | nil => exact ⟨rfl, h⟩
  | cons use rest ih =>
    obtain ⟨huse, hrest⟩ := List.forall_mem_cons.mp huses
    obtain ⟨hresult, hholds⟩ := act_of_holds h use huse
    obtain ⟨hresults, hend⟩ := ih hholds hrest
    exact ⟨congrArg₂ List.cons hresult hresults, hend⟩

/-- Sending alone fills the queue. -/
theorem inTurn_queued_send (values queue : List Json) :
    inTurn queued (values.map .send) queue = (values.map fun _ => .ok none, queue ++ values) := by
  induction values generalizing queue with
  | nil => rw [List.map_nil, List.map_nil, inTurn, List.append_nil]
  | cons v rest ih =>
    rw [List.map_cons, inTurn, queued]
    dsimp only
    rw [ih, List.append_assoc]
    rfl

end TubeUse

/-! ## The law -/

/-- What the two ends of a connection may rely on. -/
structure StreamLaw : Prop where
  /-- A new connection holds nothing, whichever end is to send. -/
  start : Duplex.pair.Holds 0 1 [] ∧ Duplex.pair.Holds 1 0 []
  /-- Values that are sent in their order are received in their order, and behind them the end once the sender is gone. -/
  delivered : ∀ (d : Duplex) (n m : Nat) (values : List Json) (extra : Nat), d.Holds n m [] → (∀ v ∈ values, v.Sendable) →
    (TubeUse.inTurn (TubeUse.act n m) (values.map .send) d).1 = values.map (fun _ => .ok none) ∧
      (Duplex.receiveEach m (values.length + extra)
          ((TubeUse.inTurn (TubeUse.act n m) (values.map .send) d).2.drop n)).1 =
        values.map .ok ++ List.replicate extra (.error .disconnected)
  /-- However sending and receiving take turns, the connection is a queue; and what the queue holds at last is received before
  the end. -/
  queued : ∀ (d : Duplex) (n m : Nat) (uses : List TubeUse) (extra : Nat), d.Holds n m [] →
    (∀ use ∈ uses, use.IsSendable) →
    (TubeUse.inTurn (TubeUse.act n m) uses d).1 = (TubeUse.inTurn TubeUse.queued uses []).1 ∧
      (Duplex.receiveEach m ((TubeUse.inTurn TubeUse.queued uses []).2.length + extra)
          ((TubeUse.inTurn (TubeUse.act n m) uses d).2.drop n)).1 =
        (TubeUse.inTurn TubeUse.queued uses []).2.map .ok ++ List.replicate extra (.error .disconnected)
  /-- Of a stream that is cut anywhere, the values wholly before the cut are received, and then the end. -/
  cut : ∀ (values : List Json) (k : Nat), (∀ v ∈ values, v.Sendable) →
    ∃ whole, whole ≤ values.length ∧ (Frame.stream ((values.take whole).map Json.body)).length ≤ k ∧
      (whole < values.length → k < (Frame.stream ((values.take (whole + 1)).map Json.body)).length) ∧
      ∀ (d : Duplex) (m extra : Nat), d.isOver (d.side m) = true →
        d.arrived (d.side m) = (Frame.stream (values.map Json.body)).take k →
        (Duplex.receiveEach m (whole + extra) d).1 =
          (values.take whole).map .ok ++ List.replicate extra (.error .disconnected)
  /-- Whatever stands in frames of admitted lengths, and whatever each message is wanted as, each attempt takes its own frame and
  reads its body; what is behind the frames is left. -/
  framed : ∀ (d : Duplex) (m : Nat) (wanted : List Duplex.Wanted) (bodies : List (List UInt8)) (rest : List UInt8),
    (∀ body ∈ bodies, Frame.Admits body.length) → wanted.length = bodies.length →
    d.arrived (d.side m) = Frame.stream bodies ++ rest →
    Duplex.receiveAs m wanted d =
      (List.zipWith (fun w body => ⟨w, Parcel.ofMessage body⟩) wanted bodies, d.setArrived rest (d.side m))
  /-- A body that is not what was wanted, and one that is no JSON, is a fault of its JSON. -/
  refused : ∀ (w : Duplex.Wanted) (body : List UInt8),
    (∀ e, (Parcel.ofMessage body : Except TubeError w.type) = .error e → ∃ fault, e = .json fault) ∧
      (Draft.isJson body = false → ∃ fault, (Parcel.ofMessage body : Except TubeError w.type) = .error (.json fault))
  /-- Where any value is wanted, the fault is that of the text. -/
  malformed : ∀ (body : List UInt8) (fault : SyntaxFault), Json.ofBytes? body = .error fault →
    (Parcel.ofMessage body : Except TubeError Json) = .error (.json (.malformed fault))
  /-- A message that is refused, as too long or for any other reason, leaves the connection as it was; one is refused as too long
  exactly if its text is longer than a frame may be. -/
  unsent : ∀ (d : Duplex) (n : Nat) (text : String),
    (∀ e, (d.send n text).1 = .error e → (d.send n text).2 = d) ∧
      ((∃ size, (d.send n text).1 = .error (.messageTooLarge size)) ↔ Frame.sizeLimit < text.utf8ByteSize)
  /-- The lengths that values are sent with are those that a header is not refused for. -/
  admitted : (∀ v : Json, (∃ frame, Frame.encode v.text = .ok frame) ↔ Frame.Admits v.text.utf8ByteSize) ∧
    ∀ (a b c d : UInt8) (rest : List UInt8),
      (∃ e left, Frame.next (a :: b :: c :: d :: rest) = .refused e left) ↔ ¬ Frame.Admits (Frame.announced a b c d)

/-- The law of streams of messages. -/
theorem stream_law : StreamLaw := by
  constructor
  case start =>
    have hempty : ∀ v ∈ ([] : List Json), v.Sendable := List.forall_mem_nil _
    exact ⟨⟨rfl, rfl, rfl, rfl, rfl, hempty⟩, ⟨rfl, rfl, rfl, rfl, rfl, hempty⟩⟩
  case delivered =>
    intro d n m values extra hholds hvalues
    have huses : ∀ use ∈ values.map TubeUse.send, use.IsSendable := by
      intro use huse
      obtain ⟨v, hv, rfl⟩ := List.mem_map.mp huse
      exact hvalues v hv
    obtain ⟨hresults, hend⟩ := TubeUse.inTurn_of_holds hholds _ huses
    rw [TubeUse.inTurn_queued_send, List.nil_append] at hresults hend
    exact ⟨hresults, hend.receiveEach_drop extra⟩
  case queued =>
    intro d n m uses extra hholds huses
    obtain ⟨hresults, hend⟩ := TubeUse.inTurn_of_holds hholds uses huses
    exact ⟨hresults, hend.receiveEach_drop extra⟩
  case cut =>
    intro values k hvalues
    have hadmits : ∀ body ∈ values.map Json.body, Frame.Admits body.length := by
      intro body hbody
      obtain ⟨v, hv, rfl⟩ := List.mem_map.mp hbody
      exact (hvalues v hv).admits
    obtain ⟨whole, tail, hle, hbefore, hnext, htake, htail⟩ := Frame.stream_take _ hadmits k
    rw [List.length_map] at hle hnext
    rw [← List.map_take] at hbefore htake hnext
    refine ⟨whole, hle, hbefore, hnext, fun d m extra hover harrived => ?_⟩
    have hlength : (values.take whole).length = whole := List.length_take_of_le hle
    have hreceived := Duplex.receiveEach_values extra (fun v hv => hvalues v (List.mem_of_mem_take hv))
      (harrived.trans htake) hover htail
    rwa [hlength] at hreceived
  case framed => exact fun d m wanted bodies rest hbodies hlength h => Duplex.receiveAs_stream wanted hbodies hlength h
  case refused =>
    intro w body
    have hfault : ∀ e, (Parcel.ofMessage body : Except TubeError w.type) = .error e → ∃ fault, e = .json fault := by
      intro e he
      rw [Parcel.ofMessage] at he
      cases hread : (Parcel.ofBytes body : Except ParcelFault w.type) with
      | ok x => rw [hread] at he; cases he
      | error fault => rw [hread] at he; cases he; exact ⟨fault, rfl⟩
    refine ⟨hfault, fun hjson => ?_⟩
    cases hread : (Parcel.ofMessage body : Except TubeError w.type) with
    | ok x => exact absurd (Parcel.isJson_of_ofMessage hread) (by rw [hjson]; decide)
    | error e =>
      obtain ⟨fault, rfl⟩ := hfault e hread
      exact ⟨fault, rfl⟩
  case malformed => exact fun body fault h => ofMessage_malformed h
  case unsent =>
    intro d n text
    refine ⟨fun e he => Duplex.send_error he, ?_, fun hlong => ⟨_, by rw [Duplex.send_of_long hlong]⟩⟩
    rintro ⟨size, hsize⟩
    by_contra hshort
    rw [Duplex.send, Frame.encode_eq (Nat.not_lt.mp hshort)] at hsize
    dsimp only at hsize
    unfold Duplex.write at hsize
    dsimp only at hsize
    split at hsize <;> cases hsize
  case admitted => exact ⟨Frame.encode_eq_ok_iff, Frame.next_refused_iff⟩

/-! ### Two letters -/

namespace Letters

def values : List Json :=
  [.int 5, .array [.string "a"]]

/-- All these values can be sent. -/
theorem sendable : ∀ v ∈ values, v.Sendable := by
  have hfirst : (Json.int 5).Sendable := ⟨⟨rfl, by decide, by decide⟩, by cbv⟩
  have hsecond : (Json.array [.string "a"]).Sendable := ⟨⟨rfl, by decide, by decide⟩, by cbv⟩
  exact List.forall_mem_cons.mpr ⟨hfirst, List.forall_mem_cons.mpr ⟨hsecond, List.forall_mem_nil _⟩⟩

end Letters

/-- Both letters arrive before the end; of a stream that is cut in the header of the second one, only the first does. -/
theorem letters_received :
    (Duplex.receiveEach 1 3
        ((TubeUse.inTurn (TubeUse.act 0 1) (Letters.values.map .send) Duplex.pair).2.drop 0)).1 =
        Letters.values.map .ok ++ [.error .disconnected] ∧
      ∀ (d : Duplex) (m : Nat), d.isOver (d.side m) = true →
        d.arrived (d.side m) = (Frame.stream (Letters.values.map Json.body)).take 8 →
        (Duplex.receiveEach m 2 d : List (Except TubeError Json) × Duplex).1 = [.ok (.int 5), .error .disconnected] := by
  refine ⟨(stream_law.delivered Duplex.pair 0 1 Letters.values 1 stream_law.start.1 Letters.sendable).2, ?_⟩
  intro d m hover harrived
  have hone : (Frame.stream ((Letters.values.take 1).map Json.body)).length = 5 := by cbv
  have htwo : (Frame.stream ((Letters.values.take 2).map Json.body)).length = 14 := by cbv
  obtain ⟨whole, hle, hbefore, hnext, hreceived⟩ := stream_law.cut Letters.values 8 Letters.sendable
  have hlength : Letters.values.length = 2 := rfl
  obtain rfl : whole = 1 := by
    rcases Nat.lt_trichotomy whole 1 with hnone | hfirst | hboth
    · obtain rfl : whole = 0 := by omega
      have hshort := hnext (by decide)
      rw [Nat.zero_add, hone] at hshort
      omega
    · exact hfirst
    · obtain rfl : whole = 2 := by omega
      rw [htwo] at hbefore
      omega
  exact hreceived d m 1 hover harrived

end Switchboard
