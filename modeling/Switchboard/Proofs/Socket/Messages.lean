import Switchboard.Proofs.Parcel.RoundTrip
import Switchboard.Proofs.Tube.Frames
import Switchboard.Proofs.Socket.Serving

/-!
# Messages in transit

A payload travels (`Json.Travels`) when it is a value in transit, its numbers are whole, and it nests no deeper than is left of
the reader's depth once the brackets of the message stand around it: two of a request, one of an answer. Then the frame of a
request is taken from the front of a stream and read as the request (`HostRequest.Carried.scan_frame`, `ofMessage_transact`),
and the frame of an answer as the answer (`HostReply.Carried.receive_frame`); so the host runs its service once on exactly that
code and payload (`run_serve_transact`), and the client gets the answer of the service, its error in translation
(`ServiceError.acrossSocket`).
-/

namespace Switchboard

/-! ## Requests and answers -/

/-- A code is a whole number. -/
theorem isWhole_code (code : UInt32) : (Json.int code.toNat).isWhole = true := by
  have hlt : code.toNat < 0x100000000 := code.toNat_lt
  simp only [Json.int, Json.isWhole, Number.isWhole, Bool.and_eq_true, decide_eq_true_eq]
  omega

/-- The fields of a transaction, as a record. -/
def HostRequest.fields : Fields :=
  .cons "code" .required (.int .u32) <| .cons "data" .required .any .nil

/-- How a transaction is written. -/
theorem encode_transact (code : UInt32) (data : Json) :
    Parcel.encode (HostRequest.transact code data) =
      .object [("Transact", .object [("code", .int code.toNat), ("data", data)])] := rfl

/-- What is written of it is read back. -/
theorem readRecord_transact (code : UInt32) (data : Json) :
    HostRequest.fields.readRecord .text "struct variant HostRequest::Transact" none
        (.object [(.ok "code", .number (.ok (.int code.toNat))), (.ok "data", Draft.ofValue data)] .closed) =
      .ok (code, data.canonical, ()) := by
  refine Fields.readRecord_object HostRequest.fields (some code, some data.canonical, ()) ?_ rfl
  have hcode := Fields.put_own "code" .required (.cons "data" .required .any .nil) (none, ())
    (Shape.read_int .text (Width.ofInt?_toInt .u32 code))
  have hdata := Fields.put_own "data" .required .nil () (Shape.read_any .text data)
  have hne : "code" ≠ "data" := by decide
  have hother := Fields.put_of_ne .required (.int .u32) (some code) hne hdata
  exact (readMembers_cons hcode).trans ((readMembers_cons hother).trans rfl)

/-- Its numbers are whole if those of its payload are. -/
theorem isWhole_encode_transact (code : UInt32) {data : Json} (h : data.isWhole = true) :
    (Parcel.encode (HostRequest.transact code data)).isWhole = true := by
  simp [encode_transact, Json.isWhole, Json.isWholeFields, isWhole_code, h]

/-- A transaction is read from its text. -/
theorem ofMessage_transact (code : UInt32) {data : Json} (h : data.Travels 125) :
    (Parcel.ofMessage (bytesOf (Parcel.toText (HostRequest.transact code data))) : Except TubeError HostRequest) =
      .ok (.transact code data) := by
  have hdepth : (Parcel.encode (HostRequest.transact code data)).depth ≤ Scan.depthLimit := by
    have hdata := h.depth_le
    simp only [encode_transact, Json.depth, Json.depthFields, Json.int, Scan.depthLimit]
    omega
  have hread : (Parcel.shape HostRequest).read .text
      (Draft.ofValue (.object [("Transact", .object [("code", .int code.toNat), ("data", data)])])) =
        .ok (.inl (code, data.canonical, ())) :=
    Shape.read_oneOf_field (Variants.readPayload_record (readRecord_transact code data))
  rw [h.canonical] at hread
  exact ofMessage_toText (isWhole_encode_transact code h.whole) hdepth hread

/-- What an error of a service becomes on its way through a socket. -/
def ServiceError.acrossSocket : ServiceError → ServiceError
  | .unknownTransaction code => .unknownTransaction code
  | e => .failedTransaction e.message

/-- What the client makes of an answer: what the service returned, its error in translation. -/
theorem result_ofResult (r : Except ServiceError Json) :
    (HostReply.ofResult r).result = r.mapError ServiceError.acrossSocket := by
  cases r with
  | ok v => rfl
  | error e => cases e <;> rfl

section Answers

variable {r : Except ServiceError Json}

/-- The numbers in a reply are whole if those of its value are. -/
theorem isWhole_encode_ofResult (h : ∀ v, r = .ok v → v.Travels 126) :
    (Parcel.encode (HostReply.ofResult r)).isWhole = true := by
  cases r with
  | ok v => exact (Bool.and_true _).trans (h v rfl).whole
  | error e =>
    cases e with
    | unknownTransaction code =>
      have hencode : Parcel.encode (HostReply.unknownTransaction code) =
          .object [("UnknownTransaction", .int code.toNat)] := rfl
      rw [HostReply.ofResult, hencode]
      simp [Json.isWhole, Json.isWholeFields, isWhole_code]
    | badParcel | deadObject | failedTransaction | publish | transport => rfl

/-- It is not too deep to be read if its value is not. -/
theorem depth_encode_ofResult (h : ∀ v, r = .ok v → v.Travels 126) :
    (Parcel.encode (HostReply.ofResult r)).depth ≤ Scan.depthLimit := by
  cases r with
  | ok v =>
    have hv := (h v rfl).depth_le
    change max v.depth 0 + 1 ≤ 127
    omega
  | error e =>
    have hone : (1 : Nat) ≤ 127 := by decide
    cases e <;> exact hone

/-- A value is read back from its reply. -/
theorem read_reply {v : Json} (h : v.canonical = v) :
    (Parcel.shape HostReply).read .text (Draft.ofValue (.object [("Reply", v)])) = .ok (.inl v) := by
  have hread := Shape.read_any .text v
  rw [h] at hread
  exact Shape.read_oneOf_field (Variants.readPayload_holding hread)

/-- So is the text of a failure. -/
theorem read_failed (text : String) :
    (Parcel.shape HostReply).read .text (Draft.ofValue (.object [("Failed", .string text)])) = .ok (.inr (.inl text)) :=
  Shape.read_oneOf_field (Variants.readPayload_holding_of_ne (by decide)
    (Variants.readPayload_holding (Shape.read_text .text _ text)))

/-- So is a code that is not known. -/
theorem read_unknownTransaction (code : UInt32) :
    (Parcel.shape HostReply).read .text (Draft.ofValue (.object [("UnknownTransaction", .int code.toNat)])) =
      .ok (.inr (.inr (.inl code))) :=
  Shape.read_oneOf_field (Variants.readPayload_holding_of_ne (by decide) (Variants.readPayload_holding_of_ne (by decide)
    (Variants.readPayload_holding (Shape.read_int .text (Width.ofInt?_toInt .u32 code)))))

/-- An answer is read from its text. -/
theorem ofMessage_ofResult (h : ∀ v, r = .ok v → v.Travels 126) :
    (Parcel.ofMessage (bytesOf (Parcel.toText (HostReply.ofResult r))) : Except TubeError HostReply) =
      .ok (HostReply.ofResult r) := by
  refine ofMessage_toText (isWhole_encode_ofResult h) (depth_encode_ofResult h) ?_
  cases r with
  | ok v => exact read_reply (h v rfl).canonical
  | error e =>
    cases e with
    | unknownTransaction code => exact read_unknownTransaction code
    | badParcel | deadObject | failedTransaction | publish | transport => exact read_failed _

end Answers

/-! ## What a host makes of a transaction -/

/-- A transaction whose payload travels and whose frame is not too long. -/
structure HostRequest.Carried (code : UInt32) (data : Json) : Prop where
  travels : data.Travels 125
  fits : (Parcel.toText (HostRequest.transact code data)).utf8ByteSize ≤ Frame.sizeLimit

/-- A result whose payload travels and whose frame is not too long. -/
structure HostReply.Carried (r : Except ServiceError Json) : Prop where
  travels : ∀ v, r = .ok v → v.Travels 126
  fits : (Parcel.toText (HostReply.ofResult r)).utf8ByteSize ≤ Frame.sizeLimit

section Serving

variable {σ : Type} {service : Service σ} {code : UInt32} {data : Json} {b : σ}

/-- The frame of a transaction. -/
def HostRequest.frame (code : UInt32) (data : Json) : List UInt8 :=
  Frame.framed (Parcel.toText (HostRequest.transact code data))

/-- The frame of the answer to one. -/
def HostReply.frame (r : Except ServiceError Json) : List UInt8 :=
  Frame.framed (Parcel.toText (HostReply.ofResult r))

/-- A request that is carried has its frame. -/
theorem HostRequest.Carried.encode_eq (h : HostRequest.Carried code data) :
    Frame.encode (Parcel.toText (HostRequest.transact code data)) = .ok (HostRequest.frame code data) :=
  Frame.encode_eq h.fits

/-- The host finds the transaction on its connection, and nothing behind it. -/
theorem HostRequest.Carried.scan_frame (h : HostRequest.Carried code data) :
    HostRequest.scan (HostRequest.frame code data) = ([.transact code data], .open []) := by
  have hnext := Frame.next_framed (Parcel.admits_toText h.fits) []
  rw [List.append_nil] at hnext
  rw [HostRequest.frame, HostRequest.scan_of_frame hnext (ofMessage_transact code h.travels),
    HostRequest.scan_of_incomplete rfl]

/-- The host runs its service once, on that code and payload, and answers with what it returned. -/
theorem run_serve_transact (h : HostRequest.Carried code data) {r : Except ServiceError Json}
    (hr : ((service code data).run b).value = some r) (hreply : HostReply.Carried r) :
    (serve service (HostRequest.frame code data)).run b =
      ⟨some ⟨[HostReply.frame r], some []⟩, ((service code data).run b).state, ((service code data).run b).log⟩ := by
  have hanswer : ((HostRequest.transact code data).answer service).run b =
      ⟨some (HostReply.ofResult r), ((service code data).run b).state, ((service code data).run b).log⟩ := by
    rw [HostRequest.answer, Act.run_map, hr]
    rfl
  have hframe : Frame.encode (Parcel.toText (HostReply.ofResult r)) = .ok (HostReply.frame r) := Frame.encode_eq hreply.fits
  rw [serve, h.scan_frame]
  simp [HostRequest.answerAll, Act.run_bind, hanswer, hframe]

/-- A service that never returns is run all the same, and nothing is answered. -/
theorem run_serve_transact_of_hang (h : HostRequest.Carried code data) (hr : ((service code data).run b).value = none) :
    (serve service (HostRequest.frame code data)).run b =
      ⟨none, ((service code data).run b).state, ((service code data).run b).log⟩ := by
  have hanswer : ((HostRequest.transact code data).answer service).run b =
      ⟨none, ((service code data).run b).state, ((service code data).run b).log⟩ := by
    rw [HostRequest.answer, Act.run_map, hr]
    rfl
  rw [serve, h.scan_frame]
  simp [HostRequest.answerAll, Act.run_bind, hanswer]

/-- Nor is anything answered if the answer is too long, though the service was run. -/
theorem run_serve_transact_of_oversized (h : HostRequest.Carried code data) {r : Except ServiceError Json}
    (hr : ((service code data).run b).value = some r)
    (hlong : Frame.sizeLimit < (Parcel.toText (HostReply.ofResult r)).utf8ByteSize) :
    (serve service (HostRequest.frame code data)).run b =
      ⟨some ⟨[], none⟩, ((service code data).run b).state, ((service code data).run b).log⟩ := by
  have hanswer : ((HostRequest.transact code data).answer service).run b =
      ⟨some (HostReply.ofResult r), ((service code data).run b).state, ((service code data).run b).log⟩ := by
    rw [HostRequest.answer, Act.run_map, hr]
    rfl
  rw [serve, h.scan_frame]
  simp [HostRequest.answerAll, Act.run_bind, hanswer, Frame.encode_eq_error hlong]

/-- The client receives the answer. -/
theorem HostReply.Carried.receive_frame {r : Except ServiceError Json} (h : HostReply.Carried r) :
    (Frame.receive? (HostReply.frame r) : Option (Except TubeError HostReply × List UInt8)) =
      some (.ok (HostReply.ofResult r), []) := by
  have hnext := Frame.next_framed (Parcel.admits_toText h.fits) []
  rw [List.append_nil] at hnext
  rw [Frame.receive?, HostReply.frame, hnext]
  simp only [ofMessage_ofResult h.travels]

end Serving

end Switchboard
