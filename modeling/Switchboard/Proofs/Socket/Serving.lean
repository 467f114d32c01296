import Mathlib
import Switchboard.Socket.Serving

/-!
# What serving comes to

A host answers the requests at the front of a stream, and stops at the first frame that is no request or the first answer that
does not fit into a frame (`left_serve`). The one request that every host answers in the same way is that for a death link
(`run_serve_linkFrame`).
-/

namespace Switchboard

variable {σ : Type}

/-! ## How far requests are served -/

/-- Every request is answered if the serving goes on, and not every one otherwise. -/
theorem length_answerAll {service : Service σ} {requests : List HostRequest} {s : σ} {answers : List (List UInt8)}
    {goesOn : Bool} (h : ((HostRequest.answerAll service requests).run s).value = some (answers, goesOn)) :
    if goesOn then answers.length = requests.length else answers.length < requests.length := by
  induction requests generalizing s answers goesOn with
  | nil =>
    obtain ⟨rfl, rfl⟩ := Prod.mk.inj (Option.some.inj h)
    rfl
  | cons request rest ih =>
    rw [HostRequest.answerAll, Act.run_bind] at h
    cases hreply : ((request.answer service).run s).value with
    | none =>
      rw [hreply] at h
      cases h
    | some reply =>
      simp only [hreply] at h
      cases hframe : Frame.encode (Parcel.toText reply) with
      | error e =>
        simp only [hframe, Act.run_pure] at h
        obtain ⟨rfl, rfl⟩ := Prod.mk.inj (Option.some.inj h)
        exact Nat.succ_pos _
      | ok frame =>
        simp only [hframe, Act.run_bind] at h
        cases hrest : ((HostRequest.answerAll service rest).run ((request.answer service).run s).state).value with
        | none =>
          rw [hrest] at h
          cases h
        | some others =>
          simp only [hrest, Act.run_pure] at h
          obtain ⟨rfl, rfl⟩ := Prod.mk.inj (Option.some.inj h)
          have hothers := ih hrest
          split
          · rw [if_pos ‹_›] at hothers
            simp [hothers]
          · rw [if_neg ‹_›] at hothers
            simpa using hothers

/-- Serving ends with a frame that is no request, or with an answer that does not fit into a frame. -/
theorem left_serve {service : Service σ} {stream : List UInt8} {s : σ} {served : Served}
    (h : ((serve service stream).run s).value = some served) :
    served.left = none ↔ (∃ e, (HostRequest.scan stream).2 = .refused e) ∨
      served.answers.length < (HostRequest.scan stream).1.length := by
  rw [serve, Act.run_bind] at h
  cases hanswers : ((HostRequest.answerAll service (HostRequest.scan stream).1).run s).value with
  | none =>
    simp only [hanswers] at h
    cases h
  | some outcome =>
    obtain ⟨answers, goesOn⟩ := outcome
    have hlength := length_answerAll hanswers
    simp only [hanswers, Act.run_pure] at h
    obtain rfl := Option.some.inj h
    cases goesOn with
    | false => simpa using Or.inr hlength
    | true =>
      simp only [if_true] at hlength
      cases (HostRequest.scan stream).2 <;> simp [hlength]

/-- A stream that starts with an impossible header is not served at all. -/
theorem run_serve_of_refused {service : Service σ} {stream rest : List UInt8} {e : TubeError} (s : σ)
    (h : Frame.next stream = .refused e rest) : (serve service stream).run s = ⟨some ⟨[], none⟩, s, []⟩ := by
  rw [serve, HostRequest.scan_of_refused h]
  rfl

/-! ## A request for a death link -/

/-- The frame of a request for a death link. -/
def HostRequest.linkFrame : List UInt8 :=
  [13, 0, 0, 0, 34, 76, 105, 110, 107, 84, 111, 68, 101, 97, 116, 104, 34]

/-- The frame of the answer to it. -/
def HostReply.linkedFrame : List UInt8 :=
  [8, 0, 0, 0, 34, 76, 105, 110, 107, 101, 100, 34]

theorem encode_linkToDeath : Frame.encode (Parcel.toText HostRequest.linkToDeath) = .ok HostRequest.linkFrame := by cbv

theorem encode_linked : Frame.encode (Parcel.toText HostReply.linked) = .ok HostReply.linkedFrame := by cbv

theorem next_linkFrame :
    Frame.next HostRequest.linkFrame = .frame [34, 76, 105, 110, 107, 84, 111, 68, 101, 97, 116, 104, 34] [] := by cbv

theorem next_linkedFrame : Frame.next HostReply.linkedFrame = .frame [34, 76, 105, 110, 107, 101, 100, 34] [] := by cbv

/-- The name of a variant is read from a message that holds it in quotes. -/
theorem ofMessage_name {α : Type} [Parcel α] (bytes : List UInt8) (name : String) (x : (Parcel.shape α).Carrier)
    (hplain : bytes.all Scan.isPlain = true)
    (hname : Scan.finish none (bytes.foldl ByteArray.push .empty) = .ok name)
    (hread : (Parcel.shape α).read .text (.string (.ok name)) = .ok x) :
    (Parcel.ofMessage (Scan.byte '"' :: (bytes ++ [Scan.byte '"'])) : Except TubeError α) = .ok (Parcel.ofCarrier x) := by
  rw [Parcel.ofMessage, Parcel.ofBytes, Draft.readWhole, Draft.ofBytes_of_plain (List.all_eq_true.mp hplain), hname]
  simp only [Parcel.read, hread]
  rfl

theorem ofMessage_linkToDeath :
    (Parcel.ofMessage [34, 76, 105, 110, 107, 84, 111, 68, 101, 97, 116, 104, 34] : Except TubeError HostRequest) =
      .ok .linkToDeath := by
  have hread : (Parcel.shape HostRequest).read .text (.string (.ok "LinkToDeath")) = .ok (Sum.inr (Sum.inl ())) := by
    refine (Shape.read_oneOf_name .text _ "LinkToDeath").trans ?_
    rw [Variants.readName, if_neg (by decide), Variants.readName, if_pos rfl]
    rfl
  exact ofMessage_name [76, 105, 110, 107, 84, 111, 68, 101, 97, 116, 104] _ _ (by decide) (by cbv) hread

theorem ofMessage_linked :
    (Parcel.ofMessage [34, 76, 105, 110, 107, 101, 100, 34] : Except TubeError HostReply) = .ok .linked := by
  have hread : (Parcel.shape HostReply).read .text (.string (.ok "Linked")) =
      .ok (Sum.inr (Sum.inr (Sum.inr (Sum.inl ())))) := by
    refine (Shape.read_oneOf_name .text _ "Linked").trans ?_
    rw [Variants.readName, if_neg (by decide), Variants.readName, if_neg (by decide), Variants.readName,
      if_neg (by decide), Variants.readName, if_pos rfl]
    rfl
  exact ofMessage_name [76, 105, 110, 107, 101, 100] _ _ (by decide) (by cbv) hread

/-- A frame for a link is read as one. -/
theorem scan_linkFrame : HostRequest.scan HostRequest.linkFrame = ([.linkToDeath], .open []) := by
  rw [HostRequest.scan_of_frame next_linkFrame ofMessage_linkToDeath, HostRequest.scan_of_incomplete rfl]

/-- A host acknowledges a death link without asking its service. -/
theorem run_serve_linkFrame {σ : Type} (service : Service σ) (s : σ) :
    (serve service HostRequest.linkFrame).run s = ⟨some ⟨[HostReply.linkedFrame], some []⟩, s, []⟩ := by
  rw [serve, scan_linkFrame]
  simp [HostRequest.answerAll, HostRequest.answer, encode_linked]

/-- Its acknowledgement is received as one. -/
theorem receive_linkedFrame :
    (Frame.receive? HostReply.linkedFrame : Option (Except TubeError HostReply × List UInt8)) = some (.ok .linked, []) := by
  rw [Frame.receive?, next_linkedFrame]
  simp only [ofMessage_linked]

end Switchboard
