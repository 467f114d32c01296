import Switchboard.Power.Device
import Switchboard.Proofs.Parcel.Bounds
import Switchboard.Proofs.Power.Facade

/-!
# What queries about power carry

The payloads of the queries and of their answers travel, whatever the ids and the items (`PowerQuery.travels_payload`,
`PowerStats.travels_of_stub`); so a query is carried across a socket as soon as its two frames are not too long.
`PowerStats.recorded` is an implementation that writes down what it is asked.
-/

namespace Switchboard

namespace PowerQuery

/-- The ids of a query survive their way across a socket. -/
theorem travels_payload (q : PowerQuery) (ids : List Int32) : (q.payload ids).Travels 125 :=
  Parcel.travels_toJson rfl (by decide) _

/-- So do the items of its answer. -/
theorem travels_items (q : PowerQuery) (items : List q.Item) : (Parcel.toJson items).Travels 126 := by
  cases q <;> exact Parcel.travels_toJson rfl (by decide) _

end PowerQuery

/-- The requests that an implementation got, and what it works on. -/
structure PowerRecord (σ : Type) where
  backend : σ
  /-- The requests, the oldest first. -/
  requests : List PowerRequest

namespace PowerStats

variable {σ : Type}

/-- An implementation that writes down what it is asked, before it goes to work. -/
def recorded (hal : PowerStats σ) : PowerStats (PowerRecord σ) :=
  fun q ids => do
    Act.modify fun r => { r with requests := r.requests ++ [⟨q, ids⟩] }
    Act.within (·.backend) (fun b r => { r with backend := b }) (hal q ids)

/-- What the stub answers travels. -/
theorem travels_of_stub {hal : PowerStats σ} {code : UInt32} {data v : Json} {b : σ}
    (h : ((stub hal code data).run b).value = some (.ok v)) : v.Travels 126 := by
  have hreply : ∀ (q : PowerQuery) ids, ((reply hal q ids).run b).value = some (.ok v) → v.Travels 126 := by
    intro q ids hvalue
    rw [reply, Act.run_bind] at hvalue
    rcases hq : ((hal q ids).run b).value with _ | _ | items <;> rw [hq] at hvalue
    · cases hvalue
    · cases hvalue
    · obtain rfl := Except.ok.inj (Option.some.inj hvalue)
      exact q.travels_items items
  rw [stub] at h
  split at h
  · cases h
  · split at h
    · split at h
      · exact hreply _ _ h
      · cases h
    · exact hreply _ _ h

/-- The frames of a query and of its answer are not too long. -/
structure FramesFit (hal : PowerStats σ) (q : PowerQuery) (ids : List Int32) (b : σ) : Prop where
  request : (Parcel.toText (HostRequest.transact q.code (q.payload ids))).utf8ByteSize ≤ Frame.sizeLimit
  reply : ∀ r, ((stub hal q.code (q.payload ids)).run b).value = some r →
    (Parcel.toText (HostReply.ofResult r)).utf8ByteSize ≤ Frame.sizeLimit

namespace FramesFit

variable {hal : PowerStats σ} {q : PowerQuery} {ids : List Int32} {b : σ}

/-- A request whose frames fit is carried. -/
theorem carried_request (h : FramesFit hal q ids b) : HostRequest.Carried q.code (q.payload ids) :=
  ⟨q.travels_payload ids, h.request⟩

/-- So is the reply to it. -/
theorem carried_reply (h : FramesFit hal q ids b) {r : Except ServiceError Json}
    (hr : ((stub hal q.code (q.payload ids)).run b).value = some r) : HostReply.Carried r :=
  ⟨fun _ hv => travels_of_stub (hv ▸ hr), h.reply r hr⟩

end FramesFit

end PowerStats

end Switchboard
