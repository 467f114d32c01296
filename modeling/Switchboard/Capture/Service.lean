import Switchboard.Capture.User
import Switchboard.Service.Act

/-!
# The service of capture sessions

The service lists and destroys the pending sessions of a user, and keeps a flag: whether binding to services of instant apps is
allowed. Listing and destroying are not answered on the spot: the answer is delivered to a receiver, once at most.
-/

namespace Switchboard

/-- What is delivered when a command on sessions is done. -/
structure ResultData where
  sessions : Option (List String)
deriving DecidableEq, Repr

instance : Parcel ResultData where
  shape := .record "struct ResultData" false <|
    .cons "sessions" .required (Parcel.shape (Option (List String))) .nil
  toCarrier x := (Parcel.toCarrier x.sessions, ())
  ofCarrier c := ⟨Parcel.ofCarrier c.1⟩
  ofCarrier_toCarrier x := by
    change ResultData.mk (Parcel.ofCarrier (Parcel.toCarrier x.sessions)) = x
    rw [Parcel.ofCarrier_toCarrier]

/-- What becomes of the receiver of a command. -/
inductive Delivery where
  | answered (code : Int32) (data : ResultData)
  /-- The receiver is given up without an answer. -/
  | dropped
  /-- The receiver is kept, and no answer comes. -/
  | kept
deriving DecidableEq, Repr

/-- The service of capture sessions, in the acts on `σ`. -/
structure CaptureService (σ : Type) where
  list : UserId → Act σ Delivery
  destroy : UserId → Act σ Delivery
  /-- Whether binding to services of instant apps is allowed. -/
  allowed : Act σ Bool
  setAllowed : Bool → Act σ Unit

namespace CaptureService

/-- The name that the service is found by. -/
def serviceName : String := "intelligence"

/-- Answers every command at once with the same result; the flag stays as it is. -/
def scripted {σ : Type} (code : Int32) (data : ResultData) (allow : Bool) : CaptureService σ where
  list _ := pure (.answered code data)
  destroy _ := pure (.answered code data)
  allowed := pure allow
  setAllowed _ := pure ()

/-- Gives up every receiver without an answer. -/
def dropping {σ : Type} : CaptureService σ where
  list _ := pure .dropped
  destroy _ := pure .dropped
  allowed := pure false
  setAllowed _ := pure ()

end CaptureService

end Switchboard
