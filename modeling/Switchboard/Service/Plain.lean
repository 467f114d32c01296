import Switchboard.Service.Basic

/-!
# Plain services

Services without an interface of their own: one that answers every payload with itself, one with the same answer to everything,
a counter, and one that fails in every way.
-/

namespace Switchboard

namespace Service

variable {σ : Type}

/-- Answers every payload with itself. -/
def echo : Service σ :=
  fun _ data => pure (.ok data)

/-- Has one answer to everything. -/
def fixed (answer : Json) : Service σ :=
  fun _ _ => pure (.ok answer)

/-- What a payload adds to a counter: the number that it is, or one. -/
def increment : Json → UInt64
  | .number (.int n) => if 0 ≤ n ∧ n < 0x10000000000000000 then UInt64.ofNat n.toNat else 1
  | _ => 1

/-- Counts: code 1 adds to the total and answers with it; the counter cannot be set. -/
def counter : Service UInt64 :=
  fun code data =>
    if code = 1 then Act.update fun total => (.ok (Parcel.toJson (total + increment data)), total + increment data)
    else if code = 2 then pure (.error (.failedTransaction "counter is read only"))
    else pure (.error (.unknownTransaction code))

/-- Fails in the way that the code names. -/
def failing : Service σ :=
  fun code data => pure <|
    if code = 1 then .error .deadObject
    else if code = 2 then
      .error (.failedTransaction (match data with
        | .string s => s
        | _ => "?"))
    else if code = 3 then .error (.unknownTransaction 77)
    else if code = 4 then (readParcel Int32 data).map Parcel.toJson
    else .error (.unknownTransaction code)

end Service

end Switchboard
