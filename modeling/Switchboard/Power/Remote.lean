import Switchboard.Power.Query

/-!
# Power statistics over transactions

The stub answers transactions from an implementation, the proxy turns queries into transactions. The payload of a query that
takes ids is their list, where null stands for no ids; the payload of any other is not looked at, and the proxy sends null.
-/

namespace Switchboard

namespace PowerStats

variable {σ : Type}

/-- The ids in a payload. -/
def readIds (data : Json) : Except ServiceError (List Int32) :=
  (readParcel (Option (List Int32)) data).map (·.getD [])

/-- Answers a query from an implementation. -/
def reply (hal : PowerStats σ) (q : PowerQuery) (ids : List Int32) : Act σ (Except ServiceError Json) := do
  match ← hal q ids with
  | .ok items => pure (.ok (Parcel.toJson items))
  | .error e => pure (.error e)

/-- Serves an implementation. Nothing is asked of it unless the code is known and the payload of a query with ids holds ids. -/
def stub (hal : PowerStats σ) : Service σ :=
  fun code data =>
    match PowerQuery.ofCode? code with
    | none => pure (.error (.unknownTransaction code))
    | some q =>
      if q.takesIds then
        match readIds data with
        | .ok ids => reply hal q ids
        | .error e => pure (.error e)
      else reply hal q []

/-- The queries as transactions on a remote object. -/
def proxy (remote : Service σ) : PowerStats σ :=
  fun q ids => remote.transact q.code (if q.takesIds then some ids else none) (List q.Item)

end PowerStats

end Switchboard
