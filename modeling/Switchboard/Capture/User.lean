import Switchboard.Parcel.Basic
import Switchboard.Text.Integer

/-!
# Users

A user is a number; two negative numbers stand for all users and for the one who is current.
-/

namespace Switchboard

/-- A user, or one of the two that stand for others. -/
structure UserId where
  number : Int32
deriving DecidableEq, Repr

/-- A text that names no user, and what is wrong with it as a number. -/
structure BadUserNumber where
  text : String
  fault : IntegerFault
deriving DecidableEq, Repr

def BadUserNumber.message (e : BadUserNumber) : String :=
  "Bad user number: " ++ e.text

namespace UserId

/-- All users. -/
def all : UserId := ⟨-1⟩

/-- The user who is current. -/
def current : UserId := ⟨-2⟩

/-- Reads `all`, `current`, `cur` or a number. -/
def ofText (s : String) : Except BadUserNumber UserId :=
  if s = "all" then .ok all
  else if s = "current" ∨ s = "cur" then .ok current
  else
    match readInt 0x7fffffff s with
    | .ok n => .ok ⟨Int32.ofInt n⟩
    | .error fault => .error ⟨s, fault⟩

def text (u : UserId) : String :=
  toString u.number.toInt

end UserId

/-- A user is a number in a payload. -/
instance : Parcel UserId where
  shape := .int .i32
  toCarrier u := u.number
  ofCarrier n := ⟨n⟩
  ofCarrier_toCarrier _ := rfl

end Switchboard
