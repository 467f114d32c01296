/-!
# Whole numbers in text

A whole number is a sign and decimal digits: one leading `+`, or, for a signed kind, one leading `-`. The digits are read from
left to right, and the first that is no digit, or with which the number leaves its range, decides what is wrong.
-/

namespace Switchboard

/-- Why a text is no whole number of its kind. -/
inductive IntegerFault where
  | empty
  | invalidDigit
  | tooLarge
  | tooSmall
deriving DecidableEq, Repr

namespace IntegerFault

def message : IntegerFault → String
  | .empty => "cannot parse integer from empty string"
  | .invalidDigit => "invalid digit found in string"
  | .tooLarge => "number too large to fit in target type"
  | .tooSmall => "number too small to fit in target type"

end IntegerFault

/-- Appends decimal digits to a magnitude that stays within `limit`; past it the fault is `overflow`. -/
def readDigits (limit : Nat) (overflow : IntegerFault) : Nat → List Char → Except IntegerFault Nat
  | n, [] => .ok n
  | n, c :: rest =>
    if c.isDigit then
      let next := n * 10 + (c.toNat - '0'.toNat)
      if next ≤ limit then readDigits limit overflow next rest else .error overflow
    else .error .invalidDigit

/-- Reads a natural number up to `limit`. A sign alone is an invalid digit. -/
def readNat (limit : Nat) (s : String) : Except IntegerFault Nat :=
  match s.toList with
  | [] => .error .empty
  | ['+'] => .error .invalidDigit
  | '+' :: digits => readDigits limit .tooLarge 0 digits
  | digits => readDigits limit .tooLarge 0 digits

/-- Reads a number between `-(limit + 1)` and `limit`. -/
def readInt (limit : Nat) (s : String) : Except IntegerFault Int :=
  match s.toList with
  | [] => .error .empty
  | ['+'] | ['-'] => .error .invalidDigit
  | '+' :: digits => (readDigits limit .tooLarge 0 digits).map Int.ofNat
  | '-' :: digits => (readDigits (limit + 1) .tooSmall 0 digits).map fun n => -(n : Int)
  | digits => (readDigits limit .tooLarge 0 digits).map Int.ofNat

end Switchboard
