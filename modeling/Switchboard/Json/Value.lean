import Switchboard.Json.Double

/-!
# JSON values

A payload is a JSON value. Its numbers are of two kinds: whole numbers that fit 64 bits with or without a sign, and doubles; a
double is never taken for a whole number. The fields of an object are a list of pairs, so that a record can be written in the
order of its declaration. `canonical` sorts them by name (the order of code points, which is that of the UTF-8 bytes) and keeps
the last of several of one name; a payload in transit is always canonical.
-/

namespace Switchboard

/-- A JSON number: a whole number between `-2 ^ 63` and `2 ^ 64 - 1`, or a double. -/
inductive Number where
  | int (n : Int)
  | float (x : Double)
deriving DecidableEq, Repr, Inhabited

/-- A JSON value. -/
inductive Json where
  | null
  | bool (b : Bool)
  | number (n : Number)
  | string (s : String)
  | array (items : List Json)
  | object (fields : List (String × Json))
deriving Repr, Inhabited

namespace Json

/-- The whole number `n` as a value. -/
def int (n : Int) : Json :=
  .number (.int n)

def nat (n : Nat) : Json :=
  .number (.int n)

/-- The field of that name; of several, the last. -/
def field? (v : Json) (name : String) : Option Json :=
  match v with
  | .object fields => (fields.findRev? (·.1 == name)).map (·.2)
  | _ => none

/-- Of neighbours with one name, keeps the last. -/
def keepLast {α : Type} : List (String × α) → List (String × α)
  | [] => []
  | [entry] => [entry]
  | entry :: next :: rest =>
    if entry.1 = next.1 then keepLast (next :: rest) else entry :: keepLast (next :: rest)

/-- Fields sorted by name, one of each name. -/
def sortFields {α : Type} (fields : List (String × α)) : List (String × α) :=
  keepLast (fields.mergeSort fun a b => decide (a.1 ≤ b.1))

mutual

/-- The same value with the fields of every object sorted by name. -/
def canonical : Json → Json
  | .null => .null
  | .bool b => .bool b
  | .number n => .number n
  | .string s => .string s
  | .array items => .array (canonicalItems items)
  | .object fields => .object (sortFields (canonicalFields fields))

def canonicalItems : List Json → List Json
  | [] => []
  | v :: rest => canonical v :: canonicalItems rest

def canonicalFields : List (String × Json) → List (String × Json)
  | [] => []
  | (name, v) :: rest => (name, canonical v) :: canonicalFields rest

end

end Json

end Switchboard
