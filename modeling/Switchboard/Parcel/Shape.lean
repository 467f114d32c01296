import Switchboard.Json.Value

/-!
# The shapes of payloads

What may be sent as a payload is described by a shape: numbers of a width, texts, lists, optional values, records by their
fields in the order of declaration, and choices between named variants. Every shape has a type of carriers, and `encode` writes
a carrier as a JSON value, the fields of a record in the order of declaration.
-/

namespace Switchboard

/-- The widths of whole numbers. -/
inductive Width where
  | i32
  | u32
  | i64
  | u64
deriving DecidableEq, Repr

namespace Width

def name : Width → String
  | .i32 => "i32"
  | .u32 => "u32"
  | .i64 => "i64"
  | .u64 => "u64"

/-- The numbers of a width. -/
def Carrier : Width → Type
  | .i32 => Int32
  | .u32 => UInt32
  | .i64 => Int64
  | .u64 => UInt64

def toInt : (w : Width) → w.Carrier → Int
  | .i32, x => Int32.toInt x
  | .u32, x => (UInt32.toNat x : Int)
  | .i64, x => Int64.toInt x
  | .u64, x => (UInt64.toNat x : Int)

/-- The number of that width, if there is one. -/
def ofInt? : (w : Width) → Int → Option w.Carrier
  | .i32, n => if -0x80000000 ≤ n ∧ n < 0x80000000 then some (Int32.ofInt n) else none
  | .u32, n => if 0 ≤ n ∧ n < 0x100000000 then some (UInt32.ofNat n.toNat) else none
  | .i64, n => if -0x8000000000000000 ≤ n ∧ n < 0x8000000000000000 then some (Int64.ofInt n) else none
  | .u64, n => if 0 ≤ n ∧ n < 0x10000000000000000 then some (UInt64.ofNat n.toNat) else none

end Width

/-- Whether a field has to be there. A field with a default that is not given is left to its owner. -/
inductive Presence where
  | required
  | defaulted
deriving DecidableEq, Repr

def Presence.Carrier : Presence → Type → Type
  | .required, α => α
  | .defaulted, α => Option α

mutual

/-- What a payload may be. -/
inductive Shape where
  /-- Any JSON value. -/
  | any
  | unit
  | bool
  | int (w : Width)
  /-- A string; `expected` names it in messages. -/
  | text (expected : String)
  | list (item : Shape)
  /-- A value or null. -/
  | option (value : Shape)
  /-- A record; `title` names it in messages, and a strict one refuses fields that it does not know. -/
  | record (title : String) (strict : Bool) (fields : Fields)
  | oneOf (variants : Variants)

/-- The fields of a record in the order of declaration. -/
inductive Fields where
  | nil
  | cons (name : String) (presence : Presence) (shape : Shape) (rest : Fields)

/-- The variants of a choice: a name alone, one with a value, or one with fields. -/
inductive Variants where
  | nil
  | plain (name : String) (rest : Variants)
  | holding (name : String) (shape : Shape) (rest : Variants)
  | record (name : String) (title : String) (fields : Fields) (rest : Variants)

end

mutual

/-- The values of a shape. -/
def Shape.Carrier : Shape → Type
  | .any => Json
  | .unit => Unit
  | .bool => Bool
  | .int w => w.Carrier
  | .text _ => String
  | .list item => List item.Carrier
  | .option value => Option value.Carrier
  | .record _ _ fields => fields.Carrier
  | .oneOf variants => variants.Carrier

def Fields.Carrier : Fields → Type
  | .nil => Unit
  | .cons _ presence shape rest => presence.Carrier shape.Carrier × rest.Carrier

def Variants.Carrier : Variants → Type
  | .nil => Empty
  | .plain _ rest => Unit ⊕ rest.Carrier
  | .holding _ shape rest => shape.Carrier ⊕ rest.Carrier
  | .record _ _ fields rest => fields.Carrier ⊕ rest.Carrier

end

def Fields.size : Fields → Nat
  | .nil => 0
  | .cons _ _ _ rest => rest.size + 1

def Fields.names : Fields → List String
  | .nil => []
  | .cons name _ _ rest => name :: rest.names

def Variants.names : Variants → List String
  | .nil => []
  | .plain name rest | .holding name _ rest | .record name _ _ rest => name :: rest.names

/-- The field of a record as it is written: a field with a default may be left out. -/
def Presence.encode {α : Type} (name : String) (write : α → Json) :
    (p : Presence) → p.Carrier α → List (String × Json) → List (String × Json)
  | .required, x, rest => (name, write x) :: rest
  | .defaulted, some x, rest => (name, write x) :: rest
  | .defaulted, none, rest => rest

mutual

/-- A value of a shape as JSON, the fields of records in the order of declaration. -/
def Shape.encode : (s : Shape) → s.Carrier → Json
  | .any, v => v
  | .unit, _ => .null
  | .bool, b => .bool b
  | .int w, n => .int (w.toInt n)
  | .text _, s => .string s
  | .list item, xs => .array (List.map item.encode xs)
  | .option _, none => .null
  | .option value, some x => value.encode x
  | .record _ _ fields, x => .object (fields.encode x)
  | .oneOf variants, x => variants.encode x

def Fields.encode : (f : Fields) → f.Carrier → List (String × Json)
  | .nil, _ => []
  | .cons name presence shape rest, (x, xs) => presence.encode name shape.encode x (rest.encode xs)

def Variants.encode : (vs : Variants) → vs.Carrier → Json
  | .nil, x => nomatch x
  | .plain name _, .inl _ => .string name
  | .plain _ rest, .inr x => rest.encode x
  | .holding name shape _, .inl x => .object [(name, shape.encode x)]
  | .holding _ _ rest, .inr x => rest.encode x
  | .record name _ fields _, .inl x => .object [(name, .object (fields.encode x))]
  | .record _ _ _ rest, .inr x => rest.encode x

end

end Switchboard
