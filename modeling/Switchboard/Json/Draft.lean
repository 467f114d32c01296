import Switchboard.Json.Value
import Switchboard.Json.Fault

/-!
# JSON as it stands in a text

A draft is what a text says, read from its front as far as it is JSON: the members of an object in the order of the text, with
every repetition, and, where the text breaks, the fault. Which fault is reported depends on what the reader was after (a value,
a value to be passed over, or nothing more), so a break carries one for each. What is wrong with a string's code points or with
a number's size stays with the string or the number, since a value that is passed over may have both.

`Draft.value` reads any JSON value from a draft; `Draft.skipped` is the fault met in passing over it.
-/

namespace Switchboard

/-- What stands where something else was wanted. -/
inductive Found where
  | null
  | bool (b : Bool)
  | integer (n : Int)
  | floating (x : Double)
  | string (s : String)
  | sequence
  | map
  | unitVariant
deriving DecidableEq, Repr, Inhabited

def Number.found : Number → Found
  | .int n => .integer n
  | .float x => .floating x

/-- Where a list or an object breaks off. -/
structure Cut where
  /-- To a reader that wants the next member. -/
  whenRead : SyntaxFault
  /-- To a reader that passes over the whole; `none` when it can. -/
  whenSkipped : Option SyntaxFault
  /-- To a reader that wants nothing more. -/
  whenFull : SyntaxFault
deriving Repr

/-- How a list or an object ends. -/
inductive Ending where
  | closed
  | cut (c : Cut)
deriving Repr

/-- A JSON text read from its front, as far as it is JSON. -/
inductive Draft where
  /-- The end of the text. -/
  | absent
  /-- No JSON value starts here, or one that breaks off: the fault to a reader that wants it, to one that passes over it and to
  one that wants a string or an object. -/
  | broken (whenRead whenSkipped whenNamed : SyntaxFault)
  | null
  | bool (b : Bool)
  | number (n : Except SyntaxFault Number)
  | string (s : Except SyntaxFault String)
  | list (items : List Draft) (ending : Ending)
  | object (members : List (Except SyntaxFault String × Draft)) (ending : Ending)
deriving Inhabited

namespace Ending

/-- The fault met by a reader that wants the next member and finds none; `none` at a proper end. -/
def whenRead : Ending → Option SyntaxFault
  | .closed => none
  | .cut c => some c.whenRead

def whenSkipped : Ending → Option SyntaxFault
  | .closed => none
  | .cut c => c.whenSkipped

def whenFull : Ending → Option SyntaxFault
  | .closed => none
  | .cut c => some c.whenFull

end Ending

namespace Draft

mutual

/-- The value that a draft is of. -/
def value : Draft → Except SyntaxFault Json
  | .absent => .error .endInValue
  | .broken fault _ _ => .error fault
  | .null => .ok .null
  | .bool b => .ok (.bool b)
  | .number n => n.map .number
  | .string s => s.map .string
  | .list items ending => valueItems items ending []
  | .object members ending => valueMembers members ending []

/-- Reads the items after those of `done`, which come last first. -/
def valueItems : List Draft → Ending → List Json → Except SyntaxFault Json
  | [], ending, done =>
    match ending.whenRead with
    | none => .ok (.array done.reverse)
    | some fault => .error fault
  | d :: rest, ending, done =>
    match value d with
    | .ok v => valueItems rest ending (v :: done)
    | .error fault => .error fault

/-- Reads the members after those of `done`, which come last first. -/
def valueMembers : List (Except SyntaxFault String × Draft) → Ending → List (String × Json) → Except SyntaxFault Json
  | [], ending, done =>
    match ending.whenRead with
    | none => .ok (.object (Json.sortFields done.reverse))
    | some fault => .error fault
  | (.error fault, _) :: _, _, _ => .error fault
  | (.ok name, d) :: rest, ending, done =>
    match value d with
    | .ok v => valueMembers rest ending ((name, v) :: done)
    | .error fault => .error fault

end

mutual

/-- The fault met in passing over a value. -/
def skipped : Draft → Option SyntaxFault
  | .absent => some .endInValue
  | .broken _ fault _ => some fault
  | .null | .bool _ | .number _ | .string _ => none
  | .list items ending => skippedItems items ending
  | .object members ending => skippedMembers members ending

def skippedItems : List Draft → Ending → Option SyntaxFault
  | [], ending => ending.whenSkipped
  | d :: rest, ending =>
    match skipped d with
    | none => skippedItems rest ending
    | some fault => some fault

def skippedMembers : List (Except SyntaxFault String × Draft) → Ending → Option SyntaxFault
  | [], ending => ending.whenSkipped
  | (_, d) :: rest, ending =>
    match skipped d with
    | none => skippedMembers rest ending
    | some fault => some fault

end

mutual

/-- The draft of a value: nothing is broken in it. -/
def ofValue : Json → Draft
  | .null => .null
  | .bool b => .bool b
  | .number n => .number (.ok n)
  | .string s => .string (.ok s)
  | .array items => .list (ofItems items) .closed
  | .object fields => .object (ofFields fields) .closed

def ofItems : List Json → List Draft
  | [] => []
  | v :: rest => ofValue v :: ofItems rest

def ofFields : List (String × Json) → List (Except SyntaxFault String × Draft)
  | [] => []
  | (name, v) :: rest => (.ok name, ofValue v) :: ofFields rest

end

/-- What a draft is, to a reader that wants something else. -/
def found : Draft → Except SyntaxFault Found
  | .absent => .error .endInValue
  | .broken fault _ _ => .error fault
  | .null => .ok .null
  | .bool b => .ok (.bool b)
  | .number n => n.map Number.found
  | .string s => s.map .string
  | .list _ _ => .ok .sequence
  | .object _ _ => .ok .map

end Draft

end Switchboard
