import Switchboard.Parcel.Shape
import Switchboard.Parcel.Fault

/-!
# Reading payloads

A value of a shape is read from a draft. The first fault met in the order of the text is reported, the missing fields of a record
last, in the order of declaration. A record is read from an object or from the list of its fields; fields that it does not
know are passed over unless it is strict. A variant is read from its name or from an object whose only field is its name.

Two rules depend on the origin of the draft. When a record is read from a list with too many items, or a variant from something
else than a string or an object, a value that was complete before is described as a whole, while a text is refused at
the place where it goes wrong.
-/

namespace Switchboard

/-- Where a draft comes from. -/
inductive Origin where
  /-- A text. -/
  | text
  /-- A complete value. -/
  | value
deriving DecidableEq, Repr

/-- The complaint about something else than the wanted thing. -/
def Draft.mismatch {α : Type} (d : Draft) (expected : String) : Except ParcelFault α :=
  match d.found with
  | .ok found => .error (.invalidType found expected)
  | .error fault => .error (.malformed fault)

/-- Nothing is wrong, or the text breaks here. -/
def unbroken {α : Type} (fault : Option SyntaxFault) (otherwise : Except ParcelFault α) : Except ParcelFault α :=
  match fault with
  | some fault => .error (.malformed fault)
  | none => otherwise

/-- Reads the items of a list after those of `done`, which come last first. -/
def readItems {α : Type} (read : Draft → Except ParcelFault α) (ending : Ending) :
    List α → List Draft → Except ParcelFault (List α)
  | done, [] => unbroken ending.whenRead (.ok done.reverse)
  | done, d :: rest =>
    match read d with
    | .ok x => readItems read ending (x :: done) rest
    | .error fault => .error fault

/-- Reads the members of an object into slots. `put` reads the value of a known field; the names in `known` are the only ones
that a strict record takes. -/
def readMembers {σ : Type} (put : String → Draft → σ → Option (Except ParcelFault σ)) (known : Option (List String))
    (ending : Ending) : σ → List (Except SyntaxFault String × Draft) → Except ParcelFault σ
  | slots, [] => unbroken ending.whenRead (.ok slots)
  | _, (.error fault, _) :: _ => .error (.malformed fault)
  | slots, (.ok name, d) :: rest =>
    match put name d slots, known with
    | some (.ok slots), _ => readMembers put known ending slots rest
    | some (.error fault), _ => .error fault
    | none, some known => .error (.unknownField name known)
    | none, none => unbroken d.skipped (readMembers put known ending slots rest)

/-- The slots of a record that is being read: a field that is not read yet is empty. -/
def Fields.Slots : Fields → Type
  | .nil => Unit
  | .cons _ _ shape rest => Option shape.Carrier × rest.Slots

def Fields.noSlots : (f : Fields) → f.Slots
  | .nil => ()
  | .cons _ _ _ rest => (none, rest.noSlots)

/-- What stands for a field that is missing, if anything does. -/
def Shape.whenMissing : (s : Shape) → Option s.Carrier
  | .option _ => some none
  | _ => none

/-- A field from its slot. -/
def Presence.close {α : Type} (name : String) (whenMissing : Option α) :
    (p : Presence) → Option α → Except ParcelFault (p.Carrier α)
  | .required, some x => .ok x
  | .required, none =>
    match whenMissing with
    | some x => .ok x
    | none => .error (.missingField name)
  | .defaulted, slot => .ok slot

/-- The record from its slots. -/
def Fields.close : (f : Fields) → f.Slots → Except ParcelFault f.Carrier
  | .nil, _ => .ok ()
  | .cons name presence shape rest, (slot, slots) =>
    match presence.close name shape.whenMissing slot with
    | .error fault => .error fault
    | .ok x => (rest.close slots).map (x, ·)

/-- A field for which the list of fields has no item left. -/
def Presence.whenShort {α : Type} (shortfall : ParcelFault) : (p : Presence) → Except ParcelFault (p.Carrier α)
  | .required => .error shortfall
  | .defaulted => .ok none

/-- A field that is there. -/
def Presence.given {α : Type} : (p : Presence) → α → p.Carrier α
  | .required, x => x
  | .defaulted, x => some x

/-- How a record is described by the number of its fields. -/
def Fields.lengthText (f : Fields) (title : String) : String :=
  title ++ " with " ++ toString f.size ++ (if f.size = 1 then " element" else " elements")

/-- What is left of a list after the fields of a record. -/
def surplus {α : Type} (origin : Origin) (total : Nat) (ending : Ending) (left : List Draft) (x : α) :
    Except ParcelFault α :=
  match left, origin with
  | [], _ => unbroken ending.whenFull (.ok x)
  | _ :: _, .text => .error (.malformed .trailingCharacters)
  | _ :: _, .value => .error (.invalidLength total "fewer elements in array")

mutual

/-- Reads a value of a shape. -/
def Shape.read (origin : Origin) : (s : Shape) → Draft → Except ParcelFault s.Carrier
  | .any, d =>
    match d.value with
    | .ok v => .ok v
    | .error fault => .error (.malformed fault)
  | .unit, d =>
    match d with
    | .null => .ok ()
    | d => d.mismatch "unit"
  | .bool, d =>
    match d with
    | .bool b => .ok b
    | d => d.mismatch "a boolean"
  | .int w, d =>
    match d with
    | .number (.ok (.int n)) =>
      match w.ofInt? n with
      | some x => .ok x
      | none => .error (.invalidValue (.integer n) w.name)
    | d => d.mismatch w.name
  | .text expected, d =>
    match d with
    | .string (.ok s) => .ok s
    | d => d.mismatch expected
  | .list item, d =>
    match d with
    | .list items ending => readItems (fun d => item.read origin d) ending [] items
    | d => d.mismatch "a sequence"
  | .option value, d =>
    match d with
    | .null => .ok none
    | d => (value.read origin d).map some
  | .record title strict fields, d => fields.readRecord origin title (if strict then some fields.names else none) d
  | .oneOf variants, d =>
    match d with
    | .string (.ok name) =>
      match variants.readName name with
      | some x => x
      | none => .error (.unknownVariant name variants.names)
    | .string (.error fault) => .error (.malformed fault)
    | .object members ending =>
      match origin, members with
      | .value, [(.ok name, d)] | .text, [(.ok name, d)] =>
        match variants.readPayload origin name d with
        | none => .error (.unknownVariant name variants.names)
        | some (.error fault) => .error fault
        | some (.ok x) => unbroken ending.whenFull (.ok x)
      | .value, _ => .error (.invalidValue .map "map with a single key")
      | .text, [] =>
        match ending with
        | .closed => .error (.malformed .expectedValue)
        | .cut c => .error (.malformed c.whenRead)
      | .text, (.error fault, _) :: _ => .error (.malformed fault)
      | .text, (.ok name, d) :: _ :: _ =>
        match variants.readPayload origin name d with
        | none => .error (.unknownVariant name variants.names)
        | some (.error fault) => .error fault
        | some (.ok _) => .error (.malformed .expectedValue)
    | d =>
      match origin, d with
      | .value, d => d.mismatch "string or map"
      | .text, .absent => .error (.malformed .endInValue)
      | .text, .broken _ _ fault => .error (.malformed fault)
      | .text, _ => .error (.malformed .expectedValue)

/-- Reads a record from an object or from the list of its fields. -/
def Fields.readRecord (origin : Origin) (f : Fields) (title : String) (known : Option (List String)) (d : Draft) :
    Except ParcelFault f.Carrier :=
  match d with
  | .list items ending =>
    match f.readList origin (f.lengthText title) ending 0 items with
    | .error fault => .error fault
    | .ok (x, left) => surplus origin items.length ending left x
  | .object members ending =>
    match readMembers (fun name d slots => f.put origin name d slots) known ending f.noSlots members with
    | .error fault => .error fault
    | .ok slots => f.close slots
  | d => d.mismatch title

/-- Reads the fields of a record from a list, and returns what is left of it; `n` items are read already. -/
def Fields.readList (origin : Origin) (f : Fields) (expected : String) (ending : Ending) (n : Nat) (items : List Draft) :
    Except ParcelFault (f.Carrier × List Draft) :=
  match f, items with
  | .nil, items => .ok ((), items)
  | .cons _ presence _ rest, [] =>
    unbroken ending.whenRead <|
      match presence.whenShort (.invalidLength n expected) with
      | .error fault => .error fault
      | .ok x => (rest.readList origin expected ending (n + 1) []).map fun (xs, left) => ((x, xs), left)
  | .cons _ presence shape rest, d :: items =>
    match shape.read origin d with
    | .error fault => .error fault
    | .ok x =>
      (rest.readList origin expected ending (n + 1) items).map fun (xs, left) => ((presence.given x, xs), left)

/-- Reads the value of a known field into its slot, which has to be empty. -/
def Fields.put (origin : Origin) (f : Fields) (name : String) (d : Draft) (slots : f.Slots) :
    Option (Except ParcelFault f.Slots) :=
  match f, slots with
  | .nil, _ => none
  | .cons own _ shape rest, (slot, slots) =>
    if own = name then
      match slot with
      | some _ => some (.error (.duplicateField name))
      | none => some ((shape.read origin d).map fun x => (some x, slots))
    else (rest.put origin name d slots).map (·.map (slot, ·))

/-- Reads a variant from its name alone. -/
def Variants.readName (vs : Variants) (name : String) : Option (Except ParcelFault vs.Carrier) :=
  match vs with
  | .nil => none
  | .plain own rest => if own = name then some (.ok (.inl ())) else (rest.readName name).map (·.map .inr)
  | .holding own _ rest =>
    if own = name then some (.error (.invalidType .unitVariant "newtype variant"))
    else (rest.readName name).map (·.map .inr)
  | .record own _ _ rest =>
    if own = name then some (.error (.invalidType .unitVariant "struct variant"))
    else (rest.readName name).map (·.map .inr)

/-- Reads a variant from its name and what stands beside it. -/
def Variants.readPayload (origin : Origin) (vs : Variants) (name : String) (d : Draft) :
    Option (Except ParcelFault vs.Carrier) :=
  match vs with
  | .nil => none
  | .plain own rest =>
    if own = name then
      some <| match d with
        | .null => .ok (.inl ())
        | d => d.mismatch "unit"
    else (rest.readPayload origin name d).map (·.map .inr)
  | .holding own shape rest =>
    if own = name then some ((shape.read origin d).map .inl)
    else (rest.readPayload origin name d).map (·.map .inr)
  | .record own title fields rest =>
    if own = name then
      some <| match origin, d with
        | .value, .list .. => d.mismatch "struct variant"
        | _, d => (fields.readRecord origin title none d).map .inl
    else (rest.readPayload origin name d).map (·.map .inr)

end

/-- A choice is read from a string by the name of its variant. -/
theorem Shape.read_oneOf_name (origin : Origin) (vs : Variants) (name : String) :
    (Shape.oneOf vs).read origin (.string (.ok name)) =
      match vs.readName name with
      | some x => x
      | none => .error (.unknownVariant name vs.names) := by
  rw [Shape.read.eq_def]

end Switchboard
