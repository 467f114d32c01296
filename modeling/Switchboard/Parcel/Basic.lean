import Switchboard.Json.Scan
import Switchboard.Json.Printer
import Switchboard.Parcel.Read

/-!
# Parcels

A type whose values travel as payloads: its shape, and how its values are carriers of that shape. `Parcel.toJson` and
`Parcel.ofJson` are the two directions for complete values, `Parcel.toText` and `Parcel.ofBytes` those for texts.
-/

namespace Switchboard

/-- A type whose values travel as payloads. -/
class Parcel (α : Type) where
  shape : Shape
  toCarrier : α → shape.Carrier
  ofCarrier : shape.Carrier → α
  ofCarrier_toCarrier : ∀ x, ofCarrier (toCarrier x) = x

namespace Parcel

variable {α : Type} [Parcel α]

/-- A payload as it is written to a text, the fields of records in the order of declaration. -/
def encode (x : α) : Json :=
  (shape α).encode (toCarrier x)

/-- A payload as a value in transit. -/
def toJson (x : α) : Json :=
  (encode x).canonical

/-- A payload on one line. -/
def toText (x : α) : String :=
  (encode x).text

def read (origin : Origin) (d : Draft) : Except ParcelFault α :=
  ((shape α).read origin d).map ofCarrier

/-- Reads a payload from a value. -/
def ofJson (v : Json) : Except ParcelFault α :=
  read .value (Draft.ofValue v)

/-- Reads a payload from a text that holds nothing else. -/
def ofBytes (s : List UInt8) : Except ParcelFault α :=
  Draft.readWhole (read .text) .malformed s

end Parcel

instance : Parcel Json := ⟨.any, id, id, fun _ => rfl⟩

instance : Parcel Unit := ⟨.unit, id, id, fun _ => rfl⟩

instance : Parcel Bool := ⟨.bool, id, id, fun _ => rfl⟩

instance : Parcel Int32 := ⟨.int .i32, id, id, fun _ => rfl⟩

instance : Parcel UInt32 := ⟨.int .u32, id, id, fun _ => rfl⟩

instance : Parcel Int64 := ⟨.int .i64, id, id, fun _ => rfl⟩

instance : Parcel UInt64 := ⟨.int .u64, id, id, fun _ => rfl⟩

instance : Parcel String := ⟨.text "a string", id, id, fun _ => rfl⟩

instance {α : Type} [Parcel α] : Parcel (List α) where
  shape := .list (Parcel.shape α)
  toCarrier xs := List.map Parcel.toCarrier xs
  ofCarrier xs := List.map Parcel.ofCarrier xs
  ofCarrier_toCarrier xs := by
    simp only [List.map_map]
    exact (List.map_congr_left fun x _ => Parcel.ofCarrier_toCarrier x).trans (List.map_id xs)

instance {α : Type} [Parcel α] : Parcel (Option α) where
  shape := .option (Parcel.shape α)
  toCarrier x := Option.map Parcel.toCarrier x
  ofCarrier x := Option.map Parcel.ofCarrier x
  ofCarrier_toCarrier x := by cases x <;> simp [Parcel.ofCarrier_toCarrier]

end Switchboard
