import Switchboard.Parcel.Basic

/-!
# Power statistics

What a device reports about its consumption: the entities with their power states, how long each state was held, the energy of
the consumers, the channels of the meters and what is measured on them.
-/

namespace Switchboard

/-- A state that a power entity can be in. -/
structure PowerState where
  id : Int32
  name : String
deriving DecidableEq, Repr

/-- A part of the device that draws power. -/
structure PowerEntity where
  id : Int32
  name : String
  states : List PowerState
deriving DecidableEq, Repr

/-- How long, how often and when last a state was held. -/
structure StateResidency where
  id : Int32
  totalTimeMs : Int64
  entryCount : Int64
  lastEntryMs : Int64
deriving DecidableEq, Repr

/-- The residencies of the states of one entity. -/
structure StateResidencyResult where
  id : Int32
  residencies : List StateResidency
deriving DecidableEq, Repr

/-- The energy that one consumer drew, in microwatt seconds. -/
structure EnergyConsumerResult where
  id : Int32
  timestampMs : Int64
  energyUws : Int64
deriving DecidableEq, Repr

/-- A channel of an energy meter. -/
structure Channel where
  id : Int32
  name : String
  subsystem : String
deriving DecidableEq, Repr

/-- What one channel measured. -/
structure EnergyMeasurement where
  id : Int32
  timestampMs : Int64
  durationMs : Int64
  energyUws : Int64
deriving DecidableEq, Repr

instance : Parcel PowerState where
  shape := .record "struct State" false <|
    .cons "id" .required (.int .i32) <| .cons "name" .required (.text "a string") .nil
  toCarrier x := (x.id, x.name, ())
  ofCarrier c := ⟨c.1, c.2.1⟩
  ofCarrier_toCarrier _ := rfl

instance : Parcel PowerEntity where
  shape := .record "struct PowerEntity" false <|
    .cons "id" .required (.int .i32) <| .cons "name" .required (.text "a string") <|
      .cons "states" .required (Parcel.shape (List PowerState)) .nil
  toCarrier x := (x.id, x.name, Parcel.toCarrier x.states, ())
  ofCarrier c := ⟨c.1, c.2.1, Parcel.ofCarrier c.2.2.1⟩
  ofCarrier_toCarrier x := by
    change PowerEntity.mk x.id x.name (Parcel.ofCarrier (Parcel.toCarrier x.states)) = x
    rw [Parcel.ofCarrier_toCarrier]

instance : Parcel StateResidency where
  shape := .record "struct StateResidency" false <|
    .cons "id" .required (.int .i32) <| .cons "total_time_in_state_ms" .required (.int .i64) <|
      .cons "total_state_entry_count" .required (.int .i64) <|
        .cons "last_entry_timestamp_ms" .required (.int .i64) .nil
  toCarrier x := (x.id, x.totalTimeMs, x.entryCount, x.lastEntryMs, ())
  ofCarrier c := ⟨c.1, c.2.1, c.2.2.1, c.2.2.2.1⟩
  ofCarrier_toCarrier _ := rfl

instance : Parcel StateResidencyResult where
  shape := .record "struct StateResidencyResult" false <|
    .cons "id" .required (.int .i32) <|
      .cons "state_residency_data" .required (Parcel.shape (List StateResidency)) .nil
  toCarrier x := (x.id, Parcel.toCarrier x.residencies, ())
  ofCarrier c := ⟨c.1, Parcel.ofCarrier c.2.1⟩
  ofCarrier_toCarrier x := by
    change StateResidencyResult.mk x.id (Parcel.ofCarrier (Parcel.toCarrier x.residencies)) = x
    rw [Parcel.ofCarrier_toCarrier]

instance : Parcel EnergyConsumerResult where
  shape := .record "struct EnergyConsumerResult" false <|
    .cons "id" .required (.int .i32) <| .cons "timestamp_ms" .required (.int .i64) <|
      .cons "energy_uws" .required (.int .i64) .nil
  toCarrier x := (x.id, x.timestampMs, x.energyUws, ())
  ofCarrier c := ⟨c.1, c.2.1, c.2.2.1⟩
  ofCarrier_toCarrier _ := rfl

instance : Parcel Channel where
  shape := .record "struct Channel" false <|
    .cons "id" .required (.int .i32) <| .cons "name" .required (.text "a string") <|
      .cons "subsystem" .required (.text "a string") .nil
  toCarrier x := (x.id, x.name, x.subsystem, ())
  ofCarrier c := ⟨c.1, c.2.1, c.2.2.1⟩
  ofCarrier_toCarrier _ := rfl

instance : Parcel EnergyMeasurement where
  shape := .record "struct EnergyMeasurement" false <|
    .cons "id" .required (.int .i32) <| .cons "timestamp_ms" .required (.int .i64) <|
      .cons "duration_ms" .required (.int .i64) <| .cons "energy_uws" .required (.int .i64) .nil
  toCarrier x := (x.id, x.timestampMs, x.durationMs, x.energyUws, ())
  ofCarrier c := ⟨c.1, c.2.1, c.2.2.1, c.2.2.2.1⟩
  ofCarrier_toCarrier _ := rfl

end Switchboard
