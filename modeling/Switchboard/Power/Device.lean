import Switchboard.Power.Query

/-!
# A device in memory

A device with fixed statistics, which answers every query and keeps the requests it got. A request for ids is answered item by
item in the order of the request, each by the first stored item of that id; if one id is missing there is no answer at all.
-/

namespace Switchboard

/-- A query with its ids as a device received it; a query that takes no ids has none. -/
structure PowerRequest where
  query : PowerQuery
  ids : List Int32
deriving DecidableEq, Repr

/-- A device in memory, and the requests it got, the oldest first. -/
structure Device where
  entities : List PowerEntity
  residencies : List StateResidencyResult
  consumers : List EnergyConsumerResult
  channels : List Channel
  measurements : List EnergyMeasurement
  requests : List PowerRequest
deriving Repr

namespace Device

def empty : Device :=
  ⟨[], [], [], [], [], []⟩

/-- The items of the given ids in the order of the ids, or all items if there are no ids. -/
def select {α : Type} (what : String) (id : α → Int32) (items : List α) (ids : List Int32) :
    Except ServiceError (List α) :=
  if ids.isEmpty then .ok items
  else
    ids.mapM fun want =>
      match items.find? (id · == want) with
      | some item => .ok item
      | none => .error (.failedTransaction ("invalid " ++ what ++ " id " ++ toString want.toInt))

/-- What a device answers. -/
def answer (d : Device) : (q : PowerQuery) → List Int32 → Except ServiceError (List q.Item)
  | .entities, _ => .ok d.entities
  | .residency, ids => select "power entity" (·.id) d.residencies ids
  | .consumers, _ => .ok (d.consumers.map (·.id) : List Int32)
  | .consumed, ids => select "energy consumer" (·.id) d.consumers ids
  | .meters, _ => .ok d.channels
  | .readings, ids => select "channel" (·.id) d.measurements ids

/-- The queries answered by the device that is the state. -/
def stats : PowerStats Device :=
  fun q ids => Act.update fun d =>
    (d.answer q ids, { d with requests := d.requests ++ [⟨q, if q.takesIds then ids else []⟩] })

/-- The states of an entity of the sample device, as many as there are names. -/
def sampleEntity (id : Int32) (name : String) (states : List String) : PowerEntity :=
  ⟨id, name, states.mapIdx fun i state => ⟨Int32.ofNat i, state⟩⟩

/-- The residencies of an entity of the sample device. -/
def sampleResidency (entity : PowerEntity) : StateResidencyResult :=
  ⟨entity.id, entity.states.map fun state =>
    ⟨state.id, 1000 * (entity.id.toInt64 + 1) * (state.id.toInt64 + 1), 10 + state.id.toInt64,
      50000 + state.id.toInt64⟩⟩

def sampleEntities : List PowerEntity :=
  [sampleEntity 0 "cpu_cluster0" ["active", "sleep"], sampleEntity 1 "modem" ["on", "off"]]

/-- A small device: a cluster of processors and a modem, two consumers of energy and two channels. -/
def sample : Device where
  entities := sampleEntities
  residencies := sampleEntities.map sampleResidency
  consumers := [⟨0, 60000, 1250000⟩, ⟨1, 60000, 480000⟩]
  channels := [⟨0, "VSYS_PWR_DISPLAY", "display"⟩, ⟨1, "VSYS_PWR_MODEM", "modem"⟩]
  measurements := [⟨0, 60000, 60000, 3000000⟩, ⟨1, 60000, 60000, 900000⟩]
  requests := []

end Device

end Switchboard
