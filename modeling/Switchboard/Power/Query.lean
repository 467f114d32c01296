import Switchboard.Power.Data
import Switchboard.Service.Basic

/-!
# What can be asked about power

Six queries, each with a kind of item for its answer. Three of them can be restricted to the items of some ids; no ids mean all
items. `PowerStats` is anything that answers the queries.
-/

namespace Switchboard

/-- The queries about power. -/
inductive PowerQuery where
  | entities
  | residency
  | consumers
  | consumed
  | meters
  | readings
deriving DecidableEq, Repr

namespace PowerQuery

/-- The kind of item in an answer. -/
def Item : PowerQuery → Type
  | .entities => PowerEntity
  | .residency => StateResidencyResult
  | .consumers => Int32
  | .consumed => EnergyConsumerResult
  | .meters => Channel
  | .readings => EnergyMeasurement

instance : (q : PowerQuery) → Parcel q.Item
  | .entities => inferInstanceAs (Parcel PowerEntity)
  | .residency => inferInstanceAs (Parcel StateResidencyResult)
  | .consumers => inferInstanceAs (Parcel Int32)
  | .consumed => inferInstanceAs (Parcel EnergyConsumerResult)
  | .meters => inferInstanceAs (Parcel Channel)
  | .readings => inferInstanceAs (Parcel EnergyMeasurement)

/-- Whether a query takes ids. -/
def takesIds : PowerQuery → Bool
  | .residency | .consumed | .readings => true
  | .entities | .consumers | .meters => false

/-- The transaction of a query. -/
def code : PowerQuery → UInt32
  | .entities => 1
  | .residency => 2
  | .consumers => 3
  | .consumed => 4
  | .meters => 5
  | .readings => 6

def all : List PowerQuery :=
  [.entities, .residency, .consumers, .consumed, .meters, .readings]

/-- The query of a transaction. -/
def ofCode? (code : UInt32) : Option PowerQuery :=
  all.find? (·.code == code)

/-- The word for a query on the command line. -/
def word : PowerQuery → String
  | .entities => "entities"
  | .residency => "residency"
  | .consumers => "consumers"
  | .consumed => "consumed"
  | .meters => "meters"
  | .readings => "readings"

def ofWord? (s : String) : Option PowerQuery :=
  all.find? (·.word == s)

/-- What is said of a text that is no query. -/
def wordError (s : String) : String :=
  "unknown query " ++ quoted s ++ ", expected one of " ++ ", ".intercalate (all.map word)

/-- What a query is about, in a message. -/
def subject : PowerQuery → String
  | .entities => "power entity info"
  | .residency => "state residency"
  | .consumers => "energy consumer info"
  | .consumed => "energy consumer results"
  | .meters => "energy meter info"
  | .readings => "energy measurements"

end PowerQuery

/-- Anything that answers the queries, in the acts on `σ`. The ids count only for a query that takes them. -/
abbrev PowerStats (σ : Type) : Type :=
  (q : PowerQuery) → List Int32 → Act σ (Except ServiceError (List q.Item))

end Switchboard
