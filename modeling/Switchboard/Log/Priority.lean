import Switchboard.Parcel.Basic
import Switchboard.Text.Case

/-!
# Priorities and what is kept of a log

A record of the log has one of five levels; a line shows one of eight priorities, which have numbers and names. A filter is
silence, everything, or a priority, and stands for the least severe level that is still written. Filters are read from text in
any case.
-/

namespace Switchboard

/-- The level of a record, the most severe first. -/
inductive Level where
  | error
  | warn
  | info
  | debug
  | trace
deriving DecidableEq, Repr

namespace Level

/-- How far down a level lies. -/
def depth : Level → Nat
  | .error => 1
  | .warn => 2
  | .info => 3
  | .debug => 4
  | .trace => 5

end Level

/-- The levels that are written: the ones down to a level, or none. -/
abbrev Threshold := Option Level

namespace Threshold

def name : Threshold → String
  | none => "OFF"
  | some .error => "ERROR"
  | some .warn => "WARN"
  | some .info => "INFO"
  | some .debug => "DEBUG"
  | some .trace => "TRACE"

/-- Whether records of a level are written. -/
def admits (t : Threshold) (level : Level) : Bool :=
  match t with
  | none => false
  | some least => level.depth ≤ least.depth

end Threshold

/-- The priority of a line, by its number from 0 to 7. -/
inductive Priority where
  | emergency
  | alert
  | critical
  | error
  | warning
  | notice
  | info
  | debug
deriving DecidableEq, Repr

namespace Priority

def all : List Priority :=
  [.emergency, .alert, .critical, .error, .warning, .notice, .info, .debug]

def number : Priority → Nat
  | .emergency => 0
  | .alert => 1
  | .critical => 2
  | .error => 3
  | .warning => 4
  | .notice => 5
  | .info => 6
  | .debug => 7

/-- The name in a line. -/
def name : Priority → String
  | .emergency => "EMERGENCY"
  | .alert => "ALERT"
  | .critical => "CRITICAL"
  | .error => "ERROR"
  | .warning => "WARNING"
  | .notice => "NOTICE"
  | .info => "INFO"
  | .debug => "DEBUG"

/-- Reads a number or a name. -/
def ofText? (s : String) : Option Priority :=
  all.find? fun p => s = toString p.number || s = p.name

/-- What is said of a text that is no priority. -/
def parseError : String :=
  "Priority can only be parsed from 0-7 and given variant names"

end Priority

/-- The priority that a level is shown as. -/
def Level.priority : Level → Priority
  | .error => .error
  | .warn => .warning
  | .info => .info
  | .debug | .trace => .debug

/-- Which records make it to the log. -/
inductive PriorityFilter where
  | silent
  | priority (p : Priority)
  | showAll
deriving DecidableEq, Repr

namespace PriorityFilter

/-- Reads `S`, `SILENT`, `*` or a priority, in any case. -/
def ofText? (s : String) : Option PriorityFilter :=
  let s := upperText s
  if s = "S" ∨ s = "SILENT" then some .silent
  else if s = "*" then some .showAll
  else (Priority.ofText? s).map .priority

/-- What is said of a text that is no filter. -/
def parseError : String :=
  "PriorityFilter can only be parsed from valid Priority value, S, *, or SILENT"

/-- The levels that a filter lets through. The levels are fewer than the priorities, so that a filter may let more through than
it names. -/
def threshold : PriorityFilter → Threshold
  | .silent => none
  | .showAll => some .trace
  | .priority p =>
    match p with
    | .emergency | .alert | .critical | .error => some .error
    | .warning => some .warn
    | .notice | .info => some .info
    | .debug => some .debug

end PriorityFilter

/-! ## As payloads -/

namespace Priority

/-- The variants of a priority, by the names they have in payloads. -/
def variants : Variants :=
  .plain "Emergency" <| .plain "Alert" <| .plain "Critical" <| .plain "Error" <|
    .plain "Warning" <| .plain "Notice" <| .plain "Info" <| .plain "Debug" .nil

def toCarrier : Priority → variants.Carrier
  | .emergency => .inl ()
  | .alert => .inr (.inl ())
  | .critical => .inr (.inr (.inl ()))
  | .error => .inr (.inr (.inr (.inl ())))
  | .warning => .inr (.inr (.inr (.inr (.inl ()))))
  | .notice => .inr (.inr (.inr (.inr (.inr (.inl ())))))
  | .info => .inr (.inr (.inr (.inr (.inr (.inr (.inl ()))))))
  | .debug => .inr (.inr (.inr (.inr (.inr (.inr (.inr (.inl ())))))))

def ofCarrier : variants.Carrier → Priority
  | .inl _ => .emergency
  | .inr (.inl _) => .alert
  | .inr (.inr (.inl _)) => .critical
  | .inr (.inr (.inr (.inl _))) => .error
  | .inr (.inr (.inr (.inr (.inl _)))) => .warning
  | .inr (.inr (.inr (.inr (.inr (.inl _))))) => .notice
  | .inr (.inr (.inr (.inr (.inr (.inr (.inl _)))))) => .info
  | .inr (.inr (.inr (.inr (.inr (.inr (.inr (.inl _))))))) => .debug

end Priority

instance : Parcel Priority where
  shape := .oneOf Priority.variants
  toCarrier := Priority.toCarrier
  ofCarrier := Priority.ofCarrier
  ofCarrier_toCarrier p := by cases p <;> rfl

namespace PriorityFilter

def variants : Variants :=
  .plain "Silent" <| .holding "Priority" (Parcel.shape Priority) <| .plain "ShowAll" .nil

def toCarrier : PriorityFilter → variants.Carrier
  | .silent => .inl ()
  | .priority p => .inr (.inl p.toCarrier)
  | .showAll => .inr (.inr (.inl ()))

def ofCarrier : variants.Carrier → PriorityFilter
  | .inl _ => .silent
  | .inr (.inl p) => .priority (Priority.ofCarrier p)
  | .inr (.inr (.inl _)) => .showAll

end PriorityFilter

instance : Parcel PriorityFilter where
  shape := .oneOf PriorityFilter.variants
  toCarrier := PriorityFilter.toCarrier
  ofCarrier := PriorityFilter.ofCarrier
  ofCarrier_toCarrier f := by
    cases f with
    | priority p => cases p <;> rfl
    | _ => rfl

end Switchboard
