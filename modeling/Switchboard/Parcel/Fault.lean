import Switchboard.Json.Draft
import Switchboard.Text.Quoted

/-!
# What is wrong with a payload

`ParcelFault` says why a value has not the shape that was wanted, `message` how that is reported.
-/

namespace Switchboard

def Found.text : Found → String
  | .null => "null"
  | .bool b => "boolean `" ++ (if b then "true" else "false") ++ "`"
  | .integer n => "integer `" ++ toString n ++ "`"
  | .floating x => "floating point `" ++ x.text ++ "`"
  | .string s => "string " ++ quoted s
  | .sequence => "sequence"
  | .map => "map"
  | .unitVariant => "unit variant"

/-- Why a value has not the wanted shape. -/
inductive ParcelFault where
  | malformed (fault : SyntaxFault)
  | invalidType (found : Found) (expected : String)
  | invalidValue (found : Found) (expected : String)
  | invalidLength (length : Nat) (expected : String)
  | missingField (name : String)
  | duplicateField (name : String)
  | unknownField (name : String) (known : List String)
  | unknownVariant (name : String) (known : List String)
deriving Repr

namespace ParcelFault

/-- The names that were possible. -/
def choice (none : String) : List String → String
  | [] => "there are no " ++ none
  | [a] => "expected `" ++ a ++ "`"
  | [a, b] => "expected `" ++ a ++ "` or `" ++ b ++ "`"
  | names => "expected one of " ++ ", ".intercalate (names.map fun a => "`" ++ a ++ "`")

def message : ParcelFault → String
  | .malformed fault => fault.message
  | .invalidType found expected => "invalid type: " ++ found.text ++ ", expected " ++ expected
  | .invalidValue found expected => "invalid value: " ++ found.text ++ ", expected " ++ expected
  | .invalidLength n expected => "invalid length " ++ toString n ++ ", expected " ++ expected
  | .missingField name => "missing field `" ++ name ++ "`"
  | .duplicateField name => "duplicate field `" ++ name ++ "`"
  | .unknownField name known => "unknown field `" ++ name ++ "`, " ++ choice "fields" known
  | .unknownVariant name known => "unknown variant `" ++ name ++ "`, " ++ choice "variants" known

end ParcelFault

end Switchboard
