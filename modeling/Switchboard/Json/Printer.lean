import Switchboard.Json.Value
import Switchboard.Text.Quoted

/-!
# Writing a JSON text

The fields of an object are written as they stand. A string is written as it is, except for the quote, the backslash and the
controls below the space. `text` puts a value on one line, without blanks; `indented` gives each item and each field a line of
its own, two more blanks deep than the bracket around it.

Both append to what is written so far, so that a long list is written in one pass.
-/

namespace Switchboard

/-- A character inside a JSON string. -/
def jsonChar (c : Char) : String :=
  match c with
  | '"' => "\\\""
  | '\\' => "\\\\"
  | '\x08' => "\\b"
  | '\x0c' => "\\f"
  | '\n' => "\\n"
  | '\r' => "\\r"
  | '\t' => "\\t"
  | c =>
    if c < ' ' then "\\u" ++ Double.padLeft 4 '0' (hexText c.toNat) else String.singleton c

/-- Appends a JSON string. -/
def putString (out : String) (s : String) : String :=
  s.foldl (fun out c => out ++ jsonChar c) (out ++ "\"") ++ "\""

def Number.text : Number → String
  | .int n => toString n
  | .float x => x.text

namespace Json

mutual

/-- Appends a value on one line. -/
def put (out : String) : Json → String
  | .null => out ++ "null"
  | .bool b => out ++ if b then "true" else "false"
  | .number n => out ++ n.text
  | .string s => putString out s
  | .array [] => out ++ "[]"
  | .array (v :: rest) => putItems (put (out ++ "[") v) rest ++ "]"
  | .object [] => out ++ "\x7b\x7d"
  | .object ((name, v) :: rest) =>
    putFields (put (putString (out ++ "\x7b") name ++ ":") v) rest ++ "\x7d"

/-- Appends the items after the first. -/
def putItems (out : String) : List Json → String
  | [] => out
  | v :: rest => putItems (put (out ++ ",") v) rest

/-- Appends the fields after the first. -/
def putFields (out : String) : List (String × Json) → String
  | [] => out
  | (name, v) :: rest => putFields (put (putString (out ++ ",") name ++ ":") v) rest

end

/-- A value on one line. -/
def text (v : Json) : String :=
  put "" v

/-- The start of a line at a depth of brackets. -/
def newline (depth : Nat) : String :=
  "\n" ++ String.ofList (List.replicate (2 * depth) ' ')

mutual

/-- Appends a value over several lines, its brackets `depth` deep. -/
def putIndented (depth : Nat) (out : String) : Json → String
  | .array [] => out ++ "[]"
  | .array (v :: rest) =>
    putIndentedItems (depth + 1) (putIndented (depth + 1) (out ++ "[" ++ newline (depth + 1)) v) rest ++ newline depth ++ "]"
  | .object [] => out ++ "\x7b\x7d"
  | .object ((name, v) :: rest) =>
    let out := putString (out ++ "\x7b" ++ newline (depth + 1)) name ++ ": "
    putIndentedFields (depth + 1) (putIndented (depth + 1) out v) rest ++ newline depth ++ "\x7d"
  | .null => out ++ "null"
  | .bool b => out ++ if b then "true" else "false"
  | .number n => out ++ n.text
  | .string s => putString out s

def putIndentedItems (depth : Nat) (out : String) : List Json → String
  | [] => out
  | v :: rest => putIndentedItems depth (putIndented depth (out ++ "," ++ newline depth) v) rest

def putIndentedFields (depth : Nat) (out : String) : List (String × Json) → String
  | [] => out
  | (name, v) :: rest =>
    putIndentedFields depth (putIndented depth (putString (out ++ "," ++ newline depth) name ++ ": ") v) rest

end

/-- A value over several lines. -/
def indented (v : Json) : String :=
  putIndented 0 "" v

end Json

end Switchboard
