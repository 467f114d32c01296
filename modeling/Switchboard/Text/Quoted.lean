import Switchboard.Text.Printable
import Switchboard.Text.GraphemeExtend

/-!
# Text between quotes

A text inside a message stands between double quotes. The quote and the backslash, the line feed, the carriage return, the tab
and the null get a backslash before them; a character that cannot be printed, or that would be drawn on the one before it, is
its code point in hexadecimal between braces.
-/

namespace Switchboard

/-- A number in hexadecimal, with lower case digits. -/
def hexText (n : Nat) : String :=
  String.ofList (Nat.toDigits 16 n)

/-- A character as it stands between quotes. -/
def quotedChar (c : Char) : String :=
  match c with
  | '"' => "\\\""
  | '\\' => "\\\\"
  | '\n' => "\\n"
  | '\r' => "\\r"
  | '\t' => "\\t"
  | '\x00' => "\\0"
  | c =>
    if isGraphemeExtend c || !isPrintable c then "\\u\x7b" ++ hexText c.toNat ++ "\x7d"
    else String.singleton c

/-- A text between quotes. -/
def quoted (s : String) : String :=
  "\"" ++ String.join (s.toList.map quotedChar) ++ "\""

end Switchboard
