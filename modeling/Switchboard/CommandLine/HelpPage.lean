/-!
# Help pages

A help page lists names with what they are about. The names start two columns in, the explanations in column twenty; a name that
reaches that column has a line to itself. An explanation is broken between words so that no line is wider than eighty columns,
unless a single word is.
-/

namespace Switchboard

namespace HelpPage

/-- The columns before an explanation. -/
def margin : Nat := 20

/-- The widest line. -/
def width : Nat := 80

def blanks (n : Nat) : String :=
  String.ofList (List.replicate n ' ')

/-- Appends words to a line, and starts a new one at the margin for each that does not fit. -/
def fill (line : String) : List String → List String
  | [] => [line]
  | word :: rest =>
    if width < line.length + word.length + 1 then line :: fill (blanks margin ++ word) rest
    else fill (line ++ " " ++ word) rest

/-- The words of a text, which are separated by single blanks. -/
def words (text : String) : List String :=
  text.splitOn " "

/-- The lines for a name and what it is about. -/
def entry (name about : String) : List String :=
  let head := "  " ++ name
  match words about with
  | [] => [head]
  | first :: rest =>
    if head.length < margin then fill (head ++ blanks (margin - head.length) ++ first) rest
    else head :: fill (blanks margin ++ first) rest

/-- A title and its entries; nothing if there are none. -/
def part (title : String) (entries : List (String × String)) : List String :=
  if entries.isEmpty then [] else "" :: (title ++ ":") :: entries.flatMap fun e => entry e.1 e.2

/-- Lines as a text. -/
def ofLines (lines : List String) : String :=
  String.join (lines.map (· ++ "\n"))

end HelpPage

end Switchboard
