/-!
# Paths

A path is a text of parts between slashes. It starts at the root if its first character is a slash, and in the working directory
otherwise. No path holds a NUL, and both a path and each of its parts have a greatest length in bytes.
-/

namespace Switchboard

/-- The greatest length of a path, in bytes. -/
def pathLimit : Nat := 4095

/-- The greatest length of a part of a path, in bytes. -/
def partLimit : Nat := 255

/-- Whether there is a NUL in a path. -/
def hasNul (path : String) : Bool :=
  path.toList.contains '\x00'

/-- The parts of a path between its slashes. -/
def pathParts (path : String) : List String :=
  path.splitOn "/"

/-- Whether a path starts at the root. -/
def isAbsolute (path : String) : Bool :=
  path.toList.head? == some '/'

/-- Whether a part of a path stays where it is. -/
def isStay (part : String) : Bool :=
  part = "" || part = "."

/-- Whether a part of a path names a directory by its relation to another one, and no entry of it. -/
def isDots (part : String) : Bool :=
  isStay part || part = ".."

/-- Whether an entry of a directory can have a name. -/
def isEntryName (name : String) : Bool :=
  !isDots name && !hasNul name && name.utf8ByteSize ≤ partLimit

/-- The parts of a path that matter: those that stay where they are count only at the front of a relative path. -/
def properParts (path : String) : List String :=
  match pathParts path with
  | [] => []
  | first :: rest =>
    let proper := rest.filter (!isStay ·)
    if first = "" then proper else first :: proper

end Switchboard
