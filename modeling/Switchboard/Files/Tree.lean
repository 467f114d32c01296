import Switchboard.Files.Path
import Switchboard.SystemError

/-!
# The tree of files

Directories hold files, sockets and other directories by name. A path is followed part by part from a directory: an empty part
and `.` stay there, `..` goes to the directory around it, and every other part goes to the entry of that name; nothing lies below
something else than a directory. The trail of a path is what it has passed, so that `..` takes back the last step, and the names
on the trail say where in the tree it has come to, however the path is spelled.
-/

namespace Switchboard

/-- What lies at a place of the tree. -/
inductive FileTree where
  | directory (entries : List (String × FileTree))
  | file (content : List UInt8)
  | socket
deriving Repr, Inhabited

/-- What was passed on the way from the root, the innermost first. -/
abbrev Trail := List (String × FileTree)

/-- The way from the root to a place, by the names on it, the innermost first. -/
abbrev Place := List String

namespace FileTree

/-- An entry of a directory. -/
def entryAt? (t : FileTree) (name : String) : Option FileTree :=
  match t with
  | .directory entries => entries.lookup name
  | _ => none

def isDirectory : FileTree → Bool
  | .directory _ => true
  | _ => false

/-- Where a trail in the tree has come to. -/
def endOf (root : FileTree) (trail : Trail) : FileTree :=
  match trail with
  | [] => root
  | (_, t) :: _ => t

/-- Follows one part of a path. -/
def follow (root : FileTree) (trail : Trail) (part : String) : Except SystemError Trail :=
  let here := root.endOf trail
  if !here.isDirectory then .error .notDirectory
  else if isStay part then .ok trail
  else if part = ".." then .ok trail.tail
  else if partLimit < part.utf8ByteSize then .error .nameTooLong
  else
    match here.entryAt? part with
    | some t => .ok ((part, t) :: trail)
    | none => .error .notFound

/-- Follows parts of a path, one after another. -/
def followAll (root : FileTree) (trail : Trail) (parts : List String) : Except SystemError Trail :=
  parts.foldlM root.follow trail

/-- The trail to a place, as far as it is there. -/
def trailTo (root : FileTree) : Place → Trail
  | [] => []
  | name :: outer =>
    let trail := root.trailTo outer
    match (root.endOf trail).entryAt? name with
    | some t => (name, t) :: trail
    | none => trail

/-- Changes what lies below by names from here to there; nothing changes if there is nothing of those names. -/
def change (f : FileTree → FileTree) : List String → FileTree → FileTree
  | [], t => f t
  | name :: rest, .directory entries =>
    .directory (entries.map fun (n, t) => if n = name then (n, change f rest t) else (n, t))
  | _ :: _, t => t

/-- Changes what lies at a place. -/
def changeAt (place : Place) (f : FileTree → FileTree) (root : FileTree) : FileTree :=
  change f place.reverse root

/-- A directory with one entry more. -/
def withEntry (name : String) (entry : FileTree) : FileTree → FileTree
  | .directory entries => .directory ((name, entry) :: entries)
  | t => t

end FileTree

end Switchboard
