import Switchboard.Files.Tree

/-!
# The file system

The tree of files, and the directory in which a program is started. Of the system around that directory only its top is known:
the usual directories, and some devices. The working directory lies two directories below the root, under names that no path can
spell.

A directory is made together with those above it: the longest path is tried first, then ever shorter ones as long as nothing is
there, and what is missing is made from the outside in. What was made before a failure stays.
-/

namespace Switchboard

/-- The tree of files; the working directory is the same for all. -/
structure FileSystem where
  root : FileTree
deriving Repr

/-- Why a file is not read. -/
inductive FileFault where
  | cannotOpen (e : SystemError)
  | cannotRead (e : SystemError)
deriving DecidableEq, Repr

namespace FileSystem

/-- The place of the working directory. -/
def workingDirectory : Place := ["", ""]

/-- The open files of a run, of which only the standard input is known. It is empty. -/
def openFiles : FileTree :=
  .directory [("0", .file [])]

/-- The devices that can be read: those without an end show as much as one needs to see that they are no text. -/
def devices : FileTree :=
  .directory [("null", .file []), ("zero", .file [0]), ("full", .file [0]), ("stdin", .file []), ("fd", openFiles),
    ("pts", .directory []), ("shm", .directory [])]

/-- What is known of the running processes. -/
def processes : FileTree :=
  .directory [("self", .directory [("fd", openFiles)])]

/-- The other directories at the root. -/
def topDirectories : List String :=
  ["bin", "boot", "etc", "home", "lib", "media", "mnt", "opt", "root", "run", "sbin", "srv", "sys", "tmp", "usr", "var"]

/-- The file system when the working directory holds some files. -/
def new (files : List (String × List UInt8)) : FileSystem :=
  let work := FileTree.directory (files.map fun (name, content) => (name, .file content))
  ⟨.directory (("", .directory [("", work)]) :: ("dev", devices) :: ("proc", processes) :: topDirectories.map (·, .directory []))⟩

/-- Where paths start. -/
def start (fs : FileSystem) (absolute : Bool) : Trail :=
  if absolute then [] else fs.root.trailTo workingDirectory

/-- What keeps a path from being followed at all. -/
def refusal? (path : String) : Option SystemError :=
  if hasNul path then some .nulInPath
  else if pathLimit < path.utf8ByteSize then some .nameTooLong
  else none

/-- Where a path leads. -/
def find (fs : FileSystem) (path : String) : Except SystemError Trail :=
  match refusal? path with
  | some e => .error e
  | none => if path = "" then .error .notFound else fs.root.followAll (fs.start (isAbsolute path)) (pathParts path)

/-- Reads a file. A directory can be opened, but not read. -/
def contentOf (fs : FileSystem) (path : String) : Except FileFault (List UInt8) :=
  match fs.find path with
  | .error e => .error (.cannotOpen e)
  | .ok trail =>
    match fs.root.endOf trail with
    | .file content => .ok content
    | .directory _ => .error (.cannotRead .isDirectory)
    | .socket => .error (.cannotOpen .noDevice)

/-- The place and the entries of the directory at a path. The empty path is the working directory. -/
def directory? (fs : FileSystem) (path : String) : Option (Place × List (String × FileTree)) :=
  let trail := if path = "" then .ok (fs.start false) else fs.find path
  match trail with
  | .error _ => none
  | .ok trail =>
    match fs.root.endOf trail with
    | .directory entries => some (trail.map (·.1), entries)
    | _ => none

/-! ## Making directories -/

/-- Makes one directory by the parts of its path, the last one first. Slashes at its end do not count. -/
def makeOne (fs : FileSystem) (absolute : Bool) : List String → Except SystemError FileSystem
  | [] => .error .fileExists
  | last :: before =>
    if last = "" then makeOne fs absolute before
    else
      match fs.root.followAll (fs.start absolute) before.reverse with
      | .error e => .error e
      | .ok trail =>
        match fs.root.follow trail last with
        | .ok _ => .error .fileExists
        | .error .notFound =>
          .ok ⟨fs.root.changeAt (trail.map (·.1)) (FileTree.withEntry last (.directory []))⟩
        | .error e => .error e

/-- Whether parts, the last one first, lead to a directory. -/
def leadsToDirectory (fs : FileSystem) (absolute : Bool) (parts : List String) : Bool :=
  match fs.root.followAll (fs.start absolute) parts.reverse with
  | .ok trail => (fs.root.endOf trail).isDirectory
  | .error _ => false

/-- What came of making a directory that may be there already. -/
def settle (fs : FileSystem) (absolute : Bool) (parts : List String) (e : SystemError) : Except SystemError Unit × FileSystem :=
  if e = .fileExists ∧ fs.leadsToDirectory absolute parts then (.ok (), fs) else (.error e, fs)

/-- Makes a directory and those above it that are not there, by their paths, the longest first. -/
def makeFrom (fs : FileSystem) (absolute : Bool) : List (List String) → Except SystemError Unit × FileSystem
  | [] => (.ok (), fs)
  | parts :: outer =>
    match fs.makeOne absolute parts with
    | .ok made => (.ok (), made)
    | .error .notFound =>
      match makeFrom fs absolute outer with
      | (.error e, made) => (.error e, made)
      | (.ok (), made) =>
        match made.makeOne absolute parts with
        | .ok all => (.ok (), all)
        | .error e => made.settle absolute parts e
    | .error e => fs.settle absolute parts e

/-- What is left of parts when one after another is taken from the front, as long as something is left. -/
def outward : List String → List (List String)
  | [] | [_] => []
  | _ :: rest => rest :: outward rest

/-- The parts of all paths above a path but the root and the empty one, each with its last part first, the longest path first. -/
def pathsAbove (path : String) : List (List String) :=
  outward (properParts path).reverse

/-- Makes the directory at a path and those above it. -/
def makeDirectory (fs : FileSystem) (path : String) : Except SystemError Unit × FileSystem :=
  if path = "" then (.ok (), fs)
  else
    match refusal? path with
    | some e => (.error e, fs)
    | none => fs.makeFrom (isAbsolute path) ((pathParts path).reverse :: pathsAbove path)

end FileSystem

end Switchboard
