import Switchboard.Files.Basic
import Switchboard.Program.Basic

/-!
# Runs on one machine

Runs in one working directory, one after another or while a server is up. What is published in a directory is there for every
run whose service directory is the same place, however it spells the path; the sockets are files among the others, and the
directories that a server has made stay.
-/

namespace Switchboard

/-- The files of a machine, and everything that is served from its directories, each known by its place. -/
structure Machine where
  files : FileSystem
  served : List (Place × World Backend)

/-- A run that has ended, or a server that waits for the end of its input. -/
inductive Running where
  | ended (r : RunReport)
  | serving (dir : String) (served : ServerHosts)
deriving Repr

/-- What lies in a service directory beside the sockets. -/
def FileTree.beside : String × FileTree → Option (String × FileEntry)
  | (name, .directory _) => some (name, .directory)
  | (name, .file _) => some (name, .file)
  | (_, .socket) => none

/-- A directory whose sockets and files are those that a network has left in it. -/
def FileTree.left (files : List (String × FileEntry)) : FileTree → FileTree
  | .directory entries =>
    let kept := entries.filter fun (name, t) =>
      match t with
      | .directory _ => true
      | .file _ => files.lookup name == some .file
      | .socket => false
    let sockets := files.filterMap fun (name, e) =>
      match e with
      | .socket _ => some (name, FileTree.socket)
      | _ => none
    .directory (sockets ++ kept)
  | t => t

namespace Machine

def new (files : FileSystem) : Machine :=
  ⟨files, []⟩

/-- Everything that is served from a directory, as a run sees it that spells its path like that. -/
def world (m : Machine) (dir : String) : World Backend :=
  match m.files.directory? dir with
  | none => .new .empty dir
  | some (place, entries) =>
    let w := (m.served.lookup place).getD (.new .empty dir)
    let files := w.network.sockets ++ entries.filterMap FileTree.beside
    { w with network := { w.network with dir, made := true, files } }

/-- The machine after something was done with what is served from a directory. -/
def setWorld (dir : String) (w : World Backend) (m : Machine) : Machine :=
  match m.files.directory? dir with
  | none => m
  | some (place, _) =>
    { files := ⟨m.files.root.changeAt place (FileTree.left w.network.files)⟩
      served := (place, w) :: m.served.filter (·.1 != place) }

/-- Does something with what is served from a directory. -/
def within {α : Type} (dir : String) (x : Act (World Backend) α) : Act Machine α :=
  Act.within (·.world dir) (setWorld dir) x

/-- Makes a directory. -/
def makeDirectory (dir : String) : Act Machine (Except SystemError Unit) :=
  Act.update fun m => ((m.files.makeDirectory dir).1, { m with files := (m.files.makeDirectory dir).2 })

/-- The report of a client, or of the error it met. -/
def ended : Except ProgramError RunReport → Running
  | .ok r => .ended r
  | .error e => .ended (.ofError e)

/-- Starts a server. Its directory is made before anything is published, and not before the sessions are known to be good. -/
def serve (dir : String) (sessions : List String) : Act Machine Running := do
  match Program.storeOf sessions with
  | .error e => pure (ended (.error e))
  | .ok store => do
    match ← makeDirectory dir with
    | .error e => pure (ended (.error (Program.noDirectory dir e)))
    | .ok () => do
      match ← within dir (Program.serve dir store) with
      | .error e => pure (ended (.error e))
      | .ok hosts => pure (.serving dir hosts)

/-- Does what a run is asked to do. -/
def perform (plan : Plan) : Act Machine Running := do
  let dir := plan.settings.serviceDir
  match plan.subcommand with
  | .powerstats q ids => ended <$> within dir (Program.powerstats plan.settings q ids)
  | .intelligence words => ended <$> within dir (Program.intelligence plan.settings words)
  | .serve sessions => serve dir sessions

/-- Starts a run. -/
def start (args : List String) : Act Machine Running := do
  let m ← Act.get
  match Plan.ofArgs m.files.contentOf args with
  | .error r => pure (.ended r)
  | .ok plan => perform plan

/-- Ends the input of a run. -/
def finish : Running → Act Machine RunReport
  | .ended r => pure r
  | .serving dir hosts => do
    within dir (Program.close hosts)
    pure ⟨0, "", ""⟩

/-- A run without input. -/
def run (args : List String) : Act Machine RunReport := do
  finish (← start args)

def runAll : List (List String) → Act Machine (List RunReport)
  | [] => pure []
  | args :: rest => do
    let first ← run args
    let others ← runAll rest
    pure (first :: others)

/-- Runs one after another, while another run is up whose input ends last. -/
def runDuring (server : List String) (runs : List (List String)) : Act Machine (RunReport × List RunReport) := do
  let running ← start server
  let reports ← runAll runs
  pure (← finish running, reports)

end Machine

end Switchboard
