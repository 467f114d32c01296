import Switchboard.Program.Machine

/-!
# The command line program

Reads the settings file, runs the program, and prints its report. The service directories are those of the running process: a
server serves until the standard input ends, and a client finds nothing that another process serves.
-/

namespace Switchboard

/-- Why a file could not be read, by the error of the file system. -/
def FileFault.ofError : IO.Error → FileFault
  | .inappropriateType .. => .cannotRead .isDirectory
  | .alreadyExists .. => .cannotOpen .fileExists
  | _ => .cannotOpen .notFound

/-- Reads the settings file that a command line names, if it names one. -/
def CommandLine.loadFile (args : List String) : IO (Except FileFault (List UInt8)) := do
  match CommandLine.ofArgs args with
  | .ok ⟨⟨some path, _⟩, _⟩ =>
    try
      let content ← IO.FS.readBinFile path
      pure (.ok content.toList)
    catch e => pure (.error (.ofError e))
  | _ => pure (.ok [])

/-- Prints a report and gives its exit code. -/
def RunReport.print (r : RunReport) : IO UInt32 := do
  (← IO.getStdout).putStr r.out
  (← IO.getStderr).putStr r.err
  pure r.code.toUInt32

/-- Reads a stream to its end. -/
partial def drain (input : IO.FS.Stream) : IO Unit := do
  let bytes ← input.read 4096
  if bytes.isEmpty then pure () else drain input

/-- Runs the program. A run that waits forever is given up. -/
def Program.main (args : List String) : IO UInt32 := do
  let content ← CommandLine.loadFile args
  match Plan.ofArgs (fun _ => content) args with
  | .error r => r.print
  | .ok plan => do
    let started := (Machine.perform plan).run (Machine.new (.new []))
    match started.value with
    | none => pure 1
    | some (.ended r) => r.print
    | some running => do
      drain (← IO.getStdin)
      match ((Machine.finish running).run started.state).value with
      | none => pure 1
      | some r => r.print

end Switchboard

def main (args : List String) : IO UInt32 :=
  Switchboard.Program.main args
