import EventScript.CommandLine.Run

/-!
The program. The part of the file system that a command line names is read into a disk, the run
takes place there, and what it changed is written back.
-/
namespace EventScript

namespace Program

def usage : String :=
  "usage: eventscript [-h] [--event-id ID] [--event-page PAGE] [--variant mv|mz]\n" ++
  "  [--config FILE] [--output FILE] [--unknown-commands placeholder|fail]\n" ++
  "  [--on-error abort|skip|placeholder] [--indent tab|WIDTH] [--single-line-calls]\n" ++
  "  [--diagnostics FILE] [--overwrite] [--dry-run] [-v] input\n"

/-- The places that a path passes through, the last one included. -/
def places (path : Path) : List Path :=
  let step (visited : List Path × Path) (segment : Text) : List Path × Path :=
    (visited.1 ++ [visited.2.child segment], visited.2.child segment)
  (path.segments.foldl step ([], ⟨min path.slashes 1, []⟩)).1

/-- The answer to a question, if there is one. -/
def given {α : Type} : Given α → List α
  | .value a => [a]
  | .blank => []

/-- The paths that a run may look at. -/
def paths (call : CommandLine.Invocation) : List Path :=
  let output := given call.options.output
  [call.input] ++ output ++ output.filterMap (Path.extend? · ".tmp") ++
    call.options.config.toList ++ call.options.diagnostics.toList.flatMap given

/-- The disk with what the file system has at a place. -/
def look (disk : Disk) (place : Path) : IO Disk := do
  try
    let bytes ← IO.FS.readBinFile place.text.toString
    return disk.put place (.file bytes.toList)
  catch
    | .inappropriateType .. => return disk.put place .directory
    | _ => return disk

/-- A file of a disk, written to the file system. The output goes through a temporary file. -/
def store (isOutput : Bool) (name : String) (bytes : ByteArray) : IO Unit := do
  if isOutput then
    IO.FS.writeBinFile (name ++ ".tmp") bytes
    IO.FS.rename (name ++ ".tmp") name
  else IO.FS.writeBinFile name bytes

/-- What a run changed, done to the file system. -/
def commit (outputs : List Path) (before after : Disk) : IO Unit := do
  for (place, _) in before.files do
    if (after.node? place).isNone then IO.FS.removeFile place.text.toString
  for (place, bytes) in before.changes after do
    store (outputs.contains place) place.text.toString ⟨bytes.toArray⟩

/-- A run, with its exit code. -/
def execute (call : CommandLine.Invocation) : IO UInt32 := do
  let before ← ((paths call).flatMap places).foldlM look {}
  let outcome := call.run before
  let stderr ← IO.getStderr
  stderr.putStr outcome.logText.toString
  let outputs := (given call.options.output).filterMap fun path =>
    (before.resolve path).toOption
  commit outputs before outcome.disk
  match outcome.ending with
  | .exit code => return code.toUInt32
  | .crash crash =>
    stderr.putStrLn (crash.kind ++ ": " ++ crash.message.toString)
    return 1

end Program

end EventScript

def main (args : List String) : IO UInt32 := do
  match EventScript.CommandLine.parse (args.map EventScript.Text.ofString) with
  | .error .help =>
    IO.print EventScript.Program.usage
    return 0
  | .error .misuse =>
    (← IO.getStderr).putStr EventScript.Program.usage
    return 2
  | .ok call => EventScript.Program.execute call
