import EventScript.CommandLine.Invocation
import EventScript.Convert.Run
import EventScript.Names.File

/-!
Running a command line over files: the names and the events are loaded, the events converted, and
the script and the diagnostics written. A run is a function from a disk to the disk it leaves, with
its log and the way it ends.
-/
namespace EventScript

namespace CommandLine

/-- Why a run has nothing to write. -/
inductive Fault where
  | names (fault : NameTable.FileFault)
  | blankIndent
  | style (fault : Style.Fault)
  | blankUnknown
  | blankError
  | file (fault : EventFile.Fault)
  | blankVariant
  | event (fault : EventFault)

/-- What is said of an indent that was left blank: it should be a number but is an empty list. -/
def blankIndentNote : Text :=
  "int() argument must be a string, a bytes-like object or a real number, not 'list'"

def Fault.message : Fault → Text
  | .names fault => fault.message
  | .blankIndent => blankIndentNote
  | .style fault => fault.message
  | .blankUnknown => "invalid unknown command policy []"
  | .blankError => "invalid event error policy []"
  | .file fault => fault.message
  | .blankVariant => "[] is not a valid EngineVariant"
  | .event fault => fault.message

/-- How a run breaks off without an exit code of its own. -/
inductive Crash where
  /-- It is not known which file is asked about before the run. -/
  | blankOutputAtStart
  /-- It is not known which file the script goes to. -/
  | blankOutputAtEnd
  | blankDiagnostics
  | blankIndent
  | blankNumber
  | style (fault : Style.Fault)
  | disk (fault : DiskFault)
  | noPath (fault : Path.Fault)
  | noFileName (path : Path)
  | notEncodable (run : SurrogateRun)
  | defect (d : Defect)

/-- The word for a crash in reports. -/
def Crash.kind : Crash → String
  | .blankOutputAtStart => "AttributeError"
  | .blankOutputAtEnd => "AttributeError"
  | .blankDiagnostics => "AttributeError"
  | .blankIndent => "TypeError"
  | .blankNumber => "TypeError"
  | .style fault => fault.kind
  | .disk _ => "OSError"
  | .noPath fault => fault.kind
  | .noFileName _ => "ValueError"
  | .notEncodable _ => "UnicodeEncodeError"
  | .defect d => d.kind

/-- The report of a crash. A path that was left blank is an empty list, which has nothing that is
asked of a path. -/
def Crash.message : Crash → Text
  | .blankOutputAtStart => "'list' object has no attribute 'exists'"
  | .blankOutputAtEnd => "'list' object has no attribute 'with_name'"
  | .blankDiagnostics => "'list' object has no attribute 'write_text'"
  | .blankIndent => blankIndentNote
  | .blankNumber => EventFile.Fault.noNumber.message
  | .style fault => fault.message
  | .disk fault => fault.message
  | .noPath fault => fault.message
  | .noFileName path => "PosixPath(" ++ path.text.display ++ ") has an empty name"
  | .notEncodable run => run.message
  | .defect d => d.message

/-- The crash that a fault is; most faults are none, and a run reports them. -/
def Fault.crash? : Fault → Option Crash
  | .blankIndent => some .blankIndent
  | .style .uncountable => some (.style .uncountable)
  | .file .noNumber => some .blankNumber
  | _ => none

inductive Ending where
  | exit (code : Nat)
  | crash (c : Crash)

/-- What a run leaves behind. -/
structure Outcome where
  ending : Ending
  log : List Log.Record
  disk : Disk

def report (level : Log.Level) (message : Text) : Log.Record := ⟨level, .commandLine, message⟩

/-- A setting that may not be left blank here. -/
def require {α : Type} (fault : Fault) : Given α → Except Fault α
  | .value a => .ok a
  | .blank => .error fault

/-- The names that the options ask for. -/
def Options.names (options : Options) (disk : Disk) : Except Fault NameTable :=
  match options.config with
  | none => .ok {}
  | some path => (NameTable.load disk path).mapError Fault.names

/-- The policies and the layout that the options ask for. -/
def Options.convertOptions (options : Options) : Except Fault ConvertOptions := do
  let indent ← require .blankIndent options.indent
  let style ← (Style.ofSpec indent (!options.singleLineCalls)).mapError Fault.style
  let onUnknown ← require .blankUnknown options.onUnknown
  let onError ← require .blankError options.onError
  return ⟨onUnknown, onError, style⟩

/-- The converter and the events of a run. -/
def Invocation.prepare (call : Invocation) (disk : Disk) :
    Except Fault (Converter × List (EventId × List RawRow)) := do
  let names ← call.options.names disk
  let options ← call.options.convertOptions
  let lists ← (EventFile.load disk call.input call.options.selection).mapError Fault.file
  let variant ← require .blankVariant call.options.variant
  return (⟨variant, names, options⟩,
    lists.map fun (ref, commands) => (.ref ref, commands.map RawRow.stored))

/-- The diagnostics of a run as the text of a file. -/
def diagnosticsText (result : RunResult) : Text :=
  (Json.arr (result.diagnostics.map Diagnostic.toJson)).renderLines

/-- The end of a run whose output could not be written. -/
def writeFailure (disk : Disk) (log : List Log.Record) : Disk.WriteFault → Outcome
  | .disk fault =>
    ⟨.exit 1, log ++ [report .error ("failed to write output: " ++ fault.message)], disk⟩
  | .noPath fault => ⟨.crash (.noPath fault), log, disk⟩
  | .noFileName path => ⟨.crash (.noFileName path), log, disk⟩
  | .notEncodable run => ⟨.crash (.notEncodable run), log, disk⟩

/-- The end of a run, once its diagnostics are written: the script is, unless it is not wanted. -/
def writeScript (options : Options) (disk : Disk) (log : List Log.Record) (result : RunResult) :
    Outcome :=
  let count : Text := "converted " ++ Text.ofNat result.events.length ++ " events "
  if options.dryRun then ⟨.exit 0, log ++ [report .info (count ++ "(dry run)")], disk⟩
  else match options.output with
    | .blank => ⟨.crash .blankOutputAtEnd, log, disk⟩
    | .value output => match disk.replaceText output result.render with
      | (disk, .error fault) => writeFailure disk log fault
      | (disk, .ok ()) =>
        ⟨.exit 0, log ++ [report .info (count ++ "into " ++ output.text)], disk⟩

/-- The rest of a run, once its events are converted. -/
def deliver (options : Options) (disk : Disk) (log : List Log.Record) (result : RunResult) :
    Outcome :=
  match options.diagnostics with
  | none => writeScript options disk log result
  | some .blank => ⟨.crash .blankDiagnostics, log, disk⟩
  | some (.value path) => match disk.writeText path (diagnosticsText result) with
    | (disk, .error fault) => writeFailure disk log fault
    | (disk, .ok ()) => writeScript options disk log result

/-- The end of a run that has nothing to write. -/
def refuse (disk : Disk) (log : List Log.Record) (fault : Fault) : Outcome :=
  match fault.crash? with
  | some crash => ⟨.crash crash, log, disk⟩
  | none => ⟨.exit 1, log ++ [report .error fault.message], disk⟩

/-- A run that may write its output. -/
def Invocation.convert (call : Invocation) (disk : Disk) : Outcome :=
  match call.prepare disk with
  | .error fault => refuse disk [] fault
  | .ok (converter, events) => match converter.convertEvents events with
    | (log, .error (.event fault)) => refuse disk log (.event fault)
    | (log, .error (.defect d)) => ⟨.crash (.defect d), log, disk⟩
    | (log, .ok result) => deliver call.options disk log result

/-- A run without regard to what its log shows. Output that is there already stops it, unless the
output may be replaced or is not written. -/
def Invocation.execute (call : Invocation) (disk : Disk) : Outcome :=
  if call.options.dryRun ∨ call.options.overwrite then call.convert disk
  else match call.options.output with
    | .blank => ⟨.crash .blankOutputAtStart, [], disk⟩
    | .value output => match disk.contains output with
      | .error fault => ⟨.crash (.disk fault), [], disk⟩
      | .ok false => call.convert disk
      | .ok true =>
        ⟨.exit 2, [report .error ("output path \"" ++ output.text ++
          "\" already exists; use --overwrite to replace it")], disk⟩

/-- A run. Its log shows details only if they are asked for. -/
def Invocation.run (call : Invocation) (disk : Disk) : Outcome :=
  let outcome := call.execute disk
  { outcome with
    log := outcome.log.filter fun record => call.options.verbose || record.level ≠ .debug }

/-- The log of a run as text. -/
def Outcome.logText (outcome : Outcome) : Text := outcome.log.flatMap Log.Record.line

end CommandLine

end EventScript
