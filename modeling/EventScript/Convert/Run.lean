import EventScript.Convert.Event

/-!
Converting several events under a policy for those that fail, and joining their scripts.
-/
namespace EventScript

/-- The results of several events. -/
structure RunResult where
  events : List EventResult

namespace RunResult

def diagnostics (run : RunResult) : List Diagnostic := run.events.flatMap EventResult.diagnostics

def failed (run : RunResult) : List EventResult := run.events.filter EventResult.failed

/-- The script of an event under a comment that names it, without newlines at its end. -/
def titled (event : EventResult) (text : Text) : Text :=
  Text.dropEndWhile (fun c => c = CodePoint.newline)
    ("# event " ++ event.eventId.text ++ [CodePoint.newline] ++ text)

/-- The scripts of all events, one below the other. -/
def renderAll (events : List EventResult) : Text :=
  match events.filterMap fun event => event.text.map (titled event) with
  | [] => []
  | parts => Text.join [CodePoint.newline, CodePoint.newline] parts ++ [CodePoint.newline]

/-- The whole script. The script of a single event has no comment above it. -/
def render (run : RunResult) : Text :=
  match run.events with
  | [event] => event.text.getD (renderAll [event])
  | events => renderAll events

end RunResult

namespace Converter

/-- What stands for an event that could not be converted. -/
def stub (d : Diagnostic) : Text :=
  (Writer.run {} [.comment ("event " ++ d.eventId.text ++ " could not be translated"),
    .comment (d.kind ++ ": " ++ d.message), .line "pass"]).render

/-- One event under the policy for those that fail. -/
def convertOne (converter : Converter) (id : EventId) (raw : List RawRow) :
    Except ConvertFailure (EventResult × List Log.Record) :=
  match converter.convertEvent id raw with
  | .ok outcome => .ok outcome
  | .error (.defect d) => .error (.defect d)
  | .error (.event fault) =>
    let d := Diagnostic.ofFault fault
    match converter.options.onError with
    | .abort => .error (.event fault)
    | .skip =>
      .ok (⟨id, none, [d], true⟩, [⟨.warning, .conversion, "skipping " ++ d.text⟩])
    | .placeholder =>
      .ok (⟨id, some (stub d), [d], true⟩,
        [⟨.warning, .conversion, "substituting placeholder for " ++ d.text⟩])

/-- The results of events in order, with the log so far even if the run stops. -/
def convertList (converter : Converter) :
    List (EventId × List RawRow) → List Log.Record × Except ConvertFailure (List EventResult)
  | [] => ([], .ok [])
  | (id, raw) :: rest =>
    match converter.convertOne id raw with
    | .error failure => ([], .error failure)
    | .ok (result, logs) =>
      let (more, results) := convertList converter rest
      (logs ++ more, results.map (result :: ·))

/-- A run over events. -/
def convertEvents (converter : Converter) (events : List (EventId × List RawRow)) :
    List Log.Record × Except ConvertFailure RunResult :=
  let (logs, results) := converter.convertList events
  (logs, results.map RunResult.mk)

end Converter

end EventScript
