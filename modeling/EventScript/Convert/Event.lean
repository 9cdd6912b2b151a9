import EventScript.Convert.Diagnostic
import EventScript.Convert.Log
import EventScript.Decompile.Event

/-!
Converting one event: its rows are read, nested, decompiled and written. An event is converted as a
whole or not at all.
-/
namespace EventScript

/-- What becomes of a run when an event cannot be converted. -/
inductive ErrorPolicy where
  | abort
  | skip
  | placeholder
  deriving DecidableEq

/-- Policies and layout of a conversion. -/
structure ConvertOptions where
  onUnknown : UnknownPolicy := .placeholder
  onError : ErrorPolicy := .abort
  style : Style := {}

namespace ConvertOptions

/-- Words that stand for no policy. -/
inductive Fault where
  | unknownCommand (word : Text)
  | eventError (word : Text)

def Fault.message : Fault → Text
  | .unknownCommand word => "invalid unknown command policy " ++ word.display
  | .eventError word => "invalid event error policy " ++ word.display

def errorPolicy? (word : Text) : Option ErrorPolicy :=
  if word = "abort" then some .abort
  else if word = "skip" then some .skip
  else if word = "placeholder" then some .placeholder
  else none

/-- Options from the words for their policies. -/
def ofWords (unknownCommand eventError : Text) (style : Style) : Except Fault ConvertOptions :=
  match UnknownPolicy.ofWord? unknownCommand with
  | none => .error (.unknownCommand unknownCommand)
  | some onUnknown => match errorPolicy? eventError with
    | none => .error (.eventError eventError)
    | some onError => .ok ⟨onUnknown, onError, style⟩

end ConvertOptions

/-- What converts events: an editor generation, names and options. -/
structure Converter where
  variant : Variant
  names : NameTable := {}
  options : ConvertOptions := {}

/-- The script of an event, and what was reported about it. A failed event has a stub or none. -/
structure EventResult where
  eventId : EventId
  text : Option Text
  diagnostics : List Diagnostic := []
  failed : Bool := false

/-- Why an event is not converted: its data, or the program. -/
inductive ConvertFailure where
  | event (fault : EventFault)
  | defect (d : Defect)

namespace Converter

def context (converter : Converter) : Decompile.Context :=
  ⟨converter.variant, converter.names, converter.options.onUnknown⟩

/-- The code of the row at a position. -/
def codeAt (rows : List RawRow) (index : Nat) : Option RowCode := rows[index]?.bind RawRow.code?

/-- The statements of an event. -/
def decompile (converter : Converter) (id : EventId) (raw : List RawRow) :
    Except ConvertFailure Fragment :=
  match RawRow.readAll raw with
  | .error fault => .error (.event ⟨id, fault.index, codeAt raw fault.index, .schema fault.fault⟩)
  | .ok rows => match Block.reconstruct converter.variant rows with
    | .error fault =>
      .error (.event ⟨id, fault.index, codeAt raw fault.index, .structural fault.fault⟩)
    | .ok blocks => match Decompile.blocks converter.context blocks with
      | .error (.located index code cause) =>
        .error (.event ⟨id, index, some (.number code), cause⟩)
      | .error (.defect d) => .error (.defect d)
      | .ok fragment => .ok fragment

/-- The report about a placeholder. -/
def placeholderDiagnostic (id : EventId) (p : Placeholder) : Diagnostic :=
  ⟨id, some p.index, some (.number p.code), p.cause.kind, p.cause.message⟩

/-- The warning about a placeholder. -/
def placeholderWarning (id : EventId) (p : Placeholder) : Log.Record :=
  ⟨.warning, .conversion, "event " ++ id.text ++ " command " ++ Text.ofNat p.index ++
    ": emitted placeholder for unknown code " ++ Text.ofInt p.code⟩

/-- One event, with the log of its conversion. -/
def convertEvent (converter : Converter) (id : EventId) (raw : List RawRow) :
    Except ConvertFailure (EventResult × List Log.Record) := do
  let fragment ← converter.decompile id raw
  let result : EventResult :=
    { eventId := id
      text := some (Stmt.render converter.options.style fragment.stmts)
      diagnostics := fragment.placeholders.map (placeholderDiagnostic id) }
  let finished : Log.Record :=
    ⟨.debug, .conversion, "event " ++ id.text ++ ": translated " ++ Text.ofNat raw.length ++
      " commands"⟩
  return (result, fragment.placeholders.map (placeholderWarning id) ++ [finished])

end Converter

end EventScript
