import EventScript.Command.Row

/-!
What is reported about an event: the names of events, the faults that stop one, and diagnostics.
-/
namespace EventScript

/-- A command list inside a project file: an event, and one of its pages if it has pages. -/
structure EventRef where
  source : Text
  id : Nat
  page : Option Nat
  deriving DecidableEq

def EventRef.text (ref : EventRef) : Text :=
  match ref.page with
  | none => ref.source ++ ":" ++ Text.ofNat ref.id
  | some page => ref.source ++ ":" ++ Text.ofNat ref.id ++ ":" ++ Text.ofNat page

/-- What an event is called: any stored value, or its place in a project file. -/
inductive EventId where
  | value (v : Json)
  | ref (r : EventRef)

def EventId.text : EventId → Text
  | .value v => v.plain
  | .ref r => r.text

/-- A fault that stops an event, with the row it is about. -/
structure EventFault where
  eventId : EventId
  index : Nat
  code : Option RowCode
  cause : Cause

/-- The code of a row in parentheses, if there is one to show. -/
def codeNote : Option RowCode → Text
  | none => []
  | some code => " (code " ++ code.text ++ ")"

def EventFault.message (fault : EventFault) : Text :=
  "event " ++ fault.eventId.text ++ ", command " ++ Text.ofNat fault.index ++
    codeNote fault.code ++ ": " ++ fault.cause.message

/-- A report about an event. -/
structure Diagnostic where
  eventId : EventId
  index : Option Int
  code : Option RowCode
  kind : Text
  message : Text

namespace Diagnostic

def ofFault (fault : EventFault) : Diagnostic where
  eventId := fault.eventId
  index := some fault.index
  code := fault.code
  kind := fault.cause.kind
  message := fault.cause.message

/-- A report as a stored object. -/
def toJson (d : Diagnostic) : Json :=
  .obj [("event_id", .str d.eventId.text), ("command_index", (d.index.map Json.int).getD .null),
    ("code", (d.code.map RowCode.toJson).getD .null), ("error_kind", .str d.kind),
    ("message", .str d.message)]

/-- A report on one line. -/
def text (d : Diagnostic) : Text :=
  let place : Text := match d.index with
    | none => []
    | some index => " command " ++ Text.ofInt index
  "event " ++ d.eventId.text ++ place ++ codeNote d.code ++ ": " ++ d.kind ++ ": " ++ d.message

end Diagnostic

end EventScript
