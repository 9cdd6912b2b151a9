import EventScript.Command.Fault
import EventScript.Json.Equality

/-!
Records that stand inside parameters: sound files, and movement routes with their steps. The
steps of a route are stored a second time as rows of their own, so a step can be compared with
such a copy.
-/
namespace EventScript

/-- A sound file and how it is played. -/
structure Audio where
  name : Text
  pan : Int
  pitch : Int
  volume : Int

namespace Audio

def number (fields : List (Text × Json)) (key : String) : Except SchemaFault Int :=
  match Json.field key fields with
  | .int n => .ok n
  | value => .error (.audioNumber key value)

def ofJson : Json → Except SchemaFault Audio
  | .obj fields =>
    match Json.field "name" fields with
    | .str name => do
      let pan ← number fields "pan"
      let pitch ← number fields "pitch"
      let volume ← number fields "volume"
      return ⟨name, pan, pitch, volume⟩
    | _ => .error .audioName
  | value => .error (.audioNotObject value)

end Audio

/-- One step of a movement route. -/
structure MoveStep where
  code : Int
  parameters : List Json
  indent : Option Int

namespace MoveStep

/-- The parameters of a step; a value that counts as nothing stands for an empty list. -/
def parametersOf (value : Json) : Except SchemaFault (List Json) :=
  if value.isFalsy then .ok []
  else match value with
    | .arr items => .ok items
    | _ => .error .stepParameters

def indentOf : Json → Except SchemaFault (Option Int)
  | .null => .ok none
  | .int n => .ok (some n)
  | value => .error (.stepIndent value)

def ofJson : Json → Except SchemaFault MoveStep
  | .obj fields =>
    match Json.field "code" fields with
    | .int code => do
      let parameters ← parametersOf (Json.field "parameters" fields)
      let indent ← indentOf (Json.field "indent" fields)
      return ⟨code, parameters, indent⟩
    | value => .error (.stepCode value)
  | _ => .error .stepNotObject

/-- Whether a stored value is a copy of a step. Indents are compared only if both have one. -/
def repeatedBy (step : MoveStep) (raw : Json) : Bool :=
  match ofJson raw with
  | .error _ => false
  | .ok copy =>
    decide (copy.code = step.code) && Json.sameItems copy.parameters step.parameters &&
      (match copy.indent, step.indent with
        | some m, some n => decide (m = n)
        | _, _ => true)

end MoveStep

/-- A movement path. -/
structure MoveRoute where
  steps : List MoveStep
  isRepeated : Bool
  skippable : Bool
  wait : Bool

namespace MoveRoute

def flag (fields : List (Text × Json)) (key : String) : Except SchemaFault Bool :=
  match Json.field key fields with
  | .bool b => .ok b
  | value => .error (.routeFlag key value)

def ofJson : Json → Except SchemaFault MoveRoute
  | .obj fields =>
    match Json.field "list" fields with
    | .arr items => do
      let isRepeated ← flag fields "repeat"
      let skippable ← flag fields "skippable"
      let wait ← flag fields "wait"
      let steps ← items.mapM MoveStep.ofJson
      return ⟨steps, isRepeated, skippable, wait⟩
    | _ => .error .routeList
  | _ => .error .routeNotObject

end MoveRoute

end EventScript
