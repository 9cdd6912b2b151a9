import EventScript.Json.Basic

/-!
Parameter layouts. The parameters of a command are a flat list; a layout describes its slots from
left to right. A tagged slot holds a number that selects the slots that follow it.
-/
namespace EventScript

/-- What may stand in a plain slot. -/
inductive ValueKind where
  | int
  | number
  | str
  | bool
  | intBool
  | strList
  | numberList
  | mapping
  | audio
  | moveRoute
  | any
  /-- A kind that no reader knows. -/
  | other (name : Text)

namespace ValueKind

def name : ValueKind → Text
  | .int => "int"
  | .number => "number"
  | .str => "str"
  | .bool => "bool"
  | .intBool => "intbool"
  | .strList => "str_list"
  | .numberList => "number_list"
  | .mapping => "mapping"
  | .audio => "audio"
  | .moveRoute => "move_route"
  | .any => "any"
  | .other name => name

/-- The kinds that have readers. -/
def known : List ValueKind :=
  [.int, .number, .str, .bool, .intBool, .strList, .numberList, .mapping, .audio, .moveRoute, .any]

def ofName (name : Text) : ValueKind :=
  (known.find? fun kind => decide (kind.name = name)).getD (.other name)

/-- Whether a value has the right type for a slot. -/
def accepts : ValueKind → Json → Bool
  | .int, v => v.isInt
  | .number, v => v.isNumber
  | .str, v => v.isStr
  | .bool, .bool _ => true
  | .intBool, v => v.isInt
  | .strList, .arr items => items.all Json.isStr
  | .numberList, .arr items => items.all Json.isNumber
  | .mapping, .obj _ => true
  | .audio, .obj _ => true
  | .moveRoute, .obj _ => true
  | .any, _ => true
  | _, _ => false

end ValueKind

mutual

/-- A slot of a layout; a tagged one stands for itself and the slots of the selected case. -/
inductive Slot where
  | plain (name : Text) (kind : ValueKind) (isOptional : Bool)
  /-- Whether the reference slots that name it hold a value (0) or the id of a variable (1). -/
  | flag (name : Text)
  | reference (name : Text) (flag : Text) (kind : ValueKind)
  | member (name : Text) (members : List (Int × Text))
  | tagged (name : Text) (cases : List Case)

/-- What a number in a tagged slot selects. -/
inductive Case where
  | mk (discriminant : Int) (tag : Text) (slots : List Slot)

end

/-- The slots of a command's parameters. -/
abbrev Layout := List Slot

namespace Slot

instance : Inhabited Slot := ⟨.flag []⟩

def name : Slot → Text
  | .plain name .. => name
  | .flag name => name
  | .reference name .. => name
  | .member name _ => name
  | .tagged name _ => name

/-- A required slot. -/
def required (name : Text) (kind : ValueKind) : Slot := .plain name kind false

/-- A required slot for a whole number. -/
def int (name : Text) : Slot := required name .int

/-- A slot that may be missing and holds anything. -/
def unused (name : Text) : Slot := .plain name .any true

/-- A flag, and the slot it decides about. -/
def referencePair (name : Text) : List Slot :=
  [.flag (name ++ "_is_variable"), .reference name (name ++ "_is_variable") .int]

end Slot

end EventScript
