import EventScript.Command.Asset
import EventScript.Command.Layout

/-!
Operands: parameters that were read against a layout. Reading is strict. A missing or surplus
parameter and a value of the wrong type are faults of shape; a value of the right type outside its
domain is a fault of data.
-/
namespace EventScript

/-- A value, or the id of the game variable that holds it. -/
structure Reference where
  value : Json
  isVariable : Bool

/-- What was read from a slot. -/
inductive Operand where
  | value (v : Json)
  | member (word : Text)
  | reference (r : Reference)
  | audio (a : Audio)
  | route (r : MoveRoute)
  | tagged (tag : Text) (discriminant : Int) (operands : List (Text × Operand))

/-- Operands by the names of their slots, in the order in which they were read. -/
abbrev Operands := List (Text × Operand)

/-- A truth value stored as 0 or 1. -/
def readBinary (name : Text) : Json → Except Fault Bool
  | .int n =>
    if n = 0 then .ok false
    else if n = 1 then .ok true
    else .error (.data (.notBinary name (.int n)))
  | value => .error (.data (.notBinary name value))

namespace ValueKind

/-- Refuses a value of the wrong type. -/
def check (kind : ValueKind) (slot : Text) (value : Json) : Except Fault Unit :=
  match kind with
  | .other name => .error (.defect (.unknownKind name))
  | kind =>
    if kind.accepts value then .ok () else .error (.schema (.wrongKind slot kind value))

/-- The operand in a plain slot. -/
def read (kind : ValueKind) (slot : Text) (value : Json) : Except Fault Operand := do
  kind.check slot value
  match kind with
  | .intBool => return .value (.bool (← readBinary slot value))
  | .audio => match Audio.ofJson value with
    | .ok a => return .audio a
    | .error fault => throw (.schema fault)
  | .moveRoute => match MoveRoute.ofJson value with
    | .ok r => return .route r
    | .error fault => throw (.schema fault)
  | _ => return .value value

end ValueKind

namespace Reference

/-- A reference from a flag and the slot that it decides about. -/
def ofFlag (flag slot : Json) (kind : ValueKind) : Except Fault Reference := do
  ValueKind.check .int "reference flag" flag
  let isVariable ← readBinary "reference flag" flag
  if isVariable then ValueKind.check .int "variable index" slot else kind.check "literal" slot
  return ⟨slot, isVariable⟩

/-- The flag that stands for the kind of a reference, and its slot. -/
def toPair (r : Reference) : Int × Json := (if r.isVariable then 1 else 0, r.value)

end Reference

namespace Operands

/-- The parameters that are left, and the flags that were read. -/
structure Cursor where
  given : Nat
  rest : List Json
  flags : List (Text × Bool)

namespace Cursor

/-- The next parameter. -/
def take (cursor : Cursor) (slot : Text) : Except Fault (Json × Cursor) :=
  match cursor.rest with
  | [] => .error (.schema (.missing slot cursor.given))
  | value :: rest => .ok (value, { cursor with rest })

/-- The next parameter, which has to be a whole number. -/
def takeInt (cursor : Cursor) (slot : Text) : Except Fault (Int × Cursor) := do
  let (value, cursor) ← cursor.take slot
  match value with
  | .int n => return (n, cursor)
  | _ => throw (.schema (.wrongKind slot .int value))

end Cursor

/-- A plain slot; an optional one behind the last parameter is null. -/
def decodePlain (name : Text) (kind : ValueKind) (isOptional : Bool) (cursor : Cursor) :
    Except Fault (Operand × Cursor) :=
  if isOptional && cursor.rest.isEmpty then .ok (.value .null, cursor)
  else do
    let (value, cursor) ← cursor.take name
    return (← kind.read name value, cursor)

/-- A flag, which is kept for the references that name it. -/
def decodeFlag (name : Text) (cursor : Cursor) : Except Fault (Operand × Cursor) := do
  let (n, cursor) ← cursor.takeInt name
  let flag ← readBinary name (.int n)
  return (.value (.bool flag), { cursor with flags := insertPair name flag cursor.flags })

/-- A reference, read as its flag says. -/
def decodeReference (name flag : Text) (kind : ValueKind) (cursor : Cursor) :
    Except Fault (Operand × Cursor) :=
  match cursor.flags.lookup flag with
  | none => .error (.defect (.flagNotRead name flag))
  | some isVariable => do
    let (value, cursor) ← cursor.take name
    (if isVariable then ValueKind.int else kind).check name value
    return (.reference ⟨value, isVariable⟩, cursor)

/-- A number that stands for one of the declared words. -/
def decodeMember (name : Text) (members : List (Int × Text)) (cursor : Cursor) :
    Except Fault (Operand × Cursor) := do
  let (n, cursor) ← cursor.takeInt name
  match members.lookup n with
  | some word => return (.member word, cursor)
  | none => throw (.data (.notMember name n ((members.map Prod.fst).mergeSort (· ≤ ·))))

mutual

/-- The operand of a slot. -/
def decodeSlot : Slot → Cursor → Except Fault (Operand × Cursor)
  | .plain name kind isOptional, cursor => decodePlain name kind isOptional cursor
  | .flag name, cursor => decodeFlag name cursor
  | .reference name flag kind, cursor => decodeReference name flag kind cursor
  | .member name members, cursor => decodeMember name members cursor
  | .tagged name cases, cursor => do
    let (n, cursor) ← cursor.takeInt name
    decodeCase cases name n cursor
  termination_by structural slot => slot

/-- The case that a number selects. -/
def decodeCase : List Case → Text → Int → Cursor → Except Fault (Operand × Cursor)
  | [], name, n, _ => .error (.data (.noCase name n))
  | .mk discriminant tag slots :: rest, name, n, cursor =>
    if discriminant = n then do
      let (operands, cursor) ← decodeSlots slots [] cursor
      return (.tagged tag n operands, cursor)
    else decodeCase rest name n cursor
  termination_by structural slot => slot

/-- The operands of slots from left to right, added to those of the slots before them. -/
def decodeSlots : List Slot → Operands → Cursor → Except Fault (Operands × Cursor)
  | [], operands, cursor => .ok (operands, cursor)
  | slot :: rest, operands, cursor => do
    let (operand, cursor) ← decodeSlot slot cursor
    decodeSlots rest (insertPair slot.name operand operands) cursor
  termination_by structural slot => slot

end

/-- The operands of a whole parameter list. -/
def decode (layout : Layout) (parameters : List Json) : Except Fault Operands := do
  let (operands, cursor) ← decodeSlots layout [] ⟨parameters.length, parameters, []⟩
  if cursor.rest.isEmpty then return operands
  else throw (.schema (.surplus (parameters.length - cursor.rest.length) parameters.length))

end Operands

end EventScript
