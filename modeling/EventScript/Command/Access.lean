import EventScript.Command.Operand

/-!
Operands by name and shape. The writer of a command asks for the operands that its layout
declares; asking for any other is a defect.
-/
namespace EventScript

namespace Operands

def get (operands : Operands) (name : String) : Except Fault Operand :=
  match operands.lookup (Text.ofString name) with
  | some operand => .ok operand
  | none => .error (.defect (.missingOperand name))

/-- The value of a plain slot, if the layout has the slot. -/
def value? (operands : Operands) (name : String) : Option Json :=
  match operands.lookup (Text.ofString name) with
  | some (.value v) => some v
  | _ => none

def value (operands : Operands) (name : String) : Except Fault Json := do
  match ← operands.get name with
  | .value v => return v
  | _ => throw (.defect (.operandShape name))

def int (operands : Operands) (name : String) : Except Fault Int := do
  match ← operands.get name with
  | .value (.int n) => return n
  | _ => throw (.defect (.operandShape name))

def flag (operands : Operands) (name : String) : Except Fault Bool := do
  match ← operands.get name with
  | .value (.bool b) => return b
  | _ => throw (.defect (.operandShape name))

def text (operands : Operands) (name : String) : Except Fault Text := do
  match ← operands.get name with
  | .value (.str t) => return t
  | _ => throw (.defect (.operandShape name))

def member (operands : Operands) (name : String) : Except Fault String := do
  match ← operands.get name with
  | .member word => return word.toString
  | _ => throw (.defect (.operandShape name))

/-- A number, or the id of the variable that holds it. -/
structure Amount where
  number : Int
  isVariable : Bool

def amount (operands : Operands) (name : String) : Except Fault Amount := do
  match ← operands.get name with
  | .reference ⟨.int n, isVariable⟩ => return ⟨n, isVariable⟩
  | _ => throw (.defect (.operandShape name))

def audio (operands : Operands) (name : String) : Except Fault Audio := do
  match ← operands.get name with
  | .audio a => return a
  | _ => throw (.defect (.operandShape name))

def route (operands : Operands) (name : String) : Except Fault MoveRoute := do
  match ← operands.get name with
  | .route r => return r
  | _ => throw (.defect (.operandShape name))

/-- The tag of a tagged slot and the operands of the selected case. -/
def tagged (operands : Operands) (name : String) : Except Fault (String × Operands) := do
  match ← operands.get name with
  | .tagged tag _ inner => return (tag.toString, inner)
  | _ => throw (.defect (.operandShape name))

end Operands

end EventScript
