import EventScript.Decompile.Message
import EventScript.Decompile.Value

/-!
Statements for commands that change the state of the game: switches, variables, the timer and
what the party owns.
-/
namespace EventScript

namespace Decompile

/-- The ids from the first to the last operand. -/
def idRange (operands : Operands) : Except Fault (List Int) := do
  let first ← operands.int "start_id"
  let last ← operands.int "end_id"
  if last < first then throw (.data (.idRange first last))
  return (List.range (last - first + 1).toNat).map fun (n : Nat) => first + n

/-- A call of the common event's name. -/
def commonEvent : Handler := fun context _ operands => do
  let id ← operands.int "common_event_id"
  return [.expr (.callPath (context.names.name .commonEvents id) [] [])]

def label (path : String) : Handler := fieldCall path ["name"]

def controlSwitches : Handler := fun context _ operands => do
  let isOff ← operands.flag "is_off"
  return (← idRange operands).map fun id =>
    .assign (context.named .switches id) (truth (!isOff)) "="

/-- The operator of an assignment; a quotient is a whole number. -/
def assignOperator (word : String) : Except Fault Text :=
  if word ∈ ["=", "+=", "-=", "*=", "%="] then .ok (Text.ofString word)
  else if word = "/=" then .ok "//="
  else .error (.defect (.unknownMember word))

def controlVariables : Handler := fun context _ operands => do
  let operator ← assignOperator (← operands.member "operation")
  let (tag, operand) ← operands.tagged "operand"
  let value ← context.variableOperand tag operand
  return (← idRange operands).map fun id => .assign (context.variableNamed id) value operator

def controlSelfSwitch : Handler := fun _ _ operands => do
  let target := .subscript (name "game_self_switches") (.literal (← operands.value "key"))
  return [.assign target (truth (!(← operands.flag "is_off"))) "="]

def controlTimer : Handler := fun _ _ operands => do
  match ← operands.tagged "operation" with
  | ("start", operation) =>
    return perform "game_timer.start" [("seconds", .literal (← operation.value "seconds"))]
  | _ => return perform "game_timer.stop" []

def isDecrease (operands : Operands) : Except Fault Bool := do
  return (← operands.member "operation") == "decrease"

def changeGold : Handler := fun context _ operands => do
  let operator : Text := if ← isDecrease operands then "-=" else "+="
  return [.assign (.dotted "game_party.gold") (context.amount (← operands.amount "value")) operator]

/-- More or fewer of an item; equipped ones count if the command says so. -/
def changeInventory (path key : String) (category : Category) (id : String) : Handler :=
  fun context _ operands => do
    let item := context.named category (← operands.int id)
    let value := context.signedAmount (← operands.amount "value") (← isDecrease operands)
    let equipped : List (String × Expr) := match operands.value? "include_equipped" with
      | none => []
      | some v => [("include_equipped", .literal v)]
    return perform path ([(key, item), ("value", value)] ++ equipped)

def changePartyMember : Handler := fun context _ operands => do
  let actor := context.named .actors (← operands.int "actor_id")
  match ← operands.member "operation" with
  | "add" =>
    return perform "add_party_member"
      [("actor", actor), ("initialize", .literal (← operands.value "initialize"))]
  | _ => return perform "remove_party_member" [("actor", actor)]

def changeSaveAccess : Handler := fun _ _ operands => do
  return perform (if ← operands.flag "is_enabled" then "enable_saving" else "disable_saving") []

end Decompile

end EventScript
