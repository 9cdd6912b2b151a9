import EventScript.Decompile.Progress

/-!
Statements for battles and actors.
-/
namespace EventScript

namespace Decompile

def battleProcessing : Handler := fun context _ operands => do
  let id ← operands.int "troop_id"
  let troop : String × Expr := match ← operands.member "troop_kind" with
    | "constant" => ("troop", context.named .troops id)
    | "variable" => ("troop_id", context.variableNamed id)
    | "random_encounter" => ("troop_id", invoke "game.random_encounter_troop_id" [])
    | _ => ("troop_id", invoke "game_troop.troop_id" [])
  return perform "battle_processing"
    [troop, ("can_escape", .literal (← operands.value "can_escape")),
     ("can_lose", .literal (← operands.value "can_lose"))]

def nameInputProcessing : Handler := fun context _ operands => do
  return perform "name_input_processing"
    [("actor", context.named .actors (← operands.int "actor_id")),
     ("max_len", .literal (← operands.value "max_length"))]

/-- More or less of something that actors have. -/
def changeActorValue (path : String) (flag : Option String) : Handler :=
  fun context _ operands => do
    let target := context.actorTarget (← operands.amount "actor_id")
    let value := context.signedAmount (← operands.amount "value") (← isDecrease operands)
    let more : List (String × Expr) ← match flag with
      | none => pure []
      | some flag => do pure [(flag, .literal (← operands.value flag))]
    return perform path ([target, ("value", value)] ++ more)

def changeState : Handler := fun context _ operands => do
  let target := context.actorTarget (← operands.amount "actor_id")
  let path := if (← operands.member "operation") = "add" then "add_state" else "remove_state"
  return perform path [target, ("state", context.named .states (← operands.int "state_id"))]

def changeSkill : Handler := fun context _ operands => do
  let target := context.actorTarget (← operands.amount "actor_id")
  let path := if (← operands.member "operation") = "learn" then "learn_skill" else "forget_skill"
  return perform path [target, ("skill", context.named .skills (← operands.int "skill_id"))]

/-- Slot one is for weapons, the others for armors; item zero takes the equipment off. -/
def changeEquipment : Handler := fun context _ operands => do
  let slot ← operands.int "equip_type_id"
  let id ← operands.int "item_id"
  let item : Expr :=
    if id = 0 then .literal .null
    else context.named (if slot = 1 then .weapons else .armors) id
  return perform "change_equipment"
    [("actor", context.named .actors (← operands.int "actor_id")), ("equip_type", number slot),
     ("item", item)]

def changeClass : Handler := fun context _ operands => do
  return perform "change_class"
    [("actor", context.named .actors (← operands.int "actor_id")),
     ("klass", context.named .classes (← operands.int "class_id")),
     ("keep_exp", .literal (← operands.value "keep_exp"))]

def changeActorImages : Handler := fun context _ operands => do
  let actor := context.named .actors (← operands.int "actor_id")
  let images ← ["character_name", "character_index", "face_name", "face_index",
    "battler_name"].mapM fun field => do return (field, Expr.literal (← operands.value field))
  return perform "change_actor_images" ([("actor", actor)] ++ images)

def forceAction : Handler := fun context _ operands => do
  let id ← operands.int "subject_id"
  let subject : String × Expr := match ← operands.member "subject_kind" with
    | "enemy" => ("enemy_index", number id)
    | _ => ("actor", context.named .actors id)
  return perform "force_action"
    [subject, ("skill", context.named .skills (← operands.int "skill_id")),
     ("target_index", .literal (← operands.value "target_index"))]

end Decompile

end EventScript
