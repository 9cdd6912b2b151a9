import EventScript.Decompile.Value

/-!
Expressions for the conditions of branches.
-/
namespace EventScript

namespace Decompile

/-- An expression, or its opposite. -/
def negatedIf (isOff : Bool) (e : Expr) : Expr := if isOff then .unary "not " e else e

namespace Context

/-- A question about a property of an actor: the method, its keyword, and the entry it is about. -/
def actorProperty (context : Context) (actor : Expr) (tag : String) (check : Operands) :
    Except Fault Expr :=
  let ask (word key : String) (category : Category) (id : String) : Except Fault Expr := do
    return method actor word [(key, context.named category (← check.int id))]
  match tag with
  | "class" => ask "is_class" "klass" .classes "class_id"
  | "skill" => ask "has_skill" "skill" .skills "skill_id"
  | "weapon" => ask "has_weapon" "weapon" .weapons "weapon_id"
  | "armor" => ask "has_armor" "armor" .armors "armor_id"
  | "state" => ask "is_state_affected" "state" .states "state_id"
  | _ => .error (.defect (.unknownMember tag))

/-- A question about an actor. -/
def actorCondition (context : Context) (id : Int) (tag : String) (check : Operands) :
    Except Fault Expr :=
  let actor := context.named .actors id
  match tag with
  | "in_party" => .ok (invoke "game_party.members.contains" [("actor", actor)])
  | "name" => do
    return .binary (.attribute actor "name") "==" (.literal (← check.value "name"))
  | _ => context.actorProperty actor tag check

/-- A question about an enemy. -/
def enemyCondition (context : Context) (index : Int) (tag : String) (check : Operands) :
    Except Fault Expr :=
  match tag with
  | "appeared" => .ok (method (enemy index) "is_appeared" [])
  | _ => do
    return method (enemy index) "is_state_affected"
      [("state", context.named .states (← check.int "state_id"))]

/-- The condition of a branch. -/
def condition (context : Context) (tag : String) (asked : Operands) : Except Fault Expr :=
  match tag with
  | "switch" => do
    let switch := context.named .switches (← asked.int "switch_id")
    return negatedIf (← asked.flag "is_off") switch
  | "variable" => do
    let left := context.variableNamed (← asked.int "variable_id")
    let comparison ← asked.member "comparison"
    return .binary left (Text.ofString comparison) (context.amount (← asked.amount "rhs"))
  | "self_switch" => do
    let lookup := invoke "game_self_switches.get"
      [("map_id", .dotted "self.map_id"), ("event_id", .dotted "self.event_id"),
       ("name", .literal (← asked.value "key"))]
    return negatedIf (← asked.flag "is_off") lookup
  | "timer" => do
    let comparison ← asked.member "comparison"
    return .binary (invoke "game_timer.seconds" []) (Text.ofString comparison)
      (.literal (← asked.value "seconds"))
  | "actor" => do
    let (kind, check) ← asked.tagged "check"
    context.actorCondition (← asked.int "actor_id") kind check
  | "enemy" => do
    let (kind, check) ← asked.tagged "check"
    context.enemyCondition (← asked.int "enemy_index") kind check
  | "character" => do
    return .binary (.attribute (character (← asked.int "character_id")) "direction") "=="
      (.literal (← asked.value "direction"))
  | "gold" => do
    let comparison ← asked.member "comparison"
    return .binary (.dotted "game_party.gold") (Text.ofString comparison)
      (.literal (← asked.value "amount"))
  | "item" => do
    return invoke "game_party.has_item" [("item", context.named .items (← asked.int "item_id"))]
  | "weapon" => do
    return invoke "game_party.has_weapon"
      [("weapon", context.named .weapons (← asked.int "weapon_id")),
       ("include_equipped", .literal (← asked.value "include_equipped"))]
  | "armor" => do
    return invoke "game_party.has_armor"
      [("armor", context.named .armors (← asked.int "armor_id")),
       ("include_equipped", .literal (← asked.value "include_equipped"))]
  | "button" => do
    return invoke "game_input.is_pressed" [("key_name", .literal (← asked.value "button"))]
  | _ => do
    return .callPath "execute_script" [.literal (← asked.value "script")] []

end Context

end Decompile

end EventScript
