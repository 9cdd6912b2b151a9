import EventScript.Command.Catalog
import EventScript.Decompile.Context

/-!
Expressions for what a variable can be set to, and for places on the map.
-/
namespace EventScript

namespace Decompile

/-- The number of a battle parameter such as `param_3`. -/
def parameterIndex? (word : String) : Option Nat := Catalog.parameterNames.idxOf? word

/-- A battle parameter of an actor or an enemy. -/
def parameter (target : Expr) (index : Nat) : Expr :=
  .call (.attribute target "param") [number index] []

/-- The other numbers of the game: some are properties, some are asked for by a call. -/
def otherData (word : String) : Except Fault Expr :=
  match word with
  | "map_id" => .ok (invoke "game_map.map_id" [])
  | "party_members" => .ok (invoke "game_party.size" [])
  | "gold" => .ok (.dotted "game_party.gold")
  | "steps" => .ok (.dotted "game_party.steps")
  | "play_time" => .ok (invoke "game_system.playtime" [])
  | "timer" => .ok (invoke "game_timer.seconds" [])
  | "save_count" => .ok (.dotted "game_system.save_count")
  | "battle_count" => .ok (.dotted "game_system.battle_count")
  | "win_count" => .ok (.dotted "game_system.win_count")
  | "escape_count" => .ok (.dotted "game_system.escape_count")
  | _ => .error (.defect (.unknownMember word))

/-- An enemy of the current troop. -/
def enemy (index : Int) : Expr := .subscript (.dotted "game_troop.members") (number index)

namespace Context

/-- A number from the state of the game. -/
def gameData (context : Context) (tag : String) (data : Operands) : Except Fault Expr :=
  match tag with
  | "item" => do
    return invoke "game_party.get_num_items"
      [("item", context.named .items (← data.int "item_id"))]
  | "weapon" => do
    return invoke "game_party.get_num_weapons"
      [("weapon", context.named .weapons (← data.int "weapon_id"))]
  | "armor" => do
    return invoke "game_party.get_num_armors"
      [("armor", context.named .armors (← data.int "armor_id"))]
  | "actor" => do
    let actor := context.named .actors (← data.int "actor_id")
    let check ← data.member "check"
    if check ∈ ["level", "exp", "hp", "mp"] then return .attribute actor (Text.ofString check)
    else match parameterIndex? check with
      | some index => return parameter actor index
      | none => throw (.defect (.unknownMember check))
  | "enemy" => do
    let target := enemy (← data.int "enemy_index")
    let check ← data.member "check"
    match parameterIndex? check with
    | some index => return parameter target index
    | none => return .attribute target (Text.ofString check)
  | "character" => do
    return .attribute (character (← data.int "character_id"))
      (Text.ofString (← data.member "check"))
  | "party" => do
    let member := .subscript (.dotted "game_party.members") (number (← data.int "member_index"))
    return .attribute member "actor_id"
  | _ => do otherData (← data.member "check")

/-- What a variable is set to. -/
def variableOperand (context : Context) (tag : String) (operand : Operands) : Except Fault Expr :=
  match tag with
  | "constant" => do return .literal (← operand.value "value")
  | "variable" => do return context.variableNamed (← operand.int "variable_id")
  | "random" => do
    return .callPath "random.randint"
      [.literal (← operand.value "min"), .literal (← operand.value "max")] []
  | "script" => do
    return .callPath "execute_script" [.literal (← operand.value "script")] []
  | _ => do
    let (kind, data) ← operand.tagged "data"
    context.gameData kind data

/-- A place on the map as keyword arguments. -/
def location (context : Context) (tag : String) (place : Operands) :
    Except Fault (List (String × Expr)) :=
  match tag with
  | "direct" => do
    return [("x", .literal (← place.value "x")), ("y", .literal (← place.value "y"))]
  | "variable" => do
    return [("x", context.variableNamed (← place.int "x")),
      ("y", context.variableNamed (← place.int "y"))]
  | _ => do
    let other := character (← place.int "character_id")
    return [("x", .attribute other "map_x"), ("y", .attribute other "map_y")]

end Context

end Decompile

end EventScript
