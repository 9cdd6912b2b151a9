import EventScript.Decompile.Message
import EventScript.Decompile.Value

/-!
Statements for what happens on the map and on the screen: movement, pictures and sound.
-/
namespace EventScript

namespace Decompile

def transferPlayer : Handler := fun context _ operands => do
  let map ← operands.amount "map_id"
  let target : String × Expr :=
    if map.isVariable then ("map_id", context.amount map)
    else ("map", context.named .maps map.number)
  let x := context.amount (← operands.amount "x")
  let y := context.amount (← operands.amount "y")
  return perform "transfer_player"
    [target, ("x", x), ("y", y), ("direction", .literal (← operands.value "direction")),
     ("fade_type", .literal (← operands.value "fade_type"))]

/-- A direction; zero means that it is kept. -/
def direction (n : Int) : Expr := if n = 0 then .literal .null else number n

def setEventLocation : Handler := fun context _ operands => do
  let moved := character (← operands.int "character_id")
  let facing := direction (← operands.int "direction")
  let (tag, place) ← operands.tagged "designation"
  let target ← match tag with
    | "character" => do
      let other := character (← place.int "character_id")
      pure [("swap_with", other)]
    | _ => context.location tag place
  return perform "set_event_location" ([("character", moved)] ++ target ++ [("direction", facing)])

/-- A step of a movement route. -/
def moveStep (step : MoveStep) : Expr :=
  let indent : List (String × Expr) := match step.indent with
    | none => []
    | some n => [("indent", number n)]
  invoke "MoveCommand"
    ([("code", number step.code)] ++ indent ++ [("parameters", .literal (.arr step.parameters))])

/-- Compares the rows of a movement route with its steps, from `position` on. -/
def checkRouteRows : Nat → List MoveStep → List Operands → Except Fault Unit
  | _, _, [] => .ok ()
  | position, [], _ :: _ => .error (.data (.routeRow position))
  | position, step :: steps, row :: rows => do
    if step.repeatedBy (← row.value "step") then checkRouteRows (position + 1) steps rows
    else throw (.data (.routeRow position))

/-- The continuation rows repeat the first steps of the route, and may stop early. -/
def setMovementRoute : Handler := fun context entry operands => do
  let route ← operands.route "route"
  let rows ← extras context entry
  if route.steps.length < rows.length then
    throw (.data (.routeRows rows.length route.steps.length))
  checkRouteRows 0 route.steps rows
  let value := invoke "MoveRoute"
    [("repeat", truth route.isRepeated), ("skippable", truth route.skippable),
     ("wait", truth route.wait), ("list", .list (route.steps.map moveStep))]
  return perform "set_movement_route"
    [("character", character (← operands.int "character_id")), ("route", value)]

def changeTransparency : Handler := fun _ _ operands => do
  return perform "change_transparency" [("set_transparent", truth (!(← operands.flag "is_off")))]

def changePlayerFollowers : Handler := fun _ _ operands => do
  let isOff ← operands.flag "is_off"
  return perform (if isOff then "hide_player_followers" else "show_player_followers") []

/-- An effect shown on a character. -/
def characterEffect (path id : String) : Handler := fun _ _ operands => do
  return perform path
    [("character", character (← operands.int "character_id")),
     (id, .literal (← operands.value id)), ("wait", .literal (← operands.value "wait"))]

/-- The function that answers a question about a place, and the layer it is asked about. -/
def locationQuery (word : String) : Except Fault (String × Option Nat) :=
  match word with
  | "terrain_tag" => .ok ("game_map.get_terrain_tag", none)
  | "event_id" => .ok ("game_map.get_event_id", none)
  | "tile_id_layer_1" => .ok ("game_map.get_tile_id", some 1)
  | "tile_id_layer_2" => .ok ("game_map.get_tile_id", some 2)
  | "tile_id_layer_3" => .ok ("game_map.get_tile_id", some 3)
  | "tile_id_layer_4" => .ok ("game_map.get_tile_id", some 4)
  | "region_id" => .ok ("game_map.get_region_id", none)
  | _ => .error (.defect (.unknownMember word))

def getLocationInfo : Handler := fun context _ operands => do
  let (path, layer) ← locationQuery (← operands.member "info_type")
  let (tag, place) ← operands.tagged "designation"
  let keywords ← context.location tag place
  let layer : List (String × Expr) := match layer with
    | none => []
    | some n => [("layer", number n)]
  let target := context.variableNamed (← operands.int "variable_id")
  return [.assign target (invoke path (keywords ++ layer)) "="]

/-- Where and how a picture appears, as keyword arguments. -/
def picture (context : Context) (operands : Operands) : Except Fault (List (String × Expr)) := do
  return [("origin", .literal (← operands.value "origin")),
    ("x", context.amount (← operands.amount "x")), ("y", context.amount (← operands.amount "y")),
    ("scale_x", .literal (← operands.value "scale_x")),
    ("scale_y", .literal (← operands.value "scale_y")),
    ("opacity", .literal (← operands.value "opacity")),
    ("blend_mode", .literal (← operands.value "blend_mode"))]

def showPicture : Handler := fun context _ operands => do
  let id ← operands.value "picture_id"
  let file ← operands.value "name"
  return perform "show_picture"
    ([("picture_id", .literal id), ("name", .literal file)] ++ (← picture context operands))

def movePicture : Handler := fun context _ operands => do
  let id ← operands.value "picture_id"
  let easing : List (String × Expr) := match operands.value? "easing_type" with
    | none => []
    | some .null => []
    | some easing => [("easing_type", .literal easing)]
  return perform "move_picture"
    ([("picture_id", .literal id)] ++ (← picture context operands) ++
      [("duration", .literal (← operands.value "duration")),
       ("wait", .literal (← operands.value "wait"))] ++ easing)

def playAudio (path : String) : Handler := fun _ _ operands => do
  let audio ← operands.audio "audio"
  let value := invoke "AudioFile"
    [("name", string audio.name), ("pan", number audio.pan), ("pitch", number audio.pitch),
     ("volume", number audio.volume)]
  return perform path [("audio", value)]

end Decompile

end EventScript
