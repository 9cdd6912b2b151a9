import EventScript.Command.Layout
import EventScript.Command.Role
import EventScript.Command.Variant
import EventScript.Json.Equality

/-!
The commands that each editor generation knows. Both store most commands with the same codes and
layouts; the later one adds a speaker to shown texts, an easing to moved pictures, a way to name a
troop, and has another kind of plugin command.
-/
namespace EventScript

/-- What is known about a command code. -/
structure CommandKind where
  code : Int
  name : String
  role : Role
  layout : Layout

namespace Catalog

/-- Words for the numbers from zero on. -/
def members (words : List String) : List (Int × Text) :=
  words.zipIdx.map fun (word, n) => ((n : Int), Text.ofString word)

/-- Cases for the numbers from zero on. -/
def cases (alternatives : List (String × Layout)) : List Case :=
  alternatives.zipIdx.map fun ((tag, slots), n) => .mk n (Text.ofString tag) slots

def change : Slot := .member "operation" (members ["increase", "decrease"])

def addition : Slot := .member "operation" (members ["add", "remove"])

def flag (name : String) : Slot := .required name .bool

def binary (name : String) : Slot := .required name .intBool

def text (name : String) : Slot := .required name .str

/-- One line of a text, a comment or a script. -/
def line : Layout := [text "line"]

def parameterNames : List String :=
  ["param_0", "param_1", "param_2", "param_3", "param_4", "param_5", "param_6", "param_7"]

def actorChecks : List Case := cases
  [("in_party", []), ("name", [text "name"]), ("class", [.int "class_id"]),
   ("skill", [.int "skill_id"]), ("weapon", [.int "weapon_id"]), ("armor", [.int "armor_id"]),
   ("state", [.int "state_id"])]

def enemyChecks : List Case := cases [("appeared", []), ("state", [.int "state_id"])]

def comparison (words : List String) : Slot := .member "comparison" (members words)

/-- What a branch may ask. -/
def conditions : List Case := cases
  [("switch", [.int "switch_id", binary "is_off"]),
   ("variable", [.int "variable_id"] ++ Slot.referencePair "rhs" ++
     [comparison ["==", ">=", "<=", ">", "<", "!="]]),
   ("self_switch", [text "key", binary "is_off"]),
   ("timer", [.int "seconds", comparison [">=", "<="]]),
   ("actor", [.int "actor_id", .tagged "check" actorChecks]),
   ("enemy", [.int "enemy_index", .tagged "check" enemyChecks]),
   ("character", [.int "character_id", .int "direction"]),
   ("gold", [.int "amount", comparison [">=", "<=", "<"]]),
   ("item", [.int "item_id"]),
   ("weapon", [.int "weapon_id", flag "include_equipped"]),
   ("armor", [.int "armor_id", flag "include_equipped"]),
   ("button", [text "button"]),
   ("script", [text "script"])]

/-- What a variable may be set to from the state of the game. -/
def gameData : List Case := cases
  [("item", [.int "item_id", .unused "unused"]),
   ("weapon", [.int "weapon_id", .unused "unused"]),
   ("armor", [.int "armor_id", .unused "unused"]),
   ("actor", [.int "actor_id",
     .member "check" (members (["level", "exp", "hp", "mp"] ++ parameterNames))]),
   ("enemy", [.int "enemy_index", .member "check" (members (["hp", "mp"] ++ parameterNames))]),
   ("character", [.int "character_id",
     .member "check" (members ["map_x", "map_y", "direction", "screen_x", "screen_y"])]),
   ("party", [.int "member_index", .unused "unused"]),
   ("other", [.member "check" (members
     ["map_id", "party_members", "gold", "steps", "play_time", "timer", "save_count",
      "battle_count", "win_count", "escape_count"]), .unused "unused"])]

/-- What a variable may be set to. -/
def variableOperands : List Case := cases
  [("constant", [.int "value"]),
   ("variable", [.int "variable_id"]),
   ("random", [.int "min", .int "max"]),
   ("game_data", [.tagged "data" gameData]),
   ("script", [text "script"])]

/-- How a place on the map may be given. -/
def places : List Case := cases
  [("direct", [.int "x", .int "y"]),
   ("variable", [.int "x", .int "y"]),
   ("character", [.int "character_id", .unused "unused"])]

/-- A place on the map. -/
def designation : Slot := .tagged "designation" places

/-- Where and how a picture appears. -/
def picture : Layout :=
  [.int "origin"] ++ Slot.referencePair "x" ++
    [.reference "y" "x_is_variable" .int, .required "scale_x" .number, .required "scale_y" .number,
     .required "opacity" .number, .int "blend_mode"]

def showText (extra : Layout) : CommandKind :=
  ⟨101, "SHOW_TEXT", .leaf,
    [text "face_name", .int "face_index", .int "background", .int "position_type"] ++ extra⟩

def movePicture (extra : Layout) : CommandKind :=
  ⟨232, "MOVE_PICTURE", .leaf,
    [.int "picture_id", .required "unused" .any] ++ picture ++ [.int "duration", flag "wait"] ++
      extra⟩

def battleProcessing (extra : List String) : CommandKind :=
  ⟨301, "BATTLE_PROCESSING", .leaf,
    [.member "troop_kind" (members (["constant", "variable", "random_encounter"] ++ extra)),
     .int "troop_id", flag "can_escape", flag "can_lose"]⟩

/-- An item, an operation, and by how much. -/
def inventory (id : String) (extra : Layout) : Layout :=
  [.int id, change] ++ Slot.referencePair "value" ++ extra

def actorTarget : Layout := Slot.referencePair "actor_id"

/-- The commands that both generations know, with the same layouts. -/
def commonKinds : List CommandKind := [
  ⟨0, "NOP", .leaf, []⟩,
  ⟨401, "TEXT_DATA", .continuation 101, line⟩,
  ⟨102, "SHOW_CHOICES", .opens .choice,
    [.required "choices" .strList, .int "cancel_type", .int "default_type", .int "position_type",
     .int "background"]⟩,
  ⟨402, "WHEN", .arm .choice, [.int "choice_index", text "choice_name"]⟩,
  ⟨403, "WHEN_CANCEL", .arm .choice, [.unused "cancel_index", .unused "unused"]⟩,
  ⟨404, "WHEN_END", .closes .choice, []⟩,
  ⟨105, "SHOW_SCROLLING_TEXT", .leaf, [.int "speed", flag "no_fast"]⟩,
  ⟨405, "SCROLLING_TEXT_DATA", .continuation 105, line⟩,
  ⟨108, "COMMENT", .leaf, line⟩,
  ⟨408, "COMMENT_EXTRA", .continuation 108, line⟩,
  ⟨111, "CONDITIONAL_BRANCH", .opens .conditional, [.tagged "condition" conditions]⟩,
  ⟨411, "ELSE", .split .conditional, []⟩,
  ⟨412, "CONDITIONAL_BRANCH_END", .closes .conditional, []⟩,
  ⟨112, "LOOP", .opens .loop, []⟩,
  ⟨413, "REPEAT_ABOVE", .closes .loop, []⟩,
  ⟨113, "BREAK_LOOP", .leaf, []⟩,
  ⟨115, "EXIT_EVENT_PROCESSING", .leaf, []⟩,
  ⟨117, "COMMON_EVENT", .leaf, [.int "common_event_id"]⟩,
  ⟨118, "LABEL", .leaf, [text "name"]⟩,
  ⟨119, "JUMP_TO_LABEL", .leaf, [text "name"]⟩,
  ⟨121, "CONTROL_SWITCHES", .leaf, [.int "start_id", .int "end_id", binary "is_off"]⟩,
  ⟨122, "CONTROL_VARIABLES", .leaf,
    [.int "start_id", .int "end_id",
     .member "operation" (members ["=", "+=", "-=", "*=", "/=", "%="]),
     .tagged "operand" variableOperands]⟩,
  ⟨123, "CONTROL_SELF_SWITCH", .leaf, [text "key", binary "is_off"]⟩,
  ⟨124, "CONTROL_TIMER", .leaf,
    [.tagged "operation" (cases [("start", [.int "seconds"]), ("stop", [.unused "seconds"])])]⟩,
  ⟨125, "CHANGE_GOLD", .leaf, [change] ++ Slot.referencePair "value"⟩,
  ⟨126, "CHANGE_ITEMS", .leaf, inventory "item_id" []⟩,
  ⟨127, "CHANGE_WEAPONS", .leaf, inventory "weapon_id" [flag "include_equipped"]⟩,
  ⟨128, "CHANGE_ARMORS", .leaf, inventory "armor_id" [flag "include_equipped"]⟩,
  ⟨129, "CHANGE_PARTY_MEMBER", .leaf, [.int "actor_id", addition, flag "initialize"]⟩,
  ⟨134, "CHANGE_SAVE_ACCESS", .leaf, [binary "is_enabled"]⟩,
  ⟨201, "TRANSFER_PLAYER", .leaf,
    Slot.referencePair "map_id" ++
      [.reference "x" "map_id_is_variable" .int, .reference "y" "map_id_is_variable" .int,
       .int "direction", .int "fade_type"]⟩,
  ⟨203, "SET_EVENT_LOCATION", .leaf, [.int "character_id", designation, .int "direction"]⟩,
  ⟨205, "SET_MOVEMENT_ROUTE", .leaf, [.int "character_id", .required "route" .moveRoute]⟩,
  ⟨505, "SET_MOVEMENT_ROUTE_EXTRA", .continuation 205, [.required "step" .mapping]⟩,
  ⟨211, "CHANGE_TRANSPARENCY", .leaf, [binary "is_off"]⟩,
  ⟨212, "SHOW_ANIMATION", .leaf, [.int "character_id", .int "animation_id", flag "wait"]⟩,
  ⟨213, "SHOW_BALLOON_ICON", .leaf, [.int "character_id", .int "balloon_id", flag "wait"]⟩,
  ⟨216, "CHANGE_PLAYER_FOLLOWERS", .leaf, [binary "is_off"]⟩,
  ⟨221, "FADEOUT_SCREEN", .leaf, []⟩,
  ⟨222, "FADEIN_SCREEN", .leaf, []⟩,
  ⟨223, "TINT_SCREEN", .leaf, [.required "tone" .numberList, .int "duration", flag "wait"]⟩,
  ⟨224, "FLASH_SCREEN", .leaf, [.required "color" .numberList, .int "duration", flag "wait"]⟩,
  ⟨225, "SHAKE_SCREEN", .leaf, [.int "power", .int "speed", .int "duration", flag "wait"]⟩,
  ⟨230, "WAIT", .leaf, [.int "duration"]⟩,
  ⟨231, "SHOW_PICTURE", .leaf, [.int "picture_id", text "name"] ++ picture⟩,
  ⟨235, "ERASE_PICTURE", .leaf, [.int "picture_id"]⟩,
  ⟨241, "PLAY_BGM", .leaf, [.required "audio" .audio]⟩,
  ⟨242, "FADEOUT_BGM", .leaf, [.int "duration"]⟩,
  ⟨243, "SAVE_BGM", .leaf, []⟩,
  ⟨244, "RESUME_BGM", .leaf, []⟩,
  ⟨245, "PLAY_BGS", .leaf, [.required "audio" .audio]⟩,
  ⟨246, "FADEOUT_BGS", .leaf, [.int "duration"]⟩,
  ⟨250, "PLAY_SE", .leaf, [.required "audio" .audio]⟩,
  ⟨285, "GET_LOCATION_INFO", .leaf,
    [.int "variable_id",
     .member "info_type" (members
       ["terrain_tag", "event_id", "tile_id_layer_1", "tile_id_layer_2", "tile_id_layer_3",
        "tile_id_layer_4", "region_id"]),
     designation]⟩,
  ⟨601, "IF_WIN", .opens .battleResult, []⟩,
  ⟨602, "IF_ESCAPE", .arm .battleResult, []⟩,
  ⟨603, "IF_LOSE", .arm .battleResult, []⟩,
  ⟨604, "BATTLE_RESULT_END", .closes .battleResult, []⟩,
  ⟨303, "NAME_INPUT_PROCESSING", .leaf, [.int "actor_id", .int "max_length"]⟩,
  ⟨311, "CHANGE_HP", .leaf,
    actorTarget ++ [change] ++ Slot.referencePair "value" ++ [flag "allow_death"]⟩,
  ⟨312, "CHANGE_MP", .leaf, actorTarget ++ [change] ++ Slot.referencePair "value"⟩,
  ⟨313, "CHANGE_STATE", .leaf, actorTarget ++ [addition, .int "state_id"]⟩,
  ⟨316, "CHANGE_LEVEL", .leaf,
    actorTarget ++ [change] ++ Slot.referencePair "value" ++ [flag "show_level_up"]⟩,
  ⟨318, "CHANGE_SKILL", .leaf,
    actorTarget ++ [.member "operation" (members ["learn", "forget"]), .int "skill_id"]⟩,
  ⟨319, "CHANGE_EQUIPMENT", .leaf, [.int "actor_id", .int "equip_type_id", .int "item_id"]⟩,
  ⟨321, "CHANGE_CLASS", .leaf, [.int "actor_id", .int "class_id", flag "keep_exp"]⟩,
  ⟨322, "CHANGE_ACTOR_IMAGES", .leaf,
    [.int "actor_id", text "character_name", .int "character_index", text "face_name",
     .int "face_index", text "battler_name"]⟩,
  ⟨339, "FORCE_ACTION", .leaf,
    [.member "subject_kind" (members ["enemy", "actor"]), .int "subject_id", .int "skill_id",
     .int "target_index"]⟩,
  ⟨340, "ABORT_BATTLE", .leaf, []⟩,
  ⟨353, "GAME_OVER", .leaf, []⟩,
  ⟨354, "RETURN_TO_TITLE_SCREEN", .leaf, []⟩,
  ⟨355, "SCRIPT", .leaf, line⟩,
  ⟨655, "SCRIPT_EXTRA", .continuation 355, line⟩]

/-- The commands in which the generations differ. -/
def variantKinds : Variant → List CommandKind
  | .mv =>
    [showText [], movePicture [], battleProcessing [],
     ⟨356, "PLUGIN_COMMAND", .leaf, [text "command"]⟩]
  | .mz =>
    [showText [.plain "speaker_name" .str true], movePicture [.plain "easing_type" .int true],
     battleProcessing ["active_troop"],
     ⟨357, "PLUGIN_COMMAND_MZ", .leaf,
       [text "plugin_name", text "command_name", text "comment", .required "arguments" .mapping]⟩,
     ⟨657, "PLUGIN_COMMAND_MZ_EXTRA", .continuation 357, line⟩]

/-- Every command of a generation. -/
def kinds (variant : Variant) : List CommandKind := commonKinds ++ variantKinds variant

/-- What a generation knows about a code. -/
def lookup (variant : Variant) (code : Int) : Option CommandKind :=
  (kinds variant).find? fun kind => decide (kind.code = code)

/-- The codes of a generation, in increasing order. -/
def codes (variant : Variant) : List Int :=
  ((kinds variant).map CommandKind.code).mergeSort (· ≤ ·)

/-- Whether a stored value is the number of a code. -/
def contains (variant : Variant) (value : Json) : Bool :=
  (codes variant).any fun code => Json.same (.int code) value

end Catalog

end EventScript
