import EventScript.Text.Numeral

/-!
The kinds of database entries that scripts name, and the mechanical names of their entries.
-/
namespace EventScript

inductive Category where
  | switches
  | variables
  | commonEvents
  | actors
  | classes
  | skills
  | items
  | weapons
  | armors
  | states
  | troops
  | maps
  | enemies
  deriving DecidableEq

namespace Category

/-- The categories in the order of their keys. -/
def all : List Category :=
  [.actors, .armors, .classes, .commonEvents, .enemies, .items, .maps, .skills, .states, .switches,
   .troops, .variables, .weapons]

/-- The word for a category in name tables. -/
def key : Category → String
  | .switches => "switches"
  | .variables => "variables"
  | .commonEvents => "common_events"
  | .actors => "actors"
  | .classes => "classes"
  | .skills => "skills"
  | .items => "items"
  | .weapons => "weapons"
  | .armors => "armors"
  | .states => "states"
  | .troops => "troops"
  | .maps => "maps"
  | .enemies => "enemies"

/-- What the mechanical names of a category start with. -/
def stem : Category → String
  | .switches => "game_switch"
  | .variables => "game_variable"
  | .commonEvents => "common_event"
  | .actors => "game_actor"
  | .classes => "game_class"
  | .skills => "game_skill"
  | .items => "game_item"
  | .weapons => "game_weapon"
  | .armors => "game_armor"
  | .states => "game_state"
  | .troops => "game_troop"
  | .maps => "game_map"
  | .enemies => "game_enemy"

/-- The category that a key stands for. -/
def ofKey? (key : Text) : Option Category :=
  all.find? fun category => decide (Text.ofString category.key = key)

/-- The mechanical name of an entry. -/
def fallback (category : Category) (id : Int) : Text :=
  let separator : Text := if id < 0 then "_minus_" else "_"
  Text.ofString category.stem ++ separator ++ Text.ofNat id.natAbs

end Category

end EventScript
