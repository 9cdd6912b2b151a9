import EventScript.Json.Basic
import EventScript.Number.Shortest
import EventScript.Text.Quoted

/-!
Values as messages show them. An event is named by any stored value, whose plain text appears in
messages; a value that a message complains about is displayed, so that a text stands in quotes.
-/
namespace EventScript

namespace Json

mutual

/-- A value as messages show it. -/
def display : Json → Text
  | .null => "None"
  | .bool b => if b then "True" else "False"
  | .int n => Text.ofInt n
  | .float x => x.text
  | .str t => t.display
  | .arr items => "[" ++ Text.join ", " (displayItems items) ++ "]"
  | .obj fields => "\x7b" ++ Text.join ", " (displayFields fields) ++ "\x7d"
  termination_by structural v => v

def displayItems : List Json → List Text
  | [] => []
  | v :: rest => display v :: displayItems rest
  termination_by structural v => v

def displayFields : List (Text × Json) → List Text
  | [] => []
  | (k, v) :: rest => (k.display ++ ": " ++ display v) :: displayFields rest
  termination_by structural v => v

end

/-- A value as running text: a text stands for itself, any other value is displayed. -/
def plain : Json → Text
  | .str t => t
  | v => v.display

end Json

end EventScript
