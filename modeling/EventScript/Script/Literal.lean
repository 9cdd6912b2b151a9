import EventScript.Json.Basic
import EventScript.Number.Shortest
import EventScript.Text.Quoted

/-!
Stored values as literals of the script language. A double that is a whole number is written as
that number, without a point.
-/
namespace EventScript

namespace Json

mutual

/-- The script text of a value. -/
def literal : Json → Text
  | .null => "None"
  | .bool b => if b then "True" else "False"
  | .int n => Text.ofInt n
  | .float x => match x.toInt? with
    | some n => Text.ofInt n
    | none => x.text
  | .str t => t.quote
  | .arr items => "[" ++ Text.join ", " (literalItems items) ++ "]"
  | .obj fields => "\x7b" ++ Text.join ", " (literalFields fields) ++ "\x7d"
  termination_by structural v => v

def literalItems : List Json → List Text
  | [] => []
  | v :: rest => literal v :: literalItems rest
  termination_by structural v => v

def literalFields : List (Text × Json) → List Text
  | [] => []
  | (k, v) :: rest => (k.quote ++ ": " ++ literal v) :: literalFields rest
  termination_by structural v => v

end

end Json

end EventScript
