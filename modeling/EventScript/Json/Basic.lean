import EventScript.Number.Double
import EventScript.Text.Basic

/-!
Stored values. An object keeps the order in which its keys came and holds each key once; whole
numbers and doubles are different values even when they are the same number.
-/
namespace EventScript

inductive Json where
  | null
  | bool (b : Bool)
  | int (n : Int)
  | float (x : Double)
  | str (t : Text)
  | arr (items : List Json)
  | obj (fields : List (Text × Json))

namespace Json

instance : Inhabited Json := ⟨.null⟩

/-- The value under a key of an object, null if the key is not there. -/
def field (key : String) (fields : List (Text × Json)) : Json :=
  (fields.lookup (Text.ofString key)).getD .null

/-- Whether a value counts as nothing: null, false, a zero, or an empty text, list or object. -/
def isFalsy : Json → Bool
  | .null => true
  | .bool b => !b
  | .int n => n = 0
  | .float x => x.isZero
  | .str t => t.isEmpty
  | .arr items => items.isEmpty
  | .obj fields => fields.isEmpty

def isInt : Json → Bool
  | .int _ => true
  | _ => false

/-- Whether a value is a whole number or a double. -/
def isNumber : Json → Bool
  | .int _ => true
  | .float _ => true
  | _ => false

def isStr : Json → Bool
  | .str _ => true
  | _ => false

/-- The word for a value's type in messages. -/
def typeName : Json → String
  | .null => "NoneType"
  | .bool _ => "bool"
  | .int _ => "int"
  | .float _ => "float"
  | .str _ => "str"
  | .arr _ => "list"
  | .obj _ => "dict"

end Json

/-- A list of pairs with one more: under a key that is already there the value is replaced in its
place, a new key comes last. -/
def insertPair {α β : Type} [DecidableEq α] (key : α) (value : β) : List (α × β) → List (α × β)
  | [] => [(key, value)]
  | (k, v) :: rest => if k = key then (k, value) :: rest else (k, v) :: insertPair key value rest

/-- Pairs collected one after another with `insertPair`. -/
def collectPairs {α β : Type} [DecidableEq α] (pairs : List (α × β)) : List (α × β) :=
  pairs.foldl (fun collected pair => insertPair pair.1 pair.2 collected) []

end EventScript
