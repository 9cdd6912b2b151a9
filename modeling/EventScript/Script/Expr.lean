import EventScript.Script.Literal

/-!
Expressions of a script and their text, which always stands on one line.
-/
namespace EventScript

inductive Expr where
  | literal (value : Json)
  | name (text : Text)
  | attribute (target : Expr) (field : Text)
  | subscript (target index : Expr)
  | unary (operator : Text) (operand : Expr)
  | binary (left : Expr) (operator : Text) (right : Expr)
  | call (callee : Expr) (args : List Expr) (keywords : List (Text × Expr))
  | list (items : List Expr)

namespace Expr

instance : Inhabited Expr := ⟨.literal .null⟩

/-- Names joined by points: attributes of attributes of the first one. -/
def dotted (path : Text) : Expr :=
  match path.splitAt '.' with
  | [] => .name []
  | head :: rest => rest.foldl .attribute (.name head)

/-- A call of a dotted name. -/
def callPath (path : Text) (args : List Expr) (keywords : List (Text × Expr)) : Expr :=
  .call (dotted path) args keywords

def isBinary : Expr → Bool
  | .binary .. => true
  | _ => false

mutual

def render : Expr → Text
  | .literal value => value.literal
  | .name text => text
  | .attribute target field => render target ++ "." ++ field
  | .subscript target index => render target ++ "[" ++ render index ++ "]"
  | .unary operator operand =>
    if operand.isBinary then operator ++ "(" ++ render operand ++ ")"
    else operator ++ render operand
  | .binary left operator right => render left ++ " " ++ operator ++ " " ++ render right
  | .call callee args keywords =>
    render callee ++ "(" ++ Text.join ", " (renderArgs args ++ renderKeywords keywords) ++ ")"
  | .list items => "[" ++ Text.join ", " (renderArgs items) ++ "]"
  termination_by structural e => e

def renderArgs : List Expr → List Text
  | [] => []
  | e :: rest => render e :: renderArgs rest
  termination_by structural e => e

def renderKeywords : List (Text × Expr) → List Text
  | [] => []
  | (key, e) :: rest => (key ++ "=" ++ render e) :: renderKeywords rest
  termination_by structural e => e

end

/-- The texts of a call's arguments, in order. -/
def arguments (args : List Expr) (keywords : List (Text × Expr)) : List Text :=
  renderArgs args ++ renderKeywords keywords

end Expr

end EventScript
