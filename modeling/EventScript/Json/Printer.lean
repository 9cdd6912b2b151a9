import EventScript.Json.Basic
import EventScript.Number.Shortest
import EventScript.Text.Quoted

/-!
Values written as JSON. Strings keep every character but the quote, the backslash and those below
`0x20`. `render` writes one line, `renderLines` one item or field a line.
-/
namespace EventScript

namespace Json

/-- A character of a JSON string. -/
def stringChar (c : CodePoint) : Text :=
  if c = CodePoint.doubleQuote ∨ c = CodePoint.backslash then Text.charEscape c
  else match Text.lineEscape? c with
    | some escape => escape
    | none =>
      if c.val = 0x08 then Text.charEscape 'b'
      else if c.val = 0x0c then Text.charEscape 'f'
      else if c.val < 0x20 then Text.hexEscape 'u' 4 c.val
      else [c]

def renderString (t : Text) : Text :=
  CodePoint.doubleQuote :: t.flatMap stringChar ++ [CodePoint.doubleQuote]

/-- Values without parts. -/
def renderScalar : Json → Text
  | .null => "null"
  | .bool b => if b then "true" else "false"
  | .int n => Text.ofInt n
  | .float x => x.textWith "NaN" "Infinity"
  | .str t => renderString t
  | .arr _ => "[]"
  | .obj _ => "\x7b\x7d"

mutual

/-- A value on one line. -/
def render : Json → Text
  | .arr items => "[" ++ Text.join ", " (renderItems items) ++ "]"
  | .obj fields => "\x7b" ++ Text.join ", " (renderFields fields) ++ "\x7d"
  | v => renderScalar v
  termination_by structural v => v

def renderItems : List Json → List Text
  | [] => []
  | v :: rest => render v :: renderItems rest
  termination_by structural v => v

def renderFields : List (Text × Json) → List Text
  | [] => []
  | (k, v) :: rest => (renderString k ++ ": " ++ render v) :: renderFields rest
  termination_by structural v => v

end

/-- A new line at a nesting depth, two spaces a level. -/
def lineBreak (depth : Nat) : Text :=
  CodePoint.newline :: List.replicate (2 * depth) (CodePoint.ofChar ' ')

/-- Parts between brackets, each on a line of its own; nothing stands between them if there are
no parts. -/
def bracketLines (opening closing : Text) (depth : Nat) (parts : List Text) : Text :=
  if parts.isEmpty then opening ++ closing
  else
    opening ++ lineBreak (depth + 1) ++ Text.join ("," ++ lineBreak (depth + 1)) parts ++
      lineBreak depth ++ closing

mutual

/-- A value with its parts on lines of their own, inside `depth` others. -/
def renderLinesAt : Json → Nat → Text
  | .arr items, depth => bracketLines "[" "]" depth (itemLines items (depth + 1))
  | .obj fields, depth => bracketLines "\x7b" "\x7d" depth (fieldLines fields (depth + 1))
  | v, _ => renderScalar v
  termination_by structural v => v

def itemLines : List Json → Nat → List Text
  | [], _ => []
  | v :: rest, depth => renderLinesAt v depth :: itemLines rest depth
  termination_by structural v => v

def fieldLines : List (Text × Json) → Nat → List Text
  | [], _ => []
  | (k, v) :: rest, depth =>
    (renderString k ++ ": " ++ renderLinesAt v depth) :: fieldLines rest depth
  termination_by structural v => v

end

/-- A value with its parts on lines of their own. -/
def renderLines (v : Json) : Text := renderLinesAt v 0

end Json

end EventScript
