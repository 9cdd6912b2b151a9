import EventScript.Script.Style
import EventScript.Text.Blank

/-!
A writer of script text. It takes lines, comments, calls and changes of depth one after another,
and alone decides about indentation, empty lines and the layout of calls.
-/
namespace EventScript

/-- The lines written so far, the latest first, and what decides about the next one. -/
structure Writer where
  style : Style := {}
  depth : Nat := 0
  reversedLines : List Text := []
  /-- An empty line is due before the next content. -/
  pendingBlank : Bool := false

namespace Writer

/-- The lines in reading order. -/
def lines (w : Writer) : List Text := w.reversedLines.reverse

/-- Why a step is refused. -/
inductive Fault where
  | underflow

def Fault.message : Fault → Text
  | .underflow => "indentation underflow"

/-- The unit of indentation, as often as the depth says. -/
def margin (w : Writer) : Text := (List.replicate w.depth w.style.indent).flatten

/-- A line at the current depth. An empty text asks for an empty line, which is written once more
content follows; several in a row are one, and none comes before the first content. -/
def line (w : Writer) (text : Text) : Writer :=
  if text = [] then { w with pendingBlank := w.pendingBlank || !w.reversedLines.isEmpty }
  else
    let earlier := if w.pendingBlank then [] :: w.reversedLines else w.reversedLines
    { w with reversedLines := (w.margin ++ text) :: earlier, pendingBlank := false }

/-- A comment line. -/
def comment (w : Writer) (text : Text) : Writer :=
  let text := text.escapeComment
  if text = [] then w.line "#" else w.line ("# " ++ text)

def indent (w : Writer) : Writer := { w with depth := w.depth + 1 }

/-- One level back; refused at the outermost one. -/
def dedent (w : Writer) : Except Fault Writer :=
  if w.depth = 0 then .error .underflow else .ok { w with depth := w.depth - 1 }

/-- The one-line form of a call. -/
def callText (head : Text) (arguments : List Text) : Text :=
  head ++ "(" ++ Text.join ", " arguments ++ ")"

/-- A call, on one line or with a line for each argument; fewer than two stay on one line. -/
def call (w : Writer) (head : Text) (arguments : List Text) : Writer :=
  if arguments.length < 2 ∨ ¬w.style.multilineCalls then w.line (callText head arguments)
  else
    let opened := (w.line (head ++ "(")).indent
    let filled := arguments.foldl (fun w argument => w.line (argument ++ ",")) opened
    { filled with depth := w.depth }.line ")"

/-- Something to write, or a change of depth. -/
inductive Step where
  | line (text : Text)
  | comment (text : Text)
  | call (head : Text) (arguments : List Text)
  | indent
  | dedent

/-- One step. -/
def step (w : Writer) : Step → Except Fault Writer
  | .line text => .ok (w.line text)
  | .comment text => .ok (w.comment text)
  | .call head arguments => .ok (w.call head arguments)
  | .indent => .ok w.indent
  | .dedent => w.dedent

/-- Steps one after another; a refused one changes nothing. -/
def run (w : Writer) (steps : List Step) : Writer :=
  steps.foldl (fun w s => match w.step s with
    | .ok next => next
    | .error _ => w) w

/-- The text of lines: blanks at its end are dropped, and it ends in one newline. -/
def textOfLines (lines : List Text) : Text :=
  if lines.isEmpty then []
  else Text.trimEnd (Text.join [CodePoint.newline] lines) ++ [CodePoint.newline]

/-- The text written so far. -/
def render (w : Writer) : Text := textOfLines w.lines

end Writer

end EventScript
