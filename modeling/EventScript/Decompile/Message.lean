import EventScript.Block.Basic
import EventScript.Decompile.Context

/-!
Statements for commands that carry lines of text: shown texts, comments, scripts and plugin
commands. The further lines of a text are its continuation rows.
-/
namespace EventScript

namespace Decompile

/-- What writes a command: its entry is needed for the continuation rows. -/
abbrev Handler := Context → Entry → Operands → Except Fault (List Stmt)

/-- Nothing is written. -/
def nothing : Handler := fun _ _ _ => .ok []

/-- A call without arguments. -/
def plainCall (path : String) : Handler := fun _ _ _ => .ok (perform path [])

/-- A call whose keyword arguments are operands of the same names. -/
def fieldCall (path : String) (fields : List String) : Handler := fun _ _ operands => do
  let keywords ← fields.mapM fun field => do return (field, Expr.literal (← operands.value field))
  return perform path keywords

/-- The operands of an entry's continuation rows. -/
def extras (context : Context) (entry : Entry) : Except Fault (List Operands) :=
  entry.extras.mapM fun row =>
    match Catalog.lookup context.variant row.code with
    | none => .error (.cause (.unrecognized row.code context.variant))
    | some kind => Operands.decode kind.layout row.parameters

/-- The lines of an entry: its own, if it has one, then those of its continuation rows. -/
def lines (context : Context) (entry : Entry) (operands : Operands) :
    Except Fault (List Json) := do
  let more ← extras context entry
  return (operands.value? "line").toList ++ (← more.mapM fun extra => extra.value "line")

def showText : Handler := fun context entry operands => do
  let fields ← ["face_name", "face_index", "background", "position_type"].mapM fun field => do
    return (field, Expr.literal (← operands.value field))
  let speaker : List (String × Expr) := match operands.value? "speaker_name" with
    | none => []
    | some .null => []
    | some speaker => [("speaker_name", .literal speaker)]
  let text ← lines context entry operands
  return perform "show_text" (fields ++ speaker ++ [("lines", .literal (.arr text))])

def showScrollingText : Handler := fun context entry operands => do
  let speed ← operands.value "speed"
  let noFast ← operands.value "no_fast"
  let text ← lines context entry operands
  return perform "show_scrolling_text"
    [("speed", .literal speed), ("no_fast", .literal noFast), ("lines", .literal (.arr text))]

/-- A comment for each line. -/
def comment : Handler := fun context entry operands => do
  (← lines context entry operands).mapM fun
    | .str t => .ok (.comment t)
    | _ => .error (.defect (.operandShape "line"))

def script : Handler := fun context entry operands => do
  return perform "script" [("lines", .literal (.arr (← lines context entry operands)))]

/-- The words of a plugin command are the arguments of the call. -/
def pluginCommand : Handler := fun _ _ operands => do
  let command ← operands.text "command"
  return [.expr (.callPath "plugin_command" (command.words.map string) [])]

def pluginCall : Handler := fun _ _ operands => do
  return perform "plugin_command"
    [("plugin_name", .literal (← operands.value "plugin_name")),
     ("command_name", .literal (← operands.value "command_name")),
     ("comment", .literal (← operands.value "comment")),
     ("args", .literal (← operands.value "arguments"))]

end Decompile

end EventScript
