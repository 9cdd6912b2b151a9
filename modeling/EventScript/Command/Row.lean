import EventScript.Command.Fault

/-!
Rows of an event's command list, and reading them from stored values. Every row has a code, an
indent and parameters; a list of rows is read as a whole, and its first bad row is reported.
-/
namespace EventScript

/-- A stored command: what it is, how deep it stands, and what it is given. -/
structure Row where
  code : Int
  indent : Int
  parameters : List Json

namespace Row

/-- A row from a stored object. Parameters may be left out; an indent is not negative. -/
def ofJson : Json → Except SchemaFault Row
  | .obj fields =>
    match Json.field "code" fields with
    | .int code =>
      match Json.field "indent" fields with
      | .int indent =>
        if indent < 0 then .error (.rowIndent (.int indent))
        else match fields.lookup (Text.ofString "parameters") with
          | none => .ok ⟨code, indent, []⟩
          | some (.arr parameters) => .ok ⟨code, indent, parameters⟩
          | some _ => .error .rowParameters
      | indent => .error (.rowIndent indent)
    | code => .error (.rowCode code)
  | value => .error (.rowNotObject value)

end Row

/-- A row as an event holds it: still a stored value, or read already. -/
inductive RawRow where
  | stored (value : Json)
  | ready (row : Row)

namespace RawRow

def read : RawRow → Except SchemaFault Row
  | .stored value => Row.ofJson value
  | .ready row => .ok row

/-- The rows of a list whose first one stands at `index`; the first bad one is reported. -/
def readFrom : Nat → List RawRow → Except (Located SchemaFault) (List Row)
  | _, [] => .ok []
  | index, raw :: rest =>
    match raw.read with
    | .error fault => .error ⟨index, fault⟩
    | .ok row => match readFrom (index + 1) rest with
      | .error fault => .error fault
      | .ok rows => .ok (row :: rows)

/-- The rows of a list. -/
def readAll (rows : List RawRow) : Except (Located SchemaFault) (List Row) := readFrom 0 rows

end RawRow

/-- The code that a row shows in reports, also when the row is no good: a number, or a truth value
that was stored instead of one. -/
inductive RowCode where
  | number (n : Int)
  | truth (b : Bool)
  deriving DecidableEq

namespace RowCode

def text : RowCode → Text
  | .number n => Text.ofInt n
  | .truth b => (Json.bool b).display

def toJson : RowCode → Json
  | .number n => .int n
  | .truth b => .bool b

def ofJson? : Json → Option RowCode
  | .int n => some (.number n)
  | .bool b => some (.truth b)
  | _ => none

end RowCode

/-- The code of a row, read or not. -/
def RawRow.code? : RawRow → Option RowCode
  | .stored (.obj fields) => RowCode.ofJson? (Json.field "code" fields)
  | .stored _ => none
  | .ready row => some (.number row.code)

end EventScript
