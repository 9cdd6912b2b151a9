import EventScript.Block.Reconstruct
import EventScript.Decompile.Condition
import EventScript.Decompile.Leaf
import EventScript.Json.Printer

/-!
Decompiling the blocks of an event. Each block yields statements and the placeholders that stand
for commands with unknown codes; both are collected in the order of the rows. A fault is located at
the entry that heads the innermost block it arose in.
-/
namespace EventScript

/-- A command with an unknown code that was kept as a comment. -/
structure Placeholder where
  index : Nat
  code : Int
  variant : Variant

/-- What a placeholder is reported as. -/
def Placeholder.cause (p : Placeholder) : Cause := .unrecognized p.code p.variant

/-- Statements, and the placeholders among them. -/
structure Fragment where
  stmts : List Stmt
  placeholders : List Placeholder

namespace Fragment

def empty : Fragment := ⟨[], []⟩

def append (a b : Fragment) : Fragment :=
  ⟨a.stmts ++ b.stmts, a.placeholders ++ b.placeholders⟩

instance : Append Fragment := ⟨append⟩

end Fragment

namespace Decompile

/-- Why an event cannot be decompiled: a fault of the data, located at a row, or a defect. -/
inductive Failure where
  | located (index : Nat) (code : Int) (cause : Cause)
  | defect (d : Defect)

/-- Locates a fault at an entry. -/
def locate {α : Type} (entry : Entry) : Except Fault α → Except Failure α
  | .ok a => .ok a
  | .error (.cause c) => .error (.located entry.index entry.row.code c)
  | .error (.defect d) => .error (.defect d)

/-- The comment that keeps a command with an unknown code. -/
def unknownText (row : Row) : Text :=
  "Unknown Command Code " ++ Text.ofInt row.code ++ ", parameters: " ++
    (Json.arr row.parameters).render

/-- A command with an unknown code. -/
def unknown (context : Context) (entry : Entry) : Except Fault Fragment :=
  match context.onUnknown with
  | .fail => .error (.cause (.unrecognized entry.row.code context.variant))
  | .placeholder =>
    .ok ⟨[.comment (unknownText entry.row)], [⟨entry.index, entry.row.code, context.variant⟩]⟩

/-- A command that opens no block. -/
def leaf (context : Context) (entry : Entry) : Except Fault Fragment :=
  match entry.kind with
  | none => unknown context entry
  | some kind => match handler? kind.name with
    | none => unknown context entry
    | some handler => do
      let operands ← Operands.decode kind.layout entry.row.parameters
      return ⟨← handler context entry operands, []⟩

/-- The operands of an entry, by the layout of its command. -/
def operandsOf (entry : Entry) : Except Fault Operands :=
  match entry.kind with
  | some kind => Operands.decode kind.layout entry.row.parameters
  | none => .error (.defect (.kindless entry.index))

/-- The condition of a branch, from its header. -/
def branchCondition (context : Context) (operands : Operands) : Except Fault Expr := do
  let (tag, asked) ← operands.tagged "condition"
  context.condition tag asked

/-- The call that shows a choice. -/
def showChoices (operands : Operands) : Except Fault (List Stmt) := do
  return perform "show_choices"
    [("choices", .literal (← operands.value "choices")),
     ("cancel_type", .literal (← operands.value "cancel_type")),
     ("default_type", .literal (← operands.value "default_type")),
     ("position_type", .literal (← operands.value "position_type")),
     ("background", .literal (← operands.value "background"))]

/-- What a section of a block stands under. -/
structure Heading where
  condition : Expr
  note : Option Text

/-- The arm of a choice: the index it is taken for, with the text of the choice. -/
def choiceHeading (marker : Entry) : Except Fault Heading :=
  let asked (index : Expr) : Expr := .binary (invoke "get_choice_index" []) "==" index
  match marker.kind with
  | none => .error (.defect (.kindless marker.index))
  | some kind => do
    let operands ← Operands.decode kind.layout marker.row.parameters
    match kind.name with
    | "WHEN" =>
      return ⟨asked (.literal (← operands.value "choice_index")),
        some (← operands.text "choice_name")⟩
    | _ => return ⟨asked (number (-1)), none⟩

/-- A section for an outcome of a battle. -/
def battleHeading (marker : Entry) : Except Fault Heading :=
  match marker.kind with
  | none => .error (.defect (.kindless marker.index))
  | some kind => match kind.name with
    | "IF_ESCAPE" => .ok ⟨invoke "game_battle_result.is_escape" [], none⟩
    | _ => .ok ⟨invoke "game_battle_result.is_lose" [], none⟩

/-- The family of the block that a header opens, by the command's name. -/
def familyOf (header : Entry) : Except Fault Family :=
  match header.kind with
  | none => .error (.defect (.kindless header.index))
  | some kind => match kind.name with
    | "CONDITIONAL_BRANCH" => .ok .conditional
    | "LOOP" => .ok .loop
    | "SHOW_CHOICES" => .ok .choice
    | "IF_WIN" => .ok .battleResult
    | name => .error (.defect (.notAnOpener name))

mutual

/-- The statements of a block. -/
def block (context : Context) : Block → Except Failure Fragment
  | .leaf entry => locate entry (leaf context entry)
  | .compound header body branches _ => do
    let operands ← locate header (operandsOf header)
    match ← locate header (familyOf header) with
    | .conditional =>
      let condition ← locate header (branchCondition context operands)
      let inner ← blocks context body
      match ← alternate context branches with
      | none =>
        return ⟨[.ifChain [.mk (some condition) inner.stmts none]], inner.placeholders⟩
      | some other =>
        return ⟨[.ifChain [.mk (some condition) inner.stmts none, .mk none other.stmts none]],
          inner.placeholders ++ other.placeholders⟩
    | .loop =>
      let inner ← blocks context body
      return ⟨[.whileLoop (truth true) inner.stmts], inner.placeholders⟩
    | .choice =>
      let shown ← locate header (showChoices operands)
      let (clauses, placeholders) ← sections context header choiceHeading branches
      return ⟨shown ++ (if clauses.isEmpty then [] else [.ifChain clauses]), placeholders⟩
    | .battleResult =>
      let inner ← blocks context body
      let (clauses, placeholders) ← sections context header battleHeading branches
      let won := invoke "game_battle_result.is_win" []
      return ⟨[.ifChain (.mk (some won) inner.stmts none :: clauses)],
        inner.placeholders ++ placeholders⟩
  termination_by structural b => b

/-- The statements of blocks in order. -/
def blocks (context : Context) : List Block → Except Failure Fragment
  | [] => .ok .empty
  | b :: rest => do
    let first ← block context b
    let more ← blocks context rest
    return first ++ more
  termination_by structural bs => bs

/-- The section behind the marker that splits a block, if there is one. -/
def alternate (context : Context) : List Branch → Except Failure (Option Fragment)
  | [] => .ok none
  | .mk marker children :: rest =>
    if marker.isSplit then do return some (← blocks context children)
    else alternate context rest
  termination_by structural bs => bs

/-- The sections of a block as clauses. -/
def sections (context : Context) (header : Entry) (heading : Entry → Except Fault Heading) :
    List Branch → Except Failure (List Clause × List Placeholder)
  | [] => .ok ([], [])
  | .mk marker children :: rest => do
    let top ← locate header (heading marker)
    let inner ← blocks context children
    let (clauses, placeholders) ← sections context header heading rest
    return (.mk (some top.condition) inner.stmts top.note :: clauses,
      inner.placeholders ++ placeholders)
  termination_by structural bs => bs

end

end Decompile

end EventScript
