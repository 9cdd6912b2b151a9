import EventScript.Script.Expr
import EventScript.Script.Writer

/-!
Statements of a script. A statement is written by taking it apart into steps of a writer: the
steps do not depend on the style, which the writer applies.
-/
namespace EventScript

mutual

inductive Stmt where
  | comment (text : Text)
  | expr (e : Expr)
  | assign (target value : Expr) (operator : Text)
  | breakLoop
  | block (body : List Stmt)
  | ifChain (clauses : List Clause)
  | whileLoop (condition : Expr) (body : List Stmt)

/-- One arm of an if chain. An arm without a condition is written as `else`. -/
inductive Clause where
  | mk (condition : Option Expr) (body : List Stmt) (note : Option Text)

end

namespace Stmt

instance : Inhabited Stmt := ⟨.breakLoop⟩

mutual

/-- Whether a statement executes anything; a comment does not, nor does a block of comments. -/
def hasCode : Stmt → Bool
  | .comment _ => false
  | .block body => anyCode body
  | _ => true
  termination_by structural s => s

def anyCode : List Stmt → Bool
  | [] => false
  | s :: rest => hasCode s || anyCode rest
  termination_by structural s => s

end

/-- The step for an expression with some text before it; a call may be laid out. -/
def exprStep (head : Text) : Expr → Writer.Step
  | .call callee args keywords => .call (head ++ callee.render) (Expr.arguments args keywords)
  | e => .line (head ++ e.render)

/-- The line that opens a clause. -/
def clauseHeader (first : Bool) (condition : Option Expr) (note : Option Text) : Text :=
  let header : Text := match condition with
    | none => "else:"
    | some e => (if first then ("if " : Text) else "elif ") ++ e.render ++ ":"
  match note with
  | none => header
  | some [] => header
  | some text => header ++ "  # " ++ text.escapeComment

/-- A suite one level deeper, which says so if nothing in it executes. -/
def suite (body : List Stmt) (steps : List Writer.Step) : List Writer.Step :=
  .indent :: steps ++ (if anyCode body then [] else [.line "pass"]) ++ [.dedent]

mutual

/-- What a writer does for a statement. -/
def steps : Stmt → List Writer.Step
  | .comment text => [.comment text]
  | .expr e => [exprStep [] e]
  | .assign target value operator => [exprStep (target.render ++ " " ++ operator ++ " ") value]
  | .breakLoop => [.line "break"]
  | .block body => stepsOf body
  | .ifChain clauses => clauseSteps clauses true
  | .whileLoop condition body =>
    .line ("while " ++ condition.render ++ ":") :: suite body (stepsOf body)
  termination_by structural s => s

def stepsOf : List Stmt → List Writer.Step
  | [] => []
  | s :: rest => steps s ++ stepsOf rest
  termination_by structural s => s

def clauseSteps : List Clause → Bool → List Writer.Step
  | [], _ => []
  | .mk condition body note :: rest, first =>
    .line (clauseHeader first condition note) :: suite body (stepsOf body) ++
      clauseSteps rest false
  termination_by structural s => s

end

/-- The text of statements in a style. -/
def render (style : Style) (body : List Stmt) : Text :=
  (Writer.run { style } (stepsOf body)).render

end Stmt

end EventScript
