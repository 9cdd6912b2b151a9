import EventScript.Proofs.Script.Layout

/-! The text of assignments. Each one ends a line of its own; a call that is assigned may stand on
several lines before that. -/
namespace EventScript

namespace Expr

/-- An expression on the right of an assignment, where a call may be laid out. -/
def layout (style : Style) : Expr → Text
  | .call callee args keywords =>
    if style.multilineCalls ∧ 2 ≤ (arguments args keywords).length then
      callee.render ++ Text.ofString "(" ++ [CodePoint.newline] ++
        (arguments args keywords).flatMap
          (fun argument => style.indent ++ argument ++ Text.ofString "," ++ [CodePoint.newline]) ++
        Text.ofString ")"
    else (Expr.call callee args keywords).render
  | e => e.render

/-- Whether an expression always stands on one line. -/
def isShort : Expr → Bool
  | .call _ args keywords => (arguments args keywords).length < 2
  | _ => true

lemma layout_of_isShort {e : Expr} (h : e.isShort = true) (style : Style) :
    e.layout style = e.render := by
  cases e with
  | call callee args keywords =>
    have hshort : (arguments args keywords).length < 2 := of_decide_eq_true h
    rw [layout, if_neg fun hlong => by omega]
  | _ => rfl

end Expr

namespace Line

lemma trimLast_of_closed {lines : List Line} (h : ∀ line ∈ lines, line.content.Closed) :
    trimLast lines = lines := by
  fun_induction trimLast lines with
  | case1 => rfl
  | case2 line => rw [trim, (h line (by simp)).trimEnd_eq]
  | case3 line next rest ih => rw [ih fun line hline => h line (by simp [hline])]

/-- The text of lines that end in no blank. -/
lemma script_of_closed (style : Style) {lines : List Line}
    (h : ∀ line ∈ lines, line.content.Closed) :
    script style lines = lines.flatMap fun line => line.text style ++ [CodePoint.newline] := by
  rw [script, trimLast_of_closed h]
  by_cases hempty : lines = []
  · simp [hempty]
  · rw [if_neg (by simpa using hempty), Text.join_newline (by simpa using hempty),
      List.flatMap_map]

end Line

namespace Stmt

variable (style : Style) (head : Text) {e : Expr}

/-- Every line of an expression ends in no blank. -/
lemma closed_exprLine (h : e.render.Closed) :
    ∀ line ∈ (exprLine 0 head e).lines style, line.content.Closed := by
  have hopen : (Text.ofString "(").Closed := by decide
  have hcomma : (Text.ofString ",").Closed := by decide
  have hclose : (Text.ofString ")").Closed := by decide
  cases e with
  | call callee args keywords =>
    rw [exprLine, LogicalLine.lines]
    split_ifs
    · simp only [List.mem_append, List.mem_singleton, List.mem_map]
      rintro line ((rfl | ⟨argument, -, rfl⟩) | rfl)
      · exact hopen.append _
      · exact hcomma.append _
      · exact hclose
    · rw [List.forall_mem_singleton]
      exact hclose.append _
  | _ => simpa [exprLine, LogicalLine.lines] using h.append head

lemma text_exprLine :
    ((exprLine 0 head e).lines style).flatMap (fun line => line.text style ++ [CodePoint.newline]) =
      head ++ e.layout style ++ [CodePoint.newline] := by
  cases e with
  | call callee args keywords =>
    rw [exprLine, LogicalLine.lines, Expr.layout]
    split_ifs
    · simp [Line.text, List.flatMap_map]
    · simp [Line.text, Expr.render, Expr.arguments]
  | _ => simp [exprLine, LogicalLine.lines, Line.text, Expr.layout]

/-- Assignments of one value to several targets, one after another. -/
lemma render_assignments {α : Type} (targets : List α) (target : α → Expr) {operator : Text}
    (hoperator : ∃ c ∈ operator, c.isBlank = false) (h : e.render.Closed) :
    Stmt.render style (targets.map fun a => .assign (target a) e operator) =
      targets.flatMap fun a => (target a).render ++ Text.ofString " " ++ operator ++
        Text.ofString " " ++ e.layout style ++ [CodePoint.newline] := by
  have hvisible : ∀ step ∈ stepsOf (targets.map fun a => .assign (target a) e operator),
      step.Visible := by
    induction targets with
    | nil => simp [stepsOf]
    | cons a targets ih =>
      rw [List.map_cons, stepsOf, List.forall_mem_append]
      exact ⟨(Visible.assign (target a) e hoperator).steps, ih⟩
  have hlogical : logicalOf (targets.map fun a => .assign (target a) e operator) 0 =
      targets.map fun a => exprLine 0 ((target a).render ++ " " ++ operator ++ " ") e := by
    induction targets with
    | nil => rfl
    | cons a targets ih =>
      rw [List.map_cons, logicalOf, ih fun step hstep => hvisible step (by simp [stepsOf, hstep])]
      rfl
  rw [Stmt.render, Writer.render_eq_script hvisible, logical_stepsOf, hlogical, List.flatMap_map,
    Line.script_of_closed]
  · simp only [List.flatMap_assoc, text_exprLine]
  · intro line hline
    obtain ⟨a, -, hline⟩ := List.mem_flatMap.1 hline
    exact closed_exprLine style _ h line hline

end Stmt

end EventScript
