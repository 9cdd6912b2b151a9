import EventScript.Proofs.Script.Validity

/-! What a style decides and what it does not. The steps of a writer stand for one sequence of
logical lines; the style gives each of them its margin and lays out the calls among them. -/
namespace EventScript

/-- A text is not blank if it holds a word that is not. -/
lemma Text.visible_of_word {t : Text} (word : String)
    (hword : (Text.ofString word).all CodePoint.isBlank = false) (h : Text.ofString word ⊆ t) :
    ∃ c ∈ t, c.isBlank = false := by
  obtain ⟨c, hc, hblank⟩ := List.all_eq_false.1 hword
  exact ⟨c, h hc, by simpa using hblank⟩

/-- A line before it is laid out: how deep it stands, and its content or the head and the arguments
of a call. -/
inductive LogicalLine where
  | plain (depth : Nat) (content : Text)
  | call (depth : Nat) (head : Text) (arguments : List Text)

/-- The lines that a style makes of a logical line. A call with at least two arguments gets a line
for each of them if the style says so. -/
def LogicalLine.lines (style : Style) : LogicalLine → List Line
  | .plain depth content => [⟨depth, content⟩]
  | .call depth head arguments =>
    if style.multilineCalls ∧ 2 ≤ arguments.length then
      [⟨depth, head ++ "("⟩] ++ arguments.map (fun argument => ⟨depth + 1, argument ++ ","⟩) ++
        [⟨depth, ")"⟩]
    else [⟨depth, head ++ "(" ++ Text.join ", " arguments ++ ")"⟩]

/-- The text of lines in a style: the lines with newlines between them, the last one without the
blanks at its end, and a newline behind them. -/
def Line.script (style : Style) (lines : List Line) : Text :=
  if lines.isEmpty then []
  else Text.join [CodePoint.newline] ((trimLast lines).map (text style)) ++ [CodePoint.newline]

namespace Writer

/-- The line of a comment. -/
def commentText (text : Text) : Text :=
  if text.escapeComment = [] then "#" else "# " ++ text.escapeComment

/-- What a step asks for at a depth. -/
def Step.logical (depth : Nat) : Step → List LogicalLine
  | .line text => [.plain depth text]
  | .comment text => [.plain depth (commentText text)]
  | .call head arguments => [.call depth head arguments]
  | .indent => []
  | .dedent => []

/-- The logical lines of steps, the first one at a depth. -/
def logical : Nat → List Step → List LogicalLine
  | _, [] => []
  | depth, step :: rest => step.logical depth ++ logical (step.depthAfter depth) rest

lemma logical_line (depth : Nat) (text : Text) (steps : List Step) :
    logical depth (.line text :: steps) = .plain depth text :: logical depth steps := rfl

lemma logical_append (depth : Nat) (before after : List Step) :
    logical depth (before ++ after) =
      logical depth before ++ logical (depthAfter depth before) after := by
  induction before generalizing depth with
  | nil => rfl
  | cons step before ih => simp [logical, ih, depthAfter]

lemma Step.lines_eq (style : Style) (depth : Nat) (step : Step) :
    step.lines style depth = (step.logical depth).flatMap (LogicalLine.lines style) := by
  cases step with
  | call head arguments =>
    simp only [lines, logical, LogicalLine.lines, List.flatMap_singleton]
    by_cases hlong : style.multilineCalls ∧ 2 ≤ arguments.length
    · have hsplit : ¬(arguments.length < 2 ∨ ¬style.multilineCalls) := by
        rintro (hshort | hwhole)
        · omega
        · exact hwhole hlong.1
      rw [if_pos hlong, if_neg hsplit]
      rfl
    · have hwhole : arguments.length < 2 ∨ ¬style.multilineCalls := by
        rcases not_and_or.1 hlong with hwhole | hshort
        · exact .inr hwhole
        · exact .inl (by omega)
      rw [if_neg hlong, if_pos hwhole]
      rfl
  | _ => rfl

lemma asked_eq_logical (style : Style) (depth : Nat) (steps : List Step) :
    asked style depth steps = (logical depth steps).flatMap (LogicalLine.lines style) := by
  induction steps generalizing depth with
  | nil => rfl
  | cons step steps ih => rw [asked, logical, List.flatMap_append, Step.lines_eq, ih]

/-- A step that asks for lines with something on them only. -/
def Step.Visible (step : Step) : Prop :=
  ∀ style depth, ∀ line ∈ step.lines style depth, line.Visible

lemma Step.visible_line {text : Text} (h : ∃ c ∈ text, c.isBlank = false) :
    Visible (.line text) := by
  intro style depth
  rw [lines, List.forall_mem_singleton]
  exact h

lemma Step.visible_comment (text : Text) : Visible (.comment text) := by
  intro style depth
  rw [lines, List.forall_mem_singleton]
  split_ifs
  · exact Text.visible_of_word "#" (by decide) (List.Subset.refl _)
  · exact Text.visible_of_word "# " (by decide) (List.subset_append_left _ _)

lemma Step.visible_call (head : Text) (arguments : List Text) :
    Visible (.call head arguments) := by
  intro style depth line hline
  rw [lines] at hline
  split_ifs at hline
  · obtain rfl := List.mem_singleton.1 hline
    exact Text.visible_of_word ")" (by decide) (List.subset_append_right _ _)
  · simp only [List.mem_append, List.mem_cons, List.mem_map, List.not_mem_nil, or_false] at hline
    rcases hline with (rfl | ⟨argument, -, rfl⟩) | rfl
    · exact Text.visible_of_word "(" (by decide) (List.subset_append_right _ _)
    · exact Text.visible_of_word "," (by decide) (List.subset_append_right _ _)
    · exact Text.visible_of_word ")" (by decide) (List.Subset.refl _)

lemma visible_asked {steps : List Step} (h : ∀ step ∈ steps, step.Visible) (style : Style)
    (depth : Nat) : ∀ line ∈ asked style depth steps, line.Visible := by
  induction steps generalizing depth with
  | nil => simp [asked]
  | cons step steps ih =>
    rw [List.forall_mem_cons] at h
    rw [asked, List.forall_mem_append]
    exact ⟨h.1 style depth, ih h.2 _⟩

/-- The text of visible steps is that of their logical lines. -/
lemma render_eq_script {steps : List Step} (h : ∀ step ∈ steps, step.Visible) (style : Style) :
    (Writer.run { style } steps).render =
      Line.script style ((logical 0 steps).flatMap (LogicalLine.lines style)) := by
  have hsteps : Step.line [] ∉ steps := by
    intro hmem
    exact (h _ hmem style 0 ⟨0, []⟩ (by simp [Step.lines])).ne_nil rfl
  rw [run_eq_push rfl hsteps, ← asked_eq_logical]
  have hlines : (push { style } (depthAfter 0 steps) (asked style 0 steps)).lines =
      (asked style 0 steps).map (Line.text style) := by simp [lines, push]
  rw [render, hlines, textOfLines, Line.script, List.isEmpty_map,
    Line.trimEnd_join (visible_asked h style 0)]

end Writer

namespace Stmt

open Writer

/-- A statement of one logical line that has something on it. -/
inductive Visible : Stmt → Prop
  | comment (text : Text) : Visible (.comment text)
  | call (callee : Expr) (args : List Expr) (keywords : List (Text × Expr)) :
      Visible (.expr (.call callee args keywords))
  | assign (target value : Expr) {operator : Text} (h : ∃ c ∈ operator, c.isBlank = false) :
      Visible (.assign target value operator)
  | breakLoop : Visible .breakLoop

lemma visible_exprStep {head : Text} (h : ∃ c ∈ head, c.isBlank = false) (e : Expr) :
    (exprStep head e).Visible := by
  obtain ⟨c, hc, hblank⟩ := h
  unfold exprStep
  split
  · exact Step.visible_call _ _
  · exact Step.visible_line ⟨c, List.mem_append_left _ hc, hblank⟩

lemma Visible.steps {stmt : Stmt} (h : stmt.Visible) : ∀ step ∈ stmt.steps, step.Visible := by
  cases h with
  | comment text => exact List.forall_mem_singleton.2 (Step.visible_comment text)
  | call callee args keywords => exact List.forall_mem_singleton.2 (Step.visible_call _ _)
  | assign target value hoperator =>
    obtain ⟨c, hc, hblank⟩ := hoperator
    exact List.forall_mem_singleton.2 (visible_exprStep ⟨c, by simp [hc], hblank⟩ value)
  | breakLoop =>
    refine List.forall_mem_singleton.2 (Step.visible_line ?_)
    exact Text.visible_of_word "break" (by decide) (List.Subset.refl _)

lemma visible_suite (body : List Stmt) {steps : List Writer.Step}
    (h : ∀ step ∈ steps, step.Visible) : ∀ step ∈ suite body steps, step.Visible := by
  have hindent : Step.indent.Visible := by simp [Step.Visible, Step.lines]
  have hdedent : Step.dedent.Visible := by simp [Step.Visible, Step.lines]
  have hpass : (Step.line "pass").Visible :=
    Step.visible_line (Text.visible_of_word "pass" (by decide) (List.Subset.refl _))
  intro step hstep
  simp only [suite, List.mem_cons, List.mem_append, List.cons_append, List.not_mem_nil,
    or_false] at hstep
  rcases hstep with rfl | (hstep | hstep) | rfl
  · exact hindent
  · exact h step hstep
  · split_ifs at hstep
    · cases hstep
    · obtain rfl := List.mem_singleton.1 hstep
      exact hpass
  · exact hdedent

lemma visible_clauseHeader (first : Bool) (condition : Option Expr) (note : Option Text) :
    ∃ c ∈ clauseHeader first condition note, c.isBlank = false := by
  apply Text.visible_of_word ":" (by decide)
  have hheader : Text.ofString ":" ⊆ clauseHeader first condition none := by
    cases condition with
    | none => exact (by decide : Text.ofString ":" ⊆ Text.ofString "else:")
    | some e => exact List.subset_append_right _ _
  cases note with
  | none => exact hheader
  | some text =>
    cases text with
    | nil => exact hheader
    | cons c text =>
      apply List.Subset.trans hheader
      exact List.Subset.trans (List.subset_append_left _ _) (List.subset_append_left _ _)

/-! The logical lines of statements. A statement stands one level deeper than the one it is in, and
only a call that is a statement or is assigned may be laid out. -/

/-- The logical line of an expression with some text before it. -/
def exprLine (depth : Nat) (head : Text) : Expr → LogicalLine
  | .call callee args keywords =>
    .call depth (head ++ callee.render) (Expr.arguments args keywords)
  | e => .plain depth (head ++ e.render)

/-- What a suite ends in if nothing in it executes. -/
def passLine (depth : Nat) (body : List Stmt) : List LogicalLine :=
  if anyCode body then [] else [.plain depth "pass"]

mutual

/-- The logical lines of a statement at a depth. -/
def logical : Stmt → Nat → List LogicalLine
  | .comment text, depth => [.plain depth (Writer.commentText text)]
  | .expr e, depth => [exprLine depth [] e]
  | .assign target value operator, depth =>
    [exprLine depth (target.render ++ " " ++ operator ++ " ") value]
  | .breakLoop, depth => [.plain depth "break"]
  | .block body, depth => logicalOf body depth
  | .ifChain clauses, depth => clauseLogical clauses true depth
  | .whileLoop condition body, depth =>
    .plain depth ("while " ++ condition.render ++ ":") ::
      (logicalOf body (depth + 1) ++ passLine (depth + 1) body)
  termination_by structural stmt => stmt

def logicalOf : List Stmt → Nat → List LogicalLine
  | [], _ => []
  | stmt :: rest, depth => logical stmt depth ++ logicalOf rest depth
  termination_by structural stmts => stmts

def clauseLogical : List Clause → Bool → Nat → List LogicalLine
  | [], _, _ => []
  | .mk condition body note :: rest, first, depth =>
    .plain depth (clauseHeader first condition note) ::
      (logicalOf body (depth + 1) ++ passLine (depth + 1) body ++ clauseLogical rest false depth)
  termination_by structural clauses => clauses

end

lemma logical_exprStep (head : Text) (e : Expr) (depth : Nat) :
    Writer.logical depth [exprStep head e] = [exprLine depth head e] := by
  cases e <;> rfl

lemma logical_suite {body : List Stmt} {depth : Nat}
    (h : Writer.logical (depth + 1) (stepsOf body) = logicalOf body (depth + 1)) :
    Writer.logical depth (suite body (stepsOf body)) =
      logicalOf body (depth + 1) ++ passLine (depth + 1) body := by
  have hdepth := (balanced_stepsOf body).depthAfter_eq (depth + 1)
  rw [suite, List.append_assoc, List.cons_append, Writer.logical, Step.logical, List.nil_append,
    Step.depthAfter, Writer.logical_append, hdepth, h, passLine]
  split_ifs <;> rfl

mutual

lemma logical_steps : ∀ (stmt : Stmt) (depth : Nat),
    Writer.logical depth stmt.steps = stmt.logical depth
  | .comment text, depth => rfl
  | .expr e, depth => logical_exprStep [] e depth
  | .assign target value operator, depth => logical_exprStep _ value depth
  | .breakLoop, depth => rfl
  | .block body, depth => by
    rw [steps, logical]
    exact logical_stepsOf body depth
  | .ifChain clauses, depth => by
    rw [steps, logical]
    exact logical_clauseSteps clauses true depth
  | .whileLoop condition body, depth => by
    rw [steps, logical, Writer.logical_line, logical_suite (logical_stepsOf body (depth + 1))]
  termination_by structural stmt => stmt

lemma logical_stepsOf : ∀ (stmts : List Stmt) (depth : Nat),
    Writer.logical depth (stepsOf stmts) = logicalOf stmts depth
  | [], _ => rfl
  | stmt :: rest, depth => by
    rw [stepsOf, logicalOf, Writer.logical_append, (balanced_steps stmt).depthAfter_eq,
      logical_steps stmt depth, logical_stepsOf rest depth]
  termination_by structural stmts => stmts

lemma logical_clauseSteps : ∀ (clauses : List Clause) (first : Bool) (depth : Nat),
    Writer.logical depth (clauseSteps clauses first) = clauseLogical clauses first depth
  | [], _, _ => rfl
  | .mk condition body note :: rest, first, depth => by
    have hdepth := (balanced_suite body (balanced_stepsOf body)).depthAfter_eq depth
    rw [clauseSteps, clauseLogical, List.cons_append, Writer.logical_line, Writer.logical_append,
      hdepth, logical_suite (logical_stepsOf body (depth + 1)),
      logical_clauseSteps rest false depth]
  termination_by structural clauses => clauses

end

end Stmt

end EventScript
