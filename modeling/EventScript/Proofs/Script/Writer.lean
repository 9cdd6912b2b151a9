import EventScript.Proofs.Outcome
import EventScript.Script.Stmt

/-! The steps of statements never lead a writer out of the outermost level. -/
namespace EventScript

namespace Writer

@[simp] lemma depth_line (w : Writer) (text : Text) : (w.line text).depth = w.depth := by
  unfold line
  split <;> rfl

@[simp] lemma depth_comment (w : Writer) (text : Text) : (w.comment text).depth = w.depth := by
  simp only [comment]
  split <;> simp

@[simp] lemma depth_call (w : Writer) (head : Text) (arguments : List Text) :
    (w.call head arguments).depth = w.depth := by
  unfold call
  split <;> simp

/-- A writer that refuses none of its steps ends as the run of them. -/
lemma run_eq_of_foldlM {steps : List Step} {w next : Writer} (h : steps.foldlM step w = .ok next) :
    w.run steps = next := by
  induction steps generalizing w with
  | nil => exact Except.ok.inj h
  | cons s steps ih =>
    rw [List.foldlM_cons] at h
    obtain ⟨middle, hstep, hrest⟩ := bind_eq_ok.1 h
    simpa [run, hstep] using ih hrest

/-- Steps that are never refused and end at the depth they started from. -/
def Balanced (steps : List Step) : Prop :=
  ∀ w : Writer, ∃ next, steps.foldlM step w = .ok next ∧ next.depth = w.depth

lemma balanced_nil : Balanced [] := fun w => ⟨w, rfl, rfl⟩

lemma Balanced.append {before after : List Step} (hbefore : Balanced before)
    (hafter : Balanced after) : Balanced (before ++ after) := by
  intro w
  obtain ⟨middle, hmiddle, hdepth⟩ := hbefore w
  obtain ⟨next, hnext, hdepth'⟩ := hafter middle
  exact ⟨next, by simp [hmiddle, hnext], hdepth'.trans hdepth⟩

lemma balanced_line (text : Text) : Balanced [.line text] :=
  fun w => ⟨w.line text, rfl, depth_line w text⟩

lemma balanced_comment (text : Text) : Balanced [.comment text] :=
  fun w => ⟨w.comment text, rfl, depth_comment w text⟩

lemma balanced_call (head : Text) (arguments : List Text) : Balanced [.call head arguments] :=
  fun w => ⟨w.call head arguments, rfl, depth_call w head arguments⟩

lemma Balanced.nested {steps : List Step} (h : Balanced steps) :
    Balanced (.indent :: steps ++ [.dedent]) := by
  intro w
  obtain ⟨inner, hinner, hdepth⟩ := h w.indent
  have hdepth : inner.depth = w.depth + 1 := hdepth
  refine ⟨{ inner with depth := w.depth }, ?_, rfl⟩
  simp [List.foldlM_cons, step, hinner, dedent, hdepth]

end Writer

namespace Stmt

open Writer

lemma balanced_exprStep (head : Text) (e : Expr) : Balanced [exprStep head e] := by
  unfold exprStep
  split
  · exact balanced_call _ _
  · exact balanced_line _

lemma balanced_suite (body : List Stmt) {steps : List Writer.Step} (h : Balanced steps) :
    Balanced (suite body steps) := by
  have hbody : Balanced (steps ++ if anyCode body then [] else [.line "pass"]) := by
    refine h.append ?_
    split
    · exact balanced_nil
    · exact balanced_line _
  simpa [suite] using hbody.nested

mutual

theorem balanced_steps : (stmt : Stmt) → Balanced stmt.steps
  | .comment text => balanced_comment text
  | .expr e => balanced_exprStep [] e
  | .assign target value operator => balanced_exprStep _ value
  | .breakLoop => balanced_line _
  | .block body => by
    rw [steps]
    exact balanced_stepsOf body
  | .ifChain clauses => by
    rw [steps]
    exact balanced_clauseSteps clauses true
  | .whileLoop condition body => by
    rw [steps]
    exact (balanced_line _).append (balanced_suite body (balanced_stepsOf body))
  termination_by structural stmt => stmt

theorem balanced_stepsOf : (stmts : List Stmt) → Balanced (stepsOf stmts)
  | [] => balanced_nil
  | stmt :: rest => by
    rw [stepsOf]
    exact (balanced_steps stmt).append (balanced_stepsOf rest)
  termination_by structural stmts => stmts

theorem balanced_clauseSteps : (clauses : List Clause) → (first : Bool) →
    Balanced (clauseSteps clauses first)
  | [], _ => balanced_nil
  | .mk condition body note :: rest, first => by
    rw [clauseSteps]
    exact ((balanced_line _).append (balanced_suite body (balanced_stepsOf body))).append
      (balanced_clauseSteps rest false)
  termination_by structural clauses => clauses

end

end Stmt

end EventScript
