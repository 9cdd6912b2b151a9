import EventScript.Proofs.Decompile.Mirror
import EventScript.Proofs.Script.Layout

/-! Whatever the names are, no statement of an event is a blank line: each is a comment, a call, an
assignment, or the way out of a loop. -/
namespace EventScript

namespace Stmt

open Writer

mutual

/-- The steps of a tree are visible if its statements are that hold no others. -/
lemma visible_steps : ∀ stmt : Stmt, (∀ s ∈ stmt.plain, s.Visible) →
    ∀ step ∈ stmt.steps, step.Visible
  | .comment text, h => (h _ (List.mem_singleton_self _)).steps
  | .expr e, h => (h _ (List.mem_singleton_self _)).steps
  | .assign target value operator, h => (h _ (List.mem_singleton_self _)).steps
  | .breakLoop, h => (h _ (List.mem_singleton_self _)).steps
  | .block body, h => (h _ (List.mem_singleton_self _)).steps
  | .ifChain clauses, h => by
    rw [steps]
    exact visible_clauseSteps clauses true h
  | .whileLoop condition body, h => by
    rw [steps, List.forall_mem_cons]
    refine ⟨Step.visible_line ?_, visible_suite body (visible_stepsOf body h)⟩
    exact Text.visible_of_word ":" (by decide) (List.subset_append_right _ _)
  termination_by structural stmt => stmt

lemma visible_stepsOf : ∀ stmts : List Stmt, (∀ s ∈ plainOf stmts, s.Visible) →
    ∀ step ∈ stepsOf stmts, step.Visible
  | [], _ => by simp [stepsOf]
  | stmt :: rest, h => by
    rw [plainOf, List.forall_mem_append] at h
    rw [stepsOf, List.forall_mem_append]
    exact ⟨visible_steps stmt h.1, visible_stepsOf rest h.2⟩
  termination_by structural stmts => stmts

lemma visible_clauseSteps : ∀ (clauses : List Clause) (first : Bool),
    (∀ s ∈ Clause.plainOf clauses, s.Visible) → ∀ step ∈ clauseSteps clauses first, step.Visible
  | [], _, _ => by simp [clauseSteps]
  | .mk condition body note :: rest, first, h => by
    rw [Clause.plainOf, List.forall_mem_append] at h
    rw [clauseSteps, List.cons_append, List.forall_mem_cons, List.forall_mem_append]
    exact ⟨Step.visible_line (visible_clauseHeader first condition note),
      visible_suite body (visible_stepsOf body h.1), visible_clauseSteps rest false h.2⟩
  termination_by structural clauses => clauses

end

end Stmt

namespace Decompile

open Stmt

/-- What is written, if anything is, is visible. -/
abbrev Shows (x : Except Fault (List Stmt)) : Prop :=
  Returns (fun stmts => ∀ stmt ∈ stmts, stmt.Visible) x

@[simp] lemma visible_invoke (path : String) (keywords : List (String × Expr)) :
    (Stmt.expr (invoke path keywords)).Visible := .call _ _ _

@[simp] lemma visible_callPath (path : Text) (args : List Expr) (keywords : List (Text × Expr)) :
    (Stmt.expr (.callPath path args keywords)).Visible := .call _ _ _

@[simp] lemma visible_breakLoop : Stmt.breakLoop.Visible := .breakLoop

lemma visible_assign (target value : Expr) (word : String)
    (h : (Text.ofString word).all CodePoint.isBlank = false) :
    (Stmt.assign target value (Text.ofString word)).Visible :=
  .assign target value (Text.visible_of_word word h (List.Subset.refl _))

@[simp] lemma visible_set (target value : Expr) :
    (Stmt.assign target value (Text.ofString "=")).Visible := visible_assign _ _ "=" (by decide)

variable {context : Context} {entry : Entry} {operands : Operands}

@[simp] lemma comment_shows : Shows (comment context entry operands) := by
  refine returns_bind fun texts => ends_mapM fun line _ => ?_
  cases line with
  | str t => exact .comment t
  | _ => trivial

lemma assignOperator_shows (word : String) :
    Returns (fun operator => ∃ c ∈ operator, c.isBlank = false) (assignOperator word) := by
  have hall : ∀ word ∈ ["=", "+=", "-=", "*=", "%="],
      (Text.ofString word).all CodePoint.isBlank = false := by decide
  unfold assignOperator
  split_ifs with hword
  · exact Text.visible_of_word word (hall word hword) (List.Subset.refl _)
  · exact Text.visible_of_word "//=" (by decide) (List.Subset.refl _)
  · trivial

@[simp] lemma controlVariables_shows : Shows (controlVariables context entry operands) := by
  refine returns_bind fun word => (assignOperator_shows word).bind fun operator hoperator => ?_
  refine returns_bind fun operand => returns_bind fun value => returns_bind fun ids => ?_
  exact List.forall_mem_map.2 fun id _ => .assign _ _ hoperator

@[simp] lemma controlTimer_shows : Shows (controlTimer context entry operands) := by
  apply returns_bind
  intro operation
  split <;> simp

@[simp] lemma changeGold_shows : Shows (changeGold context entry operands) := by
  refine returns_bind fun decreases => returns_bind fun amount => ?_
  cases decreases with
  | false => exact List.forall_mem_singleton.2 (visible_assign _ _ "+=" (by decide))
  | true => exact List.forall_mem_singleton.2 (visible_assign _ _ "-=" (by decide))

@[simp] lemma changePartyMember_shows : Shows (changePartyMember context entry operands) := by
  refine returns_bind fun actor => returns_bind fun operation => ?_
  split <;> simp

@[simp] lemma setEventLocation_shows : Shows (setEventLocation context entry operands) := by
  refine returns_bind fun moved => returns_bind fun facing => returns_bind fun place => ?_
  obtain ⟨tag, place⟩ := place
  dsimp only
  split <;> simp

@[simp] lemma setMovementRoute_shows : Shows (setMovementRoute context entry operands) := by
  refine returns_bind fun route => returns_bind fun rows => ?_
  split_ifs <;> simp

/-- Every handler writes visible statements only. -/
lemma handler_shows (context : Context) (entry : Entry) (operands : Operands) :
    ∀ pair ∈ handlers, Shows (pair.2 context entry operands) := by
  -- The handlers that are unfolded end in a call or an assignment, whatever comes before.
  simp [handlers, nothing, showText, showScrollingText, plainCall, commonEvent, label,
    controlSwitches, controlSelfSwitch, changeInventory, changeSaveAccess, transferPlayer,
    changeTransparency, characterEffect, changePlayerFollowers, fieldCall, showPicture,
    movePicture, picture, playAudio, getLocationInfo, battleProcessing, nameInputProcessing,
    changeActorValue, changeState, changeSkill, changeEquipment, changeClass, changeActorImages,
    forceAction, script, pluginCommand, pluginCall, isDecrease]

lemma leaf_shows (context : Context) (entry : Entry) :
    Returns (fun fragment => ∀ stmt ∈ fragment.stmts, stmt.Visible) (leaf context entry) := by
  have hunknown : Returns (fun fragment => ∀ stmt ∈ fragment.stmts, stmt.Visible)
      (unknown context entry) := by
    unfold unknown
    split
    · trivial
    · exact List.forall_mem_singleton.2 (.comment _)
  unfold leaf
  split
  · exact hunknown
  · split
    · exact hunknown
    · rename_i handler hhandler
      refine returns_bind fun operands => ?_
      refine (handler_shows context entry operands _ (mem_of_lookup hhandler)).bind ?_
      exact fun stmts hstmts => hstmts

lemma own_shows (context : Context) (entry : Entry) : Shows (own context entry) := by
  cases hrole : entry.role? with
  | none =>
    simp only [own, hrole]
    exact List.forall_mem_singleton.2 (.comment _)
  | some role =>
    by_cases hleaf : role = .leaf
    · simp only [own, hrole, hleaf]
      exact (leaf_shows context entry).bind fun fragment hfragment => hfragment
    · by_cases hchoice : role = .opens .choice
      · simp only [own, hrole, hchoice]
        exact returns_bind fun operands => by simp [showChoices]
      · simp [own_of_role hrole hleaf hchoice]

/-- The statements of well-formed blocks are visible, all the way down. -/
lemma visible_of_blocks {context : Context} {forest : List Block}
    (formed : ∀ b ∈ forest, Block.WellFormed context.variant false b) {fragment : Fragment}
    (h : blocks context forest = .ok fragment) :
    ∀ stmt ∈ plainOf fragment.stmts, stmt.Visible := by
  obtain ⟨pieces, hpieces, hplain⟩ :=
    (renders_blocks (fun b hb => rendered_of_wellFormed (formed b hb)) h).in_order
  have hvisible := (ends_mapM fun entry _ => own_shows context entry).of_ok hpieces
  intro stmt hstmt
  rw [hplain] at hstmt
  obtain ⟨piece, hpiece, hstmt⟩ := List.mem_flatten.1 hstmt
  exact hvisible piece hpiece stmt hstmt

end Decompile

end EventScript
