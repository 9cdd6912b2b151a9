import EventScript.Proofs.Script.Phrase
import EventScript.Proofs.Script.Suite

/-! Statements that are written as a suite: their steps ask for fit lines only, and these lines follow
the grammar of suites. -/
namespace EventScript

open Text

/-! Depths. -/

namespace Writer

lemma depth_of_step {w next : Writer} {step : Step} (h : w.step step = .ok next) :
    next.depth = step.depthAfter w.depth := by
  cases step with
  | line text => simp [← Except.ok.inj h, Step.depthAfter]
  | comment text => simp [← Except.ok.inj h, Step.depthAfter]
  | call head arguments => simp [← Except.ok.inj h, Step.depthAfter]
  | indent => simp [← Except.ok.inj h, Step.depthAfter, indent]
  | dedent =>
    rw [Writer.step, dedent] at h
    split_ifs at h
    simp [← Except.ok.inj h, Step.depthAfter]

lemma depth_of_foldlM {steps : List Step} {w next : Writer}
    (h : steps.foldlM Writer.step w = .ok next) : next.depth = depthAfter w.depth steps := by
  induction steps generalizing w with
  | nil => simp [← Except.ok.inj h, depthAfter]
  | cons step steps ih =>
    rw [List.foldlM_cons] at h
    obtain ⟨middle, hstep, hrest⟩ := bind_eq_ok.1 h
    rw [ih hrest, depth_of_step hstep]
    rfl

lemma Balanced.depthAfter_eq {steps : List Step} (h : Balanced steps) (depth : Nat) :
    depthAfter depth steps = depth := by
  obtain ⟨next, hrun, hdepth⟩ := h { depth }
  rw [← depth_of_foldlM hrun, hdepth]

end Writer

/-! Fit lines. -/

namespace Line

/-- A phrase is what a fit line holds. -/
lemma fit_of_phrase {depth : Nat} {content : Text} (h : Phrase content) : Fit ⟨depth, content⟩ :=
  ⟨h.printable, h.starts⟩

lemma Fit.append {depth : Nat} {content rest : Text} (h : Fit ⟨depth, content⟩)
    (hrest : Printable rest) : Fit ⟨depth, content ++ rest⟩ := by
  obtain ⟨hprintable, c, hc, hblank⟩ := h
  refine ⟨(printable_append content rest).2 ⟨hprintable, hrest⟩, c, ?_, hblank⟩
  simp [List.head?_append, Option.mem_def.1 hc]

/-- A line may start with a word that scripts are made of. -/
lemma fit_start {depth : Nat} {rest : Text} (word : String)
    (h : word ∈ ["#", "# ", ")", "pass", "break", "while True:", "if ", "elif ", "else:"])
    (hrest : Printable rest) : Fit ⟨depth, word ++ rest⟩ := by
  have hwords : ∀ s ∈ ["#", "# ", ")", "pass", "break", "while True:", "if ", "elif ", "else:"],
      isPlain s = true ∧ ∃ c ∈ (ofString s).head?, c.isBlank = false := by
    decide +kernel
  obtain ⟨hplain, hstarts⟩ := hwords word h
  exact Fit.append ⟨printable_ofString hplain, hstarts⟩ hrest

lemma fit_word {depth : Nat} (word : String)
    (h : word ∈ ["#", "# ", ")", "pass", "break", "while True:", "if ", "elif ", "else:"]) :
    Fit ⟨depth, word⟩ := by
  simpa using fit_start word h printable_nil

end Line

namespace Writer.Step

lemma fit_line {text : Text} (h : ∀ depth, Line.Fit ⟨depth, text⟩) : Fit (.line text) := by
  intro style depth
  rw [lines, List.forall_mem_singleton]
  exact h depth

lemma fit_comment (text : Text) : Fit (.comment text) := by
  intro style depth
  rw [lines, List.forall_mem_singleton]
  split_ifs
  · exact Line.fit_word "#" (by simp)
  · exact Line.fit_start "# " (by simp) (printable_escapeComment text)

lemma fit_indent : Fit .indent := by simp [Fit, lines]

lemma fit_dedent : Fit .dedent := by simp [Fit, lines]

/-- A step that writes one simple statement. -/
def Simple : Step → Prop
  | .line text => text.Headed ∧ Ending text
  | .call head arguments => head.Headed ∧ Printable head ∧ ∀ argument ∈ arguments, Phrase argument
  | _ => False

lemma headed_callText {head : Text} (hhead : head.Headed) (arguments : List Text) :
    (callText head arguments).Headed := by
  rw [callText, List.append_assoc, List.append_assoc]
  exact hhead.mark "(" (by simp [marks]) _

lemma ending_callText {head : Text} {arguments : List Text} (hhead : Printable head)
    (harguments : ∀ argument ∈ arguments, Phrase argument) : Ending (callText head arguments) := by
  refine ending_bracket (by simp) ?_
  simp only [printable_append]
  exact ⟨⟨hhead, printable_ofString (by decide)⟩,
    printable_items fun argument hmem => (harguments argument hmem).printable⟩

lemma Simple.fit {step : Step} (h : step.Simple) : step.Fit := by
  cases step with
  | line text => exact fit_line fun _ => Line.fit_of_phrase (h.1.phrase h.2)
  | call head arguments =>
    obtain ⟨hhead, hprintable, harguments⟩ := h
    intro style depth
    rw [lines]
    split_ifs
    · rw [List.forall_mem_singleton]
      exact Line.fit_of_phrase ((headed_callText hhead arguments).phrase
        (ending_callText hprintable harguments))
    · rw [List.cons_append, List.forall_mem_cons, List.forall_mem_append, List.forall_mem_map,
        List.forall_mem_singleton]
      refine ⟨Line.Fit.append ⟨hprintable, hhead.starts⟩ (printable_ofString (by decide)), ?_, ?_⟩
      · intro argument hmem
        exact (Line.fit_of_phrase (harguments argument hmem)).append
          (printable_ofString (by decide))
      · exact Line.fit_word ")" (by simp)
  | comment text => cases h
  | indent => cases h
  | dedent => cases h

/-- A simple statement in front of a suite. -/
lemma Simple.suite {step : Step} (h : step.Simple) (style : Style) {inLoop chained executes : Bool}
    {depth : Nat} {rest : List Line} (hrest : Suite inLoop false depth executes rest) :
    Suite inLoop chained depth true (step.lines style depth ++ rest) := by
  cases step with
  | line text => exact .simple h.1 h.2.closed hrest
  | call head arguments =>
    obtain ⟨hhead, hprintable, harguments⟩ := h
    rw [lines]
    split_ifs with hshort
    · exact .simple (headed_callText hhead arguments)
        (ending_callText hprintable harguments).closed hrest
    · rw [List.append_assoc]
      refine .call hhead ?_ (fun argument hmem => (harguments argument hmem).word) hrest
      exact Nat.le_of_not_lt fun hlt => hshort (.inl hlt)
  | comment text => cases h
  | indent => cases h
  | dedent => cases h

end Writer.Step

namespace Stmt

open Writer

/-- A statement that opens no block: a comment, a call of a name, or an assignment to one. -/
inductive Proper : Stmt → Prop
  | comment (text : Text) : Proper (.comment text)
  | call {callee : Expr} {args : List Expr} {keywords : List (Text × Expr)}
      (hcall : (Expr.call callee args keywords).Proper) (hheaded : callee.render.Headed) :
      Proper (.expr (.call callee args keywords))
  | assign {target value : Expr} {operator : Text} (htarget : target.Proper)
      (hheaded : target.render.Headed) (hoperator : Printable operator) (hvalue : value.Proper) :
      Proper (.assign target value operator)

/-- Clauses in the order of a chain: each but the last stands under a condition, and only the last
one of several may stand under none. -/
def Linked : (first : Bool) → List Clause → Prop
  | first, [] => first = false
  | first, .mk none _ note :: rest => first = false ∧ note = none ∧ rest = []
  | _, .mk (some condition) _ _ :: rest => condition.Proper ∧ Linked false rest

/-- A statement that can be written; the flag says whether a loop is around it. -/
inductive Valid : (inLoop : Bool) → Stmt → Prop
  | simple {inLoop : Bool} {stmt : Stmt} (hstmt : stmt.Proper) : Valid inLoop stmt
  | leave : Valid true .breakLoop
  | loop {inLoop : Bool} {body : List Stmt} (hbody : ∀ stmt ∈ body, Valid true stmt) :
      Valid inLoop (.whileLoop (.literal (.bool true)) body)
  | chain {inLoop : Bool} {clauses : List Clause} (hlinked : Linked true clauses)
      (hbodies : ∀ condition body note, Clause.mk condition body note ∈ clauses →
        ∀ stmt ∈ body, Valid inLoop stmt) :
      Valid inLoop (.ifChain clauses)

lemma simple_call {head : Text} {callee : Expr} {args : List Expr}
    {keywords : List (Text × Expr)} (hcall : (Expr.call callee args keywords).Proper)
    (hheaded : (head ++ callee.render).Headed) (hhead : Printable head) :
    Step.Simple (.call (head ++ callee.render) (Expr.arguments args keywords)) := by
  cases hcall with
  | call hcallee hargs hkeys hvalues =>
    refine ⟨hheaded, (printable_append _ _).2 ⟨hhead, hcallee.phrase.printable⟩, ?_⟩
    exact Expr.phrase_arguments (fun e hmem => (hargs e hmem).phrase) hkeys
      fun keyword hmem => (hvalues keyword hmem).phrase

/-- A statement that opens no block is a comment or one simple step. -/
lemma Proper.steps_eq {stmt : Stmt} (h : stmt.Proper) :
    (∃ text, stmt = .comment text) ∨
      ∃ step, stmt.steps = [step] ∧ step.Simple ∧ stmt.hasCode = true := by
  cases h with
  | comment text => exact .inl ⟨text, rfl⟩
  | call hcall hheaded => exact .inr ⟨_, rfl, simple_call hcall hheaded printable_nil, rfl⟩
  | @assign target value operator htarget hheaded hoperator hvalue =>
    have hhead : Printable (target.render ++ " " ++ operator ++ " ") := by
      simp only [printable_append]
      exact ⟨⟨⟨htarget.phrase.printable, printable_ofString (by decide)⟩, hoperator⟩,
        printable_ofString (by decide)⟩
    have hheaded (rest : Text) : (target.render ++ " " ++ operator ++ " " ++ rest).Headed := by
      rw [List.append_assoc, List.append_assoc, List.append_assoc]
      exact hheaded.mark " " (by simp [marks]) _
    refine .inr ⟨_, rfl, ?_, rfl⟩
    unfold exprStep
    split
    · exact simple_call hvalue (hheaded _) hhead
    · exact ⟨hheaded _, hvalue.phrase.toEnding.append hhead⟩

/-! The lines are fit. -/

lemma fit_stepsOf {body : List Stmt} (h : ∀ stmt ∈ body, ∀ step ∈ stmt.steps, step.Fit) :
    ∀ step ∈ stepsOf body, step.Fit := by
  induction body with
  | nil => simp [stepsOf]
  | cons stmt body ih =>
    rw [List.forall_mem_cons] at h
    rw [stepsOf, List.forall_mem_append]
    exact ⟨h.1, ih h.2⟩

lemma fit_suite {body : List Stmt} (h : ∀ stmt ∈ body, ∀ step ∈ stmt.steps, step.Fit) :
    ∀ step ∈ suite body (stepsOf body), step.Fit := by
  have hpass : Step.Fit (.line "pass") :=
    Step.fit_line fun _ => Line.fit_word "pass" (by simp)
  rw [suite, List.forall_mem_append, List.cons_append, List.forall_mem_cons, List.forall_mem_append,
    List.forall_mem_singleton]
  refine ⟨⟨Step.fit_indent, fit_stepsOf h, ?_⟩, Step.fit_dedent⟩
  split_ifs
  · simp
  · simpa using hpass

/-- What stands behind the colon of a header. -/
def noteText : Option Text → Text
  | none => []
  | some [] => []
  | some text => "  # " ++ text.escapeComment

lemma noteText_eq (note : Option Text) :
    noteText note = [] ∨ ∃ text, noteText note = "  # " ++ text := by
  fun_cases noteText note
  · exact .inl rfl
  · exact .inl rfl
  · exact .inr ⟨_, rfl⟩

lemma printable_noteText (note : Option Text) : Printable (noteText note) := by
  fun_cases noteText note
  · exact printable_nil
  · exact printable_nil
  · rw [printable_append]
    exact ⟨printable_ofString (by decide), printable_escapeComment _⟩

lemma clauseHeader_some (first : Bool) (condition : Expr) (note : Option Text) :
    clauseHeader first (some condition) note =
      (if first then ofString "if " else ofString "elif ") ++
        (condition.render ++ (":" ++ noteText note)) := by
  cases first <;> fun_cases noteText note <;>
    simp only [clauseHeader, List.append_assoc, List.append_nil]

lemma fit_clauseHeader {first : Bool} {condition : Expr} (h : condition.Proper)
    (note : Option Text) : Step.Fit (.line (clauseHeader first (some condition) note)) := by
  have hrest : Printable (condition.render ++ (":" ++ noteText note)) := by
    simp only [printable_append]
    exact ⟨h.phrase.printable, printable_ofString (by decide), printable_noteText note⟩
  refine Step.fit_line fun _ => ?_
  rw [clauseHeader_some]
  split_ifs
  · exact Line.fit_start "if " (by simp) hrest
  · exact Line.fit_start "elif " (by simp) hrest

lemma fit_clauseSteps {clauses : List Clause} {first : Bool} (hlinked : Linked first clauses)
    (h : ∀ condition body note, Clause.mk condition body note ∈ clauses →
      ∀ stmt ∈ body, ∀ step ∈ stmt.steps, step.Fit) :
    ∀ step ∈ clauseSteps clauses first, step.Fit := by
  induction clauses generalizing first with
  | nil => simp [clauseSteps]
  | cons clause clauses ih =>
    obtain ⟨condition, body, note⟩ := clause
    have hbody := fit_suite (h condition body note (by simp))
    have hmore := fun condition body note hmem => h condition body note (List.mem_cons_of_mem _ hmem)
    rw [clauseSteps, List.forall_mem_append, List.forall_mem_cons]
    cases condition with
    | none =>
      obtain ⟨rfl, rfl, rfl⟩ := hlinked
      exact ⟨⟨Step.fit_line fun _ => Line.fit_word "else:" (by simp), hbody⟩, by simp [clauseSteps]⟩
    | some condition =>
      exact ⟨⟨fit_clauseHeader hlinked.1 note, hbody⟩, ih hlinked.2 hmore⟩

/-- A valid statement asks for fit lines only. -/
theorem Valid.fit {inLoop : Bool} {stmt : Stmt} (h : Valid inLoop stmt) :
    ∀ step ∈ stmt.steps, step.Fit := by
  induction h with
  | simple hstmt =>
    rcases hstmt.steps_eq with ⟨text, rfl⟩ | ⟨step, hsteps, hsimple, -⟩
    · rw [steps, List.forall_mem_singleton]
      exact Step.fit_comment text
    · rw [hsteps, List.forall_mem_singleton]
      exact hsimple.fit
  | leave =>
    rw [steps, List.forall_mem_singleton]
    exact Step.fit_line fun _ => Line.fit_word "break" (by simp)
  | loop _ ih =>
    rw [steps, List.forall_mem_cons]
    exact ⟨Step.fit_line fun _ => Line.fit_word "while True:" (by simp), fit_suite ih⟩
  | chain hlinked _ ih =>
    rw [steps]
    exact fit_clauseSteps hlinked ih

/-! The lines are a suite. -/

/-- Written in front of a suite, the statement makes it a longer one. -/
def Extends (style : Style) (inLoop : Bool) (stmt : Stmt) : Prop :=
  ∀ {chained executes : Bool} {depth : Nat} {rest : List Line},
    Suite inLoop false depth executes rest →
    Suite inLoop chained depth (stmt.hasCode || executes) (asked style depth stmt.steps ++ rest)

variable {style : Style} {inLoop : Bool}

lemma suite_stepsOf {body : List Stmt} (h : ∀ stmt ∈ body, Extends style inLoop stmt)
    {executes : Bool} {depth : Nat} {rest : List Line}
    (hrest : Suite inLoop false depth executes rest) :
    Suite inLoop false depth (anyCode body || executes)
      (asked style depth (stepsOf body) ++ rest) := by
  induction body with
  | nil => simpa [anyCode, stepsOf, asked] using hrest
  | cons stmt body ih =>
    rw [List.forall_mem_cons] at h
    rw [stepsOf, asked_append, (balanced_steps stmt).depthAfter_eq, anyCode, Bool.or_assoc,
      List.append_assoc]
    exact h.1 (ih h.2)

lemma asked_suite (style : Style) (depth : Nat) (body : List Stmt) :
    asked style depth (suite body (stepsOf body)) =
      asked style (depth + 1) (stepsOf body) ++
        if anyCode body then [] else [⟨depth + 1, "pass"⟩] := by
  have hdepth := (balanced_stepsOf body).depthAfter_eq (depth + 1)
  rw [suite, List.append_assoc, List.cons_append, asked, Step.lines, List.nil_append,
    Step.depthAfter, asked_append, hdepth]
  split_ifs <;> rfl

/-- Under a header there is a suite that executes something. -/
lemma suite_body {body : List Stmt} (h : ∀ stmt ∈ body, Extends style inLoop stmt) (depth : Nat) :
    Suite inLoop false (depth + 1) true (asked style depth (suite body (stepsOf body))) := by
  rw [asked_suite]
  split_ifs with hcode
  · simpa [hcode] using suite_stepsOf h .nil
  · simpa using suite_stepsOf h (.pass .nil)

lemma opensClause_clauseHeader (first : Bool) {condition : Expr} (h : condition.Proper)
    (note : Option Text) :
    OpensClause (if first then ("if" : Text) else "elif")
      (clauseHeader first (some condition) note) := by
  have hne : condition.render ≠ [] := by
    obtain ⟨c, hc, -⟩ := h.phrase.starts
    rintro hnil
    rw [hnil] at hc
    cases hc
  refine ⟨condition.render, noteText note, hne, ?_, noteText_eq note⟩
  rw [clauseHeader_some, List.append_assoc, List.append_assoc, List.append_assoc]
  cases first <;> rfl

lemma asked_clauseSteps (style : Style) (depth : Nat) (condition : Option Expr) (body : List Stmt)
    (note : Option Text) (clauses : List Clause) (first : Bool) :
    asked style depth (clauseSteps (.mk condition body note :: clauses) first) =
      ⟨depth, clauseHeader first condition note⟩ ::
        asked style depth (suite body (stepsOf body)) ++
        asked style depth (clauseSteps clauses false) := by
  have hdepth := (balanced_suite body (balanced_stepsOf body)).depthAfter_eq depth
  simp only [clauseSteps, List.cons_append, asked, Step.depthAfter, asked_append, hdepth]
  rfl

lemma suite_clauseSteps {clauses : List Clause} {first chained : Bool}
    (hlinked : Linked first clauses) (hchained : first = false → chained = true)
    (h : ∀ condition body note, Clause.mk condition body note ∈ clauses →
      ∀ stmt ∈ body, Extends style inLoop stmt)
    {executes : Bool} {depth : Nat} {rest : List Line}
    (hrest : Suite inLoop false depth executes rest) :
    Suite inLoop chained depth (!clauses.isEmpty || executes)
      (asked style depth (clauseSteps clauses first) ++ rest) := by
  induction clauses generalizing first chained with
  | nil => exact hrest.chain
  | cons clause clauses ih =>
    obtain ⟨condition, body, note⟩ := clause
    have hbody := suite_body (h condition body note (by simp)) depth
    have hmore := fun condition body note hmem => h condition body note (List.mem_cons_of_mem _ hmem)
    rw [asked_clauseSteps, List.append_assoc]
    cases condition with
    | none =>
      obtain ⟨rfl, rfl, rfl⟩ := hlinked
      obtain rfl := hchained rfl
      exact .elseClause hbody hrest
    | some condition =>
      have hopens := opensClause_clauseHeader first hlinked.1 note
      have hclauses : Suite inLoop true depth (!clauses.isEmpty || executes)
          (asked style depth (clauseSteps clauses false) ++ rest) :=
        ih hlinked.2 (fun _ => rfl) hmore
      cases first with
      | true => exact .ifClause hopens hbody hclauses
      | false =>
        obtain rfl := hchained rfl
        exact .elifClause hopens hbody hclauses

/-- Valid statements make a suite. -/
theorem Valid.extends {stmt : Stmt} (h : Valid inLoop stmt) : Extends style inLoop stmt := by
  intro chained executes depth rest hrest
  induction h generalizing chained executes depth rest with
  | simple hstmt =>
    rcases hstmt.steps_eq with ⟨text, rfl⟩ | ⟨step, hsteps, hsimple, hcode⟩
    · refine .comment ?_ hrest
      split_ifs <;> rfl
    · rw [hsteps, hcode, Bool.true_or, asked, asked, List.append_nil]
      exact hsimple.suite style hrest
  | leave => exact .breakLoop hrest
  | @loop _ body _ ih =>
    have hbody : Suite true false (depth + 1) true
        (asked style depth (suite body (stepsOf body))) :=
      suite_body (fun stmt hmem => ih stmt hmem) depth
    exact .whileLoop hbody hrest
  | @chain _ clauses hlinked _ ih =>
    have hsuite : Suite _ chained depth (!clauses.isEmpty || executes)
        (asked style depth (clauseSteps clauses true) ++ rest) :=
      suite_clauseSteps hlinked (by simp)
        (fun condition body note hclause stmt hmem => ih condition body note hclause stmt hmem) hrest
    cases clauses with
    | nil => cases hlinked
    | cons clause clauses => exact hsuite

end Stmt

end EventScript
