import EventScript.Proofs.Decompile.ConditionForm
import EventScript.Proofs.Decompile.Layout
import EventScript.Proofs.Decompile.Validity
import EventScript.Proofs.Decompile.ValueForm

/-! The texts of conditions and of assignments determine the operands, as far as scripts show
them. -/
namespace EventScript

open Json.Dialect (Stops stops_nil)

/-- Pieces of text that are not empty can be counted. -/
lemma range_flatMap_inj {α : Type} {piece : Nat → List α} (hpiece : ∀ i, piece i ≠ []) {m n : Nat}
    (h : (List.range m).flatMap piece = (List.range n).flatMap piece) : m = n := by
  wlog hle : m ≤ n generalizing m n
  · exact (this h.symm (by omega)).symm
  obtain ⟨more, rfl⟩ := Nat.exists_eq_add_of_le hle
  rw [List.range_add, List.flatMap_append, List.self_eq_append_right, List.flatMap_eq_nil_iff] at h
  cases more with
  | zero => rfl
  | succ more => exact absurd (h (m + 0) (List.mem_map_of_mem (by simp))) (hpiece _)

namespace Decompile

open Operands

variable {context : Context}

/-! ### Conditions -/

lemma branchCondition_shows (hnames : context.names = {}) {operands : Operands}
    (decoded : Decoded [.tagged "condition" Catalog.conditions] operands) :
    ∃ e condition, branchCondition context operands = .ok e ∧
      operands.essence = [(Text.ofString "condition", condition)] ∧
      Form.Shows Form.conditions condition e.render := by
  obtain ⟨_, ⟨n, tag, slots, asked, hcase, rfl, hasked⟩, rfl⟩ := decoded.single
  obtain ⟨e, he, hshows⟩ := Context.condition_shows hnames hcase hasked
  exact ⟨e, _, he, rfl, hshows⟩

/-- The text of a condition says as much as the essence of the operands. -/
lemma branchCondition_render_iff (hnames : context.names = {}) {a b : Operands}
    (ha : Decoded [.tagged "condition" Catalog.conditions] a)
    (hb : Decoded [.tagged "condition" Catalog.conditions] b) :
    ∃ e f, branchCondition context a = .ok e ∧ branchCondition context b = .ok f ∧
      (e.render = f.render ↔ a.essence = b.essence) := by
  obtain ⟨e, condition, he, hcondition, hshows⟩ := branchCondition_shows hnames ha
  obtain ⟨f, other, hf, hother, hothers⟩ := branchCondition_shows hnames hb
  refine ⟨e, f, he, hf, fun heq => ?_, fun heq => ?_⟩
  · have happend : e.render ++ [] = f.render ++ [] := by rw [heq]
    obtain ⟨rfl, -⟩ := hshows.inj Form.readable_conditions hothers stops_nil stops_nil happend
    rw [hcondition, hother]
  · rw [← branchCondition_essence, heq, branchCondition_essence, hf] at he
    rw [Except.ok.inj he]

/-! ### Operators -/

/-- The words for operations, with the operators that are written. -/
def operators : List (String × Text) :=
  [("=", "="), ("+=", "+="), ("-=", "-="), ("*=", "*="), ("/=", "//="), ("%=", "%=")]

lemma assignOperator_of_mem {word : String}
    (h : word ∈ ["=", "+=", "-=", "*=", "/=", "%="]) :
    ∃ operator, assignOperator word = .ok operator ∧ (word, operator) ∈ operators := by
  simp only [List.mem_cons, List.not_mem_nil, or_false] at h
  rcases h with rfl | rfl | rfl | rfl | rfl | rfl <;> exact ⟨_, rfl, by simp [operators]⟩

/-- Operators differ in their first characters. -/
lemma operator_append_inj {a b : String × Text} {x y : Text} (ha : a ∈ operators)
    (hb : b ∈ operators) (h : a.2 ++ x = b.2 ++ y) : a = b ∧ x = y := by
  have hheads : (operators.map fun operator => operator.2.head?).Nodup := by decide
  have hsome : ∀ operator ∈ operators, operator.2.head?.isSome = true := by decide
  have hhead : a.2.head? = b.2.head? := by
    have hfirst := congrArg List.head? h
    rwa [List.head?_append, List.head?_append, Option.or_of_isSome (hsome a ha),
      Option.or_of_isSome (hsome b hb)] at hfirst
  obtain rfl := List.inj_on_of_nodup_map hheads ha hb hhead
  exact ⟨rfl, List.append_cancel_left h⟩

/-! ### Assignments -/

/-- The text of one assignment to a variable. -/
def assignmentText (operator value : Text) (id : Int) : Text :=
  Category.variables.fallback id ++ Text.ofString " " ++ operator ++ Text.ofString " " ++ value ++
    [CodePoint.newline]

lemma stops_space (t : Text) : Stops (Text.ofString " " ++ t) := by
  intro c hc
  obtain rfl : CodePoint.ofChar ' ' = c := Option.some.inj hc
  decide

lemma stops_newline (t : Text) : Stops (CodePoint.newline :: t) := by
  intro c hc
  obtain rfl : CodePoint.newline = c := Option.some.inj hc
  decide

/-- The first of some assignments can be told from their text. -/
lemma assignmentText_append_inj {style : Style} {a b : String × Text} (ha : a ∈ operators)
    (hb : b ∈ operators) {operand other : Operand} {value otherValue : Text}
    (hoperand : Form.Shows (Form.values style) operand value)
    (hother : Form.Shows (Form.values style) other otherValue) {id otherId : Int} {x y : Text}
    (h : assignmentText a.2 value id ++ x = assignmentText b.2 otherValue otherId ++ y) :
    id = otherId ∧ a = b ∧ operand = other ∧ value = otherValue := by
  simp only [assignmentText, List.append_assoc, List.singleton_append] at h
  rw [Category.fallback_eq_fill, Category.fallback_eq_fill] at h
  have hlegible : Category.variables.template.isLegible = true := by decide +kernel
  obtain ⟨hid, hassigned⟩ := Template.fill_inj hlegible (Category.fits_template _ _)
    (Category.fits_template _ _) (stops_space _) (stops_space _) h
  obtain ⟨rfl, hspaced⟩ := operator_append_inj ha hb (List.append_cancel_left hassigned)
  have hvalue := List.append_cancel_left hspaced
  obtain ⟨rfl, hrest⟩ := hoperand.inj (Form.readable_values style) hother (stops_newline _)
    (stops_newline _) hvalue
  rw [hrest] at hvalue
  exact ⟨by simpa using hid, rfl, rfl, List.append_cancel_right hvalue⟩

/-- So can all of what assignments are made from, the number of variables included. -/
lemma assignmentTexts_inj {style : Style} {a b : String × Text} (ha : a ∈ operators)
    (hb : b ∈ operators) {operand other : Operand} {value otherValue : Text}
    (hoperand : Form.Shows (Form.values style) operand value)
    (hother : Form.Shows (Form.values style) other otherValue) {first otherFirst : Int} {m n : Nat}
    (h : ((List.range (m + 1)).flatMap fun i : Nat => assignmentText a.2 value (first + i)) =
      (List.range (n + 1)).flatMap fun i : Nat => assignmentText b.2 otherValue (otherFirst + i)) :
    first = otherFirst ∧ a = b ∧ operand = other ∧ m = n := by
  have hheads := h
  rw [List.range_succ_eq_map, List.range_succ_eq_map, List.flatMap_cons, List.flatMap_cons]
    at hheads
  obtain ⟨hid, rfl, rfl, rfl⟩ := assignmentText_append_inj ha hb hoperand hother hheads
  obtain rfl : first = otherFirst := by simpa using hid
  refine ⟨rfl, rfl, rfl, Nat.succ.inj (range_flatMap_inj (fun i => ?_) h)⟩
  simp [assignmentText]

/-- The slots of an assignment. -/
def assigned : Layout :=
  [.int "start_id", .int "end_id",
   .member "operation" (Catalog.members ["=", "+=", "-=", "*=", "/=", "%="]),
   .tagged "operand" Catalog.variableOperands]

/-- The text of assignments in a style: one for each variable, in order. -/
lemma render_controlVariables (hnames : context.names = {}) (style : Style) (entry : Entry)
    {operands inner : Operands} (worded : operands.Worded) {first last : Int}
    {word tag : String} {operator : Text} {e : Expr}
    (hfirst : operands.int "start_id" = .ok first) (hlast : operands.int "end_id" = .ok last)
    (hword : operands.member "operation" = .ok word)
    (hoperator : assignOperator word = .ok operator)
    (htagged : operands.tagged "operand" = .ok (tag, inner))
    (he : context.variableOperand tag inner = .ok e) (hle : first ≤ last) :
    ∃ stmts, controlVariables context entry operands = .ok stmts ∧
      Stmt.render style stmts = (List.range (last - first + 1).toNat).flatMap fun i : Nat =>
        assignmentText operator (e.layout style) (first + i) := by
  have hrange : idRange operands =
      .ok ((List.range (last - first + 1).toNat).map fun i : Nat => first + i) := by
    simp [idRange, hfirst, hlast, not_lt.2 hle]
  have hclosed : e.render.Closed := by
    have valid : context.names.Valid := by
      rw [hnames]
      exact fun category id => category.isName_fallback id
    have hworded := (worded.tagged "operand").of_ok htagged
    exact ((Context.variableOperand_proper valid hworded tag).of_ok he).phrase.closed
  have hvisible := (assignOperator_shows word).of_ok hoperator
  refine ⟨((List.range (last - first + 1).toNat).map fun i : Nat => first + i).map fun id =>
    .assign (context.variableNamed id) e operator, ?_, ?_⟩
  · simp only [controlVariables, hword, hoperator, htagged, he, hrange, ok_bind, pure_eq_ok]
  · rw [Stmt.render_assignments style _ context.variableNamed hvisible hclosed, List.flatMap_map]
    simp only [assignmentText, Context.variableNamed, Context.render_named hnames]

/-- What assignments are made from, and their text. -/
lemma controlVariables_text (hnames : context.names = {}) (style : Style) {operands : Operands}
    (worded : operands.Worded) (decoded : Decoded assigned operands) :
    ∃ first last, ∃ operator ∈ operators, ∃ operand value,
      operands.essence = [(Text.ofString "start_id", .value (.int first)),
        (Text.ofString "end_id", .value (.int last)),
        (Text.ofString "operation", .member (Text.ofString operator.1)),
        (Text.ofString "operand", operand)] ∧
      operands.int "start_id" = .ok first ∧ operands.int "end_id" = .ok last ∧
      Form.Shows (Form.values style) operand value ∧
      (first ≤ last → ∀ entry, ∃ stmts, controlVariables context entry operands = .ok stmts ∧
        Stmt.render style stmts = (List.range (last - first + 1).toNat).flatMap fun i : Nat =>
          assignmentText operator.2 value (first + i)) := by
  obtain ⟨_, hfirst, decoded⟩ := decoded.continues.next
  obtain ⟨first, rfl⟩ := Slot.gives_int hfirst
  obtain ⟨_, hlast, decoded⟩ := decoded.next
  obtain ⟨last, rfl⟩ := Slot.gives_int hlast
  obtain ⟨_, hword, decoded⟩ := decoded.next
  obtain ⟨word, hmem, rfl⟩ := Slot.gives_member hword
  obtain ⟨_, ⟨n, tag, slots, inner, hcase, rfl, hinner⟩, decoded⟩ := decoded.next
  obtain rfl := decoded.nil
  obtain ⟨operator, hoperator, hpair⟩ := assignOperator_of_mem hmem
  obtain ⟨e, he, hshows⟩ := Context.variableOperand_shows hnames hcase hinner
  refine ⟨first, last, (word, operator), hpair, .tagged tag n (essence inner), e.layout style, rfl,
    rfl, rfl, hshows, fun hle entry => ?_⟩
  exact render_controlVariables hnames style entry worded rfl rfl
    (congrArg Except.ok (Text.toString_ofString word)) hoperator rfl he hle

/-- Variables are counted upwards. -/
def CountsUp (operands : Operands) : Prop :=
  ∃ first last, operands.int "start_id" = .ok first ∧ operands.int "end_id" = .ok last ∧
    first ≤ last

/-- The text of assignments says as much as the essence of the operands. -/
lemma controlVariables_render_iff (hnames : context.names = {}) (style : Style) (entry : Entry)
    {a b : Operands} (haworded : a.Worded) (hbworded : b.Worded) (ha : Decoded assigned a)
    (hb : Decoded assigned b) (haorder : CountsUp a) (hborder : CountsUp b) :
    ∃ stmts others, controlVariables context entry a = .ok stmts ∧
      controlVariables context entry b = .ok others ∧
      (Stmt.render style stmts = Stmt.render style others ↔ a.essence = b.essence) := by
  obtain ⟨first, last, operator, hoperator, operand, value, hessence, hfirst, hlast, hshows,
    htext⟩ := controlVariables_text hnames style haworded ha
  obtain ⟨first', last', operator', hoperator', operand', value', hessence', hfirst', hlast',
    hshows', htext'⟩ := controlVariables_text hnames style hbworded hb
  obtain ⟨_, _, hstart, hend, hle⟩ := haorder
  obtain rfl := Except.ok.inj (hfirst.symm.trans hstart)
  obtain rfl := Except.ok.inj (hlast.symm.trans hend)
  obtain ⟨_, _, hstart', hend', hle'⟩ := hborder
  obtain rfl := Except.ok.inj (hfirst'.symm.trans hstart')
  obtain rfl := Except.ok.inj (hlast'.symm.trans hend')
  obtain ⟨stmts, hstmts, htext⟩ := htext hle entry
  obtain ⟨others, hothers, htext'⟩ := htext' hle' entry
  refine ⟨stmts, others, hstmts, hothers, fun heq => ?_, fun heq => ?_⟩
  · have hcount : (last - first + 1).toNat = (last - first).toNat + 1 := by omega
    have hcount' : (last' - first' + 1).toNat = (last' - first').toNat + 1 := by omega
    rw [htext, htext', hcount, hcount'] at heq
    obtain ⟨rfl, rfl, rfl, hlength⟩ := assignmentTexts_inj hoperator hoperator' hshows hshows' heq
    obtain rfl : last = last' := by omega
    rw [hessence, hessence']
  · rw [← controlVariables_essence, heq, controlVariables_essence, hothers] at hstmts
    rw [Except.ok.inj hstmts]

/-! ### Commands -/

/-- Conditions and assignments can be told from their texts, without names and in every style: what
two commands say is the same exactly if what they are given differs only in slots that are not used
and in negative characters. -/
theorem texts_determine_operands (hnames : context.names = {}) (style : Style) :
    ∃ branch assignment, Catalog.lookup context.variant 111 = some branch ∧
      Catalog.lookup context.variant 122 = some assignment ∧
      (∀ p q a b, decode branch.layout p = .ok a → decode branch.layout q = .ok b →
        ∃ e f, branchCondition context a = .ok e ∧ branchCondition context b = .ok f ∧
          (e.render = f.render ↔ a.essence = b.essence)) ∧
      ∀ p q a b entry, decode assignment.layout p = .ok a → decode assignment.layout q = .ok b →
        CountsUp a → CountsUp b →
        ∃ stmts others, controlVariables context entry a = .ok stmts ∧
          controlVariables context entry b = .ok others ∧
          (Stmt.render style stmts = Stmt.render style others ↔ a.essence = b.essence) := by
  obtain ⟨branch, hbranch, hcondition⟩ : ∃ kind, Catalog.lookup context.variant 111 = some kind ∧
      kind.layout = [.tagged "condition" Catalog.conditions] := by
    cases context.variant <;> exact ⟨_, rfl, rfl⟩
  obtain ⟨assignment, hassignment, hassigned⟩ :
      ∃ kind, Catalog.lookup context.variant 122 = some kind ∧ kind.layout = assigned := by
    cases context.variant <;> exact ⟨_, rfl, rfl⟩
  refine ⟨branch, assignment, hbranch, hassignment, ?_, ?_⟩
  · intro p q a b ha hb
    exact branchCondition_render_iff hnames (hcondition ▸ decoded_of_decode ha)
      (hcondition ▸ decoded_of_decode hb)
  · intro p q a b entry ha hb
    have hworded := worded_of_decode (Catalog.mem_of_lookup hassignment)
    exact controlVariables_render_iff hnames style entry ((hworded p).of_ok ha)
      ((hworded q).of_ok hb) (hassigned ▸ decoded_of_decode ha) (hassigned ▸ decoded_of_decode hb)

/-- The characters -1 and -2 are both the player, and the texts of assigning 5 and of assigning the
variable 5 differ. -/
theorem texts_determine_operands_player :
    (∃ a b e f,
      decode [.tagged "condition" Catalog.conditions] [.int 6, .int (-1), .int 2] = .ok a ∧
      decode [.tagged "condition" Catalog.conditions] [.int 6, .int (-2), .int 2] = .ok b ∧
      a ≠ b ∧ branchCondition ⟨.mv, {}, .placeholder⟩ a = .ok e ∧
      branchCondition ⟨.mv, {}, .placeholder⟩ b = .ok f ∧ e.render = f.render) ∧
    ∀ entry, ∃ a b stmts others,
      decode assigned [.int 1, .int 3, .int 0, .int 0, .int 5] = .ok a ∧
      decode assigned [.int 1, .int 3, .int 0, .int 1, .int 5] = .ok b ∧
      controlVariables ⟨.mv, {}, .placeholder⟩ entry a = .ok stmts ∧
      controlVariables ⟨.mv, {}, .placeholder⟩ entry b = .ok others ∧
      Stmt.render {} stmts ≠ Stmt.render {} others := by
  obtain ⟨branch, assignment, hbranch, hassignment, hconditions, hassignments⟩ :=
    @texts_determine_operands ⟨.mv, {}, .placeholder⟩ rfl {}
  obtain rfl := Option.some.inj hbranch
  obtain rfl := Option.some.inj hassignment
  refine ⟨?_, fun entry => ?_⟩
  · obtain ⟨e, f, he, hf, hiff⟩ := hconditions [.int 6, .int (-1), .int 2]
      [.int 6, .int (-2), .int 2] _ _ rfl rfl
    exact ⟨_, _, e, f, rfl, rfl, nofun, he, hf, hiff.2 rfl⟩
  · obtain ⟨stmts, others, hstmts, hothers, hiff⟩ := hassignments
      [.int 1, .int 3, .int 0, .int 0, .int 5] [.int 1, .int 3, .int 0, .int 1, .int 5] _ _ entry
      rfl rfl ⟨1, 3, rfl, rfl, by decide⟩ ⟨1, 3, rfl, rfl, by decide⟩
    refine ⟨_, _, stmts, others, rfl, rfl, hstmts, hothers, fun heq => ?_⟩
    have htag := congrArg (fun operands => ((tagged operands "operand").map Prod.fst).toOption)
      (hiff.1 heq)
    have hdiffer : some "constant" = some "variable" := htag
    simp at hdiffer

end Decompile

end EventScript
