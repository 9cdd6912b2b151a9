import EventScript.Proofs.Decompile.Assembly
import EventScript.Proofs.Decompile.Wording

/-! The statements of well-formed blocks are valid. -/
namespace EventScript

namespace Decompile

open Block Operands Stmt Text

variable {context : Context} {entry : Entry}

lemma worded_of_decode {kind : CommandKind} (hmem : kind ∈ Catalog.kinds context.variant)
    (parameters : List Json) : Returns Worded (decode kind.layout parameters) :=
  (returns_true _).strengthen fun _ h => ⟨_, Catalog.worded hmem, decoded_of_decode h⟩

/-! Commands that open no block. -/

lemma unknown_valid (inLoop : Bool) :
    Returns (fun fragment => ∀ stmt ∈ fragment.stmts, stmt.Valid inLoop)
      (unknown context entry) := by
  unfold unknown
  split
  · trivial
  · exact List.forall_mem_singleton.2 (.simple (.comment _))

lemma code_of_break {variant : Variant} {kind : CommandKind} (h : kind ∈ Catalog.kinds variant)
    (hname : kind.name = "BREAK_LOOP") : kind.code = Nest.breakCode := by
  have hall : (Catalog.kinds variant).all (fun kind =>
      kind.name != "BREAK_LOOP" || kind.code == Nest.breakCode) = true := by
    cases variant <;> decide +kernel
  simpa [hname] using List.all_eq_true.1 hall kind h

lemma leaf_valid (valid : context.names.Valid) {inLoop : Bool} (lead : entry.Lead context.variant)
    (breaks : entry.row.code = Nest.breakCode → inLoop = true) :
    Returns (fun fragment => ∀ stmt ∈ fragment.stmts, stmt.Valid inLoop) (leaf context entry) := by
  unfold leaf
  split
  · exact unknown_valid inLoop
  · rename_i kind hkind
    have hlookup := lead.kind_eq ▸ hkind
    have hmem := Catalog.mem_of_lookup hlookup
    split
    · exact unknown_valid inLoop
    · rename_i handler hhandler
      refine (worded_of_decode hmem _).bind fun operands worded => ?_
      by_cases hname : kind.name = "BREAK_LOOP"
      · have hcode : entry.row.code = Nest.breakCode :=
          (Catalog.code_of_lookup hlookup).symm.trans (code_of_break hmem hname)
        obtain rfl := breaks hcode
        obtain rfl : (fun _ _ _ => .ok [.breakLoop]) = handler := by
          simpa [hname, handler?, handlers, List.lookup] using hhandler
        exact List.forall_mem_singleton.2 .leave
      · refine (phrases_of_mem _ (mem_of_lookup hhandler) hname context entry operands valid
          worded).bind fun stmts hstmts => ?_
        exact fun stmt hmem => .simple (hstmts stmt hmem)

/-! Headings. -/

lemma operandsOf_worded (lead : entry.Lead context.variant) : Returns Worded (operandsOf entry) := by
  unfold operandsOf
  split
  · rename_i kind hkind
    exact worded_of_decode (Catalog.mem_of_lookup (lead.kind_eq ▸ hkind)) _
  · trivial

lemma branchCondition_proper (valid : context.names.Valid) {operands : Operands}
    (worded : operands.Worded) : Returns Expr.Proper (branchCondition context operands) :=
  (worded.tagged "condition").bind fun ⟨tag, _⟩ hasked =>
    Context.condition_proper valid hasked tag

lemma showChoices_proper (operands : Operands) : WritesProper (showChoices operands) := by
  simp [showChoices]

lemma choiceHeading_proper (marker : Entry) :
    Returns (fun heading => heading.condition.Proper) (choiceHeading marker) := by
  have hasked {index : Expr} (h : index.Proper) :
      (Expr.binary (invoke "get_choice_index" []) "==" index).Proper :=
    proper_binary (proper_invoke (by simp) words_nil) (by decide) h
  unfold choiceHeading
  split
  · trivial
  · refine returns_bind fun operands => ?_
    split
    · exact returns_bind fun index => returns_bind fun name => hasked (proper_literal index)
    · exact hasked (proper_number _)

lemma battleHeading_proper (marker : Entry) :
    Returns (fun heading => heading.condition.Proper) (battleHeading marker) := by
  unfold battleHeading
  split
  · trivial
  · split <;> exact proper_invoke (by simp) words_nil

/-! Blocks. -/

lemma blocks_valid {inLoop : Bool} {list : List Block}
    (h : ∀ b ∈ list, ∀ fragment, block context b = .ok fragment →
      ∀ stmt ∈ fragment.stmts, stmt.Valid inLoop)
    {fragment : Fragment} (hfragment : blocks context list = .ok fragment) :
    ∀ stmt ∈ fragment.stmts, stmt.Valid inLoop := by
  induction list generalizing fragment with
  | nil =>
    obtain rfl := Except.ok.inj hfragment
    exact nofun
  | cons b list ih =>
    rw [blocks] at hfragment
    obtain ⟨first, hfirst, hfragment⟩ := bind_eq_ok.1 hfragment
    obtain ⟨more, hmore, hfragment⟩ := bind_eq_ok.1 hfragment
    obtain rfl := Except.ok.inj hfragment
    refine List.forall_mem_append.2 ⟨h b (by simp) first hfirst, ?_⟩
    exact ih (fun b hb => h b (by simp [hb])) hmore

/-- A section under a proper condition. -/
def Filled.Headed (filled : Filled) : Prop :=
  ∃ heading, filled.heading = some heading ∧ heading.condition.Proper

lemma headed_of_fills {heading : Entry → Except Fault Heading} {branches : List Branch}
    {sections : List Filled}
    (h : List.Forall₂ (Fills context fun marker => (heading marker).map some) branches sections)
    (hheading : ∀ marker, Returns (fun heading => heading.condition.Proper) (heading marker)) :
    ∀ filled ∈ sections, filled.Headed := by
  intro filled hmem
  obtain ⟨branch, -, hfills, -⟩ := exists_branch h hmem
  have hproper := hheading branch.marker
  change (heading branch.marker).map some = .ok filled.heading at hfills
  cases htop : heading branch.marker with
  | error fault =>
    rw [htop] at hfills
    cases hfills
  | ok top =>
    rw [htop] at hfills hproper
    exact ⟨top, (Except.ok.inj hfills).symm, hproper⟩

lemma linked_of_headed {sections : List Filled} (h : ∀ filled ∈ sections, filled.Headed)
    {first : Bool} (hfirst : first = true → sections ≠ []) :
    Linked first (sections.map Filled.clause) := by
  induction sections generalizing first with
  | nil => simpa [Linked] using hfirst
  | cons filled sections ih =>
    obtain ⟨⟨heading, hsome, hproper⟩, hrest⟩ := List.forall_mem_cons.1 h
    simp only [List.map_cons, Filled.clause, hsome]
    exact ⟨hproper, ih hrest (by simp)⟩

lemma linked_of_alternate {branches : List Branch} {sections : List Filled}
    (h : List.Forall₂ (Fills context fun _ => .ok none) branches sections)
    (hlength : sections.length ≤ 1) : Linked false (sections.map Filled.clause) := by
  match sections, hlength with
  | [], _ => rfl
  | [filled], _ =>
    obtain ⟨branch, -, hfills, -⟩ := exists_branch h (List.mem_singleton_self filled)
    simp only [List.map_cons, List.map_nil, Filled.clause, ← Except.ok.inj hfills]
    exact ⟨rfl, rfl, rfl⟩

/-- Statements and a chain behind them are valid if the chain is linked. -/
lemma chain_valid {inLoop : Bool} {shown : List Stmt} {sections : List Filled}
    (hshown : ∀ stmt ∈ shown, stmt.Proper)
    (hlinked : sections ≠ [] → Linked true (sections.map Filled.clause))
    (hinner : ∀ filled ∈ sections, ∀ stmt ∈ filled.inner.stmts, stmt.Valid inLoop) :
    ∀ stmt ∈ (chain shown sections).stmts, stmt.Valid inLoop := by
  refine List.forall_mem_append.2 ⟨fun stmt hmem => .simple (hshown stmt hmem), ?_⟩
  split_ifs with hempty
  · exact nofun
  · refine List.forall_mem_singleton.2 (.chain (hlinked (by simpa using hempty)) ?_)
    intro condition body note hclause
    obtain ⟨filled, hmem, heq⟩ := List.mem_map.1 hclause
    obtain ⟨-, rfl, -⟩ := Clause.mk.inj heq
    exact hinner filled hmem

/-- What a well-formed block is decompiled to is valid where the block stands. -/
theorem valid_of_wellFormed (valid : context.names.Valid) {inLoop : Bool} {b : Block}
    (formed : WellFormed context.variant inLoop b) {fragment : Fragment}
    (hfragment : block context b = .ok fragment) :
    ∀ stmt ∈ fragment.stmts, stmt.Valid inLoop := by
  induction formed generalizing fragment with
  | leaf lead _ breaks =>
    rw [block, locate_eq_ok] at hfragment
    exact (leaf_valid valid lead breaks).of_ok hfragment
  | @compound inLoop family header closer body branches framed _ ih =>
    have hbody {inner : Fragment} (hinner : blocks context body = .ok inner) :
        ∀ stmt ∈ inner.stmts, stmt.Valid (inLoop || decide (family = .loop)) :=
      blocks_valid (fun b hb _ => ih b (List.mem_append_left _ hb)) hinner
    have hsections {heading : Entry → Except Fault (Option Heading)} {sections : List Filled}
        (h : List.Forall₂ (Fills context heading) branches sections) :
        ∀ filled ∈ sections, ∀ stmt ∈ filled.inner.stmts,
          stmt.Valid (inLoop || decide (family = .loop)) := by
      intro filled hmem
      obtain ⟨branch, hbranch, -, hinner⟩ := exists_branch h hmem
      refine blocks_valid (fun b hb _ => ih b (List.mem_append_right _ ?_)) hinner
      exact List.mem_flatMap.2 ⟨branch, hbranch, hb⟩
    cases assembled_of_block framed hfragment with
    | @conditional operands condition inner sections hoperands hcondition hinner hfills hlength =>
      have hworded := (operandsOf_worded framed.header_lead).of_ok hoperands
      have hproper := (branchCondition_proper valid hworded).of_ok hcondition
      refine chain_valid (by simp) (fun _ => ⟨hproper, linked_of_alternate hfills hlength⟩) ?_
      exact List.forall_mem_cons.2
        ⟨by simpa using hbody hinner, by simpa using hsections hfills⟩
    | loop hinner _ => exact List.forall_mem_singleton.2 (.loop (by simpa using hbody hinner))
    | @choice operands shown sections _ _ hshown hfills =>
      have hheaded := headed_of_fills hfills choiceHeading_proper
      exact chain_valid ((showChoices_proper operands).of_ok hshown)
        (fun hne => linked_of_headed hheaded fun _ => hne) (by simpa using hsections hfills)
    | @battleResult inner sections hinner hfills =>
      have hlinked : Linked false (sections.map Filled.clause) :=
        linked_of_headed (headed_of_fills hfills battleHeading_proper) (by simp)
      have hwon : (invoke "game_battle_result.is_win" []).Proper :=
        proper_invoke (by simp) words_nil
      refine chain_valid (by simp) (fun _ => ⟨hwon, hlinked⟩) ?_
      exact List.forall_mem_cons.2
        ⟨by simpa using hbody hinner, by simpa using hsections hfills⟩

end Decompile

end EventScript
