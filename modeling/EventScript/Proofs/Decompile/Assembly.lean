import EventScript.Proofs.Decompile.Mirror

/-! What the statements of a block are put together from: its heading, and the fragments that its
sections are decompiled to. -/
namespace EventScript

namespace Decompile

open Block

/-- A section that is decompiled; the last one of a chain may stand under no heading. -/
structure Filled where
  heading : Option Heading
  inner : Fragment

/-- The clause of a section. -/
def Filled.clause (filled : Filled) : Clause :=
  .mk (filled.heading.map Heading.condition) filled.inner.stmts (filled.heading.bind Heading.note)

/-- What sections are written as: the statements in front of them, then one chain if there are any
sections. -/
def chain (shown : List Stmt) (sections : List Filled) : Fragment :=
  ⟨shown ++ (if sections.isEmpty then [] else [.ifChain (sections.map Filled.clause)]),
    sections.flatMap fun filled => filled.inner.placeholders⟩

/-- A section of a block, decompiled with the heading that its marker stands for. -/
def Fills (context : Context) (heading : Entry → Except Fault (Option Heading)) (branch : Branch)
    (filled : Filled) : Prop :=
  heading branch.marker = .ok filled.heading ∧ blocks context branch.children = .ok filled.inner

/-- The fragments that blocks with these entries and sections are decompiled to. -/
inductive Assembled (context : Context) (header : Entry) (body : List Block)
    (branches : List Branch) : Family → Fragment → Prop
  | conditional {operands : Operands} {condition : Expr} {inner : Fragment}
      {sections : List Filled} (hoperands : operandsOf header = .ok operands)
      (hcondition : branchCondition context operands = .ok condition)
      (hbody : blocks context body = .ok inner)
      (hsections : List.Forall₂ (Fills context fun _ => .ok none) branches sections)
      (hlength : sections.length ≤ 1) :
      Assembled context header body branches .conditional
        (chain [] (⟨some ⟨condition, none⟩, inner⟩ :: sections))
  | loop {inner : Fragment} (hbody : blocks context body = .ok inner) (hbranches : branches = []) :
      Assembled context header body branches .loop
        ⟨[.whileLoop (truth true) inner.stmts], inner.placeholders⟩
  | choice {operands : Operands} {shown : List Stmt} {sections : List Filled} (hbody : body = [])
      (hoperands : operandsOf header = .ok operands) (hshown : showChoices operands = .ok shown)
      (hsections : List.Forall₂ (Fills context fun marker => (choiceHeading marker).map some)
        branches sections) :
      Assembled context header body branches .choice (chain shown sections)
  | battleResult {inner : Fragment} {sections : List Filled}
      (hbody : blocks context body = .ok inner)
      (hsections : List.Forall₂ (Fills context fun marker => (battleHeading marker).map some)
        branches sections) :
      Assembled context header body branches .battleResult
        (chain [] (⟨some ⟨invoke "game_battle_result.is_win" [], none⟩, inner⟩ :: sections))

variable {context : Context} {header closer : Entry} {body : List Block} {branches : List Branch}

lemma exists_branch {heading : Entry → Except Fault (Option Heading)} {sections : List Filled}
    (h : List.Forall₂ (Fills context heading) branches sections) {filled : Filled}
    (hfilled : filled ∈ sections) : ∃ branch ∈ branches, Fills context heading branch filled := by
  induction h with
  | nil => cases hfilled
  | cons hfills _ ih =>
    rcases List.mem_cons.1 hfilled with rfl | hfilled
    · exact ⟨_, by simp, hfills⟩
    · obtain ⟨branch, hbranch, hfills⟩ := ih hfilled
      exact ⟨branch, by simp [hbranch], hfills⟩

lemma alternate_fills (framed : Framed context.variant .conditional header body branches closer)
    {other : Option Fragment} (h : alternate context branches = .ok other) :
    List.Forall₂ (Fills context fun _ => .ok none) branches
      (other.map fun inner => ⟨none, inner⟩).toList := by
  rcases branches_of_conditional framed with rfl | ⟨marker, children, rfl, hsplit⟩
  · obtain rfl := Except.ok.inj h
    exact .nil
  · rw [alternate, if_pos hsplit] at h
    obtain ⟨inner, hinner, h⟩ := bind_eq_ok.1 h
    obtain rfl := Except.ok.inj h
    exact .cons ⟨rfl, hinner⟩ .nil

lemma sections_fills {heading : Entry → Except Fault Heading} {clauses : List Clause}
    {placeholders : List Placeholder}
    (h : sections context header heading branches = .ok (clauses, placeholders)) :
    ∃ filled, List.Forall₂ (Fills context fun marker => (heading marker).map some)
        branches filled ∧ clauses = filled.map Filled.clause ∧
      placeholders = filled.flatMap fun filled => filled.inner.placeholders := by
  induction branches generalizing clauses placeholders with
  | nil =>
    obtain ⟨rfl, rfl⟩ : [] = clauses ∧ [] = placeholders := by simpa [sections] using h
    exact ⟨[], .nil, rfl, rfl⟩
  | cons branch branches ih =>
    obtain ⟨marker, children⟩ := branch
    rw [sections] at h
    obtain ⟨top, htop, h⟩ := bind_eq_ok.1 h
    obtain ⟨inner, hinner, h⟩ := bind_eq_ok.1 h
    obtain ⟨⟨rest, more⟩, hrest, h⟩ := bind_eq_ok.1 h
    obtain ⟨rfl, rfl⟩ := Prod.mk.inj (Except.ok.inj h)
    obtain ⟨filled, hfilled, rfl, rfl⟩ := ih hrest
    have hheading : (heading marker).map some = .ok (some top) := by
      rw [locate_eq_ok.1 htop]
      rfl
    exact ⟨⟨some top, inner⟩ :: filled, .cons ⟨hheading, hinner⟩ hfilled, rfl, rfl⟩

/-- Whatever a framed block is decompiled to was assembled from its sections. -/
lemma assembled_of_block {family : Family} {fragment : Fragment}
    (framed : Framed context.variant family header body branches closer)
    (h : block context (.compound header body branches closer) = .ok fragment) :
    Assembled context header body branches family fragment := by
  rw [block] at h
  obtain ⟨operands, hoperands, h⟩ := bind_eq_ok.1 h
  rw [familyOf_eq framed.header_lead framed.header_opens] at h
  simp only [locate, ok_bind] at h
  cases family with
  | conditional =>
    obtain ⟨condition, hcondition, h⟩ := bind_eq_ok.1 h
    obtain ⟨inner, hinner, h⟩ := bind_eq_ok.1 h
    obtain ⟨other, hother, h⟩ := bind_eq_ok.1 h
    have hassembled := Assembled.conditional (locate_eq_ok.1 hoperands)
      (locate_eq_ok.1 hcondition) hinner (alternate_fills framed hother) (by cases other <;> simp)
    cases other with
    | none =>
      obtain rfl := Except.ok.inj h
      simpa [chain, Filled.clause] using hassembled
    | some other =>
      obtain rfl := Except.ok.inj h
      simpa [chain, Filled.clause] using hassembled
  | loop =>
    obtain ⟨inner, hinner, h⟩ := bind_eq_ok.1 h
    obtain rfl := Except.ok.inj h
    exact .loop hinner (branches_of_loop framed)
  | choice =>
    obtain ⟨shown, hshown, h⟩ := bind_eq_ok.1 h
    obtain ⟨⟨clauses, placeholders⟩, hsections, h⟩ := bind_eq_ok.1 h
    obtain ⟨filled, hfilled, rfl, rfl⟩ := sections_fills hsections
    obtain rfl := Except.ok.inj h
    simpa [chain] using Assembled.choice (framed.header_empty rfl) (locate_eq_ok.1 hoperands)
      (locate_eq_ok.1 hshown) hfilled
  | battleResult =>
    obtain ⟨inner, hinner, h⟩ := bind_eq_ok.1 h
    obtain ⟨⟨clauses, placeholders⟩, hsections, h⟩ := bind_eq_ok.1 h
    obtain ⟨filled, hfilled, rfl, rfl⟩ := sections_fills hsections
    obtain rfl := Except.ok.inj h
    exact .battleResult hinner hfilled

end Decompile

end EventScript
