import EventScript.Decompile.Event
import EventScript.Proofs.Decompile.Leaf

/-! Decompiling well-formed blocks: why it may fail, and which commands become placeholders. -/
namespace EventScript

lemma Entry.Lead.kind_of_role {variant : Variant} {entry : Entry} (lead : entry.Lead variant)
    {role : Role} (h : entry.role? = some role) :
    ∃ kind ∈ Catalog.kinds variant, entry.kind = some kind ∧ kind.role = role := by
  obtain ⟨kind, hkind, hrole⟩ := Option.map_eq_some_iff.1 h
  exact ⟨kind, Catalog.mem_of_lookup (lead.kind_eq ▸ hkind), hkind, hrole⟩

lemma Entry.Lead.kind_of_startsSection {variant : Variant} {entry : Entry}
    (lead : entry.Lead variant) {family : Family} (starts : entry.StartsSection family) :
    ∃ kind ∈ Catalog.kinds variant, entry.kind = some kind ∧
      (kind.role = .split family ∨ kind.role = .arm family) := by
  rcases starts with h | h
  · obtain ⟨kind, hmem, hkind, hrole⟩ := lead.kind_of_role h
    exact ⟨kind, hmem, hkind, .inl hrole⟩
  · obtain ⟨kind, hmem, hkind, hrole⟩ := lead.kind_of_role h
    exact ⟨kind, hmem, hkind, .inr hrole⟩

namespace Decompile

open Operands

variable {context : Context} {entry : Entry}

/-- The failures that the rows of an event can lead to: bad parameters, and codes that are not known
if these are refused. -/
def Failure.Allowed (context : Context) : Failure → Prop
  | .located _ _ (.schema _) => True
  | .located _ _ (.data _) => True
  | .located _ _ (.unrecognized code variant) =>
    context.onUnknown = .fail ∧ variant = context.variant ∧
      Catalog.lookup context.variant code = none
  | _ => False

/-- A placeholder that may stand: its code is not known, and such codes are kept. -/
def Kept (context : Context) (p : Placeholder) : Prop :=
  context.onUnknown = .placeholder ∧ Catalog.lookup context.variant p.code = none

/-- A computation that fails only as allowed and leaves only placeholders that may stand. -/
abbrev Decompiles (context : Context) (x : Except Failure Fragment) : Prop :=
  Ends (Failure.Allowed context) (fun fragment => ∀ p ∈ fragment.placeholders, Kept context p) x

lemma locate_ends {α : Type} {post : α → Prop} {x : Except Fault α} (h : Yields post x) :
    Ends (Failure.Allowed context) post (locate entry x) := by
  cases x with
  | ok a => exact h
  | error fault =>
    cases fault with
    | defect d => exact h.elim
    | cause c => cases c with
      | schema fault => trivial
      | data fault => trivial
      | structural fault => exact h.elim
      | unrecognized code variant => exact h.elim

lemma unknown_decompiles (hlookup : Catalog.lookup context.variant entry.row.code = none) :
    Decompiles context (locate entry (unknown context entry)) := by
  unfold unknown
  cases hpolicy : context.onUnknown with
  | fail => exact ⟨hpolicy, rfl, hlookup⟩
  | placeholder => simpa [locate, Kept, hpolicy] using hlookup

/-- What a known command that opens no block leaves behind. -/
lemma leaf_yields (lead : entry.Lead context.variant) {kind : CommandKind}
    (hkind : entry.kind = some kind) (hrole : kind.role = .leaf) :
    Yields (fun fragment => fragment.placeholders = [] ∧
      ∀ stmt ∈ fragment.stmts, stmt.isSimple = true) (leaf context entry) := by
  have hlookup := lead.kind_eq ▸ hkind
  have hmem := Catalog.mem_of_lookup hlookup
  obtain ⟨handler, hhandler, writes⟩ := handled_of_leaf hmem hrole
  simp only [leaf, hkind, hhandler]
  refine (decode_yields (Catalog.readable hmem) entry.row.parameters).bind ?_
  intro operands decoded
  have hcode : entry.row.code = kind.code := (Catalog.code_of_lookup hlookup).symm
  refine (writes context entry operands lead hcode decoded).bind ?_
  intro stmts hstmts
  exact ⟨rfl, hstmts⟩

lemma leaf_decompiles (lead : entry.Lead context.variant) (plain : entry.IsPlain) :
    Decompiles context (locate entry (leaf context entry)) := by
  cases hkind : entry.kind with
  | none =>
    simp only [leaf, hkind]
    exact unknown_decompiles (lead.kind_eq ▸ hkind)
  | some kind =>
    have hrole : kind.role = .leaf := by simpa [Entry.IsPlain, Entry.role?, hkind] using plain
    exact (locate_ends (leaf_yields lead hkind hrole)).mono (fun _ h => h)
      fun fragment h => by simp [h.1]

lemma operandsOf_yields {kind : CommandKind} (hmem : kind ∈ Catalog.kinds context.variant)
    (hkind : entry.kind = some kind) : Yields (Decoded kind.layout) (operandsOf entry) := by
  simp only [operandsOf, hkind]
  exact decode_yields (Catalog.readable hmem) entry.row.parameters

lemma branchCondition_ok (context : Context) {operands : Operands}
    (decoded : Decoded [.tagged "condition" Catalog.conditions] operands) :
    ∃ e, branchCondition context operands = .ok e := by
  obtain ⟨_, tag, _, asked, hcase, hasked, htagged⟩ :=
    decoded.tagged "condition" Catalog.conditions (by simp)
  obtain ⟨e, he⟩ := Context.condition_ok context hcase hasked
  exact ⟨e, by simp [branchCondition, htagged, he]⟩

lemma showChoices_ok {operands : Operands}
    (decoded : Decoded [.required "choices" .strList, .int "cancel_type", .int "default_type",
      .int "position_type", .int "background"] operands) :
    ∃ keywords, showChoices operands = .ok (perform "show_choices" keywords) := by
  obtain ⟨choices, hchoices⟩ := decoded.value "choices" (by simp)
  obtain ⟨cancel, hcancel⟩ := decoded.value "cancel_type" (by simp)
  obtain ⟨default, hdefault⟩ := decoded.value "default_type" (by simp)
  obtain ⟨position, hposition⟩ := decoded.value "position_type" (by simp)
  obtain ⟨background, hbackground⟩ := decoded.value "background" (by simp)
  simp only [showChoices, hchoices, hcancel, hdefault, hposition, hbackground, ok_bind]
  exact ⟨_, rfl⟩

lemma choiceHeading_yields (lead : entry.Lead context.variant)
    (starts : entry.StartsSection .choice) : Yields (fun _ => True) (choiceHeading entry) := by
  obtain ⟨kind, hmem, hkind, hrole⟩ := lead.kind_of_startsSection starts
  simp only [choiceHeading, hkind]
  refine (decode_yields (Catalog.readable hmem) entry.row.parameters).bind ?_
  intro operands decoded
  split
  · rename_i hname
    rw [Catalog.layout_of_when hmem hname hrole] at decoded
    obtain ⟨index, hindex⟩ := decoded.value "choice_index" (by simp)
    obtain ⟨text, htext, -⟩ := decoded.text "choice_name" (by simp)
    simp [hindex, htext]
  · simp

lemma battleHeading_yields (lead : entry.Lead context.variant)
    (starts : entry.StartsSection .battleResult) :
    Yields (fun _ => True) (battleHeading entry) := by
  obtain ⟨kind, -, hkind, -⟩ := lead.kind_of_startsSection starts
  simp only [battleHeading, hkind]
  split <;> simp

lemma familyOf_eq (lead : entry.Lead context.variant) {family : Family}
    (hopens : entry.role? = some (.opens family)) : familyOf entry = .ok family := by
  obtain ⟨kind, hmem, hkind, hrole⟩ := lead.kind_of_role hopens
  obtain rfl := Catalog.eq_opener hmem hrole
  cases family <;> simp [familyOf, hkind, Catalog.opener]

lemma blocks_decompiles {list : List Block}
    (h : ∀ b ∈ list, Decompiles context (block context b)) :
    Decompiles context (blocks context list) := by
  induction list with
  | nil => simp [blocks, Fragment.empty]
  | cons b list ih =>
    rw [blocks]
    refine (h b (by simp)).bind fun first hfirst => ?_
    refine (ih fun b hb => h b (by simp [hb])).bind fun more hmore => ?_
    intro p hp
    rcases List.mem_append.1 hp with hp | hp
    · exact hfirst p hp
    · exact hmore p hp

lemma alternate_decompiles {branches : List Branch}
    (h : ∀ b ∈ branches.flatMap Branch.children, Decompiles context (block context b)) :
    Ends (Failure.Allowed context)
      (fun other => ∀ fragment ∈ other, ∀ p ∈ fragment.placeholders, Kept context p)
      (alternate context branches) := by
  induction branches with
  | nil => simp [alternate]
  | cons branch branches ih =>
    obtain ⟨marker, children⟩ := branch
    rw [alternate]
    split_ifs
    · refine (blocks_decompiles fun b hb => h b (by simp [Branch.children, hb])).bind ?_
      intro fragment hfragment
      simpa using hfragment
    · exact ih fun b hb => h b (by simp [hb])

lemma sections_decompiles {header : Entry} {heading : Entry → Except Fault Heading}
    {branches : List Branch}
    (hheading : ∀ marker ∈ branches.map Branch.marker, Yields (fun _ => True) (heading marker))
    (h : ∀ b ∈ branches.flatMap Branch.children, Decompiles context (block context b)) :
    Ends (Failure.Allowed context) (fun result => ∀ p ∈ result.2, Kept context p)
      (sections context header heading branches) := by
  induction branches with
  | nil => simp [sections]
  | cons branch branches ih =>
    obtain ⟨marker, children⟩ := branch
    rw [sections]
    refine (locate_ends (hheading marker (by simp [Branch.marker]))).bind fun top _ => ?_
    refine (blocks_decompiles fun b hb => h b (by simp [Branch.children, hb])).bind ?_
    intro inner hinner
    refine (ih (fun marker hmarker => hheading marker (by simp [hmarker]))
      fun b hb => h b (by simp [hb])).bind ?_
    rintro ⟨clauses, placeholders⟩ hrest p hp
    rcases List.mem_append.1 hp with hp | hp
    · exact hinner p hp
    · exact hrest p hp

open Block in
/-- A well-formed block is decompiled or fails for what its rows hold. -/
theorem block_decompiles (context : Context) {inLoop : Bool} {b : Block}
    (formed : WellFormed context.variant inLoop b) : Decompiles context (block context b) := by
  induction formed with
  | leaf lead plain =>
    rw [block]
    exact leaf_decompiles lead plain
  | @compound _ family header closer body branches framed formed ih =>
    obtain ⟨kind, hmem, hkind, hrole⟩ := framed.header_lead.kind_of_role framed.header_opens
    have hbody : Decompiles context (blocks context body) :=
      blocks_decompiles fun b hb => ih b (by simp [enclosed, hb])
    have hchildren : ∀ b ∈ branches.flatMap Branch.children, Decompiles context (block context b) :=
      fun b hb => ih b (List.mem_append_right body hb)
    rw [block]
    refine (locate_ends (operandsOf_yields hmem hkind)).bind fun operands decoded => ?_
    rw [familyOf_eq framed.header_lead framed.header_opens]
    obtain rfl := Catalog.eq_opener hmem hrole
    cases family with
    | conditional =>
      obtain ⟨condition, hcondition⟩ := branchCondition_ok context decoded
      simp only [locate, ok_bind, hcondition]
      refine hbody.bind fun inner hinner => (alternate_decompiles hchildren).bind ?_
      rintro (_ | other) hother
      · exact hinner
      · simpa [or_imp, forall_and] using ⟨hinner, hother other rfl⟩
    | loop => exact hbody.bind fun inner hinner => hinner
    | choice =>
      obtain ⟨keywords, hkeywords⟩ := showChoices_ok decoded
      have hheadings : ∀ marker ∈ branches.map Branch.marker,
          Yields (fun _ => True) (choiceHeading marker) := by
        intro marker hmarker
        exact choiceHeading_yields (framed.marked.lead marker hmarker)
          (framed.marked.starts marker hmarker)
      simp only [locate, ok_bind, hkeywords]
      exact (sections_decompiles hheadings hchildren).bind fun result hresult => hresult
    | battleResult =>
      have hheadings : ∀ marker ∈ branches.map Branch.marker,
          Yields (fun _ => True) (battleHeading marker) := by
        intro marker hmarker
        exact battleHeading_yields (framed.marked.lead marker hmarker)
          (framed.marked.starts marker hmarker)
      refine hbody.bind fun inner hinner => (sections_decompiles hheadings hchildren).bind ?_
      rintro ⟨clauses, placeholders⟩ hrest
      simpa [or_imp, forall_and] using ⟨hinner, hrest⟩

end Decompile

end EventScript
