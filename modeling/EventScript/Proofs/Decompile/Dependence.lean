import EventScript.Proofs.Block.Reindent
import EventScript.Proofs.Decompile.Event

/-! What the statements of a block depend on: the names of the context, and of each entry its
position, kind, code and parameters. The indents do not count, and the policy and the editor
generation count only where a command that opens no block is written. -/
namespace EventScript

namespace Decompile

/-- Handlers read the names and the operands of continuation rows, and nothing else of the context
and the entry. -/
lemma handler_congr {word : String} {handler : Handler} {context context' : Context}
    {entry entry' : Entry} (hhandler : handler? word = some handler)
    (hnames : context'.names = context.names)
    (hextras : extras context' entry' = extras context entry) (operands : Operands) :
    handler context' entry' operands = handler context entry operands := by
  obtain ⟨variant, names, policy⟩ := context
  obtain ⟨variant', names', policy'⟩ := context'
  obtain rfl : names' = names := hnames
  have hall : ∀ pair ∈ handlers,
      pair.2 ⟨variant', names', policy'⟩ entry' operands =
        pair.2 ⟨variant, names', policy⟩ entry operands := by
    -- The unfolded handlers are those that read continuation rows; the others ignore both.
    simp only [handlers, List.forall_mem_cons, List.not_mem_nil, false_implies, implies_true,
      showText, showScrollingText, comment, script, setMovementRoute, lines, hextras, true_and,
      and_true]
    and_intros <;> rfl
  exact hall _ (mem_of_lookup hhandler)

lemma branchCondition_congr {context context' : Context}
    (hnames : context'.names = context.names) (operands : Operands) :
    branchCondition context' operands = branchCondition context operands := by
  obtain ⟨variant, names, policy⟩ := context
  obtain ⟨variant', names', policy'⟩ := context'
  obtain rfl : names' = names := hnames
  rfl

/-- An entry that counts for the same in one context as another entry in another context. -/
structure Alike (context context' : Context) (entry entry' : Entry) : Prop where
  index_eq : entry'.index = entry.index
  kind_eq : entry'.kind = entry.kind
  code_eq : entry'.row.code = entry.row.code
  parameters_eq : entry'.row.parameters = entry.row.parameters
  leaf_eq : entry.IsPlain → leaf context' entry' = leaf context entry

namespace Alike

variable {context context' : Context} {entry entry' : Entry}
  (h : Alike context context' entry entry')

include h

lemma locate_eq {α : Type} (x : Except Fault α) : locate entry' x = locate entry x := by
  cases x with
  | ok a => rfl
  | error fault => cases fault <;> simp [locate, h.index_eq, h.code_eq]

lemma operandsOf_eq : operandsOf entry' = operandsOf entry := by
  simp only [operandsOf, h.kind_eq, h.parameters_eq, h.index_eq]

lemma familyOf_eq : familyOf entry' = familyOf entry := by
  simp only [familyOf, h.kind_eq, h.index_eq]

lemma choiceHeading_eq : choiceHeading entry' = choiceHeading entry := by
  simp only [choiceHeading, h.kind_eq, h.parameters_eq, h.index_eq]

lemma battleHeading_eq : battleHeading entry' = battleHeading entry := by
  simp only [battleHeading, h.kind_eq, h.index_eq]

lemma isSplit_eq : entry'.isSplit = entry.isSplit := by
  simp only [Entry.isSplit, h.kind_eq]

end Alike

section Map

variable {context context' : Context} {g : Entry → Entry}

open Block

lemma blocks_map {bs : List Block} (h : ∀ b ∈ bs, block context' (b.map g) = block context b) :
    blocks context' (bs.map (Block.map g)) = blocks context bs := by
  induction bs with
  | nil => rfl
  | cons b bs ih =>
    rw [List.map_cons, blocks, blocks, h b (by simp), ih fun b hb => h b (by simp [hb])]

lemma alternate_map {branches : List Branch}
    (hmarkers : ∀ marker ∈ branches.map Branch.marker, Alike context context' marker (g marker))
    (h : ∀ b ∈ branches.flatMap Branch.children, block context' (b.map g) = block context b) :
    alternate context' (branches.map (Branch.map g)) = alternate context branches := by
  induction branches with
  | nil => rfl
  | cons branch branches ih =>
    obtain ⟨marker, children⟩ := branch
    have hmarker := hmarkers marker (by simp [Branch.marker])
    have hchildren : blocks context' (children.map (Block.map g)) = blocks context children :=
      blocks_map fun b hb => h b (by simp [Branch.children, hb])
    have hrest := ih (fun marker hmarker => hmarkers marker (by simp [hmarker]))
      fun b hb => h b (by simp [hb])
    simp only [List.map_cons, Branch.map, Branch.marker, Branch.children, alternate,
      hmarker.isSplit_eq, hchildren, hrest]

lemma sections_map {header : Entry} (hheader : Alike context context' header (g header))
    (heading : Entry → Except Fault Heading)
    (hheading : ∀ marker, Alike context context' marker (g marker) →
      heading (g marker) = heading marker) {branches : List Branch}
    (hmarkers : ∀ marker ∈ branches.map Branch.marker, Alike context context' marker (g marker))
    (h : ∀ b ∈ branches.flatMap Branch.children, block context' (b.map g) = block context b) :
    sections context' (g header) heading (branches.map (Branch.map g)) =
      sections context header heading branches := by
  induction branches with
  | nil => rfl
  | cons branch branches ih =>
    obtain ⟨marker, children⟩ := branch
    have hmarker := hheading marker (hmarkers marker (by simp [Branch.marker]))
    have hchildren : blocks context' (children.map (Block.map g)) = blocks context children :=
      blocks_map fun b hb => h b (by simp [Branch.children, hb])
    have hrest := ih (fun marker hmarker => hmarkers marker (by simp [hmarker]))
      fun b hb => h b (by simp [hb])
    simp only [List.map_cons, Branch.map, Branch.marker, Branch.children, sections,
      hheader.locate_eq, hmarker, hchildren, hrest]

/-- Well-formed blocks with alike entries have the same statements. -/
lemma block_map (hnames : context'.names = context.names) {variant : Variant} {inLoop : Bool}
    {b : Block} (formed : WellFormed variant inLoop b)
    (h : ∀ entry ∈ b.entries, Alike context context' entry (g entry)) :
    block context' (b.map g) = block context b := by
  induction formed with
  | @leaf _ entry _ plain _ =>
    have halike := h entry (by simp [entries])
    rw [Block.map, block, block, halike.leaf_eq plain, halike.locate_eq]
  | @compound _ _ header closer body branches _ _ ih =>
    have hheader := h header (mem_entries_compound.2 (.inl rfl))
    have hmarkers : ∀ marker ∈ branches.map Branch.marker, Alike context context' marker (g marker) :=
      fun marker hmarker => h marker (mem_entries_compound.2 (.inr (.inl hmarker)))
    have henclosed : ∀ b ∈ enclosed body branches, block context' (b.map g) = block context b :=
      fun b hb => ih b hb fun entry hentry =>
        h entry (mem_entries_compound.2 (.inr (.inr (.inr ⟨b, hb, hentry⟩))))
    have hbody := blocks_map fun b hb => henclosed b (List.mem_append_left _ hb)
    have hchildren : ∀ b ∈ branches.flatMap Branch.children,
        block context' (b.map g) = block context b :=
      fun b hb => henclosed b (List.mem_append_right _ hb)
    have hother := alternate_map hmarkers hchildren
    have hchoice := sections_map hheader choiceHeading (fun _ => Alike.choiceHeading_eq) hmarkers
      hchildren
    have hbattle := sections_map hheader battleHeading (fun _ => Alike.battleHeading_eq) hmarkers
      hchildren
    simp only [Block.map, mapList_eq, mapBranches_eq, block, hheader.locate_eq,
      hheader.operandsOf_eq, hheader.familyOf_eq, branchCondition_congr hnames, hbody, hother,
      hchoice, hbattle]

end Map

section Reindent

variable {f : Int → Int} {context : Context}

lemma extras_reindent (entry : Entry) :
    extras context (entry.reindent f) = extras context entry := by
  simp only [extras, Entry.reindent, List.mapM_map]
  rfl

lemma alike_reindent (entry : Entry) : Alike context context entry (entry.reindent f) := by
  refine ⟨rfl, rfl, rfl, rfl, fun _ => ?_⟩
  have hkind : (entry.reindent f).kind = entry.kind := rfl
  have hunknown : unknown context (entry.reindent f) = unknown context entry := rfl
  unfold leaf
  rw [hkind, hunknown]
  cases entry.kind with
  | none => rfl
  | some kind =>
    cases hhandler : handler? kind.name with
    | none => simp only [hhandler]
    | some handler =>
      have hrun : ∀ operands, handler context (entry.reindent f) operands =
          handler context entry operands := handler_congr hhandler rfl (extras_reindent entry)
      simp only [hhandler, hrun]
      rfl

end Reindent

end Decompile

end EventScript
