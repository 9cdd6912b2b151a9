import EventScript.Proofs.Block.Fold

/-! The reconstruction compares indents with each other and uses them for nothing else: renaming
them by a strictly increasing function renames them in what is returned or reported. -/
namespace EventScript

/-- A row at the indent that `f` gives for its own. -/
def Row.reindent (f : Int → Int) (row : Row) : Row := { row with indent := f row.indent }

def Entry.reindent (f : Int → Int) (entry : Entry) : Entry :=
  { entry with row := entry.row.reindent f, extras := entry.extras.map (Row.reindent f) }

namespace Block

mutual

/-- A block with each of its entries replaced. -/
def map (g : Entry → Entry) : Block → Block
  | .leaf entry => .leaf (g entry)
  | .compound header body branches closer =>
    .compound (g header) (mapList g body) (mapBranches g branches) (g closer)
  termination_by structural block => block

def mapList (g : Entry → Entry) : List Block → List Block
  | [] => []
  | block :: rest => map g block :: mapList g rest
  termination_by structural blocks => blocks

def mapBranches (g : Entry → Entry) : List Branch → List Branch
  | [] => []
  | .mk marker children :: rest => .mk (g marker) (mapList g children) :: mapBranches g rest
  termination_by structural branches => branches

end

end Block

def Branch.map (g : Entry → Entry) (branch : Branch) : Branch :=
  .mk (g branch.marker) (branch.children.map (Block.map g))

namespace Block

@[simp] lemma mapList_eq (g : Entry → Entry) (blocks : List Block) :
    mapList g blocks = blocks.map (map g) := by
  induction blocks with
  | nil => rfl
  | cons block blocks ih => simp [mapList, ih]

@[simp] lemma mapBranches_eq (g : Entry → Entry) (branches : List Branch) :
    mapBranches g branches = branches.map (Branch.map g) := by
  induction branches with
  | nil => rfl
  | cons branch branches ih =>
    obtain ⟨marker, children⟩ := branch
    simp [mapBranches, ih, Branch.map, Branch.marker, Branch.children]

mutual

lemma map_id : ∀ block : Block, block.map id = block
  | .leaf _ => rfl
  | .compound _ body branches _ => by rw [map, mapList_id body, mapBranches_id branches]; rfl
  termination_by structural block => block

lemma mapList_id : ∀ blocks : List Block, mapList id blocks = blocks
  | [] => rfl
  | block :: rest => by rw [mapList, map_id block, mapList_id rest]
  termination_by structural blocks => blocks

lemma mapBranches_id : ∀ branches : List Branch, mapBranches id branches = branches
  | [] => rfl
  | .mk _ children :: rest => by
    rw [mapBranches, mapList_id children, mapBranches_id rest]
    rfl
  termination_by structural branches => branches

end

lemma head_map (g : Entry → Entry) (block : Block) : (block.map g).head = g block.head := by
  cases block <;> simp [map, head]

end Block

/-- The same fault with the indents that it names renamed. -/
def StructuralFault.reindent (f : Int → Int) : StructuralFault → StructuralFault
  | .continuationIndent command indent leadIndent =>
    .continuationIndent command (f indent) (f leadIndent)
  | .indentDropped indent opening => .indentDropped (f indent) opening
  | .markerIndent command indent opening openingIndent =>
    .markerIndent command (f indent) opening (f openingIndent)
  | fault => fault

/-- What becomes of a result, renamed by `g`, or of a fault when indents are renamed. -/
def renamed {α : Type} (f : Int → Int) (g : α → α) :
    Except (Located StructuralFault) α → Except (Located StructuralFault) α
  | .ok a => .ok (g a)
  | .error fault => .error ⟨fault.index, fault.fault.reindent f⟩

section Renamed

variable {α β : Type} {f : Int → Int} {g : α → α} {h : β → β}

@[simp] lemma renamed_ok (a : α) : renamed f g (.ok a) = .ok (g a) := rfl

@[simp] lemma renamed_error (index : Nat) (fault : StructuralFault) :
    renamed f g (.error ⟨index, fault⟩) = .error ⟨index, fault.reindent f⟩ := rfl

/-- Renaming goes through a computation step by step. -/
lemma renamed_bind (x : Except (Located StructuralFault) α)
    {k k' : α → Except (Located StructuralFault) β} (hk : ∀ a, k' (g a) = renamed f h (k a)) :
    renamed f g x >>= k' = renamed f h (x >>= k) := by
  cases x with
  | error fault => rfl
  | ok a => exact hk a

lemma renamed_foldlM {step step' : α → β → Except (Located StructuralFault) α}
    (hstep : ∀ a b, step' (g a) (h b) = renamed f g (step a b)) (list : List β) (a : α) :
    (list.map h).foldlM step' (g a) = renamed f g (list.foldlM step a) := by
  induction list generalizing a with
  | nil => rfl
  | cons b list ih =>
    rw [List.map_cons, List.foldlM_cons, List.foldlM_cons, hstep]
    exact renamed_bind (step a b) ih

end Renamed

namespace Entry

variable {f : Int → Int}

lemma absorb_reindent (hf : StrictMono f) (variant : Variant) (reversed : List Entry)
    (index : Nat) (row : Row) :
    absorb variant (reversed.map (reindent f)) index (row.reindent f) =
      renamed f (List.map (reindent f)) (absorb variant reversed index row) := by
  have hcode : (row.reindent f).code = row.code := rfl
  unfold absorb
  rw [hcode]
  cases Catalog.lookup variant row.code with
  | none => rfl
  | some kind =>
    cases hrole : kind.role with
    | continuation lead =>
      cases reversed with
      | nil => simp [hrole, StructuralFault.reindent]
      | cons last earlier =>
        have hindent : f row.indent = f last.row.indent ↔ row.indent = last.row.indent :=
          hf.injective.eq_iff
        by_cases hlead : last.row.code = lead
        · by_cases hsame : row.indent = last.row.indent
          · simp [hrole, reindent, Row.reindent, hlead, hsame]
          · simp [hrole, reindent, Row.reindent, hlead, hsame, hindent, StructuralFault.reindent]
        · simp [hrole, reindent, Row.reindent, hlead, StructuralFault.reindent]
    | _ => simp [hrole, reindent]

lemma foldFrom_reindent (hf : StrictMono f) (variant : Variant) (index : Nat)
    (reversed : List Entry) (rows : List Row) :
    foldFrom variant index (reversed.map (reindent f)) (rows.map (Row.reindent f)) =
      renamed f (List.map (reindent f)) (foldFrom variant index reversed rows) := by
  induction rows generalizing index reversed with
  | nil => simp [foldFrom]
  | cons row rows ih =>
    rw [List.map_cons, foldFrom, foldFrom, absorb_reindent hf]
    exact renamed_bind (absorb variant reversed index row) (ih (index + 1))

end Entry

def Frame.reindent (f : Int → Int) (frame : Frame) : Frame :=
  { frame with
    header := frame.header.reindent f
    body := frame.body.map (Block.map (Entry.reindent f))
    branches := frame.branches.map (Branch.map (Entry.reindent f)) }

def Nest.reindent (f : Int → Int) (nest : Nest) : Nest :=
  ⟨nest.done.map (Block.map (Entry.reindent f)), nest.frames.map (Frame.reindent f)⟩

namespace Nest

variable {f : Int → Int}

lemma add_reindent (nest : Nest) (block : Block) :
    (nest.reindent f).add (block.map (Entry.reindent f)) = (nest.add block).reindent f := by
  obtain ⟨done, frames⟩ := nest
  cases frames with
  | nil => simp [reindent, add]
  | cons top rest =>
    have htop : (top.reindent f).add (block.map (Entry.reindent f)) =
        (top.add block).reindent f := by
      obtain ⟨header, kind, family, body, branches⟩ := top
      rcases branches with _ | ⟨⟨marker, children⟩, earlier⟩ <;>
        simp [Frame.reindent, Frame.add, Branch.map, Branch.marker, Branch.children]
    simp [reindent, add, htop]

lemma close_reindent (nest : Nest) (top : Frame) (rest : List Frame) (entry : Entry) :
    (nest.reindent f).close (top.reindent f) (rest.map (Frame.reindent f)) (entry.reindent f) =
      renamed f (reindent f) (nest.close top rest entry) := by
  obtain ⟨header, kind, family, body, branches⟩ := top
  have hadd := add_reindent (f := f) ⟨nest.done, rest⟩ (.compound header body branches.reverse entry)
  unfold close
  cases hheader : family.emptyHeader with
  | false => simpa [Frame.reindent, hheader, Block.map, reindent] using hadd
  | true =>
    cases body with
    | nil => simpa [Frame.reindent, hheader, Block.map, reindent] using hadd
    | cons block body =>
      simp [Frame.reindent, hheader, Frame.opening, Block.index, Block.head_map, Entry.reindent,
        StructuralFault.reindent]

lemma exceedsLimit_reindent (top : Frame) (code : Int) :
    exceedsLimit (top.reindent f) code = exceedsLimit top code := by
  have hcount : (top.reindent f).count code = top.count code := by
    rw [Frame.count, Frame.reindent, List.countP_map]
    rfl
  unfold exceedsLimit
  rw [hcount]
  rfl

lemma outOfOrder_reindent (top : Frame) (code : Int) :
    outOfOrder (top.reindent f) code = outOfOrder top code := by
  obtain ⟨header, kind, family, body, branches⟩ := top
  cases branches <;> rfl

lemma startSection_reindent (nest : Nest) (top : Frame) (rest : List Frame) (entry : Entry)
    (kind : CommandKind) :
    (nest.reindent f).startSection (top.reindent f) (rest.map (Frame.reindent f))
        (entry.reindent f) kind =
      renamed f (reindent f) (nest.startSection top rest entry kind) := by
  unfold startSection
  rw [exceedsLimit_reindent, outOfOrder_reindent]
  by_cases hlimit : exceedsLimit top kind.code
  · simp [hlimit, Entry.reindent, StructuralFault.reindent, Frame.opening, Frame.reindent]
  by_cases horder : outOfOrder top kind.code
  · simp [hlimit, horder, Entry.reindent, StructuralFault.reindent, Frame.opening, Frame.reindent]
  obtain ⟨header, opener, family, body, branches⟩ := top
  cases hempty : family.emptyHeader && branches.isEmpty with
  | false => simp [hlimit, horder, hempty, Frame.reindent, reindent, Branch.map, Branch.marker,
      Branch.children]
  | true =>
    cases body with
    | nil => simp [hlimit, horder, hempty, Frame.reindent, reindent, Branch.map, Branch.marker,
        Branch.children]
    | cons block body =>
      simp [hlimit, horder, hempty, Frame.reindent, Frame.opening, Block.index, Block.head_map,
        Entry.reindent, StructuralFault.reindent]

lemma mark_reindent (hf : StrictMono f) (nest : Nest) (entry : Entry) (kind : CommandKind)
    (family : Family) :
    (nest.reindent f).mark (entry.reindent f) kind family =
      renamed f (reindent f) (nest.mark entry kind family) := by
  obtain ⟨done, frames⟩ := nest
  unfold mark
  cases frames with
  | nil => simp [reindent, Entry.reindent, StructuralFault.reindent]
  | cons top rest =>
    have hindent : (entry.reindent f).row.indent = (top.reindent f).indent ↔
        entry.row.indent = top.indent := hf.injective.eq_iff
    have hfamily : (top.reindent f).family = top.family := rfl
    simp only [reindent, List.map_cons, ne_eq, hindent, hfamily]
    by_cases hsame : top.family = family
    · by_cases hat : entry.row.indent = top.indent
      · simp only [hsame, hat, not_true_eq_false, if_false]
        cases kind.role with
        | closes _ => exact close_reindent ⟨done, top :: rest⟩ top rest entry
        | _ => exact startSection_reindent ⟨done, top :: rest⟩ top rest entry kind
      · simp only [hsame, hat, not_true_eq_false, not_false_eq_true, if_true, if_false]
        rfl
    · simp only [hsame, not_false_eq_true, if_true]
      rfl

lemma checkIndent_reindent (hf : StrictMono f) (nest : Nest) (entry : Entry) :
    (nest.reindent f).checkIndent (entry.reindent f) = renamed f id (nest.checkIndent entry) := by
  obtain ⟨done, frames⟩ := nest
  cases frames with
  | nil => rfl
  | cons top rest =>
    have hindent : (entry.reindent f).row.indent ≤ (top.reindent f).indent ↔
        entry.row.indent ≤ top.indent := hf.le_iff_le
    simp only [checkIndent, reindent, List.map_cons, hindent]
    by_cases hle : entry.row.indent ≤ top.indent
    · simp only [hle, if_true]
      rfl
    · simp only [hle, if_false]
      rfl

lemma insideLoop_reindent (nest : Nest) : (nest.reindent f).insideLoop = nest.insideLoop := by
  rw [insideLoop, reindent, List.any_map]
  rfl

/-- A step on renamed rows is the renamed step. -/
lemma step_reindent (hf : StrictMono f) (nest : Nest) (entry : Entry) :
    (nest.reindent f).step (entry.reindent f) = renamed f (reindent f) (nest.step entry) := by
  have hkind : (entry.reindent f).kind = entry.kind := rfl
  have hcheck := checkIndent_reindent hf nest entry
  have hadd : (nest.reindent f).add (.leaf (entry.reindent f)) =
      (nest.add (.leaf entry)).reindent f := by
    simpa [Block.map] using add_reindent (f := f) nest (.leaf entry)
  unfold step
  rw [hkind, hcheck]
  cases entry.kind with
  | none => exact renamed_bind _ fun _ => by simp [hadd]
  | some kind =>
    cases hrole : kind.role with
    | split family => simpa only [hrole] using mark_reindent hf nest entry kind family
    | arm family => simpa only [hrole] using mark_reindent hf nest entry kind family
    | closes family => simpa only [hrole] using mark_reindent hf nest entry kind family
    | opens family =>
      simp only [hrole]
      exact renamed_bind _ fun _ => rfl
    | _ =>
      simp only [hrole, insideLoop_reindent]
      refine renamed_bind _ fun _ => ?_
      by_cases hbreak : kind.code = breakCode ∧ ¬nest.insideLoop
      · rw [if_pos hbreak, if_pos hbreak]
        rfl
      · rw [if_neg hbreak, if_neg hbreak]
        exact congrArg Except.ok hadd

lemma finish_reindent (nest : Nest) :
    (nest.reindent f).finish =
      renamed f (List.map (Block.map (Entry.reindent f))) nest.finish := by
  obtain ⟨done, frames⟩ := nest
  cases frames <;> rfl

end Nest

namespace Block

/-- The blocks of renamed rows are the renamed blocks, and the faults are the renamed faults. -/
lemma reconstruct_reindent {f : Int → Int} (hf : StrictMono f) (variant : Variant)
    (rows : List Row) :
    reconstruct variant (rows.map (Row.reindent f)) =
      renamed f (List.map (map (Entry.reindent f))) (reconstruct variant rows) := by
  have hfold : Entry.fold variant (rows.map (Row.reindent f)) =
      renamed f (List.map (Entry.reindent f)) (Entry.fold variant rows) :=
    Entry.foldFrom_reindent hf variant 0 [] rows
  unfold reconstruct
  rw [hfold]
  refine renamed_bind _ fun entries => ?_
  have hrun : (entries.map (Entry.reindent f)).foldlM Nest.step Nest.empty =
      renamed f (Nest.reindent f) (entries.foldlM Nest.step Nest.empty) :=
    renamed_foldlM (Nest.step_reindent hf) entries Nest.empty
  rw [hrun]
  exact renamed_bind _ Nest.finish_reindent

end Block

end EventScript
