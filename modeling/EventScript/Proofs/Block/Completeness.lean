import EventScript.Proofs.Block.Soundness

/-! Completeness of the reconstruction: the rows of a well-formed forest give back the forest. Each
block is read from any nest in which it may stand and is added to it as a whole. -/
namespace EventScript

open Block (WellFormed Marked Framed enclosed entriesOf branchEntriesOf)

namespace Nest

/-- Blocks added one after another. -/
def addAll (nest : Nest) (blocks : List Block) : Nest := blocks.foldl add nest

@[simp] lemma add_deeper (nest : Nest) (block : Block) (entry : Entry) :
    (nest.add block).Deeper entry ↔ nest.Deeper entry := by
  unfold add Deeper
  cases nest.frames with
  | nil => simp
  | cons top rest => simp

@[simp] lemma add_looping (nest : Nest) (block : Block) :
    looping (nest.add block).frames = looping nest.frames := by
  unfold add looping
  cases nest.frames with
  | nil => simp
  | cons top rest => simp

lemma addAll_empty (blocks : List Block) : empty.addAll blocks = ⟨blocks, []⟩ := by
  have hdone : ∀ done : List Block, addAll ⟨done, []⟩ blocks = ⟨done ++ blocks, []⟩ := by
    induction blocks with
    | nil => simp [addAll]
    | cons block blocks ih => intro done; simpa [addAll, add] using ih (done ++ [block])
  exact hdone []

/-- Blocks added before the first marker come to the body. -/
lemma addAll_body (done : List Block) (frame : Frame) (rest : List Frame) (blocks : List Block)
    (h : frame.branches = []) :
    addAll ⟨done, frame :: rest⟩ blocks =
      ⟨done, { frame with body := frame.body ++ blocks } :: rest⟩ := by
  induction blocks generalizing frame with
  | nil => simp [addAll]
  | cons block blocks ih =>
    have hadd : frame.add block = { frame with body := frame.body ++ [block] } := by
      simp [Frame.add, h]
    have := ih { frame with body := frame.body ++ [block] } h
    simpa [addAll, add, hadd] using this

/-- Blocks added behind a marker come to its section. -/
lemma addAll_section (done : List Block) (frame : Frame) (rest : List Frame)
    (marker : Entry) (children blocks : List Block) (earlier : List Branch) :
    addAll ⟨done, { frame with branches := .mk marker children :: earlier } :: rest⟩ blocks =
      ⟨done, { frame with branches := .mk marker (children ++ blocks) :: earlier } :: rest⟩ := by
  induction blocks generalizing children with
  | nil => simp [addAll]
  | cons block blocks ih => simpa [addAll, add, Frame.add] using ih (children ++ [block])

/-- A block is read as a whole wherever it stands deeper than the innermost block, and in a loop if
it has to. -/
def Reads (inLoop : Bool) (block : Block) : Prop :=
  ∀ nest : Nest, nest.Deeper block.head → (inLoop = true → looping nest.frames = true) →
    block.entries.foldlM step nest = .ok (nest.add block)

lemma run_append {nest middle final : Nest} {list more : List Entry}
    (h : list.foldlM step nest = .ok middle) (hmore : more.foldlM step middle = .ok final) :
    (list ++ more).foldlM step nest = .ok final := by
  rw [List.foldlM_append, h]
  exact hmore

lemma run_cons {variant : Variant} {nest middle final : Nest} {entry : Entry} {more : List Entry}
    (lead : entry.Lead variant) (h : Step nest entry middle)
    (hmore : more.foldlM step middle = .ok final) :
    (entry :: more).foldlM step nest = .ok final := by
  rw [List.foldlM_cons, (step_eq_ok lead).2 h]
  exact hmore

lemma run_blocks {inLoop : Bool} {blocks : List Block} (nest : Nest)
    (reads : ∀ block ∈ blocks, Reads inLoop block)
    (deeper : ∀ block ∈ blocks, nest.Deeper block.head)
    (loops : inLoop = true → looping nest.frames = true) :
    (entriesOf blocks).foldlM step nest = .ok (nest.addAll blocks) := by
  induction blocks generalizing nest with
  | nil => rfl
  | cons block blocks ih =>
    have hfirst := reads block (by simp) nest (deeper block (by simp)) loops
    have hrest := ih (nest.add block) (fun b hb => reads b (by simp [hb]))
      (fun b hb => (add_deeper nest block b.head).2 (deeper b (by simp [hb])))
      (by simpa using loops)
    exact run_append hfirst hrest

/-- A marker that comes next in a well-marked block exceeds no limit. -/
lemma not_exceedsLimit {variant : Variant} {frame : Frame} {marker : Entry} {more : List Entry}
    (marked : Marked variant frame.family frame.indent (frame.markers ++ marker :: more)) :
    exceedsLimit frame marker.row.code = false := by
  unfold exceedsLimit
  cases hlimit : frame.family.limit? marker.row.code with
  | none => rfl
  | some limit =>
    have hcount := marked.within_limits _ _ hlimit
    rw [List.countP_append, List.countP_cons_of_pos (by simp), ← Frame.count_eq] at hcount
    simp only [decide_eq_false_iff_not]
    omega

/-- Nor does it come out of order. -/
lemma not_outOfOrder {variant : Variant} {frame : Frame} {marker : Entry} {more : List Entry}
    (marked : Marked variant frame.family frame.indent (frame.markers ++ marker :: more)) :
    outOfOrder frame marker.row.code = false := by
  unfold outOfOrder
  cases hbranches : frame.branches with
  | nil => rfl
  | cons latest earlier =>
    cases hordered : frame.family.ordered with
    | false => rfl
    | true =>
      have hsorted := marked.in_order hordered
      rw [List.map_append, List.pairwise_append] at hsorted
      have hlatest : latest.marker ∈ frame.markers := by simp [Frame.markers, hbranches]
      have hle := hsorted.2.2 _ (List.mem_map_of_mem hlatest) marker.row.code (by simp)
      simpa using hle

/-- The sections of a block, behind those that were read `before`. -/
lemma run_branches {variant : Variant} {inLoop : Bool} (done : List Block) (frame : Frame)
    (rest : List Frame) (before more : List Branch)
    (marked : Marked variant frame.family frame.indent ((before ++ more).map Branch.marker))
    (header : frame.family.emptyHeader = true → frame.body = [])
    (reads : ∀ block ∈ more.flatMap Branch.children, Reads inLoop block)
    (deeper : ∀ block ∈ more.flatMap Branch.children, frame.indent < block.head.row.indent)
    (loops : inLoop = true → looping (frame :: rest) = true) :
    (branchEntriesOf more).foldlM step
        ⟨done, { frame with branches := before.reverse } :: rest⟩ =
      .ok ⟨done, { frame with branches := (before ++ more).reverse } :: rest⟩ := by
  -- The sections move from `more` to `before` one by one, so that the limits and the order of the
  -- markers are those of the whole block at every step.
  induction more generalizing before with
  | nil => simp [branchEntriesOf]
  | cons branch more ih =>
    obtain ⟨marker, children⟩ := branch
    simp only [List.flatMap_cons, Branch.children, List.forall_mem_append] at reads deeper
    have hmarkers : ({ frame with branches := before.reverse } : Frame).markers =
        before.map Branch.marker := by
      simp [Frame.markers]
    have hmarked : Marked variant frame.family frame.indent
        (({ frame with branches := before.reverse } : Frame).markers ++
          marker :: more.map Branch.marker) := by
      simpa [hmarkers, Branch.marker] using marked
    have hmem : marker ∈ (before ++ .mk marker children :: more).map Branch.marker := by
      simp [Branch.marker]
    have hstart : Step ⟨done, { frame with branches := before.reverse } :: rest⟩ marker
        ⟨done, { frame with branches := .mk marker [] :: before.reverse } :: rest⟩ :=
      @Step.starts ⟨done, _⟩ marker { frame with branches := before.reverse } rest rfl
        (marked.starts marker hmem) (marked.indent_eq marker hmem) (not_exceedsLimit hmarked)
        (not_outOfOrder hmarked) fun hempty _ => header hempty
    have hchildren := run_blocks
      ⟨done, { frame with branches := .mk marker [] :: before.reverse } :: rest⟩ reads.1
      (by simpa [Deeper, Frame.indent] using deeper.1) loops
    rw [addAll_section] at hchildren
    have hmore := ih (before ++ [.mk marker children]) (by simpa using marked) reads.2 deeper.2
    simp only [List.reverse_append, List.reverse_cons, List.reverse_nil, List.nil_append,
      List.append_assoc, List.cons_append] at hmore ⊢
    exact run_cons (marked.lead marker hmem) hstart (run_append hchildren hmore)

/-- Every well-formed block is read. -/
lemma reads_of_wellFormed {variant : Variant} {inLoop : Bool} {block : Block}
    (formed : WellFormed variant inLoop block) : Reads inLoop block := by
  induction formed with
  | leaf lead plain breaks =>
    intro nest deeper loops
    exact run_cons lead (.leaf plain deeper fun hbreak => loops (breaks hbreak)) rfl
  | @compound inLoop family header closer body branches framed formed ih =>
    -- Opener, body, sections and closer are four runs, each from where the one before it ended.
    intro nest deeper loops
    obtain ⟨kind, hkind, hrole⟩ := Option.map_eq_some_iff.1 framed.header_opens
    have hopen : Step nest header ⟨nest.done, ⟨header, kind, family, [], []⟩ :: nest.frames⟩ :=
      .opens hkind hrole deeper
    have hloops : (inLoop || decide (family = .loop)) = true →
        looping (⟨header, kind, family, [], []⟩ :: nest.frames) = true := by
      intro h
      rcases Bool.or_eq_true_iff.1 h with h | h
      · simp [looping, ← loops h]
      · simp [looping, of_decide_eq_true h]
    have hbody := run_blocks ⟨nest.done, ⟨header, kind, family, [], []⟩ :: nest.frames⟩
      (fun b hb => ih b (List.mem_append_left _ hb))
      (fun b hb top htop => by
        obtain rfl := Option.some.inj htop
        exact framed.deeper b (List.mem_append_left _ hb)) hloops
    rw [addAll_body _ _ _ _ rfl] at hbody
    have hbranches := run_branches nest.done ⟨header, kind, family, body, []⟩ nest.frames []
      branches framed.marked framed.header_empty
      (fun b hb => ih b (List.mem_append_right _ hb))
      (fun b hb => framed.deeper b (List.mem_append_right _ hb)) hloops
    have hclose : Step
        ⟨nest.done, ⟨header, kind, family, body, branches.reverse⟩ :: nest.frames⟩ closer
        (nest.add (.compound header body branches closer)) := by
      have := @Step.closes ⟨nest.done, _⟩ closer ⟨header, kind, family, body, branches.reverse⟩
        nest.frames rfl framed.closer_closes framed.closer_indent framed.header_empty
      simpa using this
    exact run_cons framed.header_lead hopen
      (run_append (run_append hbody hbranches) (run_cons framed.closer_lead hclose rfl))

end Nest

namespace Block

lemma reconstruct_rowsOf {variant : Variant} {blocks : List Block}
    (event : IsEvent variant blocks) : reconstruct variant (rowsOf blocks) = .ok blocks := by
  have hlead : ∀ entry ∈ entriesOf blocks, entry.Lead variant := by
    intro entry hentry
    obtain ⟨block, hblock, hentry⟩ := mem_entriesOf.1 hentry
    exact (event.formed block hblock).lead hentry
  have hfold := Entry.fold_eq_ok_iff.2 ⟨hlead, event.placed, rfl⟩
  have hrun := Nest.run_blocks Nest.empty
    (fun block hblock => Nest.reads_of_wellFormed (event.formed block hblock))
    (by simp [Nest.Deeper, Nest.empty]) (by simp)
  rw [Nest.addAll_empty] at hrun
  exact reconstruct_eq_ok.2 ⟨entriesOf blocks, hfold, hrun⟩

/-- The rows of an event's forest are accepted and give back the forest; no other forest has the
same rows. -/
theorem reconstruct_complete {variant : Variant} {blocks : List Block}
    (event : IsEvent variant blocks) :
    reconstruct variant (rowsOf blocks) = .ok blocks ∧
      ∀ other, IsEvent variant other → rowsOf other = rowsOf blocks → other = blocks := by
  have hblocks := reconstruct_rowsOf event
  refine ⟨hblocks, fun other hother hrows => ?_⟩
  have hsame := reconstruct_rowsOf hother
  rw [hrows, hblocks] at hsame
  exact (Except.ok.inj hsame).symm

theorem reconstruct_complete_guardedLoop :
    IsEvent .mv guardedLoop ∧ reconstruct .mv (rowsOf guardedLoop) = .ok guardedLoop ∧
      ∀ other, IsEvent .mv other → rowsOf other = rowsOf guardedLoop → other = guardedLoop :=
  have event : IsEvent .mv guardedLoop := @isEvent_of_reconstruct .mv guardedLoopRows _ rfl
  ⟨event, reconstruct_complete event⟩

end Block

end EventScript
