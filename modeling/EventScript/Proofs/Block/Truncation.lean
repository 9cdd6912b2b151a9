import EventScript.Proofs.Block.Location
import EventScript.Proofs.Block.Stuck

/-! Events that are cut off. Rows that do not nest are not mended by further rows. Rows that end in
open blocks are continued by the closers of these blocks, unless a choice waits for its first arm
and something else has come. -/
namespace EventScript

variable {variant : Variant}

namespace Entry

/-- A row as an entry of its own. -/
def single (variant : Variant) (index : Nat) (row : Row) : Entry :=
  ⟨index, row, Catalog.lookup variant row.code, []⟩

/-- Rows as entries of their own, the first one at `index`. -/
def singles (variant : Variant) : Nat → List Row → List Entry
  | _, [] => []
  | index, row :: rest => single variant index row :: singles variant (index + 1) rest

lemma singles_rows (index : Nat) (list : List Row) :
    (singles variant index list).flatMap rows = list := by
  induction list generalizing index with
  | nil => rfl
  | cons row list ih => simp [singles, single, rows, ih]

lemma singles_placed (index : Nat) (list : List Row) :
    PlacedFrom index (singles variant index list) := by
  induction list generalizing index with
  | nil => trivial
  | cons row list ih => exact ⟨rfl, ih (index + 1)⟩

end Entry

/-- The row that closes an open block. -/
def Frame.closing (frame : Frame) : Row := ⟨frame.family.closer, frame.indent, []⟩

namespace Nest

/-! Closing all blocks that are open. -/

lemma role?_closing (variant : Variant) (index : Nat) (frame : Frame) :
    (Entry.single variant index frame.closing).role? = some (.closes frame.family) := by
  unfold Frame.closing
  cases variant <;> cases frame.family <;> rfl

lemma lead_closing (variant : Variant) (index : Nat) (frame : Frame) :
    (Entry.single variant index frame.closing).Lead variant where
  kind_eq := rfl
  leads := by simp [role?_closing]
  continues := by simp [Entry.single]

lemma lead_closings (index : Nat) (frames : List Frame) :
    ∀ entry ∈ Entry.singles variant index (frames.map Frame.closing), entry.Lead variant := by
  induction frames generalizing index with
  | nil => simp [Entry.singles]
  | cons frame frames ih =>
    rw [List.map_cons, Entry.singles, List.forall_mem_cons]
    exact ⟨lead_closing variant index frame, ih (index + 1)⟩

lemma closing_add (nest : Nest) (b : Block) :
    (nest.add b).frames.map Frame.closing = nest.frames.map Frame.closing := by
  unfold add
  cases nest.frames with
  | nil => simp
  | cons top rest => simp [Frame.closing]

/-- Each closer closes the innermost block and leaves a nest that can be closed. -/
lemma closes_all {index : Nat} {nest : Nest} (sound : nest.Sound variant)
    (h : ¬Stuck nest.frames) :
    ∃ forest, (Entry.singles variant index (nest.frames.map Frame.closing)).foldlM step nest =
      .ok ⟨forest, []⟩ := by
  generalize hrows : nest.frames.map Frame.closing = rows
  induction rows generalizing nest index with
  | nil =>
    obtain ⟨done, frames⟩ := nest
    obtain rfl := List.map_eq_nil_iff.1 hrows
    exact ⟨done, rfl⟩
  | cons row rows ih =>
    obtain ⟨done, frames⟩ := nest
    obtain ⟨top, rest, rfl, rfl, rfl⟩ := List.map_eq_cons_iff.1 hrows
    have hbody : top.family.emptyHeader = true → top.body = [] := by
      intro hempty
      by_cases hbranches : top.branches = []
      · by_contra hbody
        exact h (.body ⟨hempty, hbranches⟩ hbody)
      · exact sound.stacked.1.header_empty hempty hbranches
    have lead := lead_closing variant index top
    have hclose : Step ⟨done, top :: rest⟩ (Entry.single variant index top.closing) _ :=
      .closes rfl (role?_closing variant index top) rfl hbody
    have hfree : ¬Stuck (add ⟨done, rest⟩ (.compound top.header top.body top.branches.reverse
        (Entry.single variant index top.closing))).frames := by
      rw [stuck_add]
      rintro ⟨frame, hframe, bare⟩
      exact h (.inside hframe bare)
    obtain ⟨forest, hforest⟩ := ih (sound.step lead hclose).1 hfree (closing_add _ _)
    exact ⟨forest, run_cons lead hclose hforest⟩

/-- Rows that are not stuck are finished by the closers of the blocks that are open. -/
lemma reconstruct_closing {rows : List Row} {nest : Nest} (h : behind variant rows = .ok nest)
    (hfree : ¬Stuck nest.frames) :
    ∃ forest, Block.reconstruct variant (rows ++ nest.frames.map Frame.closing) = .ok forest := by
  obtain ⟨entries, hfold, hrun⟩ := behind_eq_ok.1 h
  obtain ⟨lead, placed, hrows⟩ := Entry.fold_eq_ok_iff.1 hfold
  obtain ⟨sound, -⟩ := (sound_empty variant).run lead hrun
  obtain ⟨forest, hforest⟩ := closes_all sound hfree
  refine ⟨forest, Block.reconstruct_eq_ok.2 ⟨_, ?_, run_append hrun hforest⟩⟩
  rw [Entry.fold_eq_ok_iff, Entry.placedFrom_append, List.flatMap_append, Entry.singles_rows, hrows,
    Nat.zero_add]
  exact ⟨List.forall_mem_append.2 ⟨lead, lead_closings _ _⟩, ⟨placed, Entry.singles_placed _ _⟩,
    rfl⟩

end Nest

namespace Block

variable {rows : List Row}

lemma reconstruct_eq_behind (rows : List Row) :
    reconstruct variant rows = Nest.behind variant rows >>= Nest.finish := by
  rw [reconstruct, Nest.behind, bind_assoc]

/-- Rows that do not nest are not refused for their end. -/
lemma behind_error {fault : Located StructuralFault} (h : Nest.behind variant rows = .error fault) :
    ¬fault.fault.IsUnclosed := by
  rcases bind_eq_error.1 h with hfold | ⟨entries, hfold, hrun⟩
  · exact (Entry.foldFrom_error hfold).2
  · have lead := (Entry.fold_eq_ok_iff.1 hfold).1
    exact ((Nest.sound_empty variant).run_error lead hrun).2

/-- Rows are cut off if they nest as far as they go and leave a block open. -/
lemma reconstruct_eq_unclosed {fault : Located StructuralFault}
    (h : reconstruct variant rows = .error fault) :
    fault.fault.IsUnclosed ↔ ∃ nest, Nest.behind variant rows = .ok nest := by
  rw [reconstruct_eq_behind] at h
  rcases bind_eq_error.1 h with hbehind | ⟨nest, hbehind, hfinish⟩
  · simp [hbehind, behind_error hbehind]
  · simp [hbehind, (Nest.finish_error hfinish).2]

/-- Rows that do not nest stay so whatever follows. -/
lemma reconstruct_append_error {fault : Located StructuralFault}
    (h : Nest.behind variant rows = .error fault) (more : List Row) :
    ∃ later, reconstruct variant (rows ++ more) = .error later := by
  cases hmore : reconstruct variant (rows ++ more) with
  | error later => exact ⟨later, rfl⟩
  | ok forest =>
    rw [reconstruct_eq_behind] at hmore
    obtain ⟨final, hfinal, -⟩ := bind_eq_ok.1 hmore
    obtain ⟨nest, hnest, -⟩ := Nest.behind_of_append hfinal
    cases h.symm.trans hnest

/-- Rows that can be continued to an event are not stuck. -/
lemma not_stuck_of_append {nest : Nest} (h : Nest.behind variant rows = .ok nest)
    {more : List Row} {forest : List Block}
    (hforest : reconstruct variant (rows ++ more) = .ok forest) : ¬Nest.Stuck nest.frames := by
  intro stuck
  obtain ⟨entries, hfold, hrun⟩ := reconstruct_eq_ok.1 hforest
  obtain ⟨nest', hnest, hstuck⟩ := Nest.behind_of_append (Nest.behind_eq_ok.2 ⟨entries, hfold, hrun⟩)
  obtain rfl := Except.ok.inj (h.symm.trans hnest)
  exact nomatch hstuck stuck

lemma stuck_behind_iff {nest : Nest} (h : Nest.behind variant rows = .ok nest) :
    Nest.Stuck nest.frames ↔ nest.Blocked rows.length := by
  obtain ⟨entries, hfold, hrun⟩ := Nest.behind_eq_ok.1 h
  obtain ⟨lead, placed, rfl⟩ := Entry.fold_eq_ok_iff.1 hfold
  obtain ⟨sound, hentries⟩ := (Nest.sound_empty variant).run lead hrun
  obtain rfl : nest.entries = entries := hentries
  exact Nest.stuck_iff_blocked sound placed

/-- What can follow rows that are refused. If they are refused for another reason than their end, no
rows that follow help. If they only end too early, they can be continued to an event unless a choice
without an arm has been followed by a row, and then the closers of the open blocks, from the
innermost to the outermost, make an event of them. -/
theorem reconstruct_extends {fault : Located StructuralFault}
    (h : reconstruct variant rows = .error fault) :
    (¬fault.fault.IsUnclosed →
      ∀ more, ∃ later, reconstruct variant (rows ++ more) = .error later) ∧
    (fault.fault.IsUnclosed → ∃ nest, Nest.behind variant rows = .ok nest ∧ nest.frames ≠ [] ∧
      ((∃ more forest, reconstruct variant (rows ++ more) = .ok forest) ↔
        ¬nest.Blocked rows.length) ∧
      (¬nest.Blocked rows.length →
        ∃ forest, reconstruct variant (rows ++ nest.frames.map Frame.closing) = .ok forest)) := by
  rw [reconstruct_eq_unclosed h]
  constructor
  · intro hrefused
    cases hbehind : Nest.behind variant rows with
    | error early => exact reconstruct_append_error hbehind
    | ok nest => exact absurd ⟨nest, hbehind⟩ hrefused
  · rintro ⟨nest, hbehind⟩
    have hopen : nest.frames ≠ [] := by
      intro hframes
      rw [reconstruct_eq_behind, hbehind, ok_bind, Nest.finish, hframes] at h
      cases h
    refine ⟨nest, hbehind, hopen, ?_⟩
    rw [← stuck_behind_iff hbehind]
    refine ⟨⟨?_, fun hfree => ?_⟩, Nest.reconstruct_closing hbehind⟩
    · rintro ⟨more, forest, hforest⟩
      exact not_stuck_of_append hbehind hforest
    · exact ⟨_, Nest.reconstruct_closing hbehind hfree⟩

/-- A choice that is followed by a pause before its first arm. -/
def pausedChoiceRows : List Row :=
  [⟨102, 0, [.arr [.str "Yes"], .int 1, .int 0, .int 2, .int 0]⟩, ⟨230, 1, [.int 60]⟩]

theorem reconstruct_extends_cut :
    (∃ fault, reconstruct .mv (guardedLoopRows.take 6) = .error fault ∧
      fault.fault.IsUnclosed ∧ ∃ forest,
        reconstruct .mv (guardedLoopRows.take 6 ++ [⟨412, 1, []⟩, ⟨413, 0, []⟩]) = .ok forest) ∧
    ∃ fault, reconstruct .mv pausedChoiceRows = .error fault ∧ fault.fault.IsUnclosed ∧
      ∀ more forest, reconstruct .mv (pausedChoiceRows ++ more) ≠ .ok forest := by
  have hloop : reconstruct .mv (guardedLoopRows.take 6) = .error _ := rfl
  have hchoice : reconstruct .mv pausedChoiceRows = .error _ := rfl
  refine ⟨⟨_, hloop, trivial, ?_⟩, ⟨_, hchoice, trivial, ?_⟩⟩
  · obtain ⟨nest, hbehind, -, -, hclosing⟩ := (reconstruct_extends hloop).2 trivial
    obtain rfl := Except.ok.inj hbehind
    refine hclosing ?_
    rintro ⟨frame, hframe, hfamily, -⟩
    have hlisted : frame ∈ [_, _] := hframe
    simp only [List.mem_cons, List.not_mem_nil, or_false] at hlisted
    rcases hlisted with rfl | rfl <;> cases hfamily
  · obtain ⟨nest, hbehind, -, hextends, -⟩ := (reconstruct_extends hchoice).2 trivial
    obtain rfl := Except.ok.inj hbehind
    intro more forest hforest
    exact hextends.1 ⟨more, forest, hforest⟩ ⟨_, List.mem_singleton_self _, rfl, rfl, by decide⟩

end Block

end EventScript
