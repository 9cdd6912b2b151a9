import EventScript.Proofs.Block.Completeness
import EventScript.Proofs.Block.Within

/-! Rows that come one after another: what the first rows of a list lead to, and when no further
rows can make an event of them. -/
namespace EventScript

open Block (entriesOf branchEntriesOf)

variable {variant : Variant}

namespace Entry

/-! Folding the first rows of a list. -/

lemma foldFrom_append (index : Nat) (reversed : List Entry) (list more : List Row) :
    foldFrom variant index reversed (list ++ more) =
      foldFrom variant index reversed list >>= fun entries =>
        foldFrom variant (index + list.length) entries.reverse more := by
  induction list generalizing index reversed with
  | nil => simp [foldFrom]
  | cons row list ih =>
    rw [List.cons_append, foldFrom, foldFrom, bind_assoc]
    apply bind_congr
    intro next
    rw [ih, List.length_cons, Nat.add_assoc, Nat.add_comm 1]

/-- Further rows leave the entries so far as they are, but for more rows in the latest one. -/
lemma extended_of_foldFrom {index : Nat} {last : Entry} {earlier entries : List Entry}
    {more : List Row} (h : foldFrom variant index (last :: earlier) more = .ok entries) :
    ∃ extras rest, entries = earlier.reverse ++ { last with extras := extras } :: rest := by
  induction more generalizing index last earlier with
  | nil =>
    obtain rfl := Except.ok.inj h
    exact ⟨last.extras, [], List.reverse_cons⟩
  | cons row more ih =>
    rw [foldFrom] at h
    obtain ⟨next, habsorb, h⟩ := bind_eq_ok.1 h
    rcases absorb_eq_ok.1 habsorb with ⟨-, rfl⟩ | ⟨last', earlier', heq, -, rfl⟩
    · obtain ⟨extras, rest, rfl⟩ := ih h
      exact ⟨last.extras, _, by rw [List.reverse_cons, List.append_assoc]; rfl⟩
    · obtain ⟨rfl, rfl⟩ := List.cons.inj heq
      obtain ⟨extras, rest, rfl⟩ := ih h
      exact ⟨extras, rest, rfl⟩

/-- The entries of the first rows of a list are entries of the list, but for the rows of the last
one. -/
lemma exists_fold_of_append {list more : List Row} {entries : List Entry}
    (h : fold variant (list ++ more) = .ok entries) :
    ∃ first, fold variant list = .ok first ∧ (first = [] ∨ ∃ earlier last extras rest,
      first = earlier ++ [last] ∧ entries = earlier ++ { last with extras := extras } :: rest) := by
  rw [fold, foldFrom_append] at h
  obtain ⟨first, hfirst, h⟩ := bind_eq_ok.1 h
  refine ⟨first, hfirst, ?_⟩
  cases hreverse : first.reverse with
  | nil => exact .inl (List.reverse_eq_nil_iff.1 hreverse)
  | cons last earlier =>
    rw [hreverse] at h
    obtain ⟨extras, rest, hentries⟩ := extended_of_foldFrom h
    refine .inr ⟨earlier.reverse, last, extras, rest, ?_, hentries⟩
    rw [← List.reverse_cons, ← hreverse, List.reverse_reverse]

lemma flatMap_rows_eq_nil {entries : List Entry} : entries.flatMap rows = [] ↔ entries = [] := by
  cases entries <;> simp [rows]

/-- The rows of a list behind an entry and those of the entry come to the rest of the list. -/
lemma rows_behind {before after : List Entry} {entry : Entry}
    (placed : PlacedFrom 0 (before ++ entry :: after)) :
    entry.index + entry.rows.length + (after.flatMap rows).length =
      ((before ++ entry :: after).flatMap rows).length := by
  obtain ⟨-, hindex, -⟩ := (placedFrom_append 0 before (entry :: after)).1 placed
  simp only [List.flatMap_append, List.flatMap_cons, List.length_append]
  omega

end Entry

lemma Block.entriesOf_eq_nil {blocks : List Block} : entriesOf blocks = [] ↔ blocks = [] := by
  cases blocks with
  | nil => simp [entriesOf]
  | cons b blocks => simp [entriesOf, List.ne_nil_of_mem b.head_mem_entries]

/-- A block that is open, has no section yet and may have nothing in front of its sections. -/
def Frame.Bare (frame : Frame) : Prop := frame.family.emptyHeader = true ∧ frame.branches = []

lemma Frame.bare_iff {frame : Frame} :
    frame.Bare ↔ frame.family = .choice ∧ frame.branches = [] := by
  unfold Bare
  cases frame.family <;> simp [Family.emptyHeader]

lemma Frame.bare_add {frame : Frame} {b : Block} : (frame.add b).Bare ↔ frame.Bare := by
  unfold Bare
  rw [add_family]
  unfold add
  split <;> simp [*]

lemma Frame.body_add_ne_nil {frame : Frame} (bare : frame.Bare) (b : Block) :
    (frame.add b).body ≠ [] := by
  simp [add, bare.2]

namespace Nest

/-! Nests that no rows can finish. -/

/-- Something stands in a block that waits for its first section: a block in its body, or one that
is still open. -/
inductive Stuck : List Frame → Prop
  | body {top : Frame} {rest : List Frame} (bare : top.Bare) (hbody : top.body ≠ []) :
      Stuck (top :: rest)
  | inside {top frame : Frame} {rest : List Frame} (hframe : frame ∈ rest) (bare : frame.Bare) :
      Stuck (top :: rest)

lemma Stuck.exists_bare {frames : List Frame} (stuck : Stuck frames) :
    ∃ frame ∈ frames, frame.Bare := by
  cases stuck with
  | @body top rest bare hbody => exact ⟨top, by simp, bare⟩
  | @inside top frame rest hframe bare => exact ⟨frame, by simp [hframe], bare⟩

/-- The innermost block is in order if nothing stands in it too early. -/
lemma stuck_cons {top : Frame} {rest : List Frame} (h : top.Bare → top.body = []) :
    Stuck (top :: rest) ↔ ∃ frame ∈ rest, frame.Bare := by
  constructor
  · intro stuck
    cases stuck with
    | body bare hbody => exact absurd (h bare) hbody
    | @inside _ frame _ hframe bare => exact ⟨frame, hframe, bare⟩
  · rintro ⟨frame, hframe, bare⟩
    exact .inside hframe bare

lemma stuck_section {top : Frame} {rest : List Frame} {branch : Branch} {branches : List Branch} :
    Stuck ({ top with branches := branch :: branches } :: rest) ↔ ∃ frame ∈ rest, frame.Bare :=
  stuck_cons fun bare => absurd bare.2 (List.cons_ne_nil branch branches)

/-- After a block was added, every block that still waits for its first section has something in
it. -/
lemma stuck_add {nest : Nest} {b : Block} :
    Stuck (nest.add b).frames ↔ ∃ frame ∈ nest.frames, frame.Bare := by
  obtain ⟨done, frames⟩ := nest
  cases frames with
  | nil =>
    constructor
    · intro stuck
      exact stuck.exists_bare
    · rintro ⟨frame, hframe, -⟩
      cases hframe
  | cons top rest =>
    change Stuck (top.add b :: rest) ↔ _
    by_cases bare : top.Bare
    · constructor
      · intro _
        exact ⟨top, by simp, bare⟩
      · intro _
        exact .body (Frame.bare_add.2 bare) (Frame.body_add_ne_nil bare b)
    · rw [stuck_cons fun bare' => absurd (Frame.bare_add.1 bare') bare]
      simp [bare]

/-- The step: no entry gets a nest out of this state. -/
lemma Stuck.step {nest next : Nest} {entry : Entry} (stuck : Stuck nest.frames)
    (h : Step nest entry next) : Stuck next.frames := by
  cases h with
  | leaf => exact stuck_add.2 stuck.exists_bare
  | opens => exact (stuck_cons fun _ => rfl).2 stuck.exists_bare
  | starts hframes _ _ _ _ header =>
    rw [hframes, stuck_cons fun bare => header bare.1 bare.2] at stuck
    exact stuck_section.2 stuck
  | closes hframes _ _ header =>
    rw [hframes, stuck_cons fun bare => header bare.1] at stuck
    exact stuck_add.2 stuck

/-- What an entry does to the open blocks does not depend on the rows that continue it. -/
lemma step_extras {nest next : Nest} {entry : Entry} (extras : List Row)
    (h : Step nest entry next) :
    ∃ next', Step nest { entry with extras := extras } next' ∧
      (Stuck next'.frames ↔ Stuck next.frames) := by
  cases h with
  | leaf plain deeper breaks =>
    exact ⟨_, .leaf plain deeper breaks, by rw [stuck_add, stuck_add]⟩
  | opens hkind hrole deeper =>
    refine ⟨_, .opens hkind hrole deeper, ?_⟩
    rw [stuck_cons fun _ => rfl, stuck_cons fun _ => rfl]
  | starts hframes hstarts indent limit order header =>
    refine ⟨_, .starts hframes hstarts indent limit order header, ?_⟩
    rw [stuck_section, stuck_section]
  | closes hframes hcloses indent header =>
    exact ⟨_, .closes hframes hcloses indent header, by rw [stuck_add, stuck_add]⟩

/-- The run over further entries. -/
lemma Stuck.run {nest final : Nest} {list : List Entry} (stuck : Stuck nest.frames)
    (lead : ∀ entry ∈ list, entry.Lead variant) (h : list.foldlM Nest.step nest = .ok final) :
    Stuck final.frames := by
  induction list generalizing nest with
  | nil =>
    obtain rfl := Except.ok.inj h
    exact stuck
  | cons entry list ih =>
    rw [List.foldlM_cons] at h
    obtain ⟨next, hstep, h⟩ := bind_eq_ok.1 h
    have hnext := (step_eq_ok (lead entry (by simp))).1 hstep
    exact ih (stuck.step hnext) (fun entry hentry => lead entry (by simp [hentry])) h

/-- The nest that rows lead to, if they nest so far. -/
def behind (variant : Variant) (rows : List Row) : Except (Located StructuralFault) Nest := do
  let entries ← Entry.fold variant rows
  entries.foldlM step empty

lemma behind_eq_ok {rows : List Row} {nest : Nest} :
    behind variant rows = .ok nest ↔
      ∃ entries, Entry.fold variant rows = .ok entries ∧ entries.foldlM step empty = .ok nest :=
  bind_eq_ok

/-- The first rows of a list that nests so far nest so far, and if they are stuck, the list is. -/
lemma behind_of_append {rows more : List Row} {final : Nest}
    (h : behind variant (rows ++ more) = .ok final) :
    ∃ nest, behind variant rows = .ok nest ∧ (Stuck nest.frames → Stuck final.frames) := by
  obtain ⟨entries, hfold, hrun⟩ := behind_eq_ok.1 h
  obtain ⟨first, hfirst, hsplit⟩ := Entry.exists_fold_of_append hfold
  rcases hsplit with rfl | ⟨earlier, last, extras, rest, rfl, rfl⟩
  · exact ⟨empty, behind_eq_ok.2 ⟨[], hfirst, rfl⟩, nofun⟩
  · have lead := (Entry.fold_eq_ok_iff.1 hfold).1
    have lead' := (Entry.fold_eq_ok_iff.1 hfirst).1 last (by simp)
    rw [List.foldlM_append] at hrun
    obtain ⟨middle, hmiddle, hrun⟩ := bind_eq_ok.1 hrun
    rw [List.foldlM_cons] at hrun
    obtain ⟨next, hnext, hrun⟩ := bind_eq_ok.1 hrun
    obtain ⟨nest, hnest, hstuck⟩ :=
      step_extras last.extras ((step_eq_ok (lead _ (by simp))).1 hnext)
    refine ⟨nest, behind_eq_ok.2 ⟨_, hfirst, run_append hmiddle ?_⟩, fun stuck => ?_⟩
    · exact run_cons lead' hnest rfl
    · exact (hstuck.1 stuck).run (fun entry hentry => lead entry (by simp [hentry])) hrun

/-! Where a nest is stuck. -/

/-- A choice is open and without an arm, although rows have come behind its header; `count` is the
number of rows so far. -/
def Blocked (count : Nat) (nest : Nest) : Prop :=
  ∃ frame ∈ nest.frames, frame.family = .choice ∧ frame.branches = [] ∧
    frame.header.index + 1 < count

lemma rows_header {frames : List Frame} (stacked : Stacked variant frames) {frame : Frame}
    (h : frame ∈ frames) : frame.header.rows.length = 1 := by
  induction frames with
  | nil => cases h
  | cons top rest ih =>
    obtain ⟨hopen, -, stacked⟩ := stacked
    rcases List.mem_cons.1 h with rfl | h
    · simp [hopen.header_lead.extras_eq_nil (by simp [hopen.header_opens])]
    · exact ih stacked h

/-- The entries around the header of an open block; `inner` are the blocks that are open in it. -/
lemma entries_around {nest : Nest} {inner outer : List Frame} {frame : Frame}
    (h : nest.frames = inner ++ frame :: outer) :
    nest.entries = entriesOf nest.done ++ outer.reverse.flatMap Frame.entries ++
      frame.header :: (entriesOf frame.body ++ branchEntriesOf frame.branches.reverse ++
        inner.reverse.flatMap Frame.entries) := by
  simp [entries, h, Frame.entries]

/-- Rows have come behind the header of an open block without sections exactly if there is a block
in its body or one that is open in it. -/
lemma followed_iff {nest : Nest} (sound : nest.Sound variant)
    (placed : Entry.PlacedFrom 0 nest.entries) {inner outer : List Frame} {frame : Frame}
    (hframes : nest.frames = inner ++ frame :: outer) (hbranches : frame.branches = []) :
    frame.header.index + 1 < (nest.entries.flatMap Entry.rows).length ↔
      frame.body ≠ [] ∨ inner ≠ [] := by
  have hframe : frame ∈ nest.frames := by simp [hframes]
  have hheader := rows_header sound.stacked hframe
  have hentries := entries_around hframes
  rw [hentries] at placed ⊢
  have hinner : inner.reverse.flatMap Frame.entries = [] ↔ inner = [] := by
    cases inner <;> simp [Frame.entries]
  rw [← Entry.rows_behind placed, hheader, Nat.lt_add_right_iff_pos, List.length_pos_iff, Ne,
    ← not_and_or, not_iff_not, Entry.flatMap_rows_eq_nil, hbranches]
  simp [branchEntriesOf, Block.entriesOf_eq_nil, hinner]

/-- A nest is stuck if a choice without an arm has been followed by a row. -/
lemma stuck_iff_blocked {nest : Nest} (sound : nest.Sound variant)
    (placed : Entry.PlacedFrom 0 nest.entries) :
    Stuck nest.frames ↔ nest.Blocked (nest.entries.flatMap Entry.rows).length := by
  constructor
  · intro stuck
    generalize hframes : nest.frames = frames at stuck
    cases stuck with
    | @body top rest bare hbody =>
      have hsplit : nest.frames = [] ++ top :: rest := hframes
      have hfollowed := (followed_iff sound placed hsplit bare.2).2 (.inl hbody)
      exact ⟨top, by simp [hframes], (Frame.bare_iff.1 bare).1, bare.2, hfollowed⟩
    | @inside top frame rest hframe bare =>
      obtain ⟨inner, outer, rfl⟩ := List.append_of_mem hframe
      have hsplit : nest.frames = (top :: inner) ++ frame :: outer := hframes
      have hfollowed := (followed_iff sound placed hsplit bare.2).2 (.inr (by simp))
      exact ⟨frame, by simp [hframes], (Frame.bare_iff.1 bare).1, bare.2, hfollowed⟩
  · rintro ⟨frame, hframe, hchoice, hbranches, hfollowed⟩
    obtain ⟨inner, outer, hframes⟩ := List.append_of_mem hframe
    have bare := Frame.bare_iff.2 ⟨hchoice, hbranches⟩
    rw [followed_iff sound placed hframes hbranches] at hfollowed
    rw [hframes]
    cases inner with
    | nil => exact .body bare (by simpa using hfollowed)
    | cons top inner => exact .inside (by simp) bare

end Nest

end EventScript
