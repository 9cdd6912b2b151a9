import EventScript.Proofs.Block.Fold
import EventScript.Proofs.Block.Step

/-! Soundness of the reconstruction: whatever it returns nests well and reads back as the rows it
was given. The invariant says of the open blocks what can be said before they are closed. -/
namespace EventScript

open Block (WellFormed Marked enclosed entriesOf branchEntriesOf)

namespace Frame

/-- The entries of an open block in reading order. -/
def entries (frame : Frame) : List Entry :=
  frame.header :: (entriesOf frame.body ++ branchEntriesOf frame.branches.reverse)

/-- The markers so far, in reading order. -/
def markers (frame : Frame) : List Entry := frame.branches.reverse.map Branch.marker

@[simp] lemma add_header (frame : Frame) (block : Block) :
    (frame.add block).header = frame.header := by
  unfold add
  split <;> rfl

@[simp] lemma add_family (frame : Frame) (block : Block) :
    (frame.add block).family = frame.family := by
  unfold add
  split <;> rfl

@[simp] lemma add_indent (frame : Frame) (block : Block) :
    (frame.add block).indent = frame.indent := by
  simp [indent]

@[simp] lemma add_markers (frame : Frame) (block : Block) :
    (frame.add block).markers = frame.markers := by
  unfold add markers
  split
  · rfl
  · rename_i hbranches
    simp [hbranches, Branch.marker]

@[simp] lemma entries_add (frame : Frame) (block : Block) :
    (frame.add block).entries = frame.entries ++ block.entries := by
  unfold add
  split
  · rename_i hbranches
    simp [entries, hbranches, entriesOf, branchEntriesOf]
  · rename_i marker children earlier hbranches
    simp [entries, hbranches, entriesOf, branchEntriesOf]

lemma mem_enclosed_add {frame : Frame} {added block : Block}
    (h : block ∈ enclosed (frame.add added).body (frame.add added).branches) :
    block ∈ enclosed frame.body frame.branches ∨ block = added := by
  unfold add at h
  split at h
  · rename_i hbranches
    simpa [enclosed, hbranches] using h
  · rename_i hbranches
    simp only [enclosed, hbranches, List.flatMap_cons, Branch.children, List.mem_append,
      List.mem_singleton] at h ⊢
    tauto

/-- An open block in which nothing is wrong yet; `inLoop` says whether it is a loop or in one. -/
structure Open (variant : Variant) (inLoop : Bool) (frame : Frame) : Prop where
  header_lead : frame.header.Lead variant
  header_opens : frame.header.role? = some (.opens frame.family)
  marked : Marked variant frame.family frame.indent frame.markers
  header_empty : frame.family.emptyHeader = true → frame.branches ≠ [] → frame.body = []
  deeper : ∀ block ∈ enclosed frame.body frame.branches, frame.indent < block.head.row.indent
  formed : ∀ block ∈ enclosed frame.body frame.branches, WellFormed variant inLoop block

lemma Open.add {variant : Variant} {inLoop : Bool} {frame : Frame} {block : Block}
    (hopen : frame.Open variant inLoop) (formed : WellFormed variant inLoop block)
    (deeper : frame.indent < block.head.row.indent) : (frame.add block).Open variant inLoop where
  header_lead := by simpa using hopen.header_lead
  header_opens := by simpa using hopen.header_opens
  marked := by simpa using hopen.marked
  header_empty := by
    have hempty := hopen.header_empty
    unfold Frame.add
    split
    · rename_i hbranches
      simp [hbranches]
    · rename_i hbranches
      simpa [hbranches] using hempty
  deeper b hb := by
    rcases mem_enclosed_add hb with hb | rfl
    · simpa using hopen.deeper b hb
    · simpa using deeper
  formed b hb := by
    rcases mem_enclosed_add hb with hb | rfl
    · exact hopen.formed b hb
    · exact formed

/-- A frame is opened with nothing in it. -/
lemma open_new {variant : Variant} {inLoop : Bool} {entry : Entry} {kind : CommandKind}
    {family : Family} (lead : entry.Lead variant) (hkind : entry.kind = some kind)
    (hrole : kind.role = .opens family) :
    (⟨entry, kind, family, [], []⟩ : Frame).Open variant inLoop where
  header_lead := lead
  header_opens := by simp [Entry.role?, hkind, hrole]
  marked := ⟨by simp [markers], by simp [markers], by simp [markers], by simp [markers],
    by simp [markers]⟩
  header_empty := by simp
  deeper := by simp [enclosed]
  formed := by simp [enclosed]

lemma count_eq (frame : Frame) (code : Int) :
    frame.count code = frame.markers.countP fun marker => decide (marker.row.code = code) := by
  simp [count, markers, List.countP_map, Function.comp_def]

lemma count_lt_of_exceedsLimit {frame : Frame} {code : Int} {limit : Nat}
    (h : Nest.exceedsLimit frame code = false) (hlimit : frame.family.limit? code = some limit) :
    frame.count code < limit := by
  simpa [Nest.exceedsLimit, hlimit] using h

/-- The latest marker has the greatest code so far, so comparing with it alone is enough. -/
lemma le_of_outOfOrder {frame : Frame} {code : Int}
    (h : Nest.outOfOrder frame code = false) (hordered : frame.family.ordered = true)
    (sorted : (frame.markers.map fun marker => marker.row.code).Pairwise (· ≤ ·)) :
    ∀ marker ∈ frame.markers, marker.row.code ≤ code := by
  obtain ⟨header, kind, family, body, branches⟩ := frame
  cases branches with
  | nil => simp [markers]
  | cons latest earlier =>
    have hlatest : latest.marker.row.code ≤ code := by
      simpa [Nest.outOfOrder, hordered] using h
    simp only [markers, List.reverse_cons, List.map_append, List.map_cons, List.map_nil,
      List.pairwise_append, List.mem_singleton, forall_eq] at sorted
    simp only [markers, List.reverse_cons, List.map_append, List.map_cons, List.map_nil,
      List.mem_append, List.mem_singleton]
    rintro marker (hmem | rfl)
    · exact (sorted.2.2 marker.row.code (List.mem_map_of_mem hmem)).trans hlatest
    · exact hlatest

/-- A marker that passes the checks starts a section with nothing in it. -/
lemma Open.startSection {variant : Variant} {inLoop : Bool} {frame : Frame} {entry : Entry}
    (hopen : frame.Open variant inLoop) (lead : entry.Lead variant)
    (starts : entry.StartsSection frame.family) (indent : entry.row.indent = frame.indent)
    (limit : Nest.exceedsLimit frame entry.row.code = false)
    (order : Nest.outOfOrder frame entry.row.code = false)
    (header : frame.family.emptyHeader = true → frame.branches = [] → frame.body = []) :
    ({ frame with branches := .mk entry [] :: frame.branches } : Frame).Open variant inLoop := by
  have hmarkers : ({ frame with branches := .mk entry [] :: frame.branches } : Frame).markers =
      frame.markers ++ [entry] := by
    simp [markers, Branch.marker]
  have henclosed : enclosed frame.body (.mk entry [] :: frame.branches) =
      enclosed frame.body frame.branches := by
    simp [enclosed, Branch.children]
  refine ⟨hopen.header_lead, hopen.header_opens, ?_, ?_, ?_, ?_⟩
  · rw [hmarkers]
    obtain ⟨hlead, hstarts, hindent, hlimits, horder⟩ := hopen.marked
    refine ⟨?_, ?_, ?_, ?_, ?_⟩
    · exact List.forall_mem_append.2 ⟨hlead, List.forall_mem_singleton.2 lead⟩
    · exact List.forall_mem_append.2 ⟨hstarts, List.forall_mem_singleton.2 starts⟩
    · exact List.forall_mem_append.2 ⟨hindent, List.forall_mem_singleton.2 indent⟩
    · intro code bound hbound
      have hcount := hlimits code bound hbound
      rw [List.countP_append, List.countP_singleton]
      split_ifs with hcode
      · obtain rfl := of_decide_eq_true hcode
        have := count_lt_of_exceedsLimit limit hbound
        rw [count_eq] at this
        omega
      · exact hcount
    · intro hordered
      have hsorted := horder hordered
      have hle := le_of_outOfOrder order hordered hsorted
      simpa [List.pairwise_append] using ⟨hsorted, hle⟩
  · intro hempty _
    by_cases hbranches : frame.branches = []
    · exact header hempty hbranches
    · exact hopen.header_empty hempty hbranches
  · exact fun block hblock => hopen.deeper block (henclosed ▸ hblock)
  · exact fun block hblock => hopen.formed block (henclosed ▸ hblock)

/-- The closer makes a block of an open one. -/
lemma Open.close {variant : Variant} {inLoop : Bool} {frame : Frame} {entry : Entry}
    (hopen : frame.Open variant (inLoop || decide (frame.family = .loop)))
    (lead : entry.Lead variant) (closes : entry.role? = some (.closes frame.family))
    (indent : entry.row.indent = frame.indent)
    (header : frame.family.emptyHeader = true → frame.body = []) :
    WellFormed variant inLoop
      (.compound frame.header frame.body frame.branches.reverse entry) := by
  have henclosed : ∀ block ∈ enclosed frame.body frame.branches.reverse,
      block ∈ enclosed frame.body frame.branches := by
    simp [enclosed]
  exact .compound ⟨hopen.header_lead, hopen.header_opens, hopen.marked, lead, closes, indent,
    header, fun b hb => hopen.deeper b (henclosed b hb)⟩ fun b hb => hopen.formed b (henclosed b hb)

end Frame

namespace Nest

/-- Whether some of the open blocks is a loop. -/
def looping (frames : List Frame) : Bool := frames.any fun frame => decide (frame.family = .loop)

/-- The entries that were read, in order. -/
def entries (nest : Nest) : List Entry :=
  entriesOf nest.done ++ nest.frames.reverse.flatMap Frame.entries

/-- Open blocks, the innermost first, each deeper than the one around it. -/
def Stacked (variant : Variant) : List Frame → Prop
  | [] => True
  | top :: rest => top.Open variant (looping (top :: rest)) ∧
      (∀ outer ∈ rest.head?, outer.indent < top.indent) ∧ Stacked variant rest

/-- What holds after every entry. -/
structure Sound (variant : Variant) (nest : Nest) : Prop where
  done_formed : ∀ block ∈ nest.done, WellFormed variant false block
  stacked : Stacked variant nest.frames

lemma sound_empty (variant : Variant) : empty.Sound variant := ⟨by simp [empty], trivial⟩

@[simp] lemma entries_add (nest : Nest) (block : Block) :
    (nest.add block).entries = nest.entries ++ block.entries := by
  unfold add
  cases hframes : nest.frames with
  | nil => simp [entries, hframes, entriesOf]
  | cons top rest => simp [entries, hframes]

/-- A block that may stand where the next one belongs. -/
lemma Sound.add {variant : Variant} {nest : Nest} {block : Block} (sound : nest.Sound variant)
    (formed : WellFormed variant (looping nest.frames) block) (deeper : nest.Deeper block.head) :
    (nest.add block).Sound variant := by
  obtain ⟨done, frames⟩ := nest
  obtain ⟨done_formed, stacked⟩ := sound
  cases frames with
  | nil =>
    refine ⟨?_, trivial⟩
    simp only [Nest.add, List.mem_append, List.mem_singleton]
    rintro b (hb | rfl)
    · exact done_formed b hb
    · exact formed
  | cons top rest =>
    obtain ⟨hopen, nested, stacked⟩ := stacked
    have hadd := hopen.add formed (deeper top rfl)
    exact ⟨done_formed, by simpa [looping] using hadd, by simpa using nested, stacked⟩

/-- One entry keeps the invariant and is read behind the others. -/
lemma Sound.step {variant : Variant} {nest next : Nest} {entry : Entry}
    (sound : nest.Sound variant) (lead : entry.Lead variant) (h : Step nest entry next) :
    next.Sound variant ∧ next.entries = nest.entries ++ [entry] := by
  cases h with
  | leaf plain deeper breaks =>
    exact ⟨sound.add (.leaf lead plain breaks) deeper, by simp [Block.entries]⟩
  | opens hkind hrole deeper =>
    refine ⟨⟨sound.done_formed, Frame.open_new lead hkind hrole, deeper, sound.stacked⟩, ?_⟩
    simp [entries, Frame.entries, entriesOf, branchEntriesOf]
  | @starts top rest hframes hstarts indent limit order header =>
    obtain ⟨done, frames⟩ := nest
    obtain rfl := hframes
    obtain ⟨done_formed, hopen, nested, stacked⟩ := sound
    refine ⟨⟨done_formed, ?_, nested, stacked⟩, ?_⟩
    · exact hopen.startSection lead hstarts indent limit order header
    · simp [entries, Frame.entries, entriesOf, branchEntriesOf]
  | @closes top rest hframes hcloses indent header =>
    obtain ⟨done, frames⟩ := nest
    obtain rfl := hframes
    obtain ⟨done_formed, hopen, nested, stacked⟩ := sound
    -- What was inside the block may rely on its being a loop; the block itself may not.
    have hloop : looping (top :: rest) = (looping rest || decide (top.family = .loop)) := by
      simp [looping, Bool.or_comm]
    rw [hloop] at hopen
    refine ⟨Sound.add ⟨done_formed, stacked⟩ (hopen.close lead hcloses indent header) nested, ?_⟩
    rw [entries_add]
    simp [entries, Frame.entries, Block.entries]

/-- The run over a list of entries. -/
lemma Sound.run {variant : Variant} {nest final : Nest} {list : List Entry}
    (sound : nest.Sound variant) (lead : ∀ entry ∈ list, entry.Lead variant)
    (h : list.foldlM Nest.step nest = .ok final) :
    final.Sound variant ∧ final.entries = nest.entries ++ list := by
  induction list generalizing nest with
  | nil =>
    obtain rfl := Except.ok.inj h
    exact ⟨sound, by simp⟩
  | cons entry list ih =>
    rw [List.foldlM_cons] at h
    obtain ⟨next, hstep, hrest⟩ := bind_eq_ok.1 h
    have hlead := lead entry (by simp)
    obtain ⟨sound, hentries⟩ := sound.step hlead ((step_eq_ok hlead).1 hstep)
    obtain ⟨sound, hfinal⟩ := ih sound (fun e he => lead e (by simp [he])) hrest
    exact ⟨sound, by simp [hfinal, hentries]⟩

end Nest

namespace Block

/-- The forest that is returned holds the folded entries in their order. -/
lemma reconstruct_eq_ok {variant : Variant} {rows : List Row} {blocks : List Block} :
    reconstruct variant rows = .ok blocks ↔
      ∃ entries, Entry.fold variant rows = .ok entries ∧
        entries.foldlM Nest.step Nest.empty = .ok ⟨blocks, []⟩ := by
  have hfinish : ∀ nest : Nest, nest.finish = .ok blocks ↔ nest = ⟨blocks, []⟩ := by
    rintro ⟨done, frames⟩
    cases frames <;> simp [Nest.finish]
  simp only [reconstruct, bind_eq_ok, hfinish, exists_eq_right]

lemma formed_of_reconstruct {variant : Variant} {rows : List Row} {blocks : List Block}
    (h : reconstruct variant rows = .ok blocks) :
    (∀ block ∈ blocks, WellFormed variant false block) ∧
      Entry.fold variant rows = .ok (entriesOf blocks) := by
  obtain ⟨entries, hfold, hrun⟩ := reconstruct_eq_ok.1 h
  obtain ⟨lead, -, -⟩ := Entry.fold_eq_ok_iff.1 hfold
  obtain ⟨sound, hentries⟩ := (Nest.sound_empty variant).run lead hrun
  have hblocks : entriesOf blocks = entries := by
    simpa [Nest.entries, Nest.empty, entriesOf] using hentries
  exact ⟨sound.done_formed, hblocks ▸ hfold⟩

lemma isEvent_of_reconstruct {variant : Variant} {rows : List Row} {blocks : List Block}
    (h : reconstruct variant rows = .ok blocks) : IsEvent variant blocks := by
  obtain ⟨formed, hfold⟩ := formed_of_reconstruct h
  exact ⟨formed, (Entry.fold_eq_ok_iff.1 hfold).2.1⟩

/-- Whatever is reconstructed from rows is the forest of an event, and reads back as these rows. -/
theorem reconstruct_sound {variant : Variant} {rows : List Row} {blocks : List Block}
    (h : reconstruct variant rows = .ok blocks) :
    rowsOf blocks = rows ∧ IsEvent variant blocks :=
  ⟨(Entry.fold_eq_ok_iff.1 (formed_of_reconstruct h).2).2.2, isEvent_of_reconstruct h⟩

/-- A loop that shows a text of one line and is left when a switch is on. -/
def guardedLoopRows : List Row :=
  [⟨112, 0, []⟩, ⟨101, 1, [.str "", .int 0, .int 0, .int 2]⟩, ⟨401, 1, [.str "Again?"]⟩,
   ⟨111, 1, [.int 0, .int 7, .int 0]⟩, ⟨113, 2, []⟩, ⟨411, 1, []⟩, ⟨0, 2, []⟩, ⟨412, 1, []⟩,
   ⟨413, 0, []⟩]

/-- The blocks of `guardedLoopRows`. -/
def guardedLoop : List Block :=
  let entry (index : Nat) (row : Row) (extras : List Row) : Entry :=
    ⟨index, row, Catalog.lookup .mv row.code, extras⟩
  let text := entry 1 ⟨101, 1, [.str "", .int 0, .int 0, .int 2]⟩ [⟨401, 1, [.str "Again?"]⟩]
  let branch : Block := .compound (entry 3 ⟨111, 1, [.int 0, .int 7, .int 0]⟩ [])
    [.leaf (entry 4 ⟨113, 2, []⟩ [])]
    [.mk (entry 5 ⟨411, 1, []⟩ []) [.leaf (entry 6 ⟨0, 2, []⟩ [])]] (entry 7 ⟨412, 1, []⟩ [])
  [.compound (entry 0 ⟨112, 0, []⟩ []) [.leaf text, branch] [] (entry 8 ⟨413, 0, []⟩ [])]

theorem reconstruct_sound_guardedLoop :
    reconstruct .mv guardedLoopRows = .ok guardedLoop ∧
      rowsOf guardedLoop = guardedLoopRows ∧ IsEvent .mv guardedLoop :=
  have h : reconstruct .mv guardedLoopRows = .ok guardedLoop := rfl
  ⟨h, reconstruct_sound h⟩

end Block

end EventScript
