import EventScript.Proofs.Block.Completeness
import EventScript.Proofs.Block.Reindent
import EventScript.Proofs.Block.Within

/-! Well-formed blocks stay so when each entry is replaced by one with the same row and the same part
in the nesting, also if another editor generation is meant. -/
namespace EventScript

variable {g : Entry → Entry}

lemma Entry.placedFrom_map {position : Nat} {list : List Entry} (placed : PlacedFrom position list)
    (hindex : ∀ entry ∈ list, (g entry).index = entry.index)
    (hrows : ∀ entry ∈ list, (g entry).rows = entry.rows) :
    PlacedFrom position (list.map g) := by
  induction list generalizing position with
  | nil => trivial
  | cons entry list ih =>
    obtain ⟨hposition, placed⟩ := placed
    refine ⟨(hindex entry (by simp)).trans hposition, ?_⟩
    rw [hrows entry (by simp)]
    exact ih placed (fun entry hentry => hindex entry (by simp [hentry]))
      fun entry hentry => hrows entry (by simp [hentry])

namespace Block

mutual

lemma entries_map : ∀ block : Block, (block.map g).entries = block.entries.map g
  | .leaf _ => rfl
  | .compound _ body branches _ => by
    simp only [map, entries, entriesOf_mapList body, branchEntriesOf_mapBranches branches,
      List.map_cons, List.map_append, List.map_nil]
  termination_by structural block => block

lemma entriesOf_mapList : ∀ blocks : List Block,
    entriesOf (mapList g blocks) = (entriesOf blocks).map g
  | [] => rfl
  | block :: rest => by
    simp only [mapList, entriesOf, entries_map block, entriesOf_mapList rest, List.map_append]
  termination_by structural blocks => blocks

lemma branchEntriesOf_mapBranches : ∀ branches : List Branch,
    branchEntriesOf (mapBranches g branches) = (branchEntriesOf branches).map g
  | [] => rfl
  | .mk _ children :: rest => by
    simp only [mapBranches, branchEntriesOf, entriesOf_mapList children,
      branchEntriesOf_mapBranches rest, List.map_cons, List.map_append]
  termination_by structural branches => branches

end

/-- The markers of sections whose entries are replaced. -/
lemma markers_map (branches : List Branch) :
    (branches.map (Branch.map g)).map Branch.marker = (branches.map Branch.marker).map g := by
  simp only [List.map_map]
  exact List.map_congr_left fun branch _ => rfl

lemma enclosed_map (body : List Block) (branches : List Branch) :
    enclosed (body.map (map g)) (branches.map (Branch.map g)) =
      (enclosed body branches).map (map g) := by
  simp only [enclosed, List.map_append, List.map_flatMap, List.flatMap_map]
  rfl

/-- An entry that can take the place of another one in an event of a generation. -/
structure Replaces (variant : Variant) (entry other : Entry) : Prop where
  row_eq : other.row = entry.row
  role_eq : other.role? = entry.role?
  lead : other.Lead variant

lemma Marked.map {variant variant' : Variant} {family : Family} {indent : Int}
    {markers : List Entry} (marked : Marked variant family indent markers)
    (h : ∀ marker ∈ markers, Replaces variant' marker (g marker)) :
    Marked variant' family indent (markers.map g) where
  lead := by
    simp only [List.forall_mem_map]
    exact fun marker hmarker => (h marker hmarker).lead
  starts := by
    simp only [List.forall_mem_map, Entry.StartsSection]
    intro marker hmarker
    rw [(h marker hmarker).role_eq]
    exact marked.starts marker hmarker
  indent_eq := by
    simp only [List.forall_mem_map]
    intro marker hmarker
    rw [(h marker hmarker).row_eq]
    exact marked.indent_eq marker hmarker
  within_limits := by
    intro code limit hlimit
    rw [List.countP_map]
    have hcount : markers.countP ((fun marker => decide (marker.row.code = code)) ∘ g) =
        markers.countP fun marker => decide (marker.row.code = code) :=
      List.countP_congr fun marker hmarker => by simp [(h marker hmarker).row_eq]
    rw [hcount]
    exact marked.within_limits code limit hlimit
  in_order := by
    intro hordered
    have hcodes : (markers.map g).map (fun marker => marker.row.code) =
        markers.map fun marker => marker.row.code := by
      rw [List.map_map]
      exact List.map_congr_left fun marker hmarker => by simp [(h marker hmarker).row_eq]
    rw [hcodes]
    exact marked.in_order hordered

/-- The step: what a block has of its own keeps its form. -/
lemma Framed.map {variant variant' : Variant} {family : Family} {header closer : Entry}
    {body : List Block} {branches : List Branch}
    (framed : Framed variant family header body branches closer)
    (h : ∀ entry ∈ (Block.compound header body branches closer).entries,
      Replaces variant' entry (g entry)) :
    Framed variant' family (g header) (body.map (map g)) (branches.map (Branch.map g))
      (g closer) := by
  have hheader := h header (mem_entries_compound.2 (.inl rfl))
  have hcloser := h closer (mem_entries_compound.2 (.inr (.inr (.inl rfl))))
  have hmarkers := framed.marked.map fun marker hmarker =>
    h marker (mem_entries_compound.2 (.inr (.inl hmarker)))
  refine ⟨hheader.lead, hheader.role_eq.trans framed.header_opens, ?_, hcloser.lead,
    hcloser.role_eq.trans framed.closer_closes, ?_, ?_, ?_⟩
  · rw [markers_map, hheader.row_eq]
    exact hmarkers
  · rw [hcloser.row_eq, hheader.row_eq]
    exact framed.closer_indent
  · intro hempty
    simp [framed.header_empty hempty]
  · rw [enclosed_map]
    simp only [List.forall_mem_map]
    intro b hb
    have hhead := h b.head
      (mem_entries_compound.2 (.inr (.inr (.inr ⟨b, hb, b.head_mem_entries⟩))))
    rw [head_map, hheader.row_eq, hhead.row_eq]
    exact framed.deeper b hb

/-- A well-formed block stays so when its entries are replaced. -/
lemma WellFormed.map {variant variant' : Variant} {inLoop : Bool} {b : Block}
    (formed : WellFormed variant inLoop b)
    (h : ∀ entry ∈ b.entries, Replaces variant' entry (g entry)) :
    WellFormed variant' inLoop (b.map g) := by
  induction formed with
  | @leaf inLoop entry lead plain breaks =>
    have hentry := h entry (by simp [entries])
    refine .leaf hentry.lead ?_ ?_
    · rw [Entry.IsPlain, hentry.role_eq]
      exact plain
    · rw [hentry.row_eq]
      exact breaks
  | @compound inLoop family header closer body branches framed _ ih =>
    rw [Block.map, mapList_eq, mapBranches_eq]
    refine .compound (framed.map h) ?_
    rw [enclosed_map]
    simp only [List.forall_mem_map]
    exact fun b hb => ih b hb fun entry hentry =>
      h entry (mem_entries_compound.2 (.inr (.inr (.inr ⟨b, hb, hentry⟩))))

/-- The rows of an event are nested in the same way in another generation if each entry can be
replaced by one that has its position and its rows. -/
lemma reconstruct_map {variant variant' : Variant} {rows : List Row} {forest : List Block}
    (hforest : reconstruct variant rows = .ok forest)
    (h : ∀ entry ∈ entriesOf forest, Replaces variant' entry (g entry))
    (hindex : ∀ entry ∈ entriesOf forest, (g entry).index = entry.index)
    (hrows : ∀ entry ∈ entriesOf forest, (g entry).rows = entry.rows) :
    reconstruct variant' rows = .ok (forest.map (map g)) := by
  have event := isEvent_of_reconstruct hforest
  have hentries : entriesOf (forest.map (map g)) = (entriesOf forest).map g := by
    rw [← mapList_eq, entriesOf_mapList]
  have formed : ∀ b ∈ forest.map (map g), WellFormed variant' false b := by
    simp only [List.forall_mem_map]
    exact fun b hb => (event.formed b hb).map fun entry hentry =>
      h entry (mem_entriesOf.2 ⟨b, hb, hentry⟩)
  have placed : Entry.PlacedFrom 0 (entriesOf (forest.map (map g))) := by
    rw [hentries]
    exact Entry.placedFrom_map event.placed hindex hrows
  have hsame : rowsOf (forest.map (map g)) = rows := by
    rw [rowsOf, hentries, List.flatMap_map, ← rowsOf_of_reconstruct hforest, rowsOf]
    exact List.flatMap_congr hrows
  rw [← hsame]
  exact reconstruct_rowsOf ⟨formed, placed⟩

end Block

end EventScript
