import EventScript.Proofs.Block.Soundness

/-! The blocks of a forest at every depth, the entries that each of them has of its own, and the
place of an entry among the rows of the event. -/
namespace EventScript

namespace Entry

variable {position : Nat} {entries : List Entry} {entry : Entry}

/-- The rows of an entry stand together, from its position on. -/
lemma rows_around (placed : PlacedFrom position entries) (h : entry ∈ entries) :
    ∃ before after, entries.flatMap rows = before ++ entry.rows ++ after ∧
      position + before.length = entry.index := by
  induction entries generalizing position with
  | nil => cases h
  | cons first entries ih =>
    obtain ⟨hfirst, placed⟩ := placed
    rcases List.mem_cons.1 h with rfl | h
    · exact ⟨[], entries.flatMap rows, by simp, by simp [hfirst]⟩
    · obtain ⟨before, after, hrows, hindex⟩ := ih placed h
      refine ⟨first.rows ++ before, after, by simp [hrows], ?_⟩
      rw [List.length_append]
      omega

lemma le_index (placed : PlacedFrom position entries) (h : entry ∈ entries) :
    position ≤ entry.index := by
  obtain ⟨before, after, -, hindex⟩ := rows_around placed h
  omega

lemma index_increasing (placed : PlacedFrom position entries) :
    entries.Pairwise fun a b => a.index < b.index := by
  induction entries generalizing position with
  | nil => exact .nil
  | cons first entries ih =>
    obtain ⟨hfirst, placed⟩ := placed
    refine List.pairwise_cons.2 ⟨fun entry hentry => ?_, ih placed⟩
    have hle := le_index placed hentry
    rw [rows_length] at hle
    omega

/-- The row that an entry starts with. -/
lemma row_at (placed : PlacedFrom 0 entries) (h : entry ∈ entries) :
    (entries.flatMap rows)[entry.index]? = some entry.row := by
  obtain ⟨before, after, hrows, hindex⟩ := rows_around placed h
  have hlength : before.length = entry.index := by omega
  rw [hrows, List.append_assoc, ← hlength]
  simp [rows]

/-- The rows that continue an entry come right behind it. -/
lemma extra_at (placed : PlacedFrom 0 entries) (h : entry ∈ entries) {row : Row}
    (hrow : row ∈ entry.extras) :
    ∃ place, entry.index < place ∧ place ≤ entry.index + entry.extras.length ∧
      (entries.flatMap rows)[place]? = some row := by
  obtain ⟨before, after, hrows, hindex⟩ := rows_around placed h
  obtain ⟨n, hn, hget⟩ := List.getElem_of_mem hrow
  have hplace : entry.index + 1 + n = before.length + (n + 1) := by omega
  refine ⟨entry.index + 1 + n, by omega, by omega, ?_⟩
  rw [hrows, List.append_assoc, hplace, List.getElem?_append_right (by omega)]
  simp [rows, List.getElem?_append_left hn, List.getElem?_eq_getElem hn, hget]

end Entry

namespace Block

/-- A block at some depth of a forest. -/
inductive Within : Block → List Block → Prop
  | here {b : Block} {forest : List Block} (h : b ∈ forest) : Within b forest
  | inside {b : Block} {forest body : List Block} {branches : List Branch}
      {header closer : Entry} (h : .compound header body branches closer ∈ forest)
      (hb : Within b (enclosed body branches)) : Within b forest

/-- The entries of a block that belong to no block inside it. -/
def own : Block → List Entry
  | .leaf entry => [entry]
  | .compound header _ branches closer => header :: (branches.map Branch.marker ++ [closer])

/-- A block without its sections. -/
def bare : Block → Block
  | .leaf entry => .leaf entry
  | .compound header _ _ closer => .compound header [] [] closer

variable {variant : Variant} {inLoop : Bool} {forest : List Block}

lemma Within.mono {b : Block} {more : List Block} (h : b.Within forest)
    (hsubset : ∀ b ∈ forest, b ∈ more) : b.Within more := by
  cases h with
  | here h => exact .here (hsubset b h)
  | inside h hb => exact .inside (hsubset _ h) hb

lemma Within.wellFormed {b : Block} (h : b.Within forest)
    (formed : ∀ b ∈ forest, WellFormed variant inLoop b) :
    ∃ inLoop, WellFormed variant inLoop b := by
  induction h generalizing inLoop with
  | here h => exact ⟨inLoop, formed _ h⟩
  | inside h _ ih =>
    cases formed _ h with
    | compound _ hinner => exact ih hinner

lemma WellFormed.bare {b : Block} (formed : WellFormed variant inLoop b) :
    WellFormed variant inLoop b.bare := by
  cases formed with
  | leaf lead plain breaks => exact .leaf lead plain breaks
  | @compound _ family header closer body branches framed _ =>
    have marked : Marked variant family header.row.indent ([].map Branch.marker) :=
      ⟨by simp, by simp, by simp, by simp, by simp⟩
    exact .compound
      ⟨framed.header_lead, framed.header_opens, marked, framed.closer_lead, framed.closer_closes,
        framed.closer_indent, fun _ => rfl, by simp [enclosed]⟩ (by simp [enclosed])

section Framed

variable {family : Family} {header closer : Entry} {body : List Block} {branches : List Branch}
  (framed : Framed variant family header body branches closer) {entry : Entry}
  (h : entry ∈ (Block.compound header body branches closer).own)

include framed h

lemma Framed.lead_of_own : entry.Lead variant := by
  simp only [own, List.mem_cons, List.mem_append, List.not_mem_nil, or_false] at h
  rcases h with rfl | hmarker | rfl
  · exact framed.header_lead
  · exact framed.marked.lead entry hmarker
  · exact framed.closer_lead

/-- What a block has of its own opens, marks or closes it. -/
lemma Framed.role?_ne_leaf : entry.role? ≠ some .leaf := by
  simp only [own, List.mem_cons, List.mem_append, List.not_mem_nil, or_false] at h
  rcases h with rfl | hmarker | rfl
  · simp [framed.header_opens]
  · rcases framed.marked.starts entry hmarker with hstarts | hstarts <;> simp [hstarts]
  · simp [framed.closer_closes]

end Framed

lemma head_mem_entries (b : Block) : b.head ∈ b.entries := by
  cases b <;> simp [head, entries]

lemma entriesOf_children_sublist (branches : List Branch) :
    (entriesOf (branches.flatMap Branch.children)).Sublist (branchEntriesOf branches) := by
  induction branches with
  | nil => exact .slnil
  | cons branch branches ih =>
    obtain ⟨marker, children⟩ := branch
    rw [List.flatMap_cons, entriesOf_append, branchEntriesOf]
    exact .cons marker ((List.Sublist.refl _).append ih)

lemma entriesOf_enclosed_sublist (header closer : Entry) (body : List Block)
    (branches : List Branch) :
    (entriesOf (enclosed body branches)).Sublist
      (Block.compound header body branches closer).entries := by
  rw [enclosed, entriesOf_append, entries]
  refine .cons header (List.Sublist.trans ?_ (List.sublist_append_left _ [closer]))
  exact (List.Sublist.refl _).append (entriesOf_children_sublist branches)

lemma entries_sublist_of_mem {b : Block} (h : b ∈ forest) :
    b.entries.Sublist (entriesOf forest) := by
  induction forest with
  | nil => cases h
  | cons first forest ih =>
    rw [entriesOf]
    rcases List.mem_cons.1 h with rfl | h
    · exact List.sublist_append_left _ _
    · exact (ih h).trans (List.sublist_append_right _ _)

/-- The entries of a block stand in the forest in their order. -/
lemma Within.entries_sublist {b : Block} (h : b.Within forest) :
    b.entries.Sublist (entriesOf forest) := by
  induction h with
  | here h => exact entries_sublist_of_mem h
  | inside h _ ih =>
    exact (ih.trans (entriesOf_enclosed_sublist _ _ _ _)).trans (entries_sublist_of_mem h)

lemma WellFormed.exists_own {b : Block} (formed : WellFormed variant inLoop b) {entry : Entry}
    (h : entry ∈ b.entries) : ∃ inner : Block, inner.Within [b] ∧ entry ∈ inner.own := by
  induction formed with
  | @leaf _ leaf _ _ _ => exact ⟨.leaf leaf, .here (List.mem_singleton_self _), h⟩
  | @compound _ _ header closer body branches _ _ ih =>
    have hself : (Block.compound header body branches closer).Within [_] :=
      .here (List.mem_singleton_self _)
    rcases mem_entries_compound.1 h with rfl | hmarker | rfl | ⟨b, hb, hentry⟩
    · exact ⟨_, hself, by simp [own]⟩
    · exact ⟨_, hself, by simp [own, hmarker]⟩
    · exact ⟨_, hself, by simp [own]⟩
    · obtain ⟨inner, hinner, hown⟩ := ih b hb hentry
      have hb : ∀ other ∈ [b], other ∈ enclosed body branches := by simpa using hb
      exact ⟨inner, .inside (List.mem_singleton_self _) (hinner.mono hb), hown⟩

lemma rowsOf_of_reconstruct {rows : List Row} (h : reconstruct variant rows = .ok forest) :
    rowsOf forest = rows :=
  (Entry.fold_eq_ok_iff.1 (formed_of_reconstruct h).2).2.2

lemma row_at_of_reconstruct {rows : List Row} (h : reconstruct variant rows = .ok forest)
    {entry : Entry} (hentry : entry ∈ entriesOf forest) : rows[entry.index]? = some entry.row := by
  rw [← rowsOf_of_reconstruct h]
  exact Entry.row_at (isEvent_of_reconstruct h).placed hentry

/-- Every entry of a forest belongs to one of its blocks. -/
lemma exists_own (formed : ∀ b ∈ forest, WellFormed variant inLoop b) {entry : Entry}
    (h : entry ∈ entriesOf forest) : ∃ b : Block, b.Within forest ∧ entry ∈ b.own := by
  obtain ⟨b, hb, hentry⟩ := mem_entriesOf.1 h
  obtain ⟨inner, hinner, hown⟩ := (formed b hb).exists_own hentry
  exact ⟨inner, hinner.mono (by simpa using hb), hown⟩

end Block

end EventScript
