import EventScript.Proofs.Decompile.Assembly
import EventScript.Proofs.Decompile.Dependence

/-! Commands with unknown codes: which placeholders a forest leaves behind, and what refusing unknown
codes changes. -/
namespace EventScript

namespace Decompile

open Block

/-- The placeholders of the entries whose commands are not known. -/
def placeholdersOf (variant : Variant) (entries : List Entry) : List Placeholder :=
  (entries.filter fun entry => entry.kind.isNone).map fun entry =>
    ⟨entry.index, entry.row.code, variant⟩

section Placeholders

variable {variant : Variant}

@[simp] lemma placeholdersOf_nil : placeholdersOf variant [] = [] := rfl

@[simp] lemma placeholdersOf_append (entries more : List Entry) :
    placeholdersOf variant (entries ++ more) =
      placeholdersOf variant entries ++ placeholdersOf variant more := by
  simp [placeholdersOf]

lemma placeholdersOf_cons (entry : Entry) (entries : List Entry) :
    placeholdersOf variant (entry :: entries) =
      placeholdersOf variant [entry] ++ placeholdersOf variant entries :=
  placeholdersOf_append [entry] entries

lemma placeholdersOf_known {entry : Entry} {role : Role} (h : entry.role? = some role) :
    placeholdersOf variant [entry] = [] := by
  obtain ⟨kind, hkind, -⟩ := Option.map_eq_some_iff.1 h
  simp [placeholdersOf, hkind]

/-- The entries without a known command are the rows without one: continuation rows are known. -/
lemma placeholdersOf_eq_rows {entries : List Entry} (lead : ∀ entry ∈ entries, entry.Lead variant)
    {position : Nat} (placed : Entry.PlacedFrom position entries) :
    placeholdersOf variant entries =
      (((entries.flatMap Entry.rows).zipIdx position).filter fun place =>
        (Catalog.lookup variant place.1.code).isNone).map fun place =>
          ⟨place.2, place.1.code, variant⟩ := by
  induction entries generalizing position with
  | nil => rfl
  | cons entry entries ih =>
    obtain ⟨rfl, hrest⟩ := placed
    have hlead := lead entry (by simp)
    have hextras : ((entry.extras.zipIdx (entry.index + 1)).filter fun place =>
        (Catalog.lookup variant place.1.code).isNone) = [] := by
      refine List.filter_eq_nil_iff.2 fun place hplace => ?_
      obtain ⟨-, kind, hkind, -⟩ := hlead.continues place.1 (List.fst_mem_of_mem_zipIdx hplace)
      simp [hkind]
    have hmore := ih (fun entry hentry => lead entry (by simp [hentry])) hrest
    rw [placeholdersOf_cons, hmore, List.flatMap_cons, List.zipIdx_append, List.filter_append,
      List.map_append]
    congr 1
    simp only [placeholdersOf, Entry.rows, hlead.kind_eq, List.zipIdx_cons, List.filter_cons,
      hextras, List.filter_nil]
    split <;> rfl

end Placeholders

variable {context : Context}

/-- A block that leaves behind the placeholders of its entries. -/
def Notes (context : Context) (b : Block) : Prop :=
  ∀ fragment, block context b = .ok fragment →
    fragment.placeholders = placeholdersOf context.variant b.entries

lemma notes_blocks {list : List Block} (h : ∀ b ∈ list, Notes context b) {fragment : Fragment}
    (hfragment : blocks context list = .ok fragment) :
    fragment.placeholders = placeholdersOf context.variant (entriesOf list) := by
  induction list generalizing fragment with
  | nil =>
    obtain rfl := Except.ok.inj hfragment
    rfl
  | cons b list ih =>
    rw [blocks] at hfragment
    obtain ⟨first, hfirst, hfragment⟩ := bind_eq_ok.1 hfragment
    obtain ⟨more, hmore, hfragment⟩ := bind_eq_ok.1 hfragment
    obtain rfl := Except.ok.inj hfragment
    have hhead := h b (by simp) first hfirst
    have htail := ih (fun b hb => h b (by simp [hb])) hmore
    rw [entriesOf, placeholdersOf_append, ← hhead, ← htail]
    rfl

lemma notes_fills {heading : Entry → Except Fault (Option Heading)} {branches : List Branch}
    {sections : List Filled} (hsections : List.Forall₂ (Fills context heading) branches sections)
    {family : Family} (starts : ∀ marker ∈ branches.map Branch.marker, marker.StartsSection family)
    (h : ∀ b ∈ branches.flatMap Branch.children, Notes context b) :
    (sections.flatMap fun filled => filled.inner.placeholders) =
      placeholdersOf context.variant (branchEntriesOf branches) := by
  induction hsections with
  | nil => rfl
  | @cons branch filled branches sections hfills _ ih =>
    obtain ⟨marker, children⟩ := branch
    have hmarker : placeholdersOf context.variant [marker] = [] := by
      rcases starts marker (by simp [Branch.marker]) with hrole | hrole <;>
        exact placeholdersOf_known hrole
    have hchildren := notes_blocks (fun b hb => h b (by simpa [Branch.children] using .inl hb))
      hfills.2
    have hrest := ih (fun marker hmarker => starts marker (by simp [hmarker]))
      fun b hb => h b (by simp [hb])
    rw [branchEntriesOf, placeholdersOf_cons, placeholdersOf_append, hmarker, List.nil_append,
      ← hrest, List.flatMap_cons, hchildren, Branch.children]

lemma notes_leaf {entry : Entry} (lead : entry.Lead context.variant) (plain : entry.IsPlain) :
    Notes context (.leaf entry) := by
  intro fragment hfragment
  rw [block, locate_eq_ok] at hfragment
  cases hkind : entry.kind with
  | none =>
    simp only [leaf, hkind, unknown] at hfragment
    cases hpolicy : context.onUnknown with
    | fail => simp [hpolicy] at hfragment
    | placeholder =>
      obtain rfl := Except.ok.inj (by simpa only [hpolicy] using hfragment)
      simp [placeholdersOf, entries, hkind]
  | some kind =>
    have hrole : kind.role = .leaf := by simpa [Entry.IsPlain, Entry.role?, hkind] using plain
    rw [((leaf_yields lead hkind hrole).of_ok hfragment).1]
    simp [placeholdersOf, entries, hkind]

/-- A well-formed block leaves behind one placeholder for each entry that is not known, in order. -/
theorem notes_of_wellFormed {inLoop : Bool} {b : Block}
    (formed : WellFormed context.variant inLoop b) : Notes context b := by
  induction formed with
  | leaf lead plain => exact notes_leaf lead plain
  | @compound _ family header closer body branches framed _ ih =>
    intro fragment hfragment
    have hbody : ∀ {inner}, blocks context body = .ok inner →
        inner.placeholders = placeholdersOf context.variant (entriesOf body) :=
      fun hinner => notes_blocks (fun b hb => ih b (List.mem_append_left _ hb)) hinner
    have hsections : ∀ {heading sections},
        List.Forall₂ (Fills context heading) branches sections →
        (sections.flatMap fun filled => filled.inner.placeholders) =
          placeholdersOf context.variant (branchEntriesOf branches) :=
      fun hfills => notes_fills hfills framed.marked.starts
        fun b hb => ih b (List.mem_append_right _ hb)
    rw [entries, placeholdersOf_cons, placeholdersOf_append, placeholdersOf_append,
      placeholdersOf_known framed.header_opens,
      placeholdersOf_known framed.closer_closes, List.nil_append, List.append_nil]
    cases assembled_of_block framed hfragment with
    | conditional _ _ hinner hfills =>
      simp [chain, hbody hinner, hsections hfills]
    | loop hinner hbranches => simp [hbody hinner, hbranches, branchEntriesOf]
    | choice hnil _ _ hfills => simp [chain, hnil, entriesOf, hsections hfills]
    | battleResult hinner hfills => simp [chain, hbody hinner, hsections hfills]

section Policies

variable {context' : Context} (hnames : context'.names = context.names)
  (hvariant : context'.variant = context.variant)

include hnames hvariant

/-- The policy for unknown codes does not matter to a command that is known. -/
lemma alike_of_known {entry : Entry} (lead : entry.Lead context.variant) {kind : CommandKind}
    (hkind : entry.kind = some kind) : Alike context context' entry entry := by
  refine ⟨rfl, rfl, rfl, rfl, fun plain => ?_⟩
  have hrole : kind.role = .leaf := by simpa [Entry.IsPlain, Entry.role?, hkind] using plain
  obtain ⟨handler, hhandler, -⟩ :=
    handled_of_leaf (Catalog.mem_of_lookup (lead.kind_eq ▸ hkind)) hrole
  have hextras : extras context' entry = extras context entry := by
    simp only [extras, hvariant]
  simp only [leaf, hkind, hhandler, handler_congr hhandler hnames hextras]

variable (context context') in
lemma blocks_eq_of_known {forest : List Block}
    (formed : ∀ b ∈ forest, WellFormed context.variant false b)
    (hknown : placeholdersOf context.variant (entriesOf forest) = []) :
    blocks context' forest = blocks context forest := by
  have halike : ∀ entry ∈ entriesOf forest, Alike context context' entry (id entry) := by
    intro entry hentry
    obtain ⟨b, hb, hmem⟩ := mem_entriesOf.1 hentry
    cases hkind : entry.kind with
    | none =>
      have hnone : entry ∈ (entriesOf forest).filter fun entry => entry.kind.isNone := by
        simp [hentry, hkind]
      rw [List.map_eq_nil_iff.1 hknown] at hnone
      cases hnone
    | some kind => exact alike_of_known hnames hvariant ((formed b hb).lead hmem) hkind
  have hmap := blocks_map fun b hb => block_map hnames (formed b hb)
    fun entry hentry => halike entry (mem_entriesOf.2 ⟨b, hb, hentry⟩)
  rwa [funext map_id, List.map_id'] at hmap

end Policies

end Decompile

end EventScript
