import EventScript.Proofs.Block.Grammar
import EventScript.Proofs.Outcome

/-! Folding continuation rows, characterized: the entries of a list of rows are the only ones whose
rows are the list, whose positions are right and in which only continuations follow a lead. -/
namespace EventScript

namespace Entry

/-- A row starts an entry of its own, or extends the latest one. -/
lemma absorb_eq_ok {variant : Variant} {reversed next : List Entry} {index : Nat} {row : Row} :
    absorb variant reversed index row = .ok next ↔
      (∀ kind, Catalog.lookup variant row.code = some kind →
          ∀ lead, kind.role ≠ .continuation lead) ∧
        next = ⟨index, row, Catalog.lookup variant row.code, []⟩ :: reversed ∨
      ∃ last earlier, reversed = last :: earlier ∧ last.Continues variant row ∧
        next = { last with extras := last.extras ++ [row] } :: earlier := by
  unfold absorb Continues
  cases hkind : Catalog.lookup variant row.code with
  | none => simp [@eq_comm _ next]
  | some kind =>
    cases hrole : kind.role with
    | continuation lead =>
      cases reversed with
      | nil => simp [hrole]
      | cons last earlier =>
        by_cases hlead : last.row.code = lead
        · by_cases hindent : row.indent = last.row.indent
          · simp [hrole, hlead, hindent, @eq_comm _ next]
          · simp [hrole, hlead, hindent]
        · have hlead' : lead ≠ last.row.code := fun h => hlead h.symm
          simp [hrole, hlead, hlead']
    | _ => simp [hrole, @eq_comm _ next]

/-- What holds of the entries so far, the latest first, once `index` rows are read. -/
structure Folded (variant : Variant) (index : Nat) (reversed : List Entry) : Prop where
  lead : ∀ entry ∈ reversed, entry.Lead variant
  placed : PlacedFrom 0 reversed.reverse
  length_eq : (reversed.reverse.flatMap rows).length = index

lemma Folded.nil (variant : Variant) : Folded variant 0 [] :=
  ⟨by simp, by simp [PlacedFrom], by simp⟩

lemma Folded.absorb {variant : Variant} {index : Nat} {reversed next : List Entry} {row : Row}
    (folded : Folded variant index reversed)
    (h : Entry.absorb variant reversed index row = .ok next) :
    Folded variant (index + 1) next ∧
      next.reverse.flatMap rows = reversed.reverse.flatMap rows ++ [row] := by
  obtain ⟨lead, placed, length_eq⟩ := folded
  rcases absorb_eq_ok.1 h with ⟨starts, rfl⟩ | ⟨last, earlier, rfl, continues, rfl⟩
  · have hrows : (⟨index, row, Catalog.lookup variant row.code, []⟩ : Entry).rows = [row] := rfl
    refine ⟨⟨?_, ?_, ?_⟩, by simp [hrows]⟩
    · rintro entry (_ | ⟨_, hmem⟩)
      · refine ⟨rfl, fun code hcode => ?_, by simp⟩
        obtain ⟨kind, hkind, hrole⟩ := Option.map_eq_some_iff.1 hcode
        exact starts kind hkind code hrole
      · exact lead entry hmem
    · rw [List.reverse_cons, placedFrom_append]
      exact ⟨placed, by simp [PlacedFrom, length_eq]⟩
    · simp [← length_eq]
  · simp only [List.reverse_cons, placedFrom_append, List.flatMap_append, List.flatMap_cons,
      List.flatMap_nil, List.append_nil, List.length_append] at placed length_eq ⊢
    have hlast := lead last (by simp)
    refine ⟨⟨?_, ?_, ?_⟩, by simp [rows]⟩
    · rintro entry (_ | ⟨_, hmem⟩)
      · refine ⟨hlast.kind_eq, hlast.leads, fun extra hextra => ?_⟩
        rcases List.mem_append.1 hextra with hextra | hextra
        · exact hlast.continues extra hextra
        · rw [List.mem_singleton.1 hextra]
          exact continues
      · exact lead entry (List.mem_cons_of_mem last hmem)
    · rw [List.reverse_cons, placedFrom_append]
      exact ⟨placed.1, placed.2.1, trivial⟩
    · simp only [rows, List.length_cons, List.length_append, List.reverse_cons,
        List.flatMap_append, List.flatMap_cons, List.flatMap_nil, List.append_nil,
        List.length_nil] at length_eq ⊢
      omega

/-- The run: from entries that are right for the rows so far to entries that are right for all. -/
lemma Folded.foldFrom {variant : Variant} {index : Nat} {reversed entries : List Entry}
    {more : List Row} (folded : Folded variant index reversed)
    (h : Entry.foldFrom variant index reversed more = .ok entries) :
    (∀ entry ∈ entries, entry.Lead variant) ∧ PlacedFrom 0 entries ∧
      entries.flatMap rows = reversed.reverse.flatMap rows ++ more := by
  induction more generalizing index reversed with
  | nil =>
    obtain rfl := Except.ok.inj h
    exact ⟨fun entry hmem => folded.lead entry (by simpa using hmem), folded.placed, by simp⟩
  | cons row more ih =>
    obtain ⟨next, habsorb, hrest⟩ := bind_eq_ok.1 h
    obtain ⟨folded, hrows⟩ := folded.absorb habsorb
    obtain ⟨lead, placed, heq⟩ := ih folded hrest
    exact ⟨lead, placed, by simp [heq, hrows]⟩

/-- Rows that extend the latest entry are folded into it one after another. -/
lemma foldFrom_extras {variant : Variant} (index : Nat) (last : Entry) (earlier : List Entry)
    (extras more : List Row) (continues : ∀ row ∈ extras, last.Continues variant row) :
    foldFrom variant index (last :: earlier) (extras ++ more) =
      foldFrom variant (index + extras.length)
        ({ last with extras := last.extras ++ extras } :: earlier) more := by
  induction extras generalizing index last with
  | nil => simp
  | cons row extras ih =>
    have habsorb : absorb variant (last :: earlier) index row =
        .ok ({ last with extras := last.extras ++ [row] } :: earlier) :=
      absorb_eq_ok.2 (.inr ⟨last, earlier, rfl, continues row (by simp), rfl⟩)
    rw [List.cons_append, foldFrom, habsorb]
    refine (ih (index + 1) { last with extras := last.extras ++ [row] }
      fun row hrow => continues row (by simp [hrow])).trans ?_
    simp [Nat.add_assoc, Nat.add_comm 1]

lemma foldFrom_entries {variant : Variant} (index : Nat) (reversed entries : List Entry)
    (lead : ∀ entry ∈ entries, entry.Lead variant) (placed : PlacedFrom index entries) :
    foldFrom variant index reversed (entries.flatMap rows) = .ok (reversed.reverse ++ entries) := by
  induction entries generalizing index reversed with
  | nil => simp [foldFrom]
  | cons entry entries ih =>
    obtain ⟨hkind, hleads, hextras⟩ := lead entry (by simp)
    obtain ⟨rfl, placed⟩ := placed
    have habsorb : absorb variant reversed entry.index entry.row =
        .ok ({ entry with extras := [] } :: reversed) := by
      refine absorb_eq_ok.2 (.inl ⟨fun kind hlookup code hrole => ?_, by rw [← hkind]⟩)
      exact hleads code (by simp [role?, hkind, hlookup, hrole])
    rw [List.flatMap_cons, rows, List.cons_append, foldFrom, habsorb]
    refine (foldFrom_extras _ { entry with extras := [] } _ _ _ hextras).trans ?_
    rw [rows_length] at placed
    rw [Nat.add_assoc, Nat.add_comm 1]
    simpa using ih _ (entry :: reversed) (fun e he => lead e (by simp [he])) placed

/-- Folding, characterized. -/
theorem fold_eq_ok_iff {variant : Variant} {list : List Row} {entries : List Entry} :
    fold variant list = .ok entries ↔
      (∀ entry ∈ entries, entry.Lead variant) ∧ PlacedFrom 0 entries ∧
        entries.flatMap rows = list := by
  constructor
  · intro h
    simpa using (Folded.nil variant).foldFrom h
  · rintro ⟨lead, placed, rfl⟩
    exact foldFrom_entries 0 [] entries lead placed

end Entry

end EventScript
