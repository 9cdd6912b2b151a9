import EventScript.Proofs.Convert.Event
import EventScript.Proofs.Decompile.Unknown

/-! What is reported about commands with unknown codes, and how the two policies for them agree. -/
namespace EventScript

namespace Converter

/-- The same converter with another policy for unknown codes. -/
def withUnknown (converter : Converter) (policy : UnknownPolicy) : Converter :=
  { converter with options := { converter.options with onUnknown := policy } }

/-- The rows whose codes are not known, each with its position. -/
def unknownRows (variant : Variant) (rows : List Row) : List (Row × Nat) :=
  rows.zipIdx.filter fun place => (Catalog.lookup variant place.1.code).isNone

/-- The report about a row with an unknown code. -/
def unknownReport (variant : Variant) (id : EventId) (place : Row × Nat) : Diagnostic where
  eventId := id
  index := some place.2
  code := some (.number place.1.code)
  kind := "UnrecognizedCode"
  message := (Cause.unrecognized place.1.code variant).message

lemma unknownRows_increasing (variant : Variant) (rows : List Row) :
    (unknownRows variant rows).Pairwise fun a b => a.2 < b.2 := by
  have hplaces : rows.zipIdx.Pairwise fun a b => a.2 < b.2 := by
    rw [← List.pairwise_map, List.zipIdx_map_snd]
    exact List.pairwise_lt_range'
  exact hplaces.sublist List.filter_sublist

/-- The placeholders of an event are those of its rows with unknown codes. -/
lemma placeholders_of_decompile {converter : Converter} {id : EventId} {raw : List RawRow}
    {fragment : Fragment} (h : converter.decompile id raw = .ok fragment) :
    ∃ rows, RawRow.readAll raw = .ok rows ∧
      fragment.placeholders = (unknownRows converter.variant rows).map fun place =>
        ⟨place.2, place.1.code, converter.variant⟩ := by
  obtain ⟨rows, forest, hrows, hforest, hblocks⟩ := decompile_eq_ok.1 h
  obtain ⟨formed, hfold⟩ := Block.formed_of_reconstruct hforest
  obtain ⟨lead, placed, rfl⟩ := Entry.fold_eq_ok_iff.1 hfold
  refine ⟨_, hrows, ?_⟩
  rw [Decompile.notes_blocks (fun b hb => Decompile.notes_of_wellFormed (formed b hb)) hblocks]
  exact Decompile.placeholdersOf_eq_rows lead placed

/-- Refusing unknown codes is keeping them and finding none. -/
lemma decompile_fail_eq_ok (converter : Converter) (id : EventId) (raw : List RawRow)
    (fragment : Fragment) :
    (converter.withUnknown .fail).decompile id raw = .ok fragment ↔
      (converter.withUnknown .placeholder).decompile id raw = .ok fragment ∧
        fragment.placeholders = [] := by
  have hpolicies : ∀ {forest : List Block}, (∀ b ∈ forest, b.WellFormed converter.variant false) →
      Decompile.placeholdersOf converter.variant (Block.entriesOf forest) = [] →
      Decompile.blocks (converter.withUnknown .fail).context forest =
        Decompile.blocks (converter.withUnknown .placeholder).context forest :=
    Decompile.blocks_eq_of_known (converter.withUnknown .placeholder).context
      (converter.withUnknown .fail).context rfl rfl
  constructor
  · intro h
    have hnone : fragment.placeholders = [] := by
      refine List.eq_nil_iff_forall_not_mem.2 fun p hp => ?_
      have hends := ((converter.withUnknown .fail).decompile_ends id raw).of_ok h p hp
      cases hends.1
    obtain ⟨rows, forest, hrows, hforest, hblocks⟩ := decompile_eq_ok.1 h
    have formed := (Block.formed_of_reconstruct hforest).1
    have hnotes := Decompile.notes_blocks
      (fun b hb => Decompile.notes_of_wellFormed (formed b hb)) hblocks
    rw [hpolicies formed (hnotes.symm.trans hnone)] at hblocks
    exact ⟨decompile_eq_ok.2 ⟨rows, forest, hrows, hforest, hblocks⟩, hnone⟩
  · rintro ⟨h, hnone⟩
    obtain ⟨rows, forest, hrows, hforest, hblocks⟩ := decompile_eq_ok.1 h
    have formed := (Block.formed_of_reconstruct hforest).1
    have hnotes := Decompile.notes_blocks
      (fun b hb => Decompile.notes_of_wellFormed (formed b hb)) hblocks
    rw [← hpolicies formed (hnotes.symm.trans hnone)] at hblocks
    exact decompile_eq_ok.2 ⟨rows, forest, hrows, hforest, hblocks⟩

/-- Where unknown codes are kept, an event is reported on once for each row with such a code, in the
order of the rows. Where they are refused, the same events are converted except those with a report,
and to the same results. -/
theorem convertEvent_unknown (converter : Converter) (id : EventId) (raw : List RawRow) :
    (∀ result records,
      (converter.withUnknown .placeholder).convertEvent id raw = .ok (result, records) →
      ∃ rows, RawRow.readAll raw = .ok rows ∧
        result.diagnostics =
          (unknownRows converter.variant rows).map (unknownReport converter.variant id) ∧
        result.diagnostics.Pairwise fun a b =>
          ∃ i j : Int, a.index = some i ∧ b.index = some j ∧ i < j) ∧
    ∀ result records,
      (converter.withUnknown .fail).convertEvent id raw = .ok (result, records) ↔
        (converter.withUnknown .placeholder).convertEvent id raw = .ok (result, records) ∧
          result.diagnostics = [] := by
  constructor
  · intro result records h
    obtain ⟨fragment, hfragment, hresult⟩ := convertEvent_eq_ok.1 h
    obtain ⟨rows, hrows, hplaceholders⟩ := placeholders_of_decompile hfragment
    have hdiagnostics : result.diagnostics =
        (unknownRows converter.variant rows).map (unknownReport converter.variant id) := by
      obtain ⟨rfl, -⟩ := Prod.mk.inj hresult
      rw [hplaceholders, List.map_map]
      rfl
    refine ⟨rows, hrows, hdiagnostics, ?_⟩
    rw [hdiagnostics, List.pairwise_map]
    refine (unknownRows_increasing converter.variant rows).imp fun hlt => ?_
    exact ⟨_, _, rfl, rfl, Int.ofNat_lt.2 hlt⟩
  · intro result records
    simp only [convertEvent_eq_ok, decompile_fail_eq_ok]
    constructor
    · rintro ⟨fragment, ⟨hfragment, hnone⟩, hresult⟩
      obtain ⟨rfl, -⟩ := Prod.mk.inj hresult
      exact ⟨⟨fragment, hfragment, hresult⟩, List.map_eq_nil_iff.2 hnone⟩
    · rintro ⟨⟨fragment, hfragment, hresult⟩, hnone⟩
      obtain ⟨rfl, -⟩ := Prod.mk.inj hresult
      exact ⟨fragment, ⟨hfragment, List.map_eq_nil_iff.1 hnone⟩, hresult⟩

theorem convertEvent_unknown_twoCodes :
    let converter : Converter := { variant := .mz }
    let raw : List RawRow := [.ready ⟨999, 0, []⟩, .ready ⟨0, 0, []⟩, .ready ⟨-7, 0, [.int 1]⟩]
    ∃ result records,
      (converter.withUnknown .placeholder).convertEvent (.value (.int 3)) raw =
        .ok (result, records) ∧
      result.diagnostics = [(⟨999, 0, []⟩, 0), (⟨-7, 0, [.int 1]⟩, 2)].map
        (unknownReport .mz (.value (.int 3))) ∧
      (converter.withUnknown .fail).convertEvent (.value (.int 3)) raw ≠ .ok (result, records) := by
  intro converter raw
  obtain ⟨hkept, hfail⟩ := convertEvent_unknown converter (.value (.int 3)) raw
  obtain ⟨rows, hrows, hdiagnostics, -⟩ := hkept _ _ rfl
  obtain rfl := Except.ok.inj hrows
  refine ⟨_, _, rfl, hdiagnostics, fun h => ?_⟩
  cases ((hfail _ _).1 h).2

end Converter

end EventScript
