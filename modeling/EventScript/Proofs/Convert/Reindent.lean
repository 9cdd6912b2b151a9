import EventScript.Proofs.Convert.Event
import EventScript.Proofs.Decompile.Dependence

/-! Indents matter only by their order: an event whose indents are renamed by a strictly increasing
function is converted to the same script, or fails at the same command for the same kind of
cause. -/
namespace EventScript

@[simp] lemma RawRow.readAll_ready (rows : List Row) : readAll (rows.map .ready) = .ok rows := by
  have hfrom : ∀ index, readFrom index (rows.map .ready) = .ok rows := by
    induction rows with
    | nil => intro index; rfl
    | cons row rows ih =>
      intro index
      simp only [List.map_cons, readFrom, read, ih]
  exact hfrom 0

namespace Converter

section

variable {f : Int → Int} (converter : Converter) (id : EventId) (rows : List Row)

lemma codeAt_reindent (index : Nat) :
    codeAt ((rows.map (Row.reindent f)).map .ready) index = codeAt (rows.map .ready) index := by
  unfold codeAt
  cases h : rows[index]? with
  | none => simp [h]
  | some row => simp [h, RawRow.code?, Row.reindent]

/-- Renaming the indents of an event that nests changes nothing in its statements. -/
lemma decompile_reindent {forest : List Block}
    (hforest : Block.reconstruct converter.variant rows = .ok forest)
    (hrenamed : Block.reconstruct converter.variant (rows.map (Row.reindent f)) =
      .ok (forest.map (Block.map (Entry.reindent f)))) :
    converter.decompile id ((rows.map (Row.reindent f)).map .ready) =
      converter.decompile id (rows.map .ready) := by
  have hblocks : Decompile.blocks converter.context (forest.map (Block.map (Entry.reindent f))) =
      Decompile.blocks converter.context forest :=
    Decompile.blocks_map fun b hb => Decompile.block_map rfl
      ((Block.formed_of_reconstruct hforest).1 b hb) fun entry _ => Decompile.alike_reindent entry
  simp only [decompile, RawRow.readAll_ready, hforest, hrenamed, hblocks]

end

/-- Conversion does not depend on the concrete indents. -/
theorem convertEvent_reindent (converter : Converter) (id : EventId) (rows : List Row)
    {f : Int → Int} (hf : StrictMono f) :
    (∃ result records forest,
      converter.convertEvent id (rows.map .ready) = .ok (result, records) ∧
      converter.convertEvent id ((rows.map (Row.reindent f)).map .ready) = .ok (result, records) ∧
      Block.reconstruct converter.variant rows = .ok forest ∧
      Block.reconstruct converter.variant (rows.map (Row.reindent f)) =
        .ok (forest.map (Block.map (Entry.reindent f)))) ∨
    ∃ fault fault',
      converter.convertEvent id (rows.map .ready) = .error (.event fault) ∧
      converter.convertEvent id ((rows.map (Row.reindent f)).map .ready) = .error (.event fault') ∧
      fault'.cause.kind = fault.cause.kind ∧ fault'.index = fault.index ∧
      fault'.code = fault.code := by
  have hrenamed := Block.reconstruct_reindent hf converter.variant rows
  rw [convertEvent_eq, convertEvent_eq]
  cases hforest : Block.reconstruct converter.variant rows with
  | error fault =>
    rw [hforest] at hrenamed
    let report (cause : StructuralFault) : EventFault :=
      ⟨id, fault.index, codeAt (rows.map .ready) fault.index, .structural cause⟩
    have hfails : converter.decompile id (rows.map .ready) =
        .error (.event (report fault.fault)) := by
      simp only [decompile, RawRow.readAll_ready, hforest, report]
    have hfails' : converter.decompile id ((rows.map (Row.reindent f)).map .ready) =
        .error (.event (report (fault.fault.reindent f))) := by
      simp only [decompile, RawRow.readAll_ready, hrenamed, renamed, codeAt_reindent, report]
    rw [hfails, hfails']
    exact .inr ⟨_, _, rfl, rfl, rfl, rfl, rfl⟩
  | ok forest =>
    rw [hforest] at hrenamed
    have hends := converter.decompile_ends id (rows.map .ready)
    rw [converter.decompile_reindent id rows hforest hrenamed, List.length_map, List.length_map,
      List.length_map]
    cases hfragment : converter.decompile id (rows.map .ready) with
    | error failure =>
      rw [hfragment] at hends
      obtain ⟨fault, rfl, -⟩ := hends
      exact .inr ⟨fault, fault, rfl, rfl, rfl, rfl, rfl⟩
    | ok fragment => exact .inl ⟨_, _, forest, rfl, rfl, rfl, hrenamed⟩

theorem convertEvent_reindent_guardedLoop :
    StrictMono (fun i : Int => 3 * i - 5) ∧ ∃ result records,
      Converter.convertEvent { variant := .mv } (.value (.int 1)) (Block.guardedLoopRows.map .ready) =
        .ok (result, records) ∧
      Converter.convertEvent { variant := .mv } (.value (.int 1))
        ((Block.guardedLoopRows.map (Row.reindent fun i => 3 * i - 5)).map .ready) =
        .ok (result, records) := by
  have hf : StrictMono (fun i : Int => 3 * i - 5) := fun i j hij => by simp only; omega
  refine ⟨hf, ?_⟩
  have hok : (Converter.convertEvent { variant := .mv } (.value (.int 1))
    (Block.guardedLoopRows.map .ready)).isOk = true := rfl
  obtain ⟨result, records, -, hresult, hrenamed, -⟩ | ⟨fault, -, hfault, -⟩ :=
    convertEvent_reindent { variant := .mv } (.value (.int 1)) Block.guardedLoopRows hf
  · exact ⟨result, records, hresult, hrenamed⟩
  · rw [hfault] at hok
    cases hok

end Converter

end EventScript
