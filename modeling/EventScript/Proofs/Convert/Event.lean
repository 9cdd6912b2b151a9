import EventScript.Convert.Event
import EventScript.Proofs.Block.Soundness
import EventScript.Proofs.Decompile.Event
import EventScript.Proofs.Script.Writer

/-! How the conversion of an event can end. -/
namespace EventScript

namespace Converter

/-- The causes for which an event may fail. Codes that are not known are one only if they are
refused. -/
def Expects (converter : Converter) (cause : Cause) : Prop :=
  cause.kind ∈ ["SchemaMismatch", "DataError", "StructuralError"] ∨
    converter.options.onUnknown = .fail ∧ ∃ code,
      cause = .unrecognized code converter.variant ∧ Catalog.lookup converter.variant code = none

lemma expects_of_allowed {converter : Converter} {index : Nat} {code : Int} {cause : Cause}
    (h : Decompile.Failure.Allowed converter.context (.located index code cause)) :
    converter.Expects cause := by
  cases cause with
  | schema fault => simp [Expects, Cause.kind]
  | data fault => simp [Expects, Cause.kind]
  | structural fault => exact h.elim
  | unrecognized code variant =>
    obtain ⟨hpolicy, rfl, hlookup⟩ := h
    exact .inr ⟨hpolicy, code, rfl, hlookup⟩

lemma decompile_ends (converter : Converter) (id : EventId) (raw : List RawRow) :
    Ends (fun failure => ∃ fault, failure = .event fault ∧ converter.Expects fault.cause)
      (fun fragment => ∀ p ∈ fragment.placeholders, Decompile.Kept converter.context p)
      (converter.decompile id raw) := by
  unfold decompile
  cases RawRow.readAll raw with
  | error fault => exact ⟨_, rfl, .inl (by simp [Cause.kind])⟩
  | ok rows =>
    cases hblocks : Block.reconstruct converter.variant rows with
    | error fault =>
      simp only [hblocks]
      exact ⟨_, rfl, .inl (by simp [Cause.kind])⟩
    | ok blocks =>
      have hends := Decompile.blocks_decompiles fun block hblock =>
        Decompile.block_decompiles converter.context
          ((Block.formed_of_reconstruct hblocks).1 block hblock)
      cases hfragment : Decompile.blocks converter.context blocks with
      | ok fragment =>
        rw [hfragment] at hends
        simp only [hblocks, hfragment]
        exact hends
      | error failure =>
        rw [hfragment] at hends
        simp only [hblocks, hfragment]
        cases failure with
        | defect d => exact hends.elim
        | located index code cause => exact ⟨_, rfl, expects_of_allowed hends⟩

lemma decompile_eq_ok {converter : Converter} {id : EventId} {raw : List RawRow}
    {fragment : Fragment} :
    converter.decompile id raw = .ok fragment ↔
      ∃ rows forest, RawRow.readAll raw = .ok rows ∧
        Block.reconstruct converter.variant rows = .ok forest ∧
        Decompile.blocks converter.context forest = .ok fragment := by
  unfold decompile
  cases hrows : RawRow.readAll raw with
  | error fault => simp
  | ok rows =>
    cases hforest : Block.reconstruct converter.variant rows with
    | error fault => simp [hforest]
    | ok forest =>
      cases hblocks : Decompile.blocks converter.context forest with
      | ok fragment => simp [hforest, hblocks]
      | error failure => cases failure <;> simp [hforest, hblocks]

/-- What an event of `count` rows is converted to, once it is decompiled. -/
def outcome (style : Style) (id : EventId) (count : Nat) (fragment : Fragment) :
    EventResult × List Log.Record :=
  ({ eventId := id
     text := some (Stmt.render style fragment.stmts)
     diagnostics := fragment.placeholders.map (placeholderDiagnostic id) },
   fragment.placeholders.map (placeholderWarning id) ++
    [⟨.debug, .conversion, "event " ++ id.text ++ ": translated " ++ Text.ofNat count ++
      " commands"⟩])

lemma convertEvent_eq (converter : Converter) (id : EventId) (raw : List RawRow) :
    converter.convertEvent id raw =
      (converter.decompile id raw).map (outcome converter.options.style id raw.length) := by
  unfold convertEvent
  cases converter.decompile id raw <;> rfl

lemma convertEvent_eq_ok {converter : Converter} {id : EventId} {raw : List RawRow}
    {result : EventResult} {records : List Log.Record} :
    converter.convertEvent id raw = .ok (result, records) ↔
      ∃ fragment, converter.decompile id raw = .ok fragment ∧
        outcome converter.options.style id raw.length fragment = (result, records) := by
  rw [convertEvent_eq]
  cases converter.decompile id raw <;> simp [Except.map]

/-- What becomes of an event that can be decompiled. -/
lemma convertEvent_of_decompile {converter : Converter} {id : EventId} {raw : List RawRow}
    {fragment : Fragment} (h : converter.decompile id raw = .ok fragment) :
    ∃ result records, converter.convertEvent id raw = .ok (result, records) ∧
      result.text = some (Stmt.render converter.options.style fragment.stmts) ∧
      result.diagnostics = fragment.placeholders.map (placeholderDiagnostic id) :=
  ⟨_, _, by rw [convertEvent, h]; rfl, rfl, rfl⟩

/-- An event is converted, or fails for one of the expected causes; no defect is reachable. A
converted event was written without refusing a step, and the commands that were kept as comments are
those whose codes are not known. -/
theorem convertEvent_ends (converter : Converter) (id : EventId) (raw : List RawRow) :
    (∃ result records, converter.convertEvent id raw = .ok (result, records) ∧
      (∃ fragment writer, converter.decompile id raw = .ok fragment ∧
        (Stmt.stepsOf fragment.stmts).foldlM Writer.step
          { style := converter.options.style } = .ok writer ∧
        result.text = some writer.render) ∧
      ∀ diagnostic ∈ result.diagnostics, converter.options.onUnknown = .placeholder ∧
        ∃ code, diagnostic.code = some (.number code) ∧
          Catalog.lookup converter.variant code = none) ∨
    ∃ fault, converter.convertEvent id raw = .error (.event fault) ∧
      converter.Expects fault.cause := by
  have hends := converter.decompile_ends id raw
  cases hfragment : converter.decompile id raw with
  | error failure =>
    rw [hfragment] at hends
    obtain ⟨fault, rfl, hcause⟩ := hends
    exact .inr ⟨fault, by simp [convertEvent, hfragment, bind, Except.bind], hcause⟩
  | ok fragment =>
    rw [hfragment] at hends
    obtain ⟨writer, hwriter, -⟩ :=
      Stmt.balanced_stepsOf fragment.stmts { style := converter.options.style }
    obtain ⟨result, records, hresult, htext, hdiagnostics⟩ := convertEvent_of_decompile hfragment
    refine .inl ⟨result, records, hresult, ⟨fragment, writer, rfl, hwriter, ?_⟩, ?_⟩
    · rw [htext, Stmt.render, Writer.run_eq_of_foldlM hwriter]
    · intro diagnostic hdiagnostic
      rw [hdiagnostics] at hdiagnostic
      obtain ⟨p, hp, rfl⟩ := List.mem_map.1 hdiagnostic
      obtain ⟨hpolicy, hlookup⟩ := hends p hp
      exact ⟨hpolicy, p.code, rfl, hlookup⟩

end Converter

end EventScript
