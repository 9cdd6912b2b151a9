import EventScript.Proofs.Convert.Event
import EventScript.Proofs.Decompile.Layout

/-! The style of a script is a matter of its layout: whether an event is converted, what is reported
about it and which logical lines its script has do not depend on the style. -/
namespace EventScript

namespace Converter

/-- The same conversion in another style. -/
def withStyle (converter : Converter) (style : Style) : Converter :=
  { converter with options := { converter.options with style := style } }

/-- Nothing before the writing looks at the style. -/
lemma decompile_withStyle (converter : Converter) (style : Style) (id : EventId)
    (raw : List RawRow) : (converter.withStyle style).decompile id raw =
      converter.decompile id raw := rfl

/-- The script of an event in a style. -/
lemma render_of_decompile {converter : Converter} {id : EventId} {raw : List RawRow}
    {fragment : Fragment} (h : converter.decompile id raw = .ok fragment) (style : Style) :
    Stmt.render style fragment.stmts =
      Line.script style
        ((Stmt.logicalOf fragment.stmts 0).flatMap (LogicalLine.lines style)) := by
  obtain ⟨rows, forest, -, hforest, hblocks⟩ := decompile_eq_ok.1 h
  have formed : ∀ b ∈ forest, Block.WellFormed converter.context.variant false b :=
    (Block.isEvent_of_reconstruct hforest).formed
  have hvisible := Decompile.visible_of_blocks formed hblocks
  rw [Stmt.render, Writer.render_eq_script (Stmt.visible_stepsOf fragment.stmts hvisible),
    Stmt.logical_stepsOf]

/-- An event that can be decompiled is converted in every style, with the same reports and the same
log, and its script is the layout of the logical lines that its statements have. An event that
cannot fails in every style for the same cause. -/
theorem convertEvent_layout (converter : Converter) (id : EventId) (raw : List RawRow) :
    (∃ fragment diagnostics records, converter.decompile id raw = .ok fragment ∧
      ∀ style, (converter.withStyle style).convertEvent id raw =
        .ok (⟨id, some (Line.script style
          ((Stmt.logicalOf fragment.stmts 0).flatMap (LogicalLine.lines style))), diagnostics,
          false⟩, records)) ∨
    ∃ fault, ∀ style, (converter.withStyle style).convertEvent id raw = .error (.event fault) := by
  cases hfragment : converter.decompile id raw with
  | ok fragment =>
    refine .inl ⟨fragment, fragment.placeholders.map (placeholderDiagnostic id),
      (outcome converter.options.style id raw.length fragment).2, rfl, fun style => ?_⟩
    rw [convertEvent_eq, decompile_withStyle, hfragment, ← render_of_decompile hfragment]
    rfl
  | error failure =>
    have hends := converter.decompile_ends id raw
    rw [hfragment] at hends
    obtain ⟨fault, rfl, -⟩ := hends
    refine .inr ⟨fault, fun style => ?_⟩
    rw [convertEvent_eq, decompile_withStyle, hfragment]
    rfl

end Converter

end EventScript
