import EventScript.Convert.Run
import EventScript.Proofs.Convert.Event
import EventScript.Proofs.Decompile.Validity

/-! The text of an event: nothing that is written leaves its line, and the lines form a suite. -/
namespace EventScript

open Writer

namespace Converter

variable {converter : Converter} {id : EventId} {raw : List RawRow}

/-- The statements of an event are valid where no loop is around them. -/
lemma valid_of_decompile (valid : converter.names.Valid) {fragment : Fragment}
    (h : converter.decompile id raw = .ok fragment) :
    ∀ stmt ∈ fragment.stmts, stmt.Valid false := by
  obtain ⟨rows, forest, -, hforest, hblocks⟩ := decompile_eq_ok.1 h
  have formed := (Block.formed_of_reconstruct hforest).1
  exact Decompile.blocks_valid
    (fun b hb _ => Decompile.valid_of_wellFormed valid (formed b hb)) hblocks

lemma fit_of_decompile (valid : converter.names.Valid) {fragment : Fragment}
    (h : converter.decompile id raw = .ok fragment) :
    ∀ step ∈ Stmt.stepsOf fragment.stmts, step.Fit :=
  Stmt.fit_stepsOf fun stmt hmem => (valid_of_decompile valid h stmt hmem).fit

/-- The lines of an event form a suite. -/
lemma suite_of_decompile (valid : converter.names.Valid) {fragment : Fragment}
    (h : converter.decompile id raw = .ok fragment) (style : Style) :
    Suite false false 0 (Stmt.anyCode fragment.stmts)
      (written style (Stmt.stepsOf fragment.stmts)) := by
  have hasked : Suite false false 0 (Stmt.anyCode fragment.stmts || false)
      (asked style 0 (Stmt.stepsOf fragment.stmts) ++ []) :=
    Stmt.suite_stepsOf (fun stmt hmem => (valid_of_decompile valid h stmt hmem).extends) .nil
  rw [Bool.or_false, List.append_nil] at hasked
  exact hasked.trimLast

/-- The steps that write a stub. -/
def stubSteps (d : Diagnostic) : List Step :=
  [.comment ("event " ++ d.eventId.text ++ " could not be translated"),
    .comment (d.kind ++ ": " ++ d.message), .line "pass"]

lemma fit_stubSteps (d : Diagnostic) : ∀ step ∈ stubSteps d, step.Fit := by
  have hpass : Step.Fit (.line "pass") := Step.fit_line fun _ => Line.fit_word "pass" (by simp)
  simp [stubSteps, Step.fit_comment, hpass]

/-- The style and the steps of an event's script: those of its statements, or those of a stub if it
fails and a stub is to stand for it. -/
inductive Script (converter : Converter) (id : EventId) (raw : List RawRow) :
    Style → List Step → Prop
  | converted {fragment : Fragment} (h : converter.decompile id raw = .ok fragment) :
      Script converter id raw converter.options.style (Stmt.stepsOf fragment.stmts)
  | stub {fault : EventFault} (h : converter.decompile id raw = .error (.event fault))
      (hpolicy : converter.options.onError = .placeholder) :
      Script converter id raw {} (stubSteps (Diagnostic.ofFault fault))

lemma Script.fit (valid : converter.names.Valid) {style : Style} {steps : List Step}
    (h : Script converter id raw style steps) : ∀ step ∈ steps, step.Fit := by
  cases h with
  | converted hfragment => exact fit_of_decompile valid hfragment
  | stub _ _ => exact fit_stubSteps _

/-- The text of an event is that of its script. -/
lemma script_of_convertOne {result : EventResult} {records : List Log.Record} {text : Text}
    (h : converter.convertOne id raw = .ok (result, records)) (htext : result.text = some text) :
    ∃ style steps, Script converter id raw style steps ∧
      text = (Writer.run { style } steps).render := by
  rw [convertOne, convertEvent_eq] at h
  cases hfragment : converter.decompile id raw with
  | ok fragment =>
    rw [hfragment] at h
    obtain ⟨rfl, -⟩ := Prod.mk.inj (Except.ok.inj h)
    exact ⟨_, _, .converted hfragment, (Option.some.inj htext).symm⟩
  | error failure =>
    rw [hfragment] at h
    cases failure with
    | defect d => cases h
    | event fault =>
      cases hpolicy : converter.options.onError with
      | abort => simp [Except.map, hpolicy] at h
      | skip =>
        simp only [Except.map, hpolicy, Except.ok.injEq, Prod.mk.injEq] at h
        obtain ⟨rfl, -⟩ := h
        cases htext
      | placeholder =>
        simp only [Except.map, hpolicy, Except.ok.injEq, Prod.mk.injEq] at h
        obtain ⟨rfl, -⟩ := h
        exact ⟨_, _, .stub hfragment hpolicy, (Option.some.inj htext).symm⟩

/-- Where stubs are to stand for events that fail, every event has a text. -/
lemma exists_text_of_placeholder (converter : Converter) (id : EventId) (raw : List RawRow)
    (h : converter.options.onError = .placeholder) :
    ∃ result records text, converter.convertOne id raw = .ok (result, records) ∧
      result.text = some text := by
  have hends := converter.decompile_ends id raw
  rw [convertOne, convertEvent_eq, h]
  cases hfragment : converter.decompile id raw with
  | ok fragment => exact ⟨_, _, _, rfl, rfl⟩
  | error failure =>
    rw [hfragment] at hends
    obtain ⟨fault, rfl, -⟩ := hends
    exact ⟨_, _, _, rfl, rfl⟩

/-- No text leaves its line. The text of an event, also that of a stub, is the lines asked for, with
a newline behind each; if no newline is in the margins, these newlines are all that it has. What the
lines hold is printable. -/
theorem convertOne_lines {converter : Converter} {value : Json}
    (hnames : NameTable.ofJson value = .ok converter.names) (id : EventId) (raw : List RawRow) :
    (converter.options.onError = .placeholder →
      ∃ result records text, converter.convertOne id raw = .ok (result, records) ∧
        result.text = some text) ∧
    ∀ result records text, converter.convertOne id raw = .ok (result, records) →
      result.text = some text →
      ∃ style steps, Script converter id raw style steps ∧
        text = (Writer.run { style } steps).render ∧
        text = ((written style steps).map (Line.text style)).flatMap
          (fun part => part ++ [CodePoint.newline]) ∧
        (CodePoint.newline ∉ style.indent →
          text.splitAt CodePoint.newline = (written style steps).map (Line.text style) ++ [[]]) ∧
        (∀ line ∈ written style steps, line.content.Printable) ∧
        (text = [] ∨
          ∃ before c, text = before ++ [c, CodePoint.newline] ∧ c ≠ CodePoint.newline) := by
  refine ⟨exists_text_of_placeholder converter id raw, fun result records text h htext => ?_⟩
  obtain ⟨style, steps, hscript, rfl⟩ := script_of_convertOne h htext
  have hfit := hscript.fit (NameTable.valid_of_ofJson hnames)
  exact ⟨style, steps, hscript, rfl, render_run hfit, fun hindent => splitAt_render hindent hfit,
    fun line hline => (fit_written hfit line hline).printable, render_ends hfit⟩

theorem convertOne_lines_stub :
    let converter : Converter := { variant := .mz, options := { onError := .placeholder } }
    NameTable.ofJson (.obj []) = .ok converter.names ∧
      ∃ result records text,
        converter.convertOne (.value (.str "a\nb")) [.ready ⟨413, 0, []⟩] =
          .ok (result, records) ∧
        result.text = some text ∧ (text.splitAt CodePoint.newline).length = 4 := by
  intro converter
  have hnames : NameTable.ofJson (.obj []) = .ok converter.names := rfl
  obtain ⟨hexists, hlines⟩ := convertOne_lines hnames (.value (.str "a\nb")) [.ready ⟨413, 0, []⟩]
  obtain ⟨result, records, text, h, htext⟩ := hexists rfl
  obtain ⟨style, steps, hscript, -, -, hsplit, -⟩ := hlines result records text h htext
  refine ⟨hnames, result, records, text, h, htext, ?_⟩
  cases hscript with
  | converted hfragment => cases hfragment
  | stub _ _ =>
    rw [hsplit (by decide)]
    rfl

/-- The lines of an event form a suite: whatever leaves a loop is inside one, whatever goes on with a
chain is behind its first clause, and something is executed under each header. -/
theorem convertEvent_suite {converter : Converter} {value : Json} {spec : Text}
    {multilineCalls : Bool} (hnames : NameTable.ofJson value = .ok converter.names)
    (hstyle : Style.ofSpec spec multilineCalls = .ok converter.options.style) {id : EventId}
    {raw : List RawRow} {result : EventResult} {records : List Log.Record}
    (h : converter.convertEvent id raw = .ok (result, records)) :
    ∃ text executes, result.text = some text ∧
      text = ((Line.readAll converter.options.style text).map
        (Line.text converter.options.style)).flatMap (fun part => part ++ [CodePoint.newline]) ∧
      Suite false false 0 executes (Line.readAll converter.options.style text) ∧
      ∀ before line after,
        Line.readAll converter.options.style text = before ++ line :: after →
          Placed before line ∧ Filled line after := by
  have valid := NameTable.valid_of_ofJson hnames
  obtain ⟨fragment, hfragment, hresult⟩ := convertEvent_eq_ok.1 h
  have hfit := fit_of_decompile valid hfragment
  have hsuite := suite_of_decompile valid hfragment converter.options.style
  have hplaced : AllPlaced [] _ := hsuite.allPlaced nofun nofun
  have hread : Line.readAll converter.options.style
      (Stmt.render converter.options.style fragment.stmts) = _ :=
    readAll_render (Style.spaced_of_ofSpec hstyle) hfit
  have htext : result.text = some (Stmt.render converter.options.style fragment.stmts) := by
    rw [← (Prod.mk.inj hresult).1]
  refine ⟨_, Stmt.anyCode fragment.stmts, htext, ?_⟩
  rw [hread]
  exact ⟨render_run hfit, hsuite, fun before line after heq =>
    ⟨hplaced.placed heq, hsuite.allFilled.filled heq⟩⟩

theorem convertEvent_suite_guardedLoop :
    let converter : Converter :=
      { variant := .mv, options := { style := ⟨List.replicate 4 (CodePoint.ofChar ' '), true⟩ } }
    NameTable.ofJson (.obj []) = .ok converter.names ∧
      Style.ofSpec "4" true = .ok converter.options.style ∧
      ∃ result records text executes,
        converter.convertEvent (.value (.int 1)) (Block.guardedLoopRows.map .ready) =
          .ok (result, records) ∧
        result.text = some text ∧
        Suite false false 0 executes (Line.readAll converter.options.style text) := by
  intro converter
  have hnames : NameTable.ofJson (.obj []) = .ok converter.names := rfl
  have hstyle : Style.ofSpec "4" true = .ok converter.options.style := rfl
  obtain ⟨result, records, h⟩ : ∃ result records,
      converter.convertEvent (.value (.int 1)) (Block.guardedLoopRows.map .ready) =
        .ok (result, records) := ⟨_, _, rfl⟩
  obtain ⟨text, executes, htext, -, hsuite, -⟩ := convertEvent_suite hnames hstyle h
  exact ⟨hnames, hstyle, result, records, text, executes, h, htext, hsuite⟩

end Converter

end EventScript
