import EventScript.Proofs.Block.Transport
import EventScript.Proofs.Convert.Location
import EventScript.Proofs.Decompile.Transport

/-! Events one behind the other. The machine that nests the rows is back in its first state after a
whole event, so a second event behind it is nested and written as if it stood alone; only the
positions in it move. -/
namespace EventScript

/-- An entry that stands `n` rows further on. -/
def Entry.shift (n : Nat) (entry : Entry) : Entry := { entry with index := entry.index + n }

def Placeholder.shift (n : Nat) (placeholder : Placeholder) : Placeholder :=
  { placeholder with index := placeholder.index + n }

def Diagnostic.shift (n : Nat) (diagnostic : Diagnostic) : Diagnostic :=
  { diagnostic with index := diagnostic.index.map fun i => i + n }

lemma Fragment.append_assoc (a b c : Fragment) : a ++ b ++ c = a ++ (b ++ c) := by
  change Fragment.mk (a.stmts ++ b.stmts ++ c.stmts) _ = .mk (a.stmts ++ (b.stmts ++ c.stmts)) _
  rw [List.append_assoc]
  exact congrArg (Fragment.mk _) (List.append_assoc _ _ _)

variable {n : Nat}

namespace Entry

lemma placedFrom_shift {position : Nat} {list : List Entry} (placed : PlacedFrom position list) :
    PlacedFrom (position + n) (list.map (shift n)) := by
  induction list generalizing position with
  | nil => trivial
  | cons entry list ih =>
    obtain ⟨hposition, placed⟩ := placed
    refine ⟨congrArg (· + n) hposition, ?_⟩
    rw [Nat.add_right_comm]
    exact ih placed

lemma Lead.replaces_shift {variant : Variant} {entry : Entry} (lead : entry.Lead variant) :
    Block.Replaces variant entry (entry.shift n) :=
  ⟨rfl, rfl, lead.kind_eq, lead.leads, lead.continues⟩

end Entry

namespace Block

lemma entriesOf_shift (forest : List Block) :
    entriesOf (forest.map (map (Entry.shift n))) = (entriesOf forest).map (Entry.shift n) := by
  rw [← mapList_eq, entriesOf_mapList]

lemma rowsOf_shift (forest : List Block) :
    rowsOf (forest.map (map (Entry.shift n))) = rowsOf forest := by
  rw [rowsOf, rowsOf, entriesOf_shift, List.flatMap_map]
  rfl

/-- Well-formed events can be put one behind the other. -/
lemma IsEvent.append {variant : Variant} {forest more : List Block}
    (event : IsEvent variant forest) (event' : IsEvent variant more) :
    IsEvent variant (forest ++ more.map (map (Entry.shift (rowsOf forest).length))) where
  formed := by
    refine List.forall_mem_append.2 ⟨event.formed, ?_⟩
    simp only [List.forall_mem_map]
    intro b hb
    exact (event'.formed b hb).map fun entry hentry =>
      ((event'.formed b hb).lead hentry).replaces_shift
  placed := by
    rw [entriesOf_append, entriesOf_shift, Entry.placedFrom_append]
    exact ⟨event.placed, Entry.placedFrom_shift event'.placed⟩

/-- Rows behind rows that nest are nested as if they stood alone. -/
theorem reconstruct_append {variant : Variant} {rows rows' : List Row} {forest more : List Block}
    (h : reconstruct variant rows = .ok forest) (h' : reconstruct variant rows' = .ok more) :
    reconstruct variant (rows ++ rows') =
      .ok (forest ++ more.map (map (Entry.shift rows.length))) := by
  have hrows := rowsOf_of_reconstruct h
  have hall : rowsOf (forest ++ more.map (map (Entry.shift rows.length))) = rows ++ rows' := by
    rw [rowsOf, entriesOf_append, List.flatMap_append, ← rowsOf, ← rowsOf, rowsOf_shift, hrows,
      rowsOf_of_reconstruct h']
  rw [← hall, ← hrows]
  exact reconstruct_rowsOf ((isEvent_of_reconstruct h).append (isEvent_of_reconstruct h'))

end Block

namespace Decompile

open Block

/-- A command is written in the same way wherever it stands. -/
lemma leaf_shift (context : Context) (entry : Entry) :
    Follows (Fragment.relabel (Placeholder.shift n)) (leaf context entry)
      (leaf context (entry.shift n)) := by
  have hunknown : Follows (Fragment.relabel (Placeholder.shift n)) (unknown context entry)
      (unknown context (entry.shift n)) := by
    unfold unknown
    cases context.onUnknown with
    | fail => rintro fragment ⟨⟩
    | placeholder => exact follows_ok rfl
  have hkind : (entry.shift n).kind = entry.kind := rfl
  unfold leaf
  rw [hkind]
  cases entry.kind with
  | none => exact hunknown
  | some kind =>
    cases hhandler : handler? kind.name with
    | none =>
      simp only [hhandler]
      exact hunknown
    | some handler =>
      simp only [hhandler]
      refine (follows_id _).bind fun operands _ => ?_
      have hextras : extras context (entry.shift n) = extras context entry := rfl
      have hsame : handler context (entry.shift n) operands = handler context entry operands :=
        handler_congr hhandler rfl hextras operands
      rw [id, hsame]
      exact (follows_id _).bind fun stmts _ => follows_ok rfl

lemma blocks_shift {context : Context} {forest : List Block}
    (formed : ∀ b ∈ forest, WellFormed context.variant false b) :
    Follows (Fragment.relabel (Placeholder.shift n)) (blocks context forest)
      (blocks context (forest.map (Block.map (Entry.shift n)))) :=
  blocks_follows fun b hb => block_follows rfl (formed b hb) fun entry _ =>
    ⟨fun _ => leaf_shift context entry, fun _ => rfl, rfl⟩

lemma blocks_append {context : Context} {forest more : List Block} {fragment fragment' : Fragment}
    (h : blocks context forest = .ok fragment) (h' : blocks context more = .ok fragment') :
    blocks context (forest ++ more) = .ok (fragment ++ fragment') := by
  induction forest generalizing fragment with
  | nil =>
    obtain rfl := Except.ok.inj h
    exact h'
  | cons b forest ih =>
    rw [blocks] at h
    obtain ⟨first, hfirst, h⟩ := bind_eq_ok.1 h
    obtain ⟨rest, hrest, h⟩ := bind_eq_ok.1 h
    obtain rfl := Except.ok.inj h
    rw [List.cons_append, blocks, hfirst, ok_bind, ih hrest, ok_bind]
    exact congrArg Except.ok (Fragment.append_assoc first rest fragment').symm

end Decompile

namespace RawRow

lemma readFrom_of_map_read {index : Nat} {raw : List RawRow} {rows : List Row}
    (h : raw.map read = rows.map .ok) : readFrom index raw = .ok rows := by
  induction raw generalizing index rows with
  | nil =>
    obtain rfl : rows = [] := by simpa using h.symm
    rfl
  | cons first raw ih =>
    cases rows with
    | nil => cases h
    | cons row rows =>
      obtain ⟨hfirst, hrest⟩ := List.cons.inj h
      simp only [readFrom, hfirst, ih hrest]

lemma readAll_append {raw raw' : List RawRow} {rows rows' : List Row}
    (h : readAll raw = .ok rows) (h' : readAll raw' = .ok rows') :
    readAll (raw ++ raw') = .ok (rows ++ rows') := by
  refine readFrom_of_map_read ?_
  rw [List.map_append, map_read_of_readFrom h, map_read_of_readFrom h', List.map_append]

end RawRow

namespace Converter

/-- The stages of a conversion that succeeds: the rows of an event, its blocks, and what they are
decompiled to. -/
structure Stages (converter : Converter) (raw : List RawRow) (rows : List Row)
    (forest : List Block) (fragment : Fragment) : Prop where
  read : RawRow.readAll raw = .ok rows
  nested : Block.reconstruct converter.variant rows = .ok forest
  written : Decompile.blocks converter.context forest = .ok fragment

variable {converter : Converter} {raw raw' : List RawRow} {rows rows' : List Row}
  {forest forest' : List Block} {fragment fragment' : Fragment}

lemma Stages.convertEvent_eq_ok (stages : converter.Stages raw rows forest fragment)
    (id : EventId) :
    converter.convertEvent id raw =
      .ok (outcome converter.options.style id raw.length fragment) := by
  rw [convertEvent_eq, decompile_eq_ok.2 ⟨rows, forest, stages.read, stages.nested, stages.written⟩]
  rfl

/-- Both stages behind the reading go through an event and then through the next one. -/
lemma Stages.append (stages : converter.Stages raw rows forest fragment)
    (stages' : converter.Stages raw' rows' forest' fragment') :
    converter.Stages (raw ++ raw') (rows ++ rows')
      (forest ++ forest'.map (Block.map (Entry.shift raw.length)))
      (fragment ++ fragment'.relabel (Placeholder.shift raw.length)) where
  read := RawRow.readAll_append stages.read stages'.read
  nested := by
    rw [← RawRow.length_of_readAll stages.read]
    exact Block.reconstruct_append stages.nested stages'.nested
  written := by
    have formed := (Block.isEvent_of_reconstruct stages'.nested).formed
    exact Decompile.blocks_append stages.written
      (Decompile.blocks_shift formed fragment' stages'.written)

/-- Two events that are converted are also converted as one, the first in front of the second. The
blocks, the statements, the placeholders and the reports are those of the first and then those of
the second, with the positions in the second moved behind the first. -/
theorem convertEvent_append (id : EventId) (stages : converter.Stages raw rows forest fragment)
    (stages' : converter.Stages raw' rows' forest' fragment') :
    converter.Stages (raw ++ raw') (rows ++ rows')
        (forest ++ forest'.map (Block.map (Entry.shift raw.length)))
        ⟨fragment.stmts ++ fragment'.stmts, fragment.placeholders ++
          fragment'.placeholders.map (Placeholder.shift raw.length)⟩ ∧
      ∃ first second result records records' records'',
        converter.convertEvent id raw = .ok (first, records) ∧
        converter.convertEvent id raw' = .ok (second, records') ∧
        converter.convertEvent id (raw ++ raw') = .ok (result, records'') ∧
        result.diagnostics = first.diagnostics ++
          second.diagnostics.map (Diagnostic.shift raw.length) := by
  have whole := stages.append stages'
  refine ⟨whole, _, _, _, _, _, _, stages.convertEvent_eq_ok id, stages'.convertEvent_eq_ok id,
    whole.convertEvent_eq_ok id, ?_⟩
  have hmoved : placeholderDiagnostic id ∘ Placeholder.shift raw.length =
      Diagnostic.shift raw.length ∘ placeholderDiagnostic id := rfl
  change (fragment.placeholders ++
      fragment'.placeholders.map (Placeholder.shift raw.length)).map (placeholderDiagnostic id) =
    fragment.placeholders.map (placeholderDiagnostic id) ++
      (fragment'.placeholders.map (placeholderDiagnostic id)).map (Diagnostic.shift raw.length)
  rw [List.map_append, List.map_map, List.map_map, hmoved]

/-- A text of two lines. -/
def greetingRows : List RawRow :=
  [.ready ⟨101, 0, [.str "", .int 0, .int 0, .int 2]⟩, .ready ⟨401, 0, [.str "Well met."]⟩,
   .ready ⟨401, 0, [.str "Stay a while."]⟩]

/-- A loop around a command that is not known. -/
def vigilRows : List RawRow :=
  [.ready ⟨112, 0, []⟩, .ready ⟨999, 1, [.str "?"]⟩, .ready ⟨413, 0, []⟩]

theorem convertEvent_append_vigil :
    ∃ rows forest fragment rows' forest' fragment',
      ({ variant := .mv } : Converter).Stages greetingRows rows forest fragment ∧
      ({ variant := .mv } : Converter).Stages vigilRows rows' forest' fragment' ∧
      ({ variant := .mv } : Converter).Stages (greetingRows ++ vigilRows) (rows ++ rows')
        (forest ++ forest'.map (Block.map (Entry.shift 3)))
        ⟨fragment.stmts ++ fragment'.stmts, fragment.placeholders ++
          fragment'.placeholders.map (Placeholder.shift 3)⟩ ∧
      ∃ result records, ({ variant := .mv } : Converter).convertEvent (.value (.int 1))
          (greetingRows ++ vigilRows) = .ok (result, records) ∧
        result.diagnostics.map Diagnostic.index = [some 4] := by
  have greeting : ({ variant := .mv } : Converter).Stages greetingRows _ _ _ := ⟨rfl, rfl, rfl⟩
  have vigil : ({ variant := .mv } : Converter).Stages vigilRows _ _ _ := ⟨rfl, rfl, rfl⟩
  obtain ⟨whole, first, second, result, records, records', records'', hfirst, hsecond, hresult,
    hdiagnostics⟩ := convertEvent_append (.value (.int 1)) greeting vigil
  obtain ⟨rfl, -⟩ := Prod.mk.inj (Except.ok.inj ((greeting.convertEvent_eq_ok _).symm.trans hfirst))
  obtain ⟨rfl, -⟩ := Prod.mk.inj (Except.ok.inj ((vigil.convertEvent_eq_ok _).symm.trans hsecond))
  exact ⟨_, _, _, _, _, _, greeting, vigil, whole, result, records'', hresult,
    by rw [hdiagnostics]; rfl⟩

end Converter

end EventScript
