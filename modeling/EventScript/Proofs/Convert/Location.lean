import EventScript.Proofs.Block.Location
import EventScript.Proofs.Convert.Event
import EventScript.Proofs.Decompile.Checks

/-! Where an event fails. Reading, nesting and writing each report a row of the event, with the code
that this row shows, and nothing before that row fails when it is written. -/
namespace EventScript

namespace RawRow

/-- The code that can be seen in a row: the row has been read, or is an object with a number or a
truth value under the key for codes. -/
inductive Shows : RawRow → RowCode → Prop
  | ready (row : Row) : Shows (.ready row) (.number row.code)
  | number {fields : List (Text × Json)} {n : Int}
      (h : fields.lookup (Text.ofString "code") = some (.int n)) :
      Shows (.stored (.obj fields)) (.number n)
  | truth {fields : List (Text × Json)} {b : Bool}
      (h : fields.lookup (Text.ofString "code") = some (.bool b)) :
      Shows (.stored (.obj fields)) (.truth b)

lemma code?_eq_some {raw : RawRow} {code : RowCode} : raw.code? = some code ↔ raw.Shows code := by
  constructor
  · intro h
    cases raw with
    | ready row =>
      cases h
      exact .ready row
    | stored value =>
      cases value with
      | obj fields =>
        simp only [code?, Json.field] at h
        cases hcode : fields.lookup (Text.ofString "code") with
        | none => simp [hcode, RowCode.ofJson?] at h
        | some value =>
          cases value <;> simp [hcode, RowCode.ofJson?] at h
          · exact h ▸ .truth hcode
          · exact h ▸ .number hcode
      | _ => cases h
  · rintro (row | h | h)
    · rfl
    · simp [code?, Json.field, h, RowCode.ofJson?]
    · simp [code?, Json.field, h, RowCode.ofJson?]

lemma code?_of_read {raw : RawRow} {row : Row} (h : raw.read = .ok row) :
    raw.code? = some (.number row.code) := by
  cases raw with
  | ready ready =>
    cases h
    rfl
  | stored value =>
    simp only [read, Row.ofJson] at h
    split at h
    · rename_i fields
      split at h
      · rename_i code hcode
        have hrow : row.code = code := by
          split at h
          · split_ifs at h
            split at h <;> cases h <;> rfl
          · cases h
        simp [code?, hcode, RowCode.ofJson?, hrow]
      · cases h
    · cases h

lemma readFrom_eq_error {index : Nat} {raw : List RawRow} {fault : Located SchemaFault}
    (h : readFrom index raw = .error fault) :
    ∃ place row, fault.index = index + place ∧ raw[place]? = some row ∧
      row.read = .error fault.fault := by
  induction raw generalizing index with
  | nil => cases h
  | cons first raw ih =>
    rw [readFrom] at h
    split at h
    · rename_i hfirst
      cases h
      exact ⟨0, first, rfl, rfl, hfirst⟩
    · split at h
      · rename_i hrest
        cases h
        obtain ⟨place, row, hindex, hrow, hread⟩ := ih hrest
        exact ⟨place + 1, row, by omega, by simpa using hrow, hread⟩
      · cases h

/-- The first bad row is reported with its position. -/
lemma readAll_eq_error {raw : List RawRow} {fault : Located SchemaFault}
    (h : readAll raw = .error fault) :
    ∃ row, raw[fault.index]? = some row ∧ row.read = .error fault.fault := by
  obtain ⟨place, row, hindex, hrow, hread⟩ := readFrom_eq_error h
  exact ⟨row, by simpa [hindex] using hrow, hread⟩

lemma map_read_of_readFrom {index : Nat} {raw : List RawRow} {rows : List Row}
    (h : readFrom index raw = .ok rows) : raw.map read = rows.map .ok := by
  induction raw generalizing index rows with
  | nil =>
    cases h
    rfl
  | cons first raw ih =>
    rw [readFrom] at h
    split at h
    · cases h
    · rename_i hfirst
      split at h
      · cases h
      · rename_i hrest
        cases h
        simp [hfirst, ih hrest]

variable {raw : List RawRow} {rows : List Row}

lemma length_of_readAll (h : readAll raw = .ok rows) : rows.length = raw.length := by
  simpa using (congrArg List.length (map_read_of_readFrom h)).symm

/-- Each row that was read stands where it was stored. -/
lemma read_at (h : readAll raw = .ok rows) {index : Nat} {row : Row}
    (hrow : rows[index]? = some row) : ∃ r, raw[index]? = some r ∧ r.read = .ok row := by
  have hget : (raw.map read)[index]? = some (.ok row) := by
    rw [map_read_of_readFrom h, List.getElem?_map, hrow]
    rfl
  simpa [List.getElem?_map] using hget

end RawRow

namespace Converter

variable {converter : Converter} {id : EventId} {raw : List RawRow} {fault : EventFault}

lemma convertEvent_eq_error {failure : ConvertFailure} :
    converter.convertEvent id raw = .error failure ↔
      converter.decompile id raw = .error failure := by
  rw [convertEvent_eq]
  cases converter.decompile id raw <;> simp [Except.map]

/-- How an event fails: a row cannot be read, the rows do not nest, or a block cannot be written. -/
inductive Fails (converter : Converter) (id : EventId) (raw : List RawRow) : EventFault → Prop
  | reading {fault : Located SchemaFault} (h : RawRow.readAll raw = .error fault) :
      Fails converter id raw ⟨id, fault.index, codeAt raw fault.index, .schema fault.fault⟩
  | nesting {rows : List Row} {fault : Located StructuralFault}
      (hrows : RawRow.readAll raw = .ok rows)
      (h : Block.reconstruct converter.variant rows = .error fault) :
      Fails converter id raw ⟨id, fault.index, codeAt raw fault.index, .structural fault.fault⟩
  | writing {rows : List Row} {forest : List Block} {index : Nat} {code : Int} {cause : Cause}
      (hrows : RawRow.readAll raw = .ok rows)
      (hforest : Block.reconstruct converter.variant rows = .ok forest)
      (h : Decompile.blocks converter.context forest = .error (.located index code cause)) :
      Fails converter id raw ⟨id, index, some (.number code), cause⟩

lemma fails_of_convertEvent (h : converter.convertEvent id raw = .error (.event fault)) :
    Fails converter id raw fault := by
  rw [convertEvent_eq_error, decompile] at h
  split at h
  · rename_i hrows
    cases h
    exact .reading hrows
  · rename_i rows hrows
    split at h
    · rename_i hforest
      cases h
      exact .nesting hrows hforest
    · rename_i forest hforest
      split at h
      · rename_i hblocks
        cases h
        exact .writing hrows hforest hblocks
      · cases h
      · cases h

/-- The check that an event fails at, and the row that it is reported at. Nothing before what was
checked has a fault. -/
lemma exists_check {rows : List Row} {forest : List Block} {index : Nat} {code : Int}
    {cause : Cause} (hforest : Block.reconstruct converter.variant rows = .ok forest)
    (h : Decompile.blocks converter.context forest = .error (.located index code cause)) :
    ∃ check ∈ Decompile.checksOf converter.context forest,
      check.fault = some (.cause cause) ∧ check.place.index = index ∧
      check.place.row.code = code ∧ rows[index]? = some check.place.row ∧
      index ≤ check.subject.index ∧
      ∀ earlier ∈ Decompile.checksOf converter.context forest,
        earlier.subject.index < check.subject.index → earlier.fault = none := by
  have event : Block.IsEvent converter.context.variant forest :=
    Block.isEvent_of_reconstruct hforest
  have increasing := Entry.index_increasing event.placed
  obtain ⟨check, hcheck, hfailure, hearlier⟩ :=
    Decompile.exists_check_of_blocks event.formed increasing h
  obtain ⟨hfault, rfl, rfl⟩ := Decompile.Check.failure?_eq_located.1 hfailure
  obtain ⟨hplace, hle⟩ := Decompile.place_le_subject event.formed increasing hcheck
  have hrow := Block.row_at_of_reconstruct hforest hplace
  exact ⟨check, hcheck, hfault, rfl, rfl, hrow, hle, hearlier⟩

/-- The fault of an event is about one of its rows, with the code that this row shows. -/
lemma Fails.code_eq (fails : Fails converter id raw fault) :
    ∃ row, raw[fault.index]? = some row ∧ fault.code = row.code? := by
  cases fails with
  | reading h =>
    obtain ⟨row, hrow, -⟩ := RawRow.readAll_eq_error h
    exact ⟨row, hrow, by simp [codeAt, hrow]⟩
  | @nesting rows fault hrows h =>
    have hlength : fault.index < raw.length :=
      RawRow.length_of_readAll hrows ▸ Block.reconstruct_error h
    have hrow := List.getElem?_eq_getElem hlength
    exact ⟨raw[fault.index], hrow, by simp [codeAt, hrow]⟩
  | writing hrows hforest h =>
    obtain ⟨check, -, -, -, hcode, hrow, -⟩ := exists_check hforest h
    obtain ⟨row, hrow, hread⟩ := RawRow.read_at hrows hrow
    exact ⟨row, hrow, by rw [RawRow.code?_of_read hread, hcode]⟩

/-- What stands before the row of a fault that was found in writing can be written. -/
lemma Fails.bare_ok (fails : Fails converter id raw fault) {rows : List Row} {forest : List Block}
    (hrows : RawRow.readAll raw = .ok rows)
    (hforest : Block.reconstruct converter.variant rows = .ok forest) {b : Block}
    (hb : b.Within forest) (hindex : b.index < fault.index) :
    ∃ fragment, Decompile.block converter.context b.bare = .ok fragment := by
  cases fails with
  | reading h => simp [hrows] at h
  | nesting hread h =>
    obtain rfl := Except.ok.inj (hrows.symm.trans hread)
    simp [hforest] at h
  | writing hread hnested h =>
    obtain rfl := Except.ok.inj (hrows.symm.trans hread)
    obtain rfl := Except.ok.inj (hforest.symm.trans hnested)
    obtain ⟨first, -, -, -, -, -, hle, hearlier⟩ := exists_check hforest h
    obtain ⟨inLoop, formed⟩ := hb.wellFormed (Block.isEvent_of_reconstruct hforest).formed
    have formed : Block.WellFormed converter.context.variant inLoop b := formed
    refine Decompile.bare_ok formed fun check makes hsubject => ?_
    refine hearlier check (Decompile.mem_checksOf_of_within hb makes) ?_
    rw [hsubject]
    exact hindex.trans_le hle

/-- The fault that stops an event is about one of its rows: it gives the row's position, and the
code if the row shows one. If the event was nested, then every command before that row, and the
header of every block that starts before it, can be written on its own. -/
theorem convertEvent_locates (h : converter.convertEvent id raw = .error (.event fault)) :
    (∃ hin : fault.index < raw.length,
      ∀ code, fault.code = some code ↔ raw[fault.index].Shows code) ∧
    ∀ rows forest, RawRow.readAll raw = .ok rows →
      Block.reconstruct converter.variant rows = .ok forest →
      ∀ b : Block, b.Within forest → b.index < fault.index →
        ∃ fragment, Decompile.block converter.context b.bare = .ok fragment := by
  have fails := fails_of_convertEvent h
  refine ⟨?_, fun rows forest hrows hforest b hb hindex => fails.bare_ok hrows hforest hb hindex⟩
  obtain ⟨row, hrow, hcode⟩ := fails.code_eq
  obtain ⟨hin, rfl⟩ := List.getElem?_eq_some_iff.1 hrow
  exact ⟨hin, fun code => by rw [hcode, RawRow.code?_eq_some]⟩

/-- A loop with two waits, the second one for a time that is not a number. -/
def brokenLoopRows : List RawRow :=
  [.ready ⟨112, 0, []⟩, .ready ⟨230, 1, [.int 60]⟩,
   .stored (.obj [("code", .int 230), ("indent", .int 1), ("parameters", .arr [.str "soon"])]),
   .ready ⟨413, 0, []⟩]

theorem convertEvent_locates_brokenLoop :
    ∃ fault, ({ variant := .mv } : Converter).convertEvent (.value (.int 1)) brokenLoopRows =
        .error (.event fault) ∧ fault.index = 2 ∧ fault.code = some (.number 230) ∧
      ∀ rows forest, RawRow.readAll brokenLoopRows = .ok rows →
        Block.reconstruct .mv rows = .ok forest →
        ∀ b : Block, b.Within forest → b.index < fault.index →
          ∃ fragment, Decompile.block ⟨.mv, {}, .placeholder⟩ b.bare = .ok fragment := by
  have h : ({ variant := .mv } : Converter).convertEvent (.value (.int 1)) brokenLoopRows =
      .error (.event ⟨_, _, _, _⟩) := rfl
  exact ⟨_, h, rfl, rfl, (convertEvent_locates h).2⟩

end Converter

end EventScript
