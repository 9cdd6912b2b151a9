import EventScript.Proofs.Convert.Location
import EventScript.Proofs.Convert.Reindent
import EventScript.Proofs.Decompile.Reading

/-! Rows of a wrong shape. A fault of shape is found in a row that is read with the one it is
reported at, and an event that is converted has no such row, except of codes whose rows nothing
reads: those are listed by the part that the command plays in the nesting. -/
namespace EventScript

/-- A row that cannot be read, or that is read but has parameters of a wrong shape. -/
def RawRow.Misshapen (variant : Variant) (raw : RawRow) (fault : SchemaFault) : Prop :=
  raw.read = .error fault ∨ ∃ row, raw.read = .ok row ∧ row.Misshapen variant fault

/-- A row that is read together with an earlier one, because it continues that one's command or is
an arm of the choice that it opens. -/
def Row.ReadWith (variant : Variant) (first later : Row) : Prop :=
  (∃ kind, Catalog.lookup variant later.code = some kind ∧
    kind.role = .continuation first.code) ∨
  first.code = Family.choice.opener ∧ later.code ∈ Family.choice.markers.map Prod.fst

/-- The row at a position is fine, and a later one that is read with it is misshapen. -/
def RawRow.Misplaced (variant : Variant) (raw : List RawRow) (index : Nat) (fault : SchemaFault) :
    Prop :=
  ∃ rows first place later, readAll raw = .ok rows ∧ rows[index]? = some first ∧
    first.Readable variant ∧ index < place ∧ rows[place]? = some later ∧
    later.Misshapen variant fault ∧ first.ReadWith variant later

lemma Row.Readable.not_misshapen {variant : Variant} {row : Row} (h : row.Readable variant)
    (fault : SchemaFault) : ¬row.Misshapen variant fault := by
  rintro ⟨kind, hkind, hfault⟩
  obtain ⟨operands, hoperands⟩ := h kind hkind
  cases hoperands.symm.trans hfault

lemma RawRow.Misplaced.not_misshapen {variant : Variant} {raw : List RawRow} {index : Nat}
    {fault shape : SchemaFault} (h : Misplaced variant raw index fault) {row : RawRow}
    (hrow : raw[index]? = some row) : ¬row.Misshapen variant shape := by
  obtain ⟨rows, first, -, -, hrows, hfirst, hreadable, -⟩ := h
  obtain ⟨stored, hstored, hread⟩ := read_at hrows hfirst
  obtain rfl := Option.some.inj (hrow.symm.trans hstored)
  rintro (hfault | ⟨other, hother, hshape⟩)
  · cases hread.symm.trans hfault
  · obtain rfl := Except.ok.inj (hread.symm.trans hother)
    exact hreadable.not_misshapen shape hshape

/-- Whether the rows of commands with this part are read: no closer, no marker except those of a
choice, and no row that continues the one command whose handler does not ask for them. -/
def Role.isRead : Role → Bool
  | .leaf => true
  | .opens _ => true
  | .split _ => false
  | .arm family => decide (family = .choice)
  | .closes _ => false
  | .continuation lead => decide (lead ≠ Catalog.pluginCallCode)

namespace Decompile

variable {variant : Variant} {entry : Entry}

lemma misshapen_of_operandsOf (lead : entry.Lead variant) {fault : SchemaFault}
    (h : failure? (operandsOf entry) = some (.schema fault)) :
    entry.row.Misshapen variant fault := by
  rw [failure?_eq_some, operandsOf] at h
  split at h
  · rename_i kind hkind
    exact ⟨kind, lead.kind_eq ▸ hkind, h⟩
  · cases h

lemma readable_of_operandsOf (lead : entry.Lead variant) (h : failure? (operandsOf entry) = none) :
    entry.row.Readable variant := by
  intro kind hkind
  rw [← lead.kind_eq] at hkind
  simpa only [operandsOf, hkind, failure?_eq_none] using h

/-- Rows that continue an entry are read with it. -/
lemma readWith_of_extra (lead : entry.Lead variant) {row : Row} (h : row ∈ entry.extras) :
    entry.row.ReadWith variant row := by
  obtain ⟨-, kind, hkind, hrole⟩ := lead.continues row h
  exact .inl ⟨kind, hkind, hrole⟩

/-- The arms of a choice are read with its header. -/
lemma readWith_of_arm {header closer marker : Entry} {body : List Block} {branches : List Branch}
    {family : Family} (framed : Block.Framed variant family header body branches closer)
    (choice : header.family? = some .choice) (h : marker ∈ branches.map Branch.marker) :
    header.row.ReadWith variant marker.row := by
  obtain rfl : family = .choice :=
    Option.some.inj ((family?_of_opens framed.header_opens).symm.trans choice)
  obtain ⟨opener, hopener, hkind, hrole⟩ := framed.header_lead.kind_of_role framed.header_opens
  have hfirst := Catalog.code_of_lookup (framed.header_lead.kind_eq ▸ hkind)
  obtain ⟨kind, hmem, hmarker, hstarts⟩ :=
    (framed.marked.lead marker h).kind_of_startsSection (framed.marked.starts marker h)
  have hlater := Catalog.code_of_lookup ((framed.marked.lead marker h).kind_eq ▸ hmarker)
  refine .inr ⟨?_, hlater ▸ Catalog.code_mem_markers hmem hstarts⟩
  rw [← hfirst, Catalog.eq_opener hopener hrole]
  rfl

/-- The first check that finds a wrong shape finds it in the row that is reported, or in a later row
that is read with it. -/
lemma misshapen_of_check {context : Context} {forest : List Block} {check : Check}
    {fault : SchemaFault} (event : Block.IsEvent context.variant forest)
    (hcheck : check ∈ checksOf context forest) (hfault : check.fault = some (.schema fault))
    (hearlier : ∀ earlier ∈ checksOf context forest,
      earlier.subject.index < check.subject.index → earlier.fault = none) :
    check.place.row.Misshapen context.variant fault ∨
      check.place.row.Readable context.variant ∧ ∃ place later, check.place.index < place ∧
        (Block.rowsOf forest)[place]? = some later ∧ later.Misshapen context.variant fault ∧
        check.place.row.ReadWith context.variant later := by
  obtain ⟨b, hb, makes⟩ := exists_makes event.formed hcheck
  obtain ⟨inLoop, formed⟩ := hb.wellFormed event.formed
  have hsubset := hb.entries_sublist.subset
  cases makes with
  | leaf entry =>
    have hentry : entry ∈ (Block.leaf entry).entries := by simp [Block.entries]
    have lead := formed.lead hentry
    rcases leaf_error lead (failure?_eq_some.1 hfault) with hown | ⟨hown, row, hrow, hmore⟩
    · exact .inl hown
    · obtain ⟨place, hlt, -, hat⟩ := Entry.extra_at event.placed (hsubset hentry) hrow
      exact .inr ⟨hown, place, row, hlt, hat, hmore, readWith_of_extra lead hrow⟩
  | opening header body branches closer =>
    have lead : header.Lead context.variant := formed.lead (by simp [Block.entries])
    exact .inl (misshapen_of_operandsOf lead hfault)
  | @arm header body branches closer marker choice hmarker =>
    have hmem : marker ∈ Block.entriesOf forest :=
      hsubset (Block.mem_entries_compound.2 (.inr (.inl hmarker)))
    have hlt : header.index < marker.index :=
      header_lt_marker (Entry.index_increasing event.placed) hb hmarker
    -- The header was checked before its arms, and is fine.
    have hheader := hearlier (operandsCheck header header)
      (mem_checksOf_of_within hb (.opening header body branches closer)) hlt
    cases formed with
    | compound framed _ =>
      exact .inr ⟨readable_of_operandsOf framed.header_lead hheader, marker.index, marker.row, hlt,
        Entry.row_at event.placed hmem,
        misshapen_of_operandsOf (framed.marked.lead marker hmarker) hfault,
        readWith_of_arm framed choice hmarker⟩

/-! ### What is read -/

/-- The rows of a command that was written can be read, if rows with their part are. -/
lemma readable_of_leaf {context : Context} {fragment : Fragment}
    (lead : entry.Lead context.variant) (plain : entry.IsPlain)
    (h : leaf context entry = .ok fragment) {row : Row} (hrow : row ∈ entry.rows)
    {kind : CommandKind} (hkind : Catalog.lookup context.variant row.code = some kind)
    (hread : kind.role.isRead = true) : row.Readable context.variant := by
  obtain ⟨hfirst, hmore⟩ := leaf_readable lead plain h
  rcases List.mem_cons.1 hrow with rfl | hrow
  · exact hfirst
  · obtain ⟨-, continuation, hcontinuation, hrole⟩ := lead.continues row hrow
    obtain rfl := Option.some.inj (hkind.symm.trans hcontinuation)
    refine hmore ?_ row hrow
    simpa [hrole, Role.isRead] using hread

/-- A block's header is read, and of its markers those of a choice are. -/
lemma exists_operandsCheck {context : Context} {family : Family} {header closer : Entry}
    {body : List Block} {branches : List Branch}
    (framed : Block.Framed context.variant family header body branches closer) {role : Role}
    (hown : entry ∈ (Block.compound header body branches closer).own)
    (hrole : entry.role? = some role) (hread : role.isRead = true) :
    ∃ place, Makes context (.compound header body branches closer)
      (operandsCheck entry place) := by
  rcases List.mem_cons.1 hown with rfl | hown
  · exact ⟨entry, .opening entry body branches closer⟩
  rcases List.mem_append.1 hown with hmarker | hcloser
  · rcases framed.marked.starts entry hmarker with hstarts | hstarts
    · obtain rfl := Option.some.inj (hrole.symm.trans hstarts)
      cases hread
    · obtain rfl := Option.some.inj (hrole.symm.trans hstarts)
      obtain rfl : family = .choice := by simpa [Role.isRead] using hread
      exact ⟨header, .arm (family?_of_opens framed.header_opens) hmarker⟩
  · obtain rfl := List.mem_singleton.1 hcloser
    obtain rfl := Option.some.inj (hrole.symm.trans framed.closer_closes)
    cases hread

/-- If no check finds a fault, then every row that is read can be. -/
lemma readable_of_checks {context : Context} {forest : List Block}
    (event : Block.IsEvent context.variant forest)
    (hchecks : ∀ check ∈ checksOf context forest, check.fault = none) {row : Row}
    (hrow : row ∈ Block.rowsOf forest) {kind : CommandKind}
    (hkind : Catalog.lookup context.variant row.code = some kind)
    (hread : kind.role.isRead = true) : row.Readable context.variant := by
  obtain ⟨entry, hentry, hrow⟩ := List.mem_flatMap.1 hrow
  obtain ⟨b, hb, hown⟩ := Block.exists_own event.formed hentry
  obtain ⟨inLoop, formed⟩ := hb.wellFormed event.formed
  cases formed with
  | leaf lead plain _ =>
    obtain rfl := List.mem_singleton.1 hown
    obtain ⟨fragment, hleaf⟩ :=
      failure?_eq_none.1 (hchecks _ (mem_checksOf_of_within hb (.leaf entry)))
    exact readable_of_leaf lead plain hleaf hrow hkind hread
  | @compound _ family header closer body branches framed _ =>
    have lead := framed.lead_of_own hown
    obtain rfl : row = entry.row := by
      simpa [Entry.rows, lead.extras_eq_nil (framed.role?_ne_leaf hown)] using hrow
    have hrole : entry.role? = some kind.role := by simp [Entry.role?, lead.kind_eq, hkind]
    obtain ⟨place, makes⟩ := exists_operandsCheck framed hown hrole hread
    exact readable_of_operandsOf lead (hchecks _ (mem_checksOf_of_within hb makes))

end Decompile

namespace Converter

open Decompile Block

variable {converter : Converter} {id : EventId} {raw : List RawRow}

/-- A fault of shape is reported at the row that has it, or at an earlier one that is fine. -/
lemma Fails.misshapen_or_misplaced {fault : EventFault} {shape : SchemaFault}
    (fails : Fails converter id raw fault) (hcause : fault.cause = .schema shape) :
    (∃ row, raw[fault.index]? = some row ∧ row.Misshapen converter.variant shape) ∨
      RawRow.Misplaced converter.variant raw fault.index shape := by
  cases fails with
  | reading hread =>
    cases hcause
    obtain ⟨row, hrow, hfault⟩ := RawRow.readAll_eq_error hread
    exact .inl ⟨row, hrow, .inl hfault⟩
  | nesting => cases hcause
  | @writing rows forest index code cause hrows hforest hblocks =>
    obtain rfl : cause = .schema shape := hcause
    have event : IsEvent converter.context.variant forest := isEvent_of_reconstruct hforest
    obtain ⟨check, hcheck, hfault, rfl, -, hplace, -, hearlier⟩ := exists_check hforest hblocks
    rcases misshapen_of_check event hcheck hfault hearlier with hown | ⟨hown, place, later, hlater⟩
    · obtain ⟨row, hrow, hread⟩ := RawRow.read_at hrows hplace
      exact .inl ⟨row, hrow, .inr ⟨_, hread, hown⟩⟩
    · rw [rowsOf_of_reconstruct hforest] at hlater
      exact .inr ⟨rows, check.place.row, place, later, hrows, hplace, hown, hlater⟩

/-- A fault of shape is reported at the row that has it if, and only if, it is not one of a later row
that is read with the reported one. -/
theorem convertEvent_misshapen {fault : EventFault} {shape : SchemaFault}
    (h : converter.convertEvent id raw = .error (.event fault))
    (hcause : fault.cause = .schema shape) :
    (∃ row, raw[fault.index]? = some row ∧ row.Misshapen converter.variant shape) ↔
      ¬RawRow.Misplaced converter.variant raw fault.index shape := by
  constructor
  · rintro ⟨row, hrow, hshape⟩ misplaced
    exact misplaced.not_misshapen hrow hshape
  · exact ((fails_of_convertEvent h).misshapen_or_misplaced hcause).resolve_right

/-- A choice between two answers; the index of the first one is a text. -/
def brokenChoiceRows : List RawRow :=
  [.ready ⟨102, 0, [.arr [.str "Yes", .str "No"], .int 1, .int 0, .int 2, .int 0]⟩,
   .ready ⟨402, 0, [.str "0", .str "Yes"]⟩, .ready ⟨402, 0, [.int 1, .str "No"]⟩,
   .ready ⟨404, 0, []⟩]

/-- What is wrong with `brokenChoiceRows`. -/
def brokenChoiceShape : SchemaFault := .wrongKind "choice_index" .int (.str "0")

lemma convertEvent_brokenChoice :
    ({ variant := .mv } : Converter).convertEvent (.value (.int 1)) brokenChoiceRows =
      .error (.event ⟨.value (.int 1), 0, some (.number 102), .schema brokenChoiceShape⟩) := rfl

theorem convertEvent_misshapen_brokenChoice :
    ({ variant := .mv } : Converter).convertEvent (.value (.int 1)) brokenChoiceRows =
      .error (.event ⟨.value (.int 1), 0, some (.number 102), .schema brokenChoiceShape⟩) ∧
    ((∃ row, brokenChoiceRows[0]? = some row ∧ row.Misshapen .mv brokenChoiceShape) ↔
      ¬RawRow.Misplaced .mv brokenChoiceRows 0 brokenChoiceShape) :=
  ⟨convertEvent_brokenChoice, convertEvent_misshapen convertEvent_brokenChoice rfl⟩

/-- The row that is reported need not be the misshapen one: here it is the header of the choice, and
the arm behind it is misshapen. -/
theorem convertEvent_brokenChoice_at_header :
    ∃ fault, ({ variant := .mv } : Converter).convertEvent (.value (.int 1)) brokenChoiceRows =
        .error (.event fault) ∧ fault.cause = .schema brokenChoiceShape ∧ fault.index = 0 ∧
      (∀ row shape, brokenChoiceRows[0]? = some row → ¬row.Misshapen .mv shape) ∧
      ∃ row, brokenChoiceRows[1]? = some row ∧ row.Misshapen .mv brokenChoiceShape := by
  refine ⟨_, convertEvent_brokenChoice, rfl, rfl, ?_, _, rfl, .inr ⟨_, rfl, _, rfl, rfl⟩⟩
  rintro row shape ⟨⟩ (h | ⟨row, ⟨⟩, kind, hkind, hdecode⟩)
  · cases h
  · have hopener : Catalog.lookup .mv 102 = some (Catalog.opener .choice) := rfl
    obtain rfl := Option.some.inj (hopener.symm.trans hkind)
    cases hdecode

/-! ### Codes whose rows are not read -/

/-- A row that opens a block. -/
def opening : Family → Row
  | .conditional => ⟨111, 0, [.int 0, .int 1, .int 0]⟩
  | .loop => ⟨112, 0, []⟩
  | .choice => ⟨102, 0, [.arr [], .int 0, .int 0, .int 0, .int 0]⟩
  | .battleResult => ⟨601, 0, []⟩

/-- An event with a row of a command that is not read. -/
def unreadRows (kind : CommandKind) (parameters : List Json) : List Row :=
  match kind.role with
  | .split family => [opening family, ⟨kind.code, 0, parameters⟩, ⟨family.closer, 0, []⟩]
  | .arm family => [opening family, ⟨kind.code, 0, parameters⟩, ⟨family.closer, 0, []⟩]
  | .closes family => [opening family, ⟨kind.code, 0, parameters⟩]
  | _ =>
    [⟨Catalog.pluginCallCode, 0, [.str [], .str [], .str [], .obj []]⟩, ⟨kind.code, 0, parameters⟩]

lemma mem_unreadRows (kind : CommandKind) (parameters : List Json) :
    ⟨kind.code, 0, parameters⟩ ∈ unreadRows kind parameters := by
  unfold unreadRows
  split <;> simp

/-- Whatever the parameters of a row that is not read are, the event is converted. -/
lemma convertEvent_unreadRows (converter : Converter) (id : EventId) {kind : CommandKind}
    (h : kind ∈ Catalog.kinds converter.variant) (hread : kind.role.isRead = false)
    (parameters : List Json) :
    ∃ result records, converter.convertEvent id ((unreadRows kind parameters).map .ready) =
      .ok (result, records) := by
  have hmem : kind ∈ (Catalog.kinds converter.variant).filter fun kind => !kind.role.isRead :=
    List.mem_filter.2 ⟨h, by simp [hread]⟩
  obtain ⟨variant, names, options⟩ := converter
  cases variant with
  | mv =>
    have hlisted : kind ∈ [_, _, _, _, _, _, _] := hmem
    simp only [List.mem_cons, List.not_mem_nil, or_false] at hlisted
    rcases hlisted with rfl | rfl | rfl | rfl | rfl | rfl | rfl <;> exact ⟨_, _, rfl⟩
  | mz =>
    have hlisted : kind ∈ [_, _, _, _, _, _, _, _] := hmem
    simp only [List.mem_cons, List.not_mem_nil, or_false] at hlisted
    rcases hlisted with rfl | rfl | rfl | rfl | rfl | rfl | rfl | rfl <;> exact ⟨_, _, rfl⟩

/-- Some parameters of the commands that are not read have a wrong shape. -/
lemma decode_of_not_isRead {variant : Variant} {kind : CommandKind}
    (h : kind ∈ Catalog.kinds variant) (hread : kind.role.isRead = false) :
    ∃ fault, Operands.decode kind.layout [.null] = .error fault := by
  have hall : (Catalog.kinds variant).all (fun kind =>
      kind.role.isRead || (failure? (Operands.decode kind.layout [.null])).isSome) = true := by
    cases variant <;> decide +kernel
  have hkind := List.all_eq_true.1 hall kind h
  rw [hread, Bool.false_or] at hkind
  obtain ⟨fault, hfault⟩ := Option.isSome_iff_exists.1 hkind
  exact ⟨fault, failure?_eq_some.1 hfault⟩

/-- The rows of a known code can be read in every event that is converted if, and only if, the part
that the command plays in the nesting is one whose rows are read. -/
theorem readable_iff_isRead (converter : Converter) (id : EventId) {code : Int}
    {kind : CommandKind} (h : Catalog.lookup converter.variant code = some kind) :
    (∀ raw rows result records, converter.convertEvent id raw = .ok (result, records) →
      RawRow.readAll raw = .ok rows → ∀ row ∈ rows, row.code = code →
        ∃ operands, Operands.decode kind.layout row.parameters = .ok operands) ↔
      kind.role.isRead = true := by
  have hmem := Catalog.mem_of_lookup h
  constructor
  · intro hall
    by_contra hread
    have hread : kind.role.isRead = false := by simpa using hread
    obtain ⟨result, records, hconverted⟩ :=
      convertEvent_unreadRows converter id hmem hread [.null]
    obtain ⟨operands, hoperands⟩ := hall _ _ result records hconverted
      (RawRow.readAll_ready _) _ (mem_unreadRows kind [.null]) (Catalog.code_of_lookup h)
    obtain ⟨fault, hfault⟩ := decode_of_not_isRead hmem hread
    cases hoperands.symm.trans hfault
  · rintro hread raw rows result records hconverted hrows row hrow rfl
    obtain ⟨fragment, hfragment, -⟩ := convertEvent_eq_ok.1 hconverted
    obtain ⟨rows', forest, hrows', hforest, hblocks⟩ := decompile_eq_ok.1 hfragment
    obtain rfl := Except.ok.inj (hrows.symm.trans hrows')
    have event : IsEvent converter.context.variant forest := isEvent_of_reconstruct hforest
    rw [← rowsOf_of_reconstruct hforest] at hrow
    exact readable_of_checks event
      (fun check hcheck => fault_eq_none_of_blocks event.formed hblocks hcheck) hrow h hread kind h

theorem readable_iff_isRead_when :
    ∃ kind, Catalog.lookup .mv 402 = some kind ∧
      ∀ raw rows result records, ({ variant := .mv } : Converter).convertEvent (.value (.int 1))
          raw = .ok (result, records) →
        RawRow.readAll raw = .ok rows → ∀ row ∈ rows, row.code = 402 →
          ∃ operands, Operands.decode kind.layout row.parameters = .ok operands :=
  ⟨_, rfl, (readable_iff_isRead { variant := .mv } (.value (.int 1)) rfl).2 rfl⟩

/-- A plugin command with a further line that is a number. -/
def brokenPluginRows : List RawRow :=
  [.ready ⟨357, 0, [.str "Weather", .str "set", .str "", .obj []]⟩, .ready ⟨657, 0, [.int 5]⟩]

/-- A misshapen row can pass. -/
theorem convertEvent_brokenPlugin :
    (∃ result records, ({ variant := .mz } : Converter).convertEvent (.value (.int 1))
        brokenPluginRows = .ok (result, records)) ∧
      ∃ kind shape, Catalog.lookup .mz 657 = some kind ∧
        Operands.decode kind.layout [.int 5] = .error (.schema shape) :=
  ⟨⟨_, _, rfl⟩, _, _, rfl, rfl⟩

end Converter

end EventScript
