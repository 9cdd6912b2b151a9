import EventScript.Proofs.Block.Transport
import EventScript.Proofs.Command.Generations
import EventScript.Proofs.Decompile.Transport

/-! Commands are written in the later editor generation as in the earlier one. The operands that only
the later layouts have are null for rows of the earlier one, and a null is not written. -/
namespace EventScript

/-- An entry with what a generation knows about its code. -/
def Entry.under (variant : Variant) (entry : Entry) : Entry :=
  { entry with kind := Catalog.lookup variant entry.row.code }

/-- A placeholder as the later generation reports it. -/
def Placeholder.later (placeholder : Placeholder) : Placeholder :=
  { placeholder with variant := .mz }

variable {entry : Entry} {names : NameTable} {policy : UnknownPolicy}

lemma Entry.Lead.replaces (lead : entry.Lead .mv) (hcode : entry.row.code ∉ Catalog.pluginCodes) :
    Block.Replaces .mz entry (entry.under .mz) := by
  have hrole : (entry.under .mz).role? = entry.role? := by
    rw [Entry.role?, Entry.role?, lead.kind_eq, Entry.under]
    rcases Catalog.lookup_later hcode with ⟨hmv, hmz⟩ | ⟨kind, later, hmv, hmz, hlater⟩
    · simp [hmv, hmz]
    · simp [hmv, hmz, hlater.role_eq]
  refine ⟨rfl, hrole, rfl, fun code => hrole ▸ lead.leads code, fun row hrow => ?_⟩
  obtain ⟨hindent, kind, hkind, hcontinues⟩ := lead.continues row hrow
  exact ⟨hindent, kind, Catalog.lookup_later_of_continuation hkind hcontinues, hcontinues⟩

namespace Decompile

lemma extras_under (lead : entry.Lead .mv) :
    extras ⟨.mz, names, policy⟩ (entry.under .mz) = extras ⟨.mv, names, policy⟩ entry := by
  unfold extras
  refine mapM_congr fun row hrow => ?_
  obtain ⟨-, kind, hkind, hrole⟩ := lead.continues row hrow
  simp only [hkind, Catalog.lookup_later_of_continuation hkind hrole]

section Null

variable {context : Context} {operands : Operands}

/-- A speaker that is null counts for as much as none. -/
lemma showText_null (h : operands.value? "speaker_name" = none) :
    showText context entry (insertPair "speaker_name" (.value .null) operands) =
      showText context entry operands := by
  have hvalue : ∀ {field : String}, field ≠ "speaker_name" →
      Operands.value (insertPair "speaker_name" (.value .null) operands) field =
        operands.value field := Operands.value_insertPair _
  have hline : Operands.value? (insertPair "speaker_name" (.value .null) operands) "line" =
      operands.value? "line" := Operands.value?_insertPair _ (by simp)
  have hspeaker : Operands.value? (insertPair "speaker_name" (.value .null) operands)
      "speaker_name" = some .null := Operands.value?_insertPair_self _
  simp only [showText, lines, List.mapM_cons, List.mapM_nil, hline, h, hspeaker]
  simp only [hvalue (show "face_name" ≠ "speaker_name" by simp),
    hvalue (show "face_index" ≠ "speaker_name" by simp),
    hvalue (show "background" ≠ "speaker_name" by simp),
    hvalue (show "position_type" ≠ "speaker_name" by simp)]

/-- An easing that is null counts for as much as none. -/
lemma movePicture_null (h : operands.value? "easing_type" = none) :
    movePicture context entry (insertPair "easing_type" (.value .null) operands) =
      movePicture context entry operands := by
  have hvalue : ∀ {field : String}, field ≠ "easing_type" →
      Operands.value (insertPair "easing_type" (.value .null) operands) field =
        operands.value field := Operands.value_insertPair _
  have hamount : ∀ {field : String}, field ≠ "easing_type" →
      Operands.amount (insertPair "easing_type" (.value .null) operands) field =
        operands.amount field := Operands.amount_insertPair _
  have heasing : Operands.value? (insertPair "easing_type" (.value .null) operands)
      "easing_type" = some .null := Operands.value?_insertPair_self _
  simp [movePicture, picture, heasing, h, hvalue, hamount]

end Null

/-- The operands that a row of the earlier generation has in the later one lead to the same
statements. -/
lemma handler_later {kind later : CommandKind} (hlater : Catalog.Later kind later)
    {handler : Handler} (hhandler : handler? kind.name = some handler)
    {parameters : List Json} {operands : Operands}
    (h : Operands.decode kind.layout parameters = .ok operands) (context : Context)
    (entry : Entry) :
    ∃ more, Operands.decode later.layout parameters = .ok more ∧
      handler context entry more = handler context entry operands := by
  cases hlater with
  | same => exact ⟨operands, h, rfl⟩
  | showText =>
    cases hhandler
    have habsent : operands.value? "speaker_name" = none :=
      Operands.value?_eq_none_of_decode h (by simp [Catalog.showText])
    exact ⟨_, Operands.decode_optional h _ _, showText_null habsent⟩
  | movePicture =>
    cases hhandler
    have habsent : operands.value? "easing_type" = none :=
      Operands.value?_eq_none_of_decode h (by simp [Catalog.movePicture, Catalog.picture])
    exact ⟨_, Operands.decode_optional h _ _, movePicture_null habsent⟩
  | battleProcessing => exact ⟨operands, Operands.decode_battleProcessing h, rfl⟩

/-- A command that opens no block is written in the later generation as in the earlier one. -/
theorem leaf_under (lead : entry.Lead .mv) (plain : entry.IsPlain)
    (hcode : entry.row.code ∉ Catalog.pluginCodes) :
    Follows (Fragment.relabel Placeholder.later) (leaf ⟨.mv, names, policy⟩ entry)
      (leaf ⟨.mz, names, policy⟩ (entry.under .mz)) := by
  intro fragment h
  rcases Catalog.lookup_later hcode with ⟨hmv, hmz⟩ | ⟨kind, later, hmv, hmz, hlater⟩
  · have hkind : entry.kind = none := by rw [lead.kind_eq, hmv]
    have hkind' : (entry.under .mz).kind = none := hmz
    simp only [leaf, hkind, hkind'] at h ⊢
    cases policy with
    | fail => cases h
    | placeholder =>
      cases h
      rfl
  · have hkind : entry.kind = some kind := by rw [lead.kind_eq, hmv]
    have hkind' : (entry.under .mz).kind = some later := hmz
    have hrole : kind.role = .leaf := by simpa [Entry.IsPlain, Entry.role?, hkind] using plain
    obtain ⟨handler, hhandler, -⟩ := handled_of_leaf (Catalog.mem_of_lookup hmv) hrole
    simp only [leaf, hkind, hhandler] at h
    obtain ⟨operands, hdecode, h⟩ := bind_eq_ok.1 h
    obtain ⟨stmts, hwrite, h⟩ := bind_eq_ok.1 h
    obtain rfl := Except.ok.inj h
    obtain ⟨more, hmore, hsame⟩ := handler_later hlater hhandler hdecode ⟨.mz, names, policy⟩
      (entry.under .mz)
    have hextras : extras ⟨.mz, names, policy⟩ (entry.under .mz) =
        extras ⟨.mv, names, policy⟩ entry := extras_under lead
    have hcongr := handler_congr hhandler (by rfl) hextras operands
    have hparameters : (entry.under .mz).row.parameters = entry.row.parameters := rfl
    simp only [leaf, hkind', hlater.name_eq, hhandler, hparameters, hmore, ok_bind, hsame, hcongr,
      hwrite]
    rfl

lemma carries_under (names : NameTable) (policy : UnknownPolicy) (lead : entry.Lead .mv)
    (hcode : entry.row.code ∉ Catalog.pluginCodes) :
    Carries ⟨.mv, names, policy⟩ ⟨.mz, names, policy⟩ Placeholder.later entry
      (entry.under .mz) := by
  refine ⟨fun plain => leaf_under lead plain hcode, fun marks => ?_, rfl⟩
  change Catalog.lookup .mz entry.row.code = entry.kind
  rw [lead.kind_eq]
  rcases Catalog.lookup_later hcode with ⟨hmv, hmz⟩ | ⟨kind, later, hmv, hmz, hlater⟩
  · rw [hmv, hmz]
  · have hrole : kind.role ≠ .leaf := by
      intro hrole
      exact marks (.inr (by simp [Entry.role?, lead.kind_eq, hmv, hrole]))
    rw [hmv, hmz, hlater.eq_of_role hrole]

end Decompile

end EventScript
