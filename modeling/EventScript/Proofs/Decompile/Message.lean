import EventScript.Decompile.Message
import EventScript.Proofs.Block.Grammar
import EventScript.Proofs.Command.Access
import EventScript.Proofs.Command.Catalog

/-! Handlers write statements that hold no others, and fail only for the parameters of the command.
Here are those of the commands with lines of text. -/
namespace EventScript

/-- A statement that holds no other statements. -/
@[simp] def Stmt.isSimple : Stmt → Bool
  | .comment _ => true
  | .expr _ => true
  | .assign .. => true
  | .breakLoop => true
  | _ => false

namespace Decompile

open Operands

/-- What is asked of a handler. -/
abbrev Writes (x : Except Fault (List Stmt)) : Prop :=
  Yields (fun stmts => ∀ stmt ∈ stmts, stmt.isSimple = true) x

@[simp] lemma mem_perform {path : String} {keywords : List (String × Expr)} {stmt : Stmt} :
    stmt ∈ perform path keywords ↔ stmt = .expr (invoke path keywords) := by
  simp [perform]

variable {context : Context} {entry : Entry} {layout : Layout} {operands : Operands}

lemma fields_ok (decoded : Decoded layout operands) (fields : List String)
    (h : ∀ field ∈ fields, Slot.offers layout field Slot.givesValue = true) :
    ∃ keywords, (fields.mapM fun field => do
      return (field, Expr.literal (← operands.value field))) = .ok keywords := by
  refine mapM_ok fun field hfield => ?_
  obtain ⟨value, hvalue⟩ := decoded.value field (h field hfield)
  simp [hvalue]

lemma fieldCall_writes (path : String) {fields : List String} (decoded : Decoded layout operands)
    (h : ∀ field ∈ fields, Slot.offers layout field Slot.givesValue = true) :
    Writes (fieldCall path fields context entry operands) := by
  obtain ⟨keywords, hkeywords⟩ := fields_ok decoded fields h
  simp only [fieldCall, hkeywords, ok_bind]
  simp

lemma extras_yields (lead : entry.Lead context.variant) :
    Yields (fun more => ∀ operands ∈ more,
      Decoded (Catalog.continuationLayout entry.row.code) operands) (extras context entry) := by
  refine ends_mapM fun row hrow => ?_
  obtain ⟨-, kind, hkind, hrole⟩ := lead.continues row hrow
  have hmem := Catalog.mem_of_lookup hkind
  rw [hkind, ← Catalog.layout_of_continuation hmem hrole]
  exact decode_yields (Catalog.readable hmem) row.parameters

/-- Every line is the entry's own one or a text. -/
lemma lines_yields (lead : entry.Lead context.variant)
    (hcode : entry.row.code ≠ Catalog.routeCode) :
    Yields (fun texts => ∀ line ∈ texts, operands.value? "line" = some line ∨ ∃ t, line = .str t)
      (lines context entry operands) := by
  refine (extras_yields lead).bind fun more hmore => ?_
  have htexts : Yields (fun texts => ∀ line ∈ texts, ∃ t, line = .str t)
      (more.mapM fun extra => extra.value "line") := by
    refine ends_mapM fun extra hextra => ?_
    have hdecoded := hmore extra hextra
    rw [Catalog.continuationLayout, if_neg hcode] at hdecoded
    obtain ⟨t, -, ht⟩ := hdecoded.text "line" (by simp [Catalog.line])
    simp [ht]
  refine htexts.bind fun texts htexts line hline => ?_
  rcases List.mem_append.1 hline with hown | hmore
  · exact .inl (by simpa using hown)
  · exact .inr (htexts line hmore)

lemma showText_writes (lead : entry.Lead context.variant)
    (hcode : entry.row.code ≠ Catalog.routeCode) (decoded : Decoded layout operands)
    (h : ∀ field ∈ ["face_name", "face_index", "background", "position_type"],
      Slot.offers layout field Slot.givesValue = true) :
    Writes (showText context entry operands) := by
  obtain ⟨keywords, hkeywords⟩ := fields_ok decoded _ h
  simp only [showText, hkeywords, ok_bind]
  exact (lines_yields lead hcode).bind fun texts _ => by simp

lemma showScrollingText_writes (lead : entry.Lead context.variant)
    (hcode : entry.row.code ≠ Catalog.routeCode)
    (decoded : Decoded [.int "speed", Catalog.flag "no_fast"] operands) :
    Writes (showScrollingText context entry operands) := by
  obtain ⟨speed, hspeed⟩ := decoded.value "speed" (by simp)
  obtain ⟨noFast, hnoFast⟩ := decoded.value "no_fast" (by simp)
  simp only [showScrollingText, hspeed, hnoFast, ok_bind]
  exact (lines_yields lead hcode).bind fun texts _ => by simp

lemma comment_writes (lead : entry.Lead context.variant)
    (hcode : entry.row.code ≠ Catalog.routeCode) (decoded : Decoded Catalog.line operands) :
    Writes (comment context entry operands) := by
  obtain ⟨own, -, hown⟩ := decoded.text "line" (by simp [Catalog.line])
  refine (lines_yields lead hcode).bind fun texts htexts => ends_mapM fun line hline => ?_
  obtain ⟨t, rfl⟩ : ∃ t, line = .str t := by
    rcases htexts line hline with h | h
    · exact ⟨own, by simpa [h] using value_eq_ok.1 hown⟩
    · exact h
  simp

lemma script_writes (lead : entry.Lead context.variant)
    (hcode : entry.row.code ≠ Catalog.routeCode) : Writes (script context entry operands) :=
  (lines_yields lead hcode).bind fun texts _ => by simp

lemma pluginCommand_writes (decoded : Decoded [Catalog.text "command"] operands) :
    Writes (pluginCommand context entry operands) := by
  obtain ⟨command, hcommand, -⟩ := decoded.text "command" (by simp)
  simp [pluginCommand, hcommand]

lemma pluginCall_writes
    (decoded : Decoded [Catalog.text "plugin_name", Catalog.text "command_name",
      Catalog.text "comment", .required "arguments" .mapping] operands) :
    Writes (pluginCall context entry operands) := by
  obtain ⟨plugin, hplugin⟩ := decoded.value "plugin_name" (by simp)
  obtain ⟨command, hcommand⟩ := decoded.value "command_name" (by simp)
  obtain ⟨note, hnote⟩ := decoded.value "comment" (by simp)
  obtain ⟨arguments, harguments⟩ := decoded.value "arguments" (by simp)
  simp [pluginCall, hplugin, hcommand, hnote, harguments]

end Decompile

end EventScript
