import EventScript.Proofs.Convert.Location
import EventScript.Proofs.Convert.Unknown
import EventScript.Proofs.Decompile.Generations

/-! The later editor generation converts every event without plugin commands that the earlier one
converts, to the same script. -/
namespace EventScript

namespace Converter

open Block

/-- What is reported about the same command by the two generations: only the message differs, and
there only the name of the generation. -/
structure SameReport (earlier later : Diagnostic) : Prop where
  eventId_eq : later.eventId = earlier.eventId
  index_eq : later.index = earlier.index
  code_eq : later.code = earlier.code
  kind_eq : later.kind = earlier.kind
  messages : ∃ code, earlier.message = (Cause.unrecognized code .mv).message ∧
    later.message = (Cause.unrecognized code .mz).message

variable {names : NameTable} {options : ConvertOptions} {id : EventId} {raw : List RawRow}

/-- The statements of an event in the earlier generation are those in the later one. -/
lemma decompile_later {fragment : Fragment}
    (hplugins : ∀ row ∈ raw, ∀ code ∈ Catalog.pluginCodes, ¬row.Shows (.number code))
    (h : (⟨.mv, names, options⟩ : Converter).decompile id raw = .ok fragment) :
    (⟨.mz, names, options⟩ : Converter).decompile id raw =
      .ok (fragment.relabel Placeholder.later) := by
  obtain ⟨rows, forest, hrows, hforest, hblocks⟩ := decompile_eq_ok.1 h
  have event : IsEvent .mv forest := isEvent_of_reconstruct hforest
  have hlead : ∀ entry ∈ entriesOf forest, entry.Lead .mv := by
    intro entry hentry
    obtain ⟨b, hb, hentry⟩ := mem_entriesOf.1 hentry
    exact (event.formed b hb).lead hentry
  have hcode : ∀ entry ∈ entriesOf forest, entry.row.code ∉ Catalog.pluginCodes := by
    intro entry hentry hcode
    obtain ⟨row, hrow, hread⟩ := RawRow.read_at hrows (row_at_of_reconstruct hforest hentry)
    refine hplugins row (List.mem_of_getElem? hrow) entry.row.code hcode ?_
    exact RawRow.code?_eq_some.1 (RawRow.code?_of_read hread)
  have hforest' : reconstruct .mz rows = .ok (forest.map (Block.map (Entry.under .mz))) :=
    reconstruct_map hforest (fun entry hentry => (hlead entry hentry).replaces (hcode entry hentry))
      (fun _ _ => rfl) fun _ _ => rfl
  have hfollows := Decompile.blocks_follows fun b hb =>
    Decompile.block_follows (by rfl) (event.formed b hb) fun entry hentry =>
      have hentry := mem_entriesOf.2 ⟨b, hb, hentry⟩
      Decompile.carries_under names options.onUnknown (hlead entry hentry) (hcode entry hentry)
  exact decompile_eq_ok.2 ⟨rows, _, hrows, hforest', hfollows fragment hblocks⟩

lemma sameReport_later (id : EventId) {p : Placeholder} (h : p.variant = .mv) :
    SameReport (placeholderDiagnostic id p) (placeholderDiagnostic id p.later) :=
  ⟨rfl, rfl, rfl, rfl, p.code, by rw [← h]; rfl, rfl⟩

/-- An event without plugin commands that the earlier generation converts is converted by the later
one to the same text, with the same log, and with reports that differ in the name of the generation
only. -/
theorem convertEvent_later {result : EventResult} {records : List Log.Record}
    (hplugins : ∀ row ∈ raw, ∀ code ∈ Catalog.pluginCodes, ¬row.Shows (.number code))
    (h : (⟨.mv, names, options⟩ : Converter).convertEvent id raw = .ok (result, records)) :
    ∃ result', (⟨.mz, names, options⟩ : Converter).convertEvent id raw = .ok (result', records) ∧
      result'.eventId = result.eventId ∧ result'.text = result.text ∧
      result'.failed = result.failed ∧
      List.Forall₂ SameReport result.diagnostics result'.diagnostics := by
  obtain ⟨fragment, hfragment, houtcome⟩ := convertEvent_eq_ok.1 h
  obtain ⟨rfl, rfl⟩ := Prod.mk.inj houtcome
  have hvariant : ∀ p ∈ fragment.placeholders, p.variant = .mv := by
    intro p hp
    obtain ⟨rows, -, hplaceholders⟩ := placeholders_of_decompile hfragment
    rw [hplaceholders] at hp
    obtain ⟨place, -, rfl⟩ := List.mem_map.1 hp
    rfl
  have hwarnings : (fragment.placeholders.map Placeholder.later).map (placeholderWarning id) =
      fragment.placeholders.map (placeholderWarning id) := by
    rw [List.map_map]
    rfl
  have hlater := decompile_later hplugins hfragment
  refine ⟨_, convertEvent_eq_ok.2 ⟨_, hlater, Prod.ext rfl ?_⟩, rfl, rfl, rfl, ?_⟩
  · simp only [outcome, Fragment.relabel, hwarnings]
  · simp only [outcome, Fragment.relabel, List.map_map, List.forall₂_map_left_iff,
      List.forall₂_map_right_iff, List.forall₂_same]
    exact fun p hp => sameReport_later id (hvariant p hp)

/-- A text, and a branch with a moved picture and a command that neither generation knows, before a
battle. -/
def skirmishRows : List RawRow :=
  [.ready ⟨101, 0, [.str "", .int 0, .int 0, .int 2]⟩, .ready ⟨401, 0, [.str "Halt!"]⟩,
   .ready ⟨111, 0, [.int 0, .int 7, .int 0]⟩,
   .ready ⟨232, 1, [.int 1, .null, .int 0, .int 0, .int 10, .int 20, .int 100, .int 100, .int 255,
     .int 0, .int 60, .bool true]⟩,
   .ready ⟨999, 1, [.str "?"]⟩, .ready ⟨412, 0, []⟩,
   .ready ⟨301, 0, [.int 0, .int 3, .bool true, .bool false]⟩]

theorem convertEvent_later_skirmish :
    ∃ result result' records,
      ({ variant := .mv } : Converter).convertEvent (.value (.int 1)) skirmishRows =
        .ok (result, records) ∧
      ({ variant := .mz } : Converter).convertEvent (.value (.int 1)) skirmishRows =
        .ok (result', records) ∧
      result'.text = result.text ∧ List.Forall₂ SameReport result.diagnostics result'.diagnostics ∧
      result.diagnostics.length = 1 := by
  have hplugins : ∀ row ∈ skirmishRows, ∀ code ∈ Catalog.pluginCodes,
      ¬row.Shows (.number code) := by
    simp [skirmishRows, Catalog.pluginCodes, ← RawRow.code?_eq_some, RawRow.code?]
  have h : ({ variant := .mv } : Converter).convertEvent (.value (.int 1)) skirmishRows =
      .ok (_, _) := rfl
  obtain ⟨result', hlater, -, htext, -, hreports⟩ := convertEvent_later hplugins h
  exact ⟨_, result', _, h, hlater, htext, hreports, rfl⟩

end Converter

end EventScript
