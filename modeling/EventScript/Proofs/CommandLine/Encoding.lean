import EventScript.Proofs.CommandLine.Course
import EventScript.Proofs.Convert.Encoding
import EventScript.Proofs.Json.RoundTrip
import EventScript.Proofs.Project.Selection

/-! The script and the diagnostics of a run always can be encoded. The names of its events come from
the name of a project file, of which only a few are known. -/
namespace EventScript

open Text

lemma CodePoint.not_isSurrogate_of_isBlank {c : CodePoint} (h : c.isBlank = true) :
    c.isSurrogate = false := by
  have hapart : blankRanges.apart [(0xd800, 0xdfff)] = true := by decide +kernel
  have hnot := RangeTable.not_contains_of_apart hapart h
  by_contra hsurrogate
  simp only [isSurrogate, Bool.not_eq_false, Bool.and_eq_true, decide_eq_true_eq] at hsurrogate
  simp [RangeTable.contains, hsurrogate.1, hsurrogate.2] at hnot

lemma CodePoint.not_isSurrogate_of_isAlphanumeric {c : CodePoint}
    (h : c.isAlphanumeric = true) : c.isSurrogate = false := by
  simp only [isAlphanumeric, isDigit, Bool.or_eq_true, Bool.and_eq_true, decide_eq_true_eq] at h
  rw [isSurrogate, Bool.and_eq_false_iff]
  left
  apply decide_eq_false
  omega

lemma Text.eq_append_of_after? {word t rest : Text} (h : after? word t = some rest) :
    t = word ++ rest := by
  fun_induction after? word t with
  | case1 t => simpa using h
  | case2 c word t ih => simp [ih h]
  | case3 => cases h
  | case4 => cases h

lemma Style.Spaced.encodable {style : Style} (spaced : style.Spaced) :
    style.indent.Encodable :=
  fun c hc => CodePoint.not_isSurrogate_of_isBlank (spaced.blank c hc)

namespace Json

lemma encodable_renderString {t : Text} (h : t.Encodable) : (renderString t).Encodable := by
  have hquote : CodePoint.doubleQuote.isSurrogate = false := by decide
  simp only [renderString, encodable_append, encodable_cons, encodable_nil, hquote, true_and,
    and_true]
  intro c hc
  obtain ⟨d, hd, hc⟩ := List.mem_flatMap.1 hc
  have hchar : (stringChar d).Encodable := by
    unfold stringChar
    split_ifs
    · exact encodable_charEscape (h d hd)
    all_goals
      split
      · rename_i hescape
        exact encodable_of_lineEscape? hescape
    · exact encodable_charEscape (CodePoint.isSurrogate_ofChar _)
    · exact encodable_charEscape (CodePoint.isSurrogate_ofChar _)
    · simp
    · simpa using h d hd
  exact hchar c hc

lemma encodable_lineBreak (depth : Nat) : (lineBreak depth).Encodable := by
  rw [lineBreak, encodable_cons]
  refine ⟨CodePoint.isSurrogate_newline, fun c hc => ?_⟩
  rw [List.eq_of_mem_replicate hc]
  exact CodePoint.isSurrogate_ofChar _

lemma encodable_bracketLines (opening closing : String) (depth : Nat) {parts : List Text}
    (h : ∀ part ∈ parts, part.Encodable) :
    (bracketLines (ofString opening) (ofString closing) depth parts).Encodable := by
  have hparts : (join ("," ++ lineBreak (depth + 1)) parts).Encodable :=
    encodable_join (by simp [encodable_lineBreak]) h
  unfold bracketLines
  split_ifs
  · simp
  · simp [encodable_lineBreak, hparts]

end Json

namespace Diagnostic

lemma encodable_renderLinesAt {d : Diagnostic} (hid : d.eventId.text.Encodable)
    (hkind : d.kind.Encodable) (hmessage : d.message.Encodable) (depth : Nat) :
    (d.toJson.renderLinesAt depth).Encodable := by
  have hkey : ∀ key : String, (Json.renderString (ofString key)).Encodable :=
    fun key => Json.encodable_renderString (encodable_ofString key)
  have hindex : ((d.index.map Json.int).getD .null |>.renderLinesAt (depth + 1)).Encodable := by
    cases d.index <;> simp [Json.renderLinesAt, Json.renderScalar]
  have hcode : ((d.code.map RowCode.toJson).getD .null |>.renderLinesAt (depth + 1)).Encodable := by
    cases d.code with
    | none => simp [Json.renderLinesAt, Json.renderScalar]
    | some code =>
      cases code with
      | number n => simp [RowCode.toJson, Json.renderLinesAt, Json.renderScalar]
      | truth b => cases b <;> simp [RowCode.toJson, Json.renderLinesAt, Json.renderScalar]
  have hstr : ∀ {t : Text}, t.Encodable → ((Json.str t).renderLinesAt (depth + 1)).Encodable := by
    intro t ht
    rw [Json.renderLinesAt, Json.renderScalar]
    · exact Json.encodable_renderString ht
    all_goals simp
  rw [toJson, Json.renderLinesAt]
  refine Json.encodable_bracketLines "\x7b" "\x7d" depth ?_
  simp [Json.fieldLines, hkey, hindex, hcode, hstr hid, hstr hkind, hstr hmessage]

end Diagnostic

namespace CommandLine

/-- The diagnostics of a run can be encoded if its results can. -/
lemma encodable_diagnosticsText {run : RunResult} (h : ∀ event ∈ run.events, event.Encodable) :
    (diagnosticsText run).Encodable := by
  rw [diagnosticsText, Json.renderLines, Json.renderLinesAt]
  refine Json.encodable_bracketLines "[" "]" 0 fun part hpart => ?_
  rw [Json.itemLines_eq, List.map_map] at hpart
  obtain ⟨d, hd, rfl⟩ := List.mem_map.1 hpart
  obtain ⟨event, hevent, hd⟩ := List.mem_flatMap.1 hd
  obtain ⟨hid, hkind, hmessage⟩ := (h event hevent).diagnostics d hd
  exact d.encodable_renderLinesAt hid hkind hmessage _

end CommandLine

namespace EventFile

/-- A file of a known kind has a plain name. -/
lemma encodable_stem {path : Path} {kind : EventFile} (h : detect path = .ok kind) :
    path.stem.Encodable := by
  unfold detect at h
  split_ifs at h with _ hcommon htroops hmap
  · rw [hcommon]
    exact encodable_ofString _
  · rw [htroops]
    exact encodable_ofString _
  · unfold isMapStem at hmap
    split at hmap
    · cases hmap
    · rename_i rest hrest
      simp only [Bool.and_eq_true, Bool.or_eq_true, decide_eq_true_eq] at hmap
      have hfront : Text.Encodable (rest.takeWhile CodePoint.isAlphanumeric) :=
        fun c hc => CodePoint.not_isSurrogate_of_isAlphanumeric (List.mem_takeWhile_imp hc)
      have hbehind : Text.Encodable (rest.dropWhile CodePoint.isAlphanumeric) := by
        rcases hmap.1.2 with hnil | hend
        · simp [hnil]
        · simp [hend]
      rw [Text.eq_append_of_after? hrest, encodable_append]
      refine ⟨encodable_ofString _, ?_⟩
      rw [← List.takeWhile_append_dropWhile (p := CodePoint.isAlphanumeric) (l := rest)]
      exact (encodable_append _ _).2 ⟨hfront, hbehind⟩

/-- Command lists are named after their file. -/
lemma source_of_load {disk : Disk} {path : Path} {selection : Selection}
    {lists : List (EventRef × List Json)} (h : load disk path selection = .ok lists) :
    ∀ entry ∈ lists, entry.1.source = path.stem := by
  have hpage : ∀ event page, Ends (fun _ => True)
      (fun entry : EventRef × List Json => entry.1.source = path.stem)
      (pageList path event page) := by
    rintro event ⟨index, page⟩
    simp only [pageList]
    split <;> simp
  have hfields : ∀ kind page event fields, Ends (fun _ => True)
      (fun entries : List (EventRef × List Json) => ∀ entry ∈ entries, entry.1.source = path.stem)
      (fieldLists kind path page event fields) := by
    intro kind page event fields
    unfold fieldLists
    split
    · split <;> simp
    · split
      · rw [ends_bind]
        cases selectPages path event _ page with
        | error fault => trivial
        | ok chosen => exact ends_mapM fun page _ => hpage event page
      · trivial
  have hrecord : ∀ kind page record, Ends (fun _ => True)
      (fun entries : List (EventRef × List Json) => ∀ entry ∈ entries, entry.1.source = path.stem)
      (recordLists kind path page record) := by
    rintro kind page ⟨index, record⟩
    unfold recordLists
    split
    · simp
    · split_ifs
      · exact hfields kind page _ _
      · trivial
    · trivial
  obtain ⟨kind, records, hholds⟩ := holds_of_load h
  rw [load_eq hholds] at h
  split_ifs at h
  obtain ⟨chosen, -, h⟩ := bind_eq_ok.1 h
  obtain ⟨results, hresults, h⟩ := bind_eq_ok.1 h
  obtain rfl := Except.ok.inj h
  intro entry hentry
  obtain ⟨entries, hentries, hentry⟩ := List.mem_flatten.1 hentry
  exact (ends_mapM fun record _ => hrecord kind selection.page record).of_ok hresults entries
    hentries entry hentry

end EventFile

namespace CommandLine

variable {call : Invocation} {disk : Disk}

/-- The indent of a run consists of blanks. -/
lemma Options.SettingsAre.spaced {options : Options} {settings : ConvertOptions}
    (h : options.SettingsAre settings) : settings.style.Spaced := by
  obtain ⟨spec, -, hstyle⟩ := h.style
  exact Style.spaced_of_ofSpec hstyle

/-- What a run converts its events to can be encoded. -/
theorem Invocation.Converts.encodable {log : List Log.Record} {result : RunResult}
    (h : call.Converts disk log result) : ∀ event ∈ result.events, event.Encodable := by
  obtain ⟨-, converter, lists, asked, hconvert⟩ := h
  refine Converter.encodable_of_convertEvents asked.names.valid asked.settings.spaced.encodable ?_
    hconvert
  intro event hevent
  obtain ⟨⟨ref, commands⟩, hentry, rfl⟩ := List.mem_map.1 hevent
  obtain ⟨kind, records, hkind, -⟩ := EventFile.holds_of_load asked.lists
  have hsource : ref.source.Encodable := by
    rw [EventFile.source_of_load asked.lists _ hentry]
    exact EventFile.encodable_stem hkind
  simp only [EventId.text, EventRef.text]
  split <;> simp [hsource]

end CommandLine

end EventScript
