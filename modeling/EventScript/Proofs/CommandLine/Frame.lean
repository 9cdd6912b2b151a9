import EventScript.Proofs.CommandLine.Course
import EventScript.Proofs.Json.RoundTrip
import EventScript.Proofs.Project.Disk

/-! What a run leaves as it was. It touches at most the output, the temporary file beside it and the
diagnostics file; and the output is either left alone or holds the whole script. Paths that lead to
one place are one file, however they are spelled. -/
namespace EventScript

namespace Diagnostic

lemma floatFree_toJson (d : Diagnostic) : d.toJson.FloatFree := by
  have hindex : ((d.index.map Json.int).getD .null).FloatFree := by
    cases d.index <;> constructor
  have hcode : ((d.code.map RowCode.toJson).getD .null).FloatFree := by
    rcases d.code with _ | (n | b) <;> constructor
  refine .obj ?_
  simp [hindex, hcode, Json.FloatFree.str]

lemma keyed_toJson (d : Diagnostic) : d.toJson.Keyed := by
  have hindex : ((d.index.map Json.int).getD .null).Keyed := by
    cases d.index <;> constructor
  have hcode : ((d.code.map RowCode.toJson).getD .null).Keyed := by
    rcases d.code with _ | (n | b) <;> constructor
  have hdistinct : (["event_id", "command_index", "code", "error_kind", "message"] :
      List Text).Nodup := by decide
  refine .obj hdistinct ?_
  simp [hindex, hcode, Json.Keyed.str]

/-- Stored reports are read back as they were. -/
lemma parse?_renderLines (reports : List Diagnostic) :
    Json.parse? (Json.arr (reports.map toJson)).renderLines = some (.arr (reports.map toJson)) := by
  have hreports : ∀ v ∈ reports.map toJson, v.FloatFree ∧ v.Keyed := by
    intro v hv
    obtain ⟨d, -, rfl⟩ := List.mem_map.1 hv
    exact ⟨d.floatFree_toJson, d.keyed_toJson⟩
  exact (Json.parse?_renderLines (.arr fun v hv => (hreports v hv).1)).2
    (.arr fun v hv => (hreports v hv).2)

end Diagnostic

namespace CommandLine

/-- The output stands at a place. -/
def Options.OutputAt (options : Options) (disk : Disk) (place : Path) : Prop :=
  ∃ output, options.output = .value output ∧ disk.resolve output = .ok place

/-- The temporary file beside the output stands at a place. -/
def Options.TemporaryAt (options : Options) (disk : Disk) (place : Path) : Prop :=
  ∃ output temporary, options.output = .value output ∧
    output.extend? ".tmp" = some temporary ∧ disk.resolve temporary = .ok place

/-- The diagnostics file stands at a place. -/
def Options.DiagnosticsAt (options : Options) (disk : Disk) (place : Path) : Prop :=
  ∃ path, options.diagnostics = some (.value path) ∧ disk.resolve path = .ok place

/-- The exit code of a run that has one. -/
def Ending.code? : Ending → Option Nat
  | .exit code => some code
  | .crash _ => none

lemma Ending.code?_eq_some {ending : Ending} {code : Nat} :
    ending.code? = some code ↔ ending = .exit code := by
  cases ending <;> simp [code?]

@[simp] lemma disk_refuse (disk : Disk) (log : List Log.Record) (fault : Fault) :
    (refuse disk log fault).disk = disk := by
  unfold refuse
  split <;> rfl

lemma ending_refuse_ne_exit_zero (disk : Disk) (log : List Log.Record) (fault : Fault) :
    (refuse disk log fault).ending ≠ .exit 0 := by
  unfold refuse
  split <;> simp

@[simp] lemma disk_writeFailure (disk : Disk) (log : List Log.Record) (fault : Disk.WriteFault) :
    (writeFailure disk log fault).disk = disk := by
  cases fault <;> rfl

lemma ending_writeFailure_ne_exit_zero (disk : Disk) (log : List Log.Record)
    (fault : Disk.WriteFault) : (writeFailure disk log fault).ending ≠ .exit 0 := by
  cases fault <;> simp [writeFailure]

namespace Invocation

open Disk

variable {call : Invocation} {disk noted left : Disk} {log : List Log.Record} {result : RunResult}
  {outcome : Outcome} {place : Path}

lemma Noted.alikeBut (h : call.Noted disk result noted) :
    AlikeBut (call.options.DiagnosticsAt disk) disk noted := by
  cases h with
  | unasked h => exact .refl _ disk
  | written hpath hwrite =>
    exact (alikeBut_writeText hwrite).mono fun place hplace => ⟨_, hpath, hplace⟩

/-- Diagnostics that were asked for can be found, and read back. -/
lemma Noted.exists_bytes {path : Path} (h : call.Noted disk result noted)
    (hpath : call.options.diagnostics = some (.value path)) :
    ∃ place bytes, disk.locate path = .ok place ∧
      (Text.encodeUtf8? (diagnosticsText result) = some bytes ∧
        (Text.decodeUtf8? bytes).bind Json.parse? =
          some (.arr (result.diagnostics.map Diagnostic.toJson))) ∧
      noted.node? place = some (.file bytes) := by
  cases h with
  | unasked h => simp [h] at hpath
  | written h hwrite =>
    obtain rfl : _ = path := by simpa [h] using hpath
    obtain ⟨place, bytes, hplace, hbytes, hfile⟩ := writeText_eq_ok hwrite
    refine ⟨place, bytes, hplace, ⟨hbytes, ?_⟩, hfile⟩
    rw [Text.decodeUtf8?_of_encodeUtf8? hbytes]
    exact Diagnostic.parse?_renderLines result.diagnostics

/-- A run that ends without a script changes the temporary file and the diagnostics at most. -/
lemma Course.alikeBut_of_unwritten (course : call.Course disk outcome)
    (h : outcome.ending ≠ .exit 0 ∨ call.options.dryRun = true) :
    AlikeBut (fun place => call.options.TemporaryAt disk place ∨
      call.options.DiagnosticsAt disk place) disk outcome.disk := by
  cases course with
  | blankStart | unanswered | present | blankDiagnostics => exact .refl _ disk
  | unprepared | unconverted =>
    rw [disk_refuse]
    exact .refl _ disk
  | unnoted _ hpath hwrite =>
    rw [disk_writeFailure]
    exact (alikeBut_writeText hwrite).mono fun place hplace => .inr ⟨_, hpath, hplace⟩
  | dry _ hnoted => exact hnoted.alikeBut.mono fun _ => .inr
  | blankEnd _ hnoted => exact hnoted.alikeBut.mono fun _ => .inr
  | unwritten _ hnoted _ houtput hreplace =>
    rw [disk_writeFailure]
    refine (hnoted.alikeBut.mono fun _ => .inr).trans ((replaceText_eq_error hreplace).mono ?_)
    rintro place ⟨temporary, htemporary, hplace⟩
    exact .inl ⟨_, temporary, houtput, htemporary, hnoted.alikeBut.resolve_eq_ok.1 hplace⟩
  | written _ _ hdry => simp [hdry] at h

/-- A run that wrote its script has replaced the output by it, with nothing left beside it. -/
lemma Course.written_of_exit_zero (course : call.Course disk outcome)
    (hcode : outcome.ending = .exit 0) (hdry : call.options.dryRun = false) :
    ∃ log result noted output, call.Converts disk log result ∧ call.Noted disk result noted ∧
      call.options.output = .value output ∧
      noted.replaceText output result.render = (outcome.disk, .ok ()) := by
  cases course with
  | blankStart | unanswered | present | blankDiagnostics | blankEnd => simp at hcode
  | unprepared | unconverted => exact absurd hcode (ending_refuse_ne_exit_zero _ _ _)
  | unnoted | unwritten => exact absurd hcode (ending_writeFailure_ne_exit_zero _ _ _)
  | dry _ _ h => simp [hdry] at h
  | written converts hnoted _ houtput h => exact ⟨_, _, _, _, converts, hnoted, houtput, h⟩

/-- Whatever a run does, it touches no other files than its own three. -/
lemma Course.alikeBut (course : call.Course disk outcome) :
    AlikeBut (fun place => call.options.OutputAt disk place ∨ call.options.TemporaryAt disk place ∨
      call.options.DiagnosticsAt disk place) disk outcome.disk := by
  by_cases h : outcome.ending ≠ .exit 0 ∨ call.options.dryRun = true
  · exact (course.alikeBut_of_unwritten h).mono fun _ => .inr
  · obtain ⟨hcode, hdry⟩ := not_or.1 h
    obtain ⟨_, _, noted, output, -, hnoted, houtput, hreplace⟩ :=
      course.written_of_exit_zero (not_not.1 hcode) (by simpa using hdry)
    obtain ⟨temporary, place, spare, _, htemporary, hplace, hspare, -, -, -, halike⟩ :=
      replaceText_eq_ok hreplace
    have hsame := hnoted.alikeBut
    refine (hsame.mono fun _ h => .inr (.inr h)).trans (halike.mono ?_)
    rintro other (rfl | rfl)
    · exact .inl ⟨output, houtput, hsame.resolve_eq_ok.1 (locate_eq_ok.1 hplace).2⟩
    · exact .inr (.inl ⟨output, temporary, houtput, htemporary,
        hsame.resolve_eq_ok.1 (locate_eq_ok.1 hspare).2⟩)

/-- Output that is there already and may not be replaced stops a run at once. -/
lemma Course.of_present (course : call.Course disk outcome) {output : Path}
    (asks : call.options.Asks) (houtput : call.options.output = .value output)
    (h : disk.contains output = .ok true) : outcome.ending = .exit 2 ∧ outcome.disk = disk := by
  have hbars : ¬call.options.Admits disk := by
    rintro (hdry | hoverwrite | ⟨other, hother, hfree⟩)
    · simp [asks.1] at hdry
    · simp [asks.2] at hoverwrite
    · obtain rfl : output = other := by simpa [houtput] using hother
      simp [h] at hfree
  cases course with
  | blankStart _ hblank => simp [houtput] at hblank
  | unanswered _ hother hfault =>
    obtain rfl : output = _ := by simpa [houtput] using hother
    simp [h] at hfault
  | present => exact ⟨rfl, rfl⟩
  | unprepared admits | unconverted admits => exact absurd admits hbars
  | blankDiagnostics converts | unnoted converts | dry converts | blankEnd converts
  | unwritten converts | written converts => exact absurd converts.1 hbars

/-- A run that ends touches only its output, the temporary file beside it and its diagnostics. It
leaves the output alone if it fails or is a dry run, unless the diagnostics go there; it does
nothing at all if the output is there and may not be replaced; and if it succeeds, the output holds
the script of the events it was asked to convert, the temporary file is gone and the diagnostics
file, if it is a third one, is read back as the list of the diagnostics. -/
theorem run_touches (call : Invocation) (disk : Disk) {code : Nat}
    (h : (call.run disk).ending = .exit code) :
    (∀ place, ¬call.options.OutputAt disk place → ¬call.options.TemporaryAt disk place →
      ¬call.options.DiagnosticsAt disk place →
      (call.run disk).disk.node? place = disk.node? place) ∧
    (code ≠ 0 ∨ call.options.dryRun = true → ∀ place, call.options.OutputAt disk place →
      ¬call.options.DiagnosticsAt disk place →
      (call.run disk).disk.node? place = disk.node? place) ∧
    (∀ output, call.options.output = .value output → disk.contains output = .ok true →
      call.options.overwrite = false → call.options.dryRun = false →
      code = 2 ∧ (call.run disk).disk = disk) ∧
    (code = 0 → call.options.dryRun = false →
      ∃ converter lists log result output temporary bytes,
        call.Asked disk converter lists ∧
        converter.convertEvents (eventsOf lists) = (log, .ok result) ∧
        call.options.output = .value output ∧ Text.encodeUtf8? result.render = some bytes ∧
        Text.decodeUtf8? bytes = some result.render ∧
        (call.run disk).disk.read output = .ok bytes ∧
        output.extend? ".tmp" = some temporary ∧
        (call.run disk).disk.contains temporary = .ok false ∧
        ∀ path, call.options.diagnostics = some (.value path) → ∃ place,
          disk.resolve path = .ok place ∧
          (¬call.options.OutputAt disk place → ¬call.options.TemporaryAt disk place →
            ∃ notes, Text.encodeUtf8? (diagnosticsText result) = some notes ∧
              (call.run disk).disk.read path = .ok notes ∧
              (Text.decodeUtf8? notes).bind Json.parse? = some (.arr <|
                result.diagnostics.map fun d => .obj [("event_id", .str d.eventId.text),
                  ("command_index", (d.index.map Json.int).getD .null),
                  ("code", (d.code.map RowCode.toJson).getD .null),
                  ("error_kind", .str d.kind), ("message", .str d.message)]))) := by
  have course := call.course_execute disk
  rw [ending_run] at h
  rw [disk_run]
  refine ⟨?_, ?_, ?_, ?_⟩
  · intro place houtput htemporary hdiagnostics
    exact course.alikeBut.elsewhere place (by simp [houtput, htemporary, hdiagnostics])
  · rintro hcode place ⟨output, houtput, hplace⟩ hdiagnostics
    refine (course.alikeBut_of_unwritten ?_).elsewhere place ?_
    · rw [h]
      simpa using hcode
    · rintro (⟨other, temporary, hother, htemporary, hspare⟩ | hnoted)
      · obtain rfl : output = other := by simpa [houtput] using hother
        exact ne_of_extend? htemporary hplace hspare rfl
      · exact hdiagnostics hnoted
  · intro output houtput hthere hoverwrite hdry
    obtain ⟨hcode, hdisk⟩ := course.of_present ⟨hdry, hoverwrite⟩ houtput hthere
    rw [h] at hcode
    exact ⟨by simpa using hcode, hdisk⟩
  · rintro rfl hdry
    obtain ⟨log, result, noted, output, ⟨-, converter, lists, asked, hconvert⟩, hnoted, houtput,
      hreplace⟩ := course.written_of_exit_zero h hdry
    obtain ⟨temporary, place, spare, bytes, htemporary, hplace, hspare, hbytes, hfile, hgone,
      halike⟩ := replaceText_eq_ok hreplace
    have hsame := hnoted.alikeBut
    refine ⟨converter, lists, log, result, output, temporary, bytes, asked, hconvert, houtput,
      hbytes, Text.decodeUtf8?_of_encodeUtf8? hbytes,
      read_eq_ok.2 ⟨place, halike.locate_eq_ok.2 hplace, hfile⟩, htemporary, ?_, ?_⟩
    · simp [Disk.contains, halike.locate_eq_ok.2 hspare, hgone]
    · intro path hpath
      obtain ⟨third, notes, hthird, hnotes, hthere⟩ := hnoted.exists_bytes hpath
      refine ⟨third, (locate_eq_ok.1 hthird).2, fun hnotOutput hnotTemporary => ?_⟩
      refine ⟨notes, hnotes.1, read_eq_ok.2 ⟨third, ?_, ?_⟩, hnotes.2⟩
      · exact halike.locate_eq_ok.2 (hsame.locate_eq_ok.2 hthird)
      · rw [halike.elsewhere third, hthere]
        rintro (rfl | rfl)
        · exact hnotOutput ⟨output, houtput, hsame.resolve_eq_ok.1 (locate_eq_ok.1 hplace).2⟩
        · exact hnotTemporary ⟨output, temporary, houtput, htemporary,
            hsame.resolve_eq_ok.1 (locate_eq_ok.1 hspare).2⟩

/-- A file with an event whose only command is not known, and an older script. -/
def oneUnknown : Disk :=
  Disk.withFile (Disk.withFile {} ⟨0, ["out.py"]⟩ [0x61]) ⟨0, ["CommonEvents.json"]⟩ <|
    (Text.encodeUtf8? "[null,\x7b\"id\":1,\"list\":[\x7b\"code\":999,\"indent\":0\x7d]\x7d]").getD []

/-- The older script is replaced, and what was not known is noted elsewhere. -/
def replacing : Invocation where
  input := ⟨0, ["CommonEvents.json"]⟩
  options := { overwrite := true, diagnostics := some (.value ⟨0, ["notes.json"]⟩) }

/-- The note on the command. -/
def unknownNote : Diagnostic where
  eventId := .ref ⟨"CommonEvents", 1, none⟩
  index := some 0
  code := some (.number 999)
  kind := "UnrecognizedCode"
  message := "unrecognized command code 999 for variant mv"

/-- The paths that are written to lead to themselves. -/
lemma eq_of_resolve_oneUnknown {path place : Path} (hpath : path ∈ ([⟨0, ["out.py"]⟩,
      ⟨0, ["out.py.tmp"]⟩, ⟨0, ["notes.json"]⟩] : List Path))
    (h : oneUnknown.resolve path = .ok place) : place = path := by
  have hself : ∀ path ∈ ([⟨0, ["out.py"]⟩, ⟨0, ["out.py.tmp"]⟩, ⟨0, ["notes.json"]⟩] : List Path),
      (oneUnknown.resolve path).toOption = some path := by decide +kernel
  have hplace := hself path hpath
  rw [h] at hplace
  exact Option.some.inj hplace

lemma eq_of_outputAt {place : Path} (h : replacing.options.OutputAt oneUnknown place) :
    place = ⟨0, ["out.py"]⟩ := by
  obtain ⟨output, houtput, hplace⟩ := h
  cases houtput
  exact eq_of_resolve_oneUnknown (by simp) hplace

lemma eq_of_temporaryAt {place : Path} (h : replacing.options.TemporaryAt oneUnknown place) :
    place = ⟨0, ["out.py.tmp"]⟩ := by
  obtain ⟨output, temporary, houtput, htemporary, hplace⟩ := h
  cases houtput
  cases htemporary
  have hplace : oneUnknown.resolve ⟨0, ["out.py.tmp"]⟩ = .ok place := hplace
  exact eq_of_resolve_oneUnknown (by simp) hplace

lemma eq_of_diagnosticsAt {place : Path} (h : replacing.options.DiagnosticsAt oneUnknown place) :
    place = ⟨0, ["notes.json"]⟩ := by
  obtain ⟨path, hpath, hplace⟩ := h
  cases hpath
  exact eq_of_resolve_oneUnknown (by simp) hplace

theorem run_touches_oneUnknown :
    (replacing.run oneUnknown).ending = .exit 0 ∧
    (replacing.run oneUnknown).disk.node? ⟨0, ["CommonEvents.json"]⟩ =
      oneUnknown.node? ⟨0, ["CommonEvents.json"]⟩ ∧
    ∃ result : RunResult, ∃ bytes notes, Text.encodeUtf8? result.render = some bytes ∧
      (replacing.run oneUnknown).disk.read ⟨0, ["out.py"]⟩ = .ok bytes ∧
      (replacing.run oneUnknown).disk.contains ⟨0, ["out.py.tmp"]⟩ = .ok false ∧
      (replacing.run oneUnknown).disk.read ⟨0, ["notes.json"]⟩ = .ok notes ∧
      (Text.decodeUtf8? notes).bind Json.parse? = some (.arr [unknownNote.toJson]) ∧
      result.diagnostics.map Diagnostic.toJson = [unknownNote.toJson] := by
  have hending : (replacing.run oneUnknown).ending = .exit 0 := by
    have hcode : (replacing.run oneUnknown).ending.code? = some 0 := by decide +kernel
    exact Ending.code?_eq_some.1 hcode
  have hnoted : ((replacing.run oneUnknown).disk.read ⟨0, ["notes.json"]⟩).toOption.bind
      Text.decodeUtf8? = some (Json.arr ([unknownNote].map Diagnostic.toJson)).renderLines := by
    decide +kernel
  obtain ⟨hframe, -, -, hwritten⟩ := run_touches replacing oneUnknown hending
  obtain ⟨-, -, -, result, output, temporary, bytes, -, -, houtput, hbytes, -, hread, htemporary,
    hgone, hdiagnostics⟩ := hwritten rfl rfl
  cases houtput
  cases htemporary
  obtain ⟨place, hplace, hthere⟩ := hdiagnostics _ rfl
  obtain rfl := eq_of_resolve_oneUnknown (by simp) hplace
  obtain ⟨notes, -, hnotes, hparse⟩ := hthere (fun h => absurd (eq_of_outputAt h) (by decide))
    fun h => absurd (eq_of_temporaryAt h) (by decide)
  have hlist : (Text.decodeUtf8? notes).bind Json.parse? = some (.arr [unknownNote.toJson]) := by
    rw [hnotes] at hnoted
    have htext : Text.decodeUtf8? notes = _ := hnoted
    rw [htext, Option.bind_some, Diagnostic.parse?_renderLines, List.map_singleton]
  have hsame : result.diagnostics.map Diagnostic.toJson = [unknownNote.toJson] :=
    Json.arr.inj (Option.some.inj (hparse.symm.trans hlist))
  refine ⟨hending, hframe _ ?_ ?_ ?_, result, bytes, notes, hbytes, hread, hgone, hnotes, hlist,
    hsame⟩
  · exact fun h => absurd (eq_of_outputAt h) (by decide)
  · exact fun h => absurd (eq_of_temporaryAt h) (by decide)
  · exact fun h => absurd (eq_of_diagnosticsAt h) (by decide)

end Invocation

end CommandLine

end EventScript
