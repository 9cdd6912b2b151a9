import EventScript.Proofs.Convert.Text

/-! Several events under the three policies for those that fail. A run settles its events one by one,
so what becomes of an event depends on nothing but that event. A run that aborts stops at the first
event that a run that skips marks as failed. -/
namespace EventScript

/-- How many records of a log are warnings. -/
def Log.warnings (records : List Log.Record) : Nat :=
  records.countP fun record => record.level = .warning

namespace Text

lemma commentCharWith_ne_nil (printable : CodePoint → Bool) (c : CodePoint) :
    commentCharWith printable c ≠ [] := by
  unfold commentCharWith lineEscape? spellWith
  split_ifs <;> simp [charEscape, hexEscape]

lemma escapeComment_ne_nil {t : Text} (h : t ≠ []) : t.escapeComment ≠ [] := by
  obtain ⟨c, rest, rfl⟩ := List.exists_cons_of_ne_nil h
  simp [escapeComment, escapeCommentWith, commentCharWith_ne_nil]

end Text

namespace Converter

open Writer

/-- The converter with another policy for events that fail. -/
def withPolicy (converter : Converter) (policy : ErrorPolicy) : Converter :=
  { converter with options := { converter.options with onError := policy } }

/-- The lines of a stub: two comments and a statement that does nothing. -/
def stubLines (d : Diagnostic) : List Text :=
  ["# " ++ ("event " ++ d.eventId.text ++ " could not be translated").escapeComment,
    "# " ++ (d.kind ++ ": " ++ d.message).escapeComment, "pass"]

/-- What becomes of an event under a policy that lets the run go on. An event that can be converted
alone has that result; any other one is marked as failed, with a single report. -/
inductive Settled (converter : Converter) :
    ErrorPolicy → EventId × List RawRow → EventResult → Prop
  | converted {policy : ErrorPolicy} {id : EventId} {raw : List RawRow} {result : EventResult}
      {records : List Log.Record} (h : converter.convertEvent id raw = .ok (result, records))
      (hfailed : result.failed = false) : Settled converter policy (id, raw) result
  | skipped {id : EventId} {raw : List RawRow} {fault : EventFault}
      (h : converter.convertEvent id raw = .error (.event fault)) :
      Settled converter .skip (id, raw) ⟨id, none, [.ofFault fault], true⟩
  | stubbed {id : EventId} {raw : List RawRow} {fault : EventFault} {text : Text}
      (h : converter.convertEvent id raw = .error (.event fault))
      (hlines : text.splitAt CodePoint.newline = stubLines (.ofFault fault) ++ [[]]) :
      Settled converter .placeholder (id, raw) ⟨id, some text, [.ofFault fault], true⟩

variable {converter : Converter} {id : EventId} {raw : List RawRow}
  {events : List (EventId × List RawRow)} {results : List EventResult}

/-- The policy for failed events has no part in converting an event. -/
@[simp] lemma convertEvent_withPolicy (policy : ErrorPolicy) :
    (converter.withPolicy policy).convertEvent = converter.convertEvent := rfl

lemma convertEvent_cases (converter : Converter) (id : EventId) (raw : List RawRow) :
    (∃ fragment, converter.convertEvent id raw =
      .ok (outcome converter.options.style id raw.length fragment)) ∨
    ∃ fault, converter.convertEvent id raw = .error (.event fault) := by
  have hends := converter.decompile_ends id raw
  rw [convertEvent_eq]
  cases hfragment : converter.decompile id raw with
  | ok fragment => exact .inl ⟨fragment, rfl⟩
  | error failure =>
    rw [hfragment] at hends
    obtain ⟨fault, rfl, -⟩ := hends
    exact .inr ⟨fault, rfl⟩

lemma splitAt_stub (d : Diagnostic) :
    (stub d).splitAt CodePoint.newline = stubLines d ++ [[]] := by
  have hsplit : (Writer.run {} (stubSteps d)).render.splitAt CodePoint.newline =
      (written {} (stubSteps d)).map (Line.text {}) ++ [[]] :=
    splitAt_render (by decide) (fit_stubSteps d)
  have htitle : ("event " ++ d.eventId.text ++ " could not be translated").escapeComment ≠ [] :=
    Text.escapeComment_ne_nil (by simp [Text.ofString])
  have hcause : (d.kind ++ Text.ofString ": " ++ d.message).escapeComment ≠ [] :=
    Text.escapeComment_ne_nil (by simp [Text.ofString])
  have hlines : (written {} (stubSteps d)).map (Line.text {}) = stubLines d := by
    rw [written, stubSteps]
    simp only [asked, Step.lines, if_neg htitle, if_neg hcause]
    rfl
  rw [← hlines]
  exact hsplit

/-- An event under a policy that lets the run go on. Each report comes with a warning. -/
lemma convertOne_settles (converter : Converter) {policy : ErrorPolicy} (h : policy ≠ .abort)
    (id : EventId) (raw : List RawRow) :
    ∃ result records, (converter.withPolicy policy).convertOne id raw = .ok (result, records) ∧
      Settled converter policy (id, raw) result ∧
      Log.warnings records = result.diagnostics.length := by
  rw [convertOne, convertEvent_withPolicy]
  rcases converter.convertEvent_cases id raw with ⟨fragment, hok⟩ | ⟨fault, hfault⟩
  · rw [hok]
    refine ⟨_, _, rfl, .converted hok rfl, ?_⟩
    simp [Log.warnings, placeholderWarning, List.countP_map, Function.comp_def]
  · rw [hfault]
    cases policy with
    | abort => exact absurd rfl h
    | skip => exact ⟨_, _, rfl, .skipped hfault, rfl⟩
    | placeholder => exact ⟨_, _, rfl, .stubbed hfault (splitAt_stub _), rfl⟩

lemma convertList_of_ok {result : EventResult} {records : List Log.Record}
    (h : converter.convertOne id raw = .ok (result, records))
    (events : List (EventId × List RawRow)) :
    converter.convertList ((id, raw) :: events) =
      (records ++ (converter.convertList events).1,
        (converter.convertList events).2.map (result :: ·)) := by
  rw [convertList, h]

lemma convertList_of_error {failure : ConvertFailure}
    (h : converter.convertOne id raw = .error failure) (events : List (EventId × List RawRow)) :
    converter.convertList ((id, raw) :: events) = ([], .error failure) := by
  rw [convertList, h]

/-- A run that ends has one result for each event, that of the event alone. -/
lemma convertList_eq_ok :
    (converter.convertList events).2 = .ok results ↔
      List.Forall₂ (fun event result =>
        ∃ records, converter.convertOne event.1 event.2 = .ok (result, records)) events results := by
  induction events generalizing results with
  | nil => simp [convertList, eq_comm]
  | cons event events ih =>
    obtain ⟨id, raw⟩ := event
    rw [List.forall₂_cons_left_iff]
    cases hone : converter.convertOne id raw with
    | error failure => simp [convertList_of_error hone]
    | ok outcome =>
      obtain ⟨result, records⟩ := outcome
      simp only [convertList_of_ok hone, ← ih]
      cases (converter.convertList events).2 with
      | error failure => simp [Except.map]
      | ok more => simp [Except.map, eq_comm]

/-- A run stops at the first event that fails, and as that event does. -/
lemma convertList_stops {before : List (EventId × List RawRow)} {failure : ConvertFailure}
    (hbefore : (converter.convertList before).2 = .ok results)
    (h : converter.convertOne id raw = .error failure) (after : List (EventId × List RawRow)) :
    (converter.convertList (before ++ (id, raw) :: after)).2 = .error failure := by
  rw [convertList_eq_ok] at hbefore
  induction hbefore with
  | nil => rw [List.nil_append, convertList_of_error h]
  | cons hone _ ih =>
    obtain ⟨records, hone⟩ := hone
    rw [List.cons_append, convertList_of_ok hone, ih]
    rfl

/-- The result at a position is that of the event there. -/
lemma getElem?_results (h : (converter.convertList events).2 = .ok results) (i : Nat) :
    results[i]?.map some = events[i]?.map fun event =>
      (converter.convertOne event.1 event.2).toOption.map Prod.fst := by
  have hmap : results.map some = events.map fun event =>
      (converter.convertOne event.1 event.2).toOption.map Prod.fst := by
    rw [convertList_eq_ok] at h
    induction h with
    | nil => rfl
    | cons hone _ ih =>
      obtain ⟨records, hone⟩ := hone
      simp [hone, ih, Except.toOption]
  rw [← List.getElem?_map, ← List.getElem?_map, hmap]

/-- Under a policy that lets the run go on it ends, and each event is settled on its own. -/
lemma convertList_settles (converter : Converter) {policy : ErrorPolicy} (h : policy ≠ .abort)
    (events : List (EventId × List RawRow)) :
    ∃ results, ((converter.withPolicy policy).convertList events).2 = .ok results ∧
      List.Forall₂ (Settled converter policy) events results ∧
      Log.warnings ((converter.withPolicy policy).convertList events).1 =
        (results.flatMap EventResult.diagnostics).length := by
  induction events with
  | nil => exact ⟨[], rfl, .nil, rfl⟩
  | cons event events ih =>
    obtain ⟨id, raw⟩ := event
    obtain ⟨result, records, hone, hsettled, hwarnings⟩ := converter.convertOne_settles h id raw
    obtain ⟨results, hrun, hall, hcount⟩ := ih
    refine ⟨result :: results, ?_, .cons hsettled hall, ?_⟩
    · rw [convertList_of_ok hone, hrun]
      rfl
    · rw [convertList_of_ok hone, List.flatMap_cons, List.length_append, ← hwarnings, ← hcount]
      exact List.countP_append

/-- An event that a run skips is one at which a run that aborts stops, and any other has the same
result in both. -/
lemma convertOne_abort {result : EventResult} {records : List Log.Record}
    (h : (converter.withPolicy .skip).convertOne id raw = .ok (result, records)) :
    result.failed = false ∧
        (converter.withPolicy .abort).convertOne id raw = .ok (result, records) ∨
      result.failed = true ∧ ∃ fault, converter.convertEvent id raw = .error (.event fault) ∧
        (converter.withPolicy .abort).convertOne id raw = .error (.event fault) := by
  rw [convertOne, convertEvent_withPolicy] at h ⊢
  rcases converter.convertEvent_cases id raw with ⟨fragment, hok⟩ | ⟨fault, hfault⟩
  · rw [hok] at h ⊢
    obtain ⟨rfl, rfl⟩ := Prod.mk.inj (Except.ok.inj h)
    exact .inl ⟨rfl, rfl⟩
  · rw [hfault] at h ⊢
    obtain ⟨rfl, rfl⟩ := Prod.mk.inj (Except.ok.inj h)
    exact .inr ⟨rfl, fault, rfl, rfl⟩

lemma convertEvents_eq (converter : Converter) (events : List (EventId × List RawRow)) :
    converter.convertEvents events =
      ((converter.convertList events).1, (converter.convertList events).2.map RunResult.mk) := rfl

lemma convertEvents_eq_ok {run : RunResult} :
    (converter.convertEvents events).2 = .ok run ↔
      (converter.convertList events).2 = .ok run.events := by
  rw [convertEvents_eq]
  cases (converter.convertList events).2 with
  | error failure => simp [Except.map]
  | ok results =>
    obtain ⟨more⟩ := run
    simp [Except.map]

/-- If a run that skips marks no event as failed, a run that aborts has the same results. -/
lemma convertList_abort_ok
    (h : ((converter.withPolicy .skip).convertList events).2 = .ok results)
    (hnone : ∀ result ∈ results, result.failed = false) :
    ((converter.withPolicy .abort).convertList events).2 = .ok results := by
  rw [convertList_eq_ok] at h ⊢
  induction h with
  | nil => exact .nil
  | cons hone _ ih =>
    rw [List.forall_mem_cons] at hnone
    obtain ⟨records, hone⟩ := hone
    rcases convertOne_abort hone with ⟨-, hsame⟩ | ⟨hfailed, -⟩
    · exact .cons ⟨records, hsame⟩ (ih hnone.2)
    · rw [hnone.1] at hfailed
      cases hfailed

/-- A run that aborts stops at the first event that a run that skips marks as failed. -/
lemma convertList_abort_error {kept rest : List EventResult} {marked : EventResult}
    (h : ((converter.withPolicy .skip).convertList events).2 = .ok (kept ++ marked :: rest))
    (hkept : ∀ result ∈ kept, result.failed = false) (hmarked : marked.failed = true) :
    ∃ id raw fault, events[kept.length]? = some (id, raw) ∧
      converter.convertEvent id raw = .error (.event fault) ∧
      ((converter.withPolicy .abort).convertList events).2 = .error (.event fault) := by
  rw [convertList_eq_ok] at h
  have hbefore := List.forall₂_take_append events kept (marked :: rest) h
  have hafter := List.forall₂_drop_append events kept (marked :: rest) h
  rw [List.forall₂_cons_right_iff] at hafter
  obtain ⟨⟨id, raw⟩, after, ⟨records, hone⟩, -, hdrop⟩ := hafter
  have hsplit : events = events.take kept.length ++ (id, raw) :: after := by
    rw [← hdrop, List.take_append_drop]
  have hconverted := convertList_abort_ok (convertList_eq_ok.2 hbefore) hkept
  rcases convertOne_abort hone with ⟨hfailed, -⟩ | ⟨-, fault, hfault, habort⟩
  · rw [hmarked] at hfailed
    cases hfailed
  · refine ⟨id, raw, fault, ?_, hfault, ?_⟩
    · rw [← List.head?_drop, hdrop]
      rfl
    · rw [hsplit]
      exact convertList_stops hconverted habort after

/-- The policies agree. Under those that let a run go on there is one result for each event, settled
by the event alone, so that an event has the same result wherever it stands and whatever stands
around it; the log has as many warnings as there are reports. A run that aborts stops exactly if
one that skips marks an event as failed, and as the first such event does; otherwise the two have the
same results. -/
theorem convertEvents_policies (converter : Converter) (events : List (EventId × List RawRow)) :
    (∀ policy ≠ .abort, ∃ run,
      ((converter.withPolicy policy).convertEvents events).2 = .ok run ∧
      List.Forall₂ (Settled converter policy) events run.events ∧
      Log.warnings ((converter.withPolicy policy).convertEvents events).1 =
        run.diagnostics.length ∧
      ∀ others run', ((converter.withPolicy policy).convertEvents others).2 = .ok run' →
        ∀ i j : Nat, others[j]? = events[i]? → run'.events[j]? = run.events[i]?) ∧
    ∃ skipped, ((converter.withPolicy .skip).convertEvents events).2 = .ok skipped ∧
      ((∃ failure, ((converter.withPolicy .abort).convertEvents events).2 = .error failure) ↔
        ∃ result ∈ skipped.events, result.failed = true) ∧
      (∀ kept marked rest, skipped.events = kept ++ marked :: rest →
        (∀ result ∈ kept, result.failed = false) → marked.failed = true →
        ∃ id raw fault, events[kept.length]? = some (id, raw) ∧
          converter.convertEvent id raw = .error (.event fault) ∧
          ((converter.withPolicy .abort).convertEvents events).2 = .error (.event fault)) ∧
      ((∀ result ∈ skipped.events, result.failed = false) →
        ((converter.withPolicy .abort).convertEvents events).2 = .ok skipped) := by
  refine ⟨fun policy hpolicy => ?_, ?_⟩
  · obtain ⟨results, hrun, hall, hwarnings⟩ := converter.convertList_settles hpolicy events
    refine ⟨⟨results⟩, convertEvents_eq_ok.2 hrun, hall, hwarnings, ?_⟩
    intro others run' hothers i j hsame
    have hat := getElem?_results hrun i
    rw [← hsame, ← getElem?_results (convertEvents_eq_ok.1 hothers) j] at hat
    exact (Option.map_injective (Option.some_injective _) hat).symm
  · have hskip : ErrorPolicy.skip ≠ .abort := by decide
    obtain ⟨results, hrun, -, -⟩ := converter.convertList_settles hskip events
    have hstops : ∀ kept marked rest, results = kept ++ marked :: rest →
        (∀ result ∈ kept, result.failed = false) → marked.failed = true →
        ∃ id raw fault, events[kept.length]? = some (id, raw) ∧
          converter.convertEvent id raw = .error (.event fault) ∧
          ((converter.withPolicy .abort).convertEvents events).2 = .error (.event fault) := by
      rintro kept marked rest rfl hkept hmarked
      obtain ⟨id, raw, fault, hat, hfault, habort⟩ := convertList_abort_error hrun hkept hmarked
      exact ⟨id, raw, fault, hat, hfault, by rw [convertEvents_eq, habort]; rfl⟩
    have hends : (∀ result ∈ results, result.failed = false) →
        ((converter.withPolicy .abort).convertEvents events).2 = .ok ⟨results⟩ :=
      fun hnone => convertEvents_eq_ok.2 (convertList_abort_ok hrun hnone)
    refine ⟨⟨results⟩, convertEvents_eq_ok.2 hrun, ⟨?_, ?_⟩, hstops, hends⟩
    · rintro ⟨failure, hfailure⟩
      by_contra hnone
      push Not at hnone
      rw [hends fun result hresult => by simpa using hnone result hresult] at hfailure
      cases hfailure
    · rintro ⟨result, hresult, hfailed⟩
      obtain ⟨marked, hfind⟩ := Option.isSome_iff_exists.1
        (List.find?_isSome.2 ⟨result, hresult, hfailed⟩)
      obtain ⟨hmarked, kept, rest, hsplit, hkept⟩ := List.find?_eq_some_iff_append.1 hfind
      obtain ⟨-, -, fault, -, -, habort⟩ :=
        hstops kept marked rest hsplit (by simpa using hkept) hmarked
      exact ⟨_, habort⟩

/-- An event that is converted, one whose loop is closed but never opened, and one with an unknown
code. -/
def strayEvents : List (EventId × List RawRow) :=
  [(.value (.int 1), [.ready ⟨230, 0, [.int 60]⟩]),
   (.value (.str "a\nb"), [.ready ⟨413, 0, []⟩]),
   (.value (.int 3), [.ready ⟨999, 0, []⟩])]

theorem convertEvents_policies_stray :
    let converter : Converter := { variant := .mz }
    (∃ run, ((converter.withPolicy .placeholder).convertEvents strayEvents).2 = .ok run ∧
      Log.warnings ((converter.withPolicy .placeholder).convertEvents strayEvents).1 =
        run.diagnostics.length ∧ run.diagnostics.length = 2) ∧
    ∃ kept marked rest fault,
      ((converter.withPolicy .skip).convertEvents strayEvents).2 =
        .ok ⟨kept ++ marked :: rest⟩ ∧
      (∀ result ∈ kept, result.failed = false) ∧ marked.failed = true ∧
      ((converter.withPolicy .abort).convertEvents strayEvents).2 = .error (.event fault) := by
  intro converter
  obtain ⟨hgoes, skipped, hskipped, -, hstops, -⟩ := convertEvents_policies converter strayEvents
  obtain ⟨run, hrun, -, hwarnings, -⟩ := hgoes .placeholder (by decide)
  refine ⟨⟨run, hrun, hwarnings, ?_⟩, ?_⟩
  · obtain rfl := Except.ok.inj hrun
    rfl
  · obtain rfl := Except.ok.inj hskipped
    obtain ⟨-, -, fault, -, -, habort⟩ := hstops [_] _ [_] rfl (by simp) rfl
    exact ⟨[_], _, [_], fault, rfl, by simp, rfl, habort⟩

end Converter

end EventScript
