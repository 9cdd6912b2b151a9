import EventScript.Proofs.Command.Messages
import EventScript.Proofs.Convert.Location
import EventScript.Proofs.Convert.Policies
import EventScript.Proofs.Decompile.Reading

/-! What a run over events writes can be encoded. Scripts hold printable characters between their
margins, and reports are made of messages that can be written; only the names of events are taken
over as they are. -/
namespace EventScript

open Text

namespace Decompile

variable {context : Context} {entry : Entry}

lemma IsOwn.encodable_message {fault : Fault} (h : IsOwn fault) : Encodable fault.message := by
  unfold IsOwn at h
  split at h
  · simp [Fault.message, Cause.message, DataFault.message]
  · simp [Fault.message, Cause.message, DataFault.message]
  · simp [Fault.message, Cause.message, DataFault.message]
  · simp
  · exact h.elim

lemma encodable_unrecognized (code : Int) (variant : Variant) :
    Encodable (Cause.unrecognized code variant).message := by
  simp [Cause.message]

lemma extras_tells (context : Context) (entry : Entry) : Tells (extras context entry) := by
  cases hextras : extras context entry with
  | ok more => trivial
  | error fault =>
    obtain ⟨row, -, hfault⟩ := exists_error_of_mapM hextras
    split at hfault
    · obtain rfl := Except.error.inj hfault
      exact encodable_unrecognized _ _
    · rename_i kind hkind
      have htells := Operands.decode_tells (Catalog.encodable (Catalog.mem_of_lookup hkind))
        row.parameters
      rwa [hfault] at htells

lemma unknown_tells (context : Context) (entry : Entry) : Tells (unknown context entry) := by
  unfold unknown
  split
  · exact encodable_unrecognized _ _
  · trivial

/-- What keeps a command from being written can be written down. -/
lemma leaf_tells (lead : entry.Lead context.variant) : Tells (leaf context entry) := by
  unfold leaf
  split
  · exact unknown_tells context entry
  · rename_i kind hkind
    rw [lead.kind_eq] at hkind
    split
    · exact unknown_tells context entry
    · rename_i handler hhandler
      refine (Operands.decode_tells (Catalog.encodable (Catalog.mem_of_lookup hkind)) _).bind ?_
      intro operands _
      have hhandled : Tells (handler context entry operands) := by
        cases hwrite : handler context entry operands with
        | ok stmts => trivial
        | error fault =>
          rcases handler_fromRows hhandler operands fault hwrite with hextras | hown
          · have htells := extras_tells context entry
            rwa [hextras] at htells
          · exact hown.encodable_message
      exact hhandled.bind fun _ _ => trivial

lemma operandsOf_tells (lead : entry.Lead context.variant) : Tells (operandsOf entry) := by
  unfold operandsOf
  split
  · rename_i kind hkind
    rw [lead.kind_eq] at hkind
    exact Operands.decode_tells (Catalog.encodable (Catalog.mem_of_lookup hkind)) _
  · simp

/-- What stops an event can be written down. -/
lemma encodable_of_check {inLoop : Bool} {forest : List Block} {check : Check} {fault : Fault}
    (formed : ∀ b ∈ forest, Block.WellFormed context.variant inLoop b)
    (hcheck : check ∈ checksOf context forest) (hfault : check.fault = some fault) :
    Encodable fault.message := by
  have hsubject : check.subject ∈ Block.entriesOf forest :=
    (subjects_checksOf context forest).subset (List.mem_map_of_mem hcheck)
  obtain ⟨b, hb, hentry⟩ := Block.mem_entriesOf.1 hsubject
  have lead := (formed b hb).lead hentry
  obtain ⟨inner, -, makes⟩ := exists_makes formed hcheck
  cases makes with
  | leaf entry =>
    have htells : Tells (leaf context entry) := leaf_tells lead
    rwa [failure?_eq_some.1 hfault] at htells
  | opening header =>
    have htells : Tells (operandsOf header) := operandsOf_tells lead
    rwa [failure?_eq_some.1 hfault] at htells
  | @arm _ _ _ _ marker _ _ =>
    have htells : Tells (operandsOf marker) := operandsOf_tells lead
    rwa [failure?_eq_some.1 hfault] at htells

end Decompile

namespace Converter

variable {converter : Converter} {id : EventId} {raw : List RawRow} {fault : EventFault}

lemma Fails.encodable_message (fails : Fails converter id raw fault) :
    Encodable fault.cause.message := by
  cases fails with
  | @reading fault h =>
    obtain ⟨row, -, hread⟩ := RawRow.readAll_eq_error h
    cases row with
    | ready row => cases hread
    | stored value =>
      have htells := Row.ofJson_tells value
      rw [RawRow.read] at hread
      rwa [hread] at htells
  | nesting _ h => exact StructuralFault.encodable_message _
  | writing hrows hforest h =>
    obtain ⟨check, hcheck, hfault, -⟩ := exists_check hforest h
    have formed := (Block.isEvent_of_reconstruct hforest).formed
    exact Decompile.encodable_of_check formed hcheck hfault

end Converter

/-! ### Results -/

/-- A result of which everything that is written can be encoded. -/
structure EventResult.Encodable (result : EventResult) : Prop where
  id : result.eventId.text.Encodable
  text : ∀ text ∈ result.text, text.Encodable
  diagnostics : ∀ d ∈ result.diagnostics,
    d.eventId.text.Encodable ∧ d.kind.Encodable ∧ d.message.Encodable

namespace Writer

lemma encodable_render {style : Style} {steps : List Step} (hindent : style.indent.Encodable)
    (hfit : ∀ step ∈ steps, step.Fit) : (Writer.run { style } steps).render.Encodable := by
  rw [render_run hfit]
  intro c hc
  obtain ⟨part, hpart, hc⟩ := List.mem_flatMap.1 hc
  obtain ⟨line, hline, rfl⟩ := List.mem_map.1 hpart
  rcases List.mem_append.1 hc with hc | hc
  · rcases List.mem_append.1 hc with hc | hc
    · obtain ⟨margin, hmargin, hc⟩ := List.mem_flatten.1 hc
      rw [List.eq_of_mem_replicate hmargin] at hc
      exact hindent c hc
    · exact (fit_written hfit line hline).printable.encodable c hc
  · rw [List.mem_singleton.1 hc, CodePoint.isSurrogate_newline]

end Writer

namespace Converter

variable {converter : Converter} {id : EventId} {raw : List RawRow}

lemma Script.encodable (valid : converter.names.Valid)
    (hindent : converter.options.style.indent.Encodable) {style : Style}
    {steps : List Writer.Step} (h : Script converter id raw style steps) :
    (Writer.run { style } steps).render.Encodable := by
  have hfit := h.fit valid
  cases h with
  | converted => exact Writer.encodable_render hindent hfit
  | stub =>
    have htab : Style.indent {} |>.Encodable := by
      unfold Text.Encodable
      decide
    exact Writer.encodable_render htab hfit

lemma Fails.eventId_eq {fault : EventFault} (fails : Fails converter id raw fault) :
    fault.eventId = id := by
  cases fails <;> rfl

/-- Whatever becomes of an event with such a name, it can be written. -/
lemma encodable_of_convertOne (valid : converter.names.Valid)
    (hindent : converter.options.style.indent.Encodable) (hid : id.text.Encodable)
    {result : EventResult} {records : List Log.Record}
    (h : converter.convertOne id raw = .ok (result, records)) : result.Encodable := by
  have htext : ∀ text ∈ result.text, text.Encodable := by
    intro text htext
    obtain ⟨style, steps, hscript, rfl⟩ := script_of_convertOne h htext
    exact hscript.encodable valid hindent
  rw [convertOne] at h
  rcases converter.convertEvent_cases id raw with ⟨fragment, hok⟩ | ⟨fault, hfault⟩
  · rw [hok] at h
    obtain ⟨rfl, -⟩ := Prod.mk.inj (Except.ok.inj h)
    refine ⟨hid, htext, fun d hd => ?_⟩
    obtain ⟨p, -, rfl⟩ := List.mem_map.1 hd
    exact ⟨hid, encodable_ofString _, Decompile.encodable_unrecognized _ _⟩
  · have fails := fails_of_convertEvent hfault
    have hreport : (Diagnostic.ofFault fault).eventId.text.Encodable ∧
        (Diagnostic.ofFault fault).kind.Encodable ∧
        (Diagnostic.ofFault fault).message.Encodable :=
      ⟨by rwa [Diagnostic.ofFault, fails.eventId_eq], encodable_ofString _, fails.encodable_message⟩
    cases hpolicy : converter.options.onError with
    | abort => simp [hfault, hpolicy] at h
    | skip =>
      simp only [hfault, hpolicy] at h
      obtain ⟨rfl, -⟩ := Prod.mk.inj (Except.ok.inj h)
      exact ⟨hid, htext, by simpa using hreport⟩
    | placeholder =>
      simp only [hfault, hpolicy] at h
      obtain ⟨rfl, -⟩ := Prod.mk.inj (Except.ok.inj h)
      exact ⟨hid, htext, by simpa using hreport⟩

lemma encodable_of_convertEvents (valid : converter.names.Valid)
    (hindent : converter.options.style.indent.Encodable) {events : List (EventId × List RawRow)}
    (hids : ∀ event ∈ events, event.1.text.Encodable) {log : List Log.Record} {run : RunResult}
    (h : converter.convertEvents events = (log, .ok run)) :
    ∀ result ∈ run.events, result.Encodable := by
  have hlist := convertList_eq_ok.1 (convertEvents_eq_ok.1 (congrArg Prod.snd h))
  clear h
  generalize run.events = results at hlist
  induction hlist with
  | nil => simp
  | cons hone _ ih =>
    obtain ⟨records, hone⟩ := hone
    rw [List.forall_mem_cons] at hids ⊢
    exact ⟨encodable_of_convertOne valid hindent hids.1 hone, ih hids.2⟩

end Converter

namespace RunResult

variable {run : RunResult}

lemma encodable_titled {event : EventResult} (h : event.Encodable) {text : Text}
    (htext : text.Encodable) : (titled event text).Encodable :=
  encodable_dropEndWhile _ (by simp [h.id, htext])

lemma encodable_renderAll {events : List EventResult} (h : ∀ event ∈ events, event.Encodable) :
    (renderAll events).Encodable := by
  unfold renderAll
  split
  · simp
  · rename_i parts
    simp only [encodable_append, encodable_cons, encodable_nil, CodePoint.isSurrogate_newline,
      and_true]
    refine encodable_join (by simp) fun part hpart => ?_
    obtain ⟨event, hevent, htitled⟩ := List.mem_filterMap.1 hpart
    obtain ⟨text, htext, rfl⟩ := Option.map_eq_some_iff.1 htitled
    exact encodable_titled (h event hevent) ((h event hevent).text text htext)

/-- A script can be encoded if the results it is made of can. -/
lemma encodable_render (h : ∀ event ∈ run.events, event.Encodable) : run.render.Encodable := by
  unfold render
  split
  · rename_i event hevents
    have hevent := h event (by simp [hevents])
    cases htext : event.text with
    | none => exact encodable_renderAll (by simpa using hevent)
    | some text => exact hevent.text text htext
  · exact encodable_renderAll h

end RunResult

end EventScript
