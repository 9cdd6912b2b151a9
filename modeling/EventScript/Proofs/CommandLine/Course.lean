import EventScript.Proofs.CommandLine.Request
import EventScript.Proofs.Convert.Policies

/-! The courses that a run can take. It ends before it converts anything, it has nothing to write,
or it fails or succeeds to write the diagnostics and then the script. -/
namespace EventScript

namespace Converter

variable {converter : Converter} {events : List (EventId × List RawRow)}

lemma convertOne_eq_error {id : EventId} {raw : List RawRow} {failure : ConvertFailure}
    (h : converter.convertOne id raw = .error failure) : ∃ fault, failure = .event fault := by
  rw [convertOne] at h
  rcases converter.convertEvent_cases id raw with ⟨fragment, hok⟩ | ⟨fault, hfault⟩
  · rw [hok] at h
    cases h
  · refine ⟨fault, ?_⟩
    cases hpolicy : converter.options.onError <;> simp [hfault, hpolicy] at h
    exact h.symm

/-- A run stops for the data of an event only. -/
lemma convertList_eq_error {failure : ConvertFailure}
    (h : (converter.convertList events).2 = .error failure) : ∃ fault, failure = .event fault := by
  induction events with
  | nil => cases h
  | cons event events ih =>
    obtain ⟨id, raw⟩ := event
    cases hone : converter.convertOne id raw with
    | ok outcome =>
      rw [convertList_of_ok hone] at h
      cases hrest : (converter.convertList events).2 with
      | ok results => simp [hrest, Except.map] at h
      | error other => exact ih (by simpa [hrest, Except.map] using h)
    | error other =>
      rw [convertList_of_error hone] at h
      obtain rfl : other = failure := Except.error.inj h
      exact convertOne_eq_error hone

end Converter

namespace CommandLine

/-- Whether a run may go on to convert: nothing is there that it would replace unasked. -/
def Options.Admits (options : Options) (disk : Disk) : Prop :=
  options.dryRun = true ∨ options.overwrite = true ∨
    ∃ output, options.output = .value output ∧ disk.contains output = .ok false

/-- Whether a run asks if its output is there already. -/
def Options.Asks (options : Options) : Prop :=
  options.dryRun = false ∧ options.overwrite = false

namespace Invocation

/-- The events that a run was asked for are converted, with a log and a result. -/
def Converts (call : Invocation) (disk : Disk) (log : List Log.Record) (result : RunResult) :
    Prop :=
  call.options.Admits disk ∧ ∃ converter lists, call.Asked disk converter lists ∧
    converter.convertEvents (eventsOf lists) = (log, .ok result)

/-- The diagnostics of a run are written, if they are asked for, and leave a disk. -/
inductive Noted (call : Invocation) (disk : Disk) (result : RunResult) : Disk → Prop
  | unasked (h : call.options.diagnostics = none) : Noted call disk result disk
  | written {path : Path} {noted : Disk} (h : call.options.diagnostics = some (.value path))
      (hwrite : disk.writeText path (diagnosticsText result) = (noted, .ok ())) :
      Noted call disk result noted

/-- What a run does, without regard to what its log shows. -/
inductive Course (call : Invocation) (disk : Disk) : Outcome → Prop
  | blankStart (asks : call.options.Asks) (h : call.options.output = .blank) :
      Course call disk ⟨.crash .blankOutputAtStart, [], disk⟩
  | unanswered {output : Path} {fault : DiskFault} (asks : call.options.Asks)
      (houtput : call.options.output = .value output) (h : disk.contains output = .error fault) :
      Course call disk ⟨.crash (.disk fault), [], disk⟩
  | present {output : Path} {message : Text} (asks : call.options.Asks)
      (houtput : call.options.output = .value output) (h : disk.contains output = .ok true) :
      Course call disk ⟨.exit 2, [report .error message], disk⟩
  | unprepared {fault : Fault} (admits : call.options.Admits disk)
      (h : call.prepare disk = .error fault) : Course call disk (refuse disk [] fault)
  | unconverted {converter : Converter} {events : List (EventId × List RawRow)}
      {log : List Log.Record} {fault : EventFault} (admits : call.options.Admits disk)
      (hprepare : call.prepare disk = .ok (converter, events))
      (h : converter.convertEvents events = (log, .error (.event fault))) :
      Course call disk (refuse disk log (.event fault))
  | blankDiagnostics {log : List Log.Record} {result : RunResult}
      (converts : call.Converts disk log result) (h : call.options.diagnostics = some .blank) :
      Course call disk ⟨.crash .blankDiagnostics, log, disk⟩
  | unnoted {log : List Log.Record} {result : RunResult} {path : Path} {left : Disk}
      {fault : Disk.WriteFault} (converts : call.Converts disk log result)
      (hpath : call.options.diagnostics = some (.value path))
      (h : disk.writeText path (diagnosticsText result) = (left, .error fault)) :
      Course call disk (writeFailure left log fault)
  | dry {log : List Log.Record} {result : RunResult} {noted : Disk} {message : Text}
      (converts : call.Converts disk log result) (hnoted : call.Noted disk result noted)
      (h : call.options.dryRun = true) :
      Course call disk ⟨.exit 0, log ++ [report .info message], noted⟩
  | blankEnd {log : List Log.Record} {result : RunResult} {noted : Disk}
      (converts : call.Converts disk log result) (hnoted : call.Noted disk result noted)
      (hdry : call.options.dryRun = false) (h : call.options.output = .blank) :
      Course call disk ⟨.crash .blankOutputAtEnd, log, noted⟩
  | unwritten {log : List Log.Record} {result : RunResult} {noted left : Disk} {output : Path}
      {fault : Disk.WriteFault} (converts : call.Converts disk log result)
      (hnoted : call.Noted disk result noted) (hdry : call.options.dryRun = false)
      (houtput : call.options.output = .value output)
      (h : noted.replaceText output result.render = (left, .error fault)) :
      Course call disk (writeFailure left log fault)
  | written {log : List Log.Record} {result : RunResult} {noted left : Disk} {output : Path}
      {message : Text} (converts : call.Converts disk log result)
      (hnoted : call.Noted disk result noted) (hdry : call.options.dryRun = false)
      (houtput : call.options.output = .value output)
      (h : noted.replaceText output result.render = (left, .ok ())) :
      Course call disk ⟨.exit 0, log ++ [report .info message], left⟩

variable {call : Invocation} {disk noted : Disk} {log : List Log.Record} {result : RunResult}

lemma course_writeScript (converts : call.Converts disk log result)
    (hnoted : call.Noted disk result noted) :
    call.Course disk (writeScript call.options noted log result) := by
  unfold writeScript
  cases hdry : call.options.dryRun with
  | true => exact .dry converts hnoted hdry
  | false =>
    simp only [Bool.false_eq_true, if_false]
    split
    · rename_i houtput
      exact .blankEnd converts hnoted hdry houtput
    · rename_i output houtput
      split
      · rename_i h
        exact .unwritten converts hnoted hdry houtput h
      · rename_i h
        exact .written converts hnoted hdry houtput h

lemma course_deliver (converts : call.Converts disk log result) :
    call.Course disk (deliver call.options disk log result) := by
  unfold deliver
  split
  · rename_i h
    exact course_writeScript converts (.unasked h)
  · rename_i h
    exact .blankDiagnostics converts h
  · rename_i path hpath
    split
    · rename_i h
      exact .unnoted converts hpath h
    · rename_i h
      exact course_writeScript converts (.written hpath h)

lemma course_convert (admits : call.options.Admits disk) :
    call.Course disk (call.convert disk) := by
  unfold convert
  split
  · rename_i h
    exact .unprepared admits h
  · rename_i converter events hprepare
    split
    · rename_i h
      exact .unconverted admits hprepare h
    · rename_i d h
      have herror : (converter.convertList events).2 = .error (.defect d) := by
        have := congrArg Prod.snd h
        rw [Converter.convertEvents_eq] at this
        cases hlist : (converter.convertList events).2 <;> simp_all [Except.map]
      obtain ⟨fault, hfault⟩ := Converter.convertList_eq_error herror
      cases hfault
    · rename_i h
      obtain ⟨lists, asked, rfl⟩ := prepare_eq_ok.1 hprepare
      exact course_deliver ⟨admits, converter, lists, asked, h⟩

/-- Every run takes one of the courses. -/
theorem course_execute (call : Invocation) (disk : Disk) :
    call.Course disk (call.execute disk) := by
  unfold execute
  split_ifs with hfree
  · exact course_convert (hfree.elim .inl fun h => .inr (.inl h))
  · have asks : call.options.Asks := by simpa [Options.Asks] using hfree
    split
    · rename_i houtput
      exact .blankStart asks houtput
    · rename_i output houtput
      split
      · rename_i h
        exact .unanswered asks houtput h
      · rename_i h
        exact course_convert (.inr (.inr ⟨output, houtput, h⟩))
      · rename_i h
        exact .present asks houtput h

@[simp] lemma ending_run (call : Invocation) (disk : Disk) :
    (call.run disk).ending = (call.execute disk).ending := rfl

@[simp] lemma disk_run (call : Invocation) (disk : Disk) :
    (call.run disk).disk = (call.execute disk).disk := rfl

end Invocation

end CommandLine

end EventScript
