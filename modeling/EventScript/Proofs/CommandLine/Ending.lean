import EventScript.Proofs.CommandLine.Encoding
import EventScript.Proofs.CommandLine.Frame

/-! How a run ends. Whatever is wrong with the files it reads and with their contents, and whatever
the disk refuses, becomes an exit code and an error in the log. A run breaks off in few cases only:
something it needs to know was left blank, the indent has more spaces than can be counted, or a path
that it writes to can be the name of no file. -/
namespace EventScript

namespace Disk

variable {disk left : Disk} {path : Path} {text : Text}

lemma contains_eq_error {fault : DiskFault} (h : disk.contains path = .error fault) :
    path.check = .ok () ∧ disk.resolve path = .error .tooLong := by
  unfold contains at h
  split at h
  · cases h
  · rename_i refused hrefused
    split_ifs at h with hlong
    unfold locate at hrefused
    split at hrefused
    · cases hrefused
    · rename_i hcheck
      split at hrefused
      · rename_i reason hreason
        cases hrefused
        exact ⟨hcheck, hreason.trans (congrArg Except.error hlong)⟩
      · cases hrefused
  · cases h

lemma contains_of_tooLong (hcheck : path.check = .ok ())
    (h : disk.resolve path = .error .tooLong) : ∃ fault, disk.contains path = .error fault :=
  ⟨{ reason := .tooLong, path }, by simp [contains, locate, hcheck, h]⟩

/-- A path that is no name is not written to. -/
lemma writeText_of_check (disk : Disk) {fault : Path.Fault} (h : path.check = .error fault)
    (text : Text) :
    disk.writeText path text = (disk, .error (.noPath fault)) := by
  simp [writeText, write, locate, h, bind, Except.bind]

/-- A text is not written if the disk refuses it, the path is no name or the text has no bytes. -/
lemma writeText_eq_error {fault : WriteFault}
    (h : disk.writeText path text = (left, .error fault)) :
    (∃ refused, fault = .disk refused) ∨ path.check ≠ .ok () ∨ ¬text.Encodable := by
  unfold writeText at h
  split at h
  · rename_i refused _
    exact .inl ⟨refused, (Except.error.inj (Prod.mk.inj h).2).symm⟩
  · rename_i hwrite
    refine .inr (.inl fun hcheck => ?_)
    rcases bind_eq_error.1 hwrite with hlocate | ⟨place, -, hnode⟩
    · cases hresolve : disk.resolve path <;> simp [locate, hcheck, hresolve] at hlocate
    · split at hnode <;> cases hnode
  · split at h
    · rename_i hfind
      refine .inr (.inr fun hencodable => ?_)
      rw [SurrogateRun.find?_all_eq_none.2 hencodable] at hfind
      cases hfind
    · simp at h

/-- A text does not take the place of a file if the disk refuses it, the path has no last segment or
is no name, or the text has no bytes. -/
lemma replaceText_faults {fault : WriteFault}
    (h : disk.replaceText path text = (left, .error fault)) :
    (∃ refused, fault = .disk refused) ∨ path.name.isEmpty = true ∨ path.check ≠ .ok () ∨
      ¬text.Encodable := by
  unfold replaceText at h
  split at h
  · rename_i hnone
    refine .inr (.inl ?_)
    by_contra hname
    simp [Path.extend?, hname] at hnone
  · rename_i temporary htemporary
    have hcheck := Path.check_extend? htemporary (by decide)
    split at h
    · exact .inl ⟨_, (Except.error.inj (Prod.mk.inj h).2).symm⟩
    · rename_i left written hrefused hwritten
      rcases writeText_eq_error hwritten with ⟨refused, rfl⟩ | hno | hno
      · exact absurd rfl (hrefused refused)
      · exact .inr (.inr (.inl (mt hcheck.2 hno)))
      · exact .inr (.inr (.inr hno))
    · split at h
      · exact .inl ⟨_, (Except.error.inj (Prod.mk.inj h).2).symm⟩
      · simp at h

/-- Without a last segment, and with a path that is no name, a file cannot be replaced; the disk is
not asked. -/
lemma replaceText_of_noName (disk : Disk) (text : Text)
    (h : path.name.isEmpty = true ∨ path.check ≠ .ok ()) :
    ∃ left fault, disk.replaceText path text = (left, .error fault) ∧
      ∀ refused, fault ≠ .disk refused := by
  cases htemporary : path.extend? ".tmp" with
  | none => exact ⟨disk, .noFileName path, by simp [replaceText, htemporary], by simp⟩
  | some temporary =>
    have hname := (Path.extend?_eq_some.1 htemporary).1
    have hcheck : temporary.check ≠ .ok () :=
      mt (Path.check_extend? htemporary (by decide)).1 (h.resolve_left (by simp [hname]))
    cases hfault : temporary.check with
    | ok _ => exact absurd hfault hcheck
    | error fault =>
      have hwrite := writeText_of_check disk hfault text
      exact ⟨disk, .noPath fault, by simp [replaceText, htemporary, hwrite], by simp⟩

end Disk

/-- An indent cannot be made just if it is a number of spaces that cannot be counted. -/
lemma Style.ofSpec_eq_uncountable {spec : Text} {multilineCalls : Bool} :
    ofSpec spec multilineCalls = .error .uncountable ↔
      spec ≠ "tab" ∧ ∃ width, spec.toInt? = some width ∧ 0x8000000000000000 ≤ width := by
  unfold ofSpec
  split_ifs with htab
  · simp [htab]
  · split
    · rename_i hwidth
      simp [hwidth]
    · rename_i width hwidth
      simp only [hwidth, Option.some.injEq, exists_eq_left', ne_eq, htab, not_false_eq_true,
        true_and]
      split_ifs
      all_goals
        simp
        omega

namespace CommandLine

lemma ending_writeFailure {fault : Disk.WriteFault} (h : ∀ refused, fault ≠ .disk refused)
    (disk : Disk) (log : List Log.Record) :
    ∃ crash, (writeFailure disk log fault).ending = .crash crash := by
  cases fault with
  | disk refused => exact absurd rfl (h refused)
  | _ => exact ⟨_, rfl⟩

/-- A run that ends with an exit code, and with an error at the end of its log if the code is not
zero. -/
def Outcome.Exits (outcome : Outcome) : Prop :=
  ∃ code ≤ 2, outcome.ending = .exit code ∧
    (code ≠ 0 → ∃ record, outcome.log.getLast? = some record ∧ record.level = .error)

lemma exits_refuse {fault : Fault} (h : fault.crash? = none) (disk : Disk)
    (log : List Log.Record) : (refuse disk log fault).Exits := by
  rw [refuse, h]
  exact ⟨1, by omega, rfl, fun _ => ⟨_, List.getLast?_concat, rfl⟩⟩

lemma exits_writeFailure (refused : DiskFault) (disk : Disk) (log : List Log.Record) :
    (writeFailure disk log (.disk refused)).Exits :=
  ⟨1, by omega, rfl, fun _ => ⟨_, List.getLast?_concat, rfl⟩⟩

/-- An indent that was left blank, or that has more spaces than can be counted. -/
def Options.IndentFails (options : Options) : Prop :=
  options.indent = .blank ∨ ∃ spec width, options.indent = .value spec ∧ spec ≠ "tab" ∧
    spec.toInt? = some width ∧ 0x8000000000000000 ≤ width

/-- The settings of a run break it off just if the indent cannot be made. -/
lemma Options.indentFails_iff {options : Options} :
    (∃ fault crash, options.convertOptions = .error fault ∧ fault.crash? = some crash) ↔
      options.IndentFails := by
  constructor
  · rintro ⟨fault, crash, h, hcrash⟩
    rcases bind_eq_error.1 h with hindent | ⟨spec, hspec, h⟩
    · exact .inl (require_eq_error.1 hindent).1
    rcases bind_eq_error.1 h with hstyle | ⟨style, -, h⟩
    · obtain ⟨cause, hcause, rfl⟩ := mapError_eq_error.1 hstyle
      cases cause with
      | uncountable =>
        obtain ⟨htab, width, hwidth, hle⟩ := Style.ofSpec_eq_uncountable.1 hcause
        exact .inr ⟨spec, width, require_eq_ok.1 hspec, htab, hwidth, hle⟩
      | _ => cases hcrash
    rcases bind_eq_error.1 h with hunknown | ⟨onUnknown, -, h⟩
    · obtain ⟨-, rfl⟩ := require_eq_error.1 hunknown
      cases hcrash
    rcases bind_eq_error.1 h with herror | ⟨onError, -, h⟩
    · obtain ⟨-, rfl⟩ := require_eq_error.1 herror
      cases hcrash
    · cases h
  · rintro (hblank | ⟨spec, width, hspec, htab, hwidth, hle⟩)
    · exact ⟨.blankIndent, .blankIndent, bind_eq_error.2 (.inl (by simp [hblank])), rfl⟩
    · have hstyle : Style.ofSpec spec (!options.singleLineCalls) = .error .uncountable :=
        Style.ofSpec_eq_uncountable.2 ⟨htab, width, hwidth, hle⟩
      refine ⟨.style .uncountable, .style .uncountable, ?_, rfl⟩
      simp [Options.convertOptions, hspec, require, hstyle, Except.mapError, bind, Except.bind]

namespace Invocation

/-- The cases in which a run breaks off. -/
inductive Breaks (call : Invocation) (disk : Disk) : Prop
  /-- It is asked whether the output is there, but none was named, or under a name too long to be
  looked up. -/
  | start (asks : call.options.Asks) (h : call.options.output = .blank ∨ ∃ output,
      call.options.output = .value output ∧ output.check = .ok () ∧
        disk.resolve output = .error .tooLong)
  /-- The names are read, but the indent cannot be made. -/
  | indent {names : NameTable} (admits : call.options.Admits disk)
      (hnames : call.options.NamesAre disk names) (h : call.options.IndentFails)
  /-- The file is read, but the event or the page to choose from it was left blank. -/
  | number {names : NameTable} {settings : ConvertOptions} (admits : call.options.Admits disk)
      (hnames : call.options.NamesAre disk names)
      (hsettings : call.options.SettingsAre settings)
      (h : EventFile.load disk call.input call.options.selection = .error .noNumber)
  /-- The events are converted, but the diagnostics have nowhere to go. -/
  | diagnostics {log : List Log.Record} {result : RunResult}
      (converts : call.Converts disk log result)
      (h : call.options.diagnostics = some .blank ∨ ∃ path,
        call.options.diagnostics = some (.value path) ∧ path.check ≠ .ok ())
  /-- The diagnostics are written, but the script has nowhere to go. -/
  | output {log : List Log.Record} {result : RunResult} {noted : Disk}
      (converts : call.Converts disk log result) (hnoted : call.Noted disk result noted)
      (hdry : call.options.dryRun = false)
      (h : call.options.output = .blank ∨ ∃ path, call.options.output = .value path ∧
        (path.name.isEmpty = true ∨ path.check ≠ .ok ()))

variable {call : Invocation} {disk noted : Disk} {log : List Log.Record} {result : RunResult}
  {outcome : Outcome}

lemma execute_of_admits (admits : call.options.Admits disk) :
    call.execute disk = call.convert disk := by
  unfold execute
  split_ifs with hfree
  · rfl
  · rcases admits with hdry | hoverwrite | ⟨output, houtput, hnone⟩
    · exact absurd (.inl hdry) hfree
    · exact absurd (.inr hoverwrite) hfree
    · simp [houtput, hnone]

lemma execute_of_converts (converts : call.Converts disk log result) :
    call.execute disk = deliver call.options disk log result := by
  obtain ⟨admits, converter, lists, asked, hconvert⟩ := converts
  rw [execute_of_admits admits]
  simp [convert, prepare_eq_ok.2 ⟨lists, asked, rfl⟩, hconvert]

lemma execute_of_unprepared (admits : call.options.Admits disk) {fault : Fault} {crash : Crash}
    (h : call.prepare disk = .error fault) (hcrash : fault.crash? = some crash) :
    ∃ crash, (call.execute disk).ending = .crash crash := by
  rw [execute_of_admits admits]
  exact ⟨crash, by simp [convert, h, refuse, hcrash]⟩

lemma execute_of_noted (converts : call.Converts disk log result)
    (hnoted : call.Noted disk result noted) :
    call.execute disk = writeScript call.options noted log result := by
  rw [execute_of_converts converts, deliver]
  cases hnoted with
  | unasked h => simp [h]
  | written h hwrite => simp [h, hwrite]

/-- A preparation that breaks off does so over the indent, or over a number that was left blank. -/
lemma breaks_of_prepare (admits : call.options.Admits disk) {fault : Fault} {crash : Crash}
    (h : call.prepare disk = .error fault) (hcrash : fault.crash? = some crash) :
    call.Breaks disk := by
  rcases bind_eq_error.1 h with hnames | ⟨names, hnames, h⟩
  · unfold Options.names at hnames
    split at hnames
    · cases hnames
    · obtain ⟨cause, -, rfl⟩ := mapError_eq_error.1 hnames
      cases hcrash
  rcases bind_eq_error.1 h with hsettings | ⟨settings, hsettings, h⟩
  · exact .indent admits (Options.names_eq_ok.1 hnames)
      (Options.indentFails_iff.1 ⟨fault, crash, hsettings, hcrash⟩)
  rcases bind_eq_error.1 h with hload | ⟨lists, -, h⟩
  · obtain ⟨cause, hcause, rfl⟩ := mapError_eq_error.1 hload
    cases cause with
    | noNumber =>
      exact .number admits (Options.names_eq_ok.1 hnames)
        (Options.convertOptions_eq_ok.1 hsettings) hcause
    | _ => cases hcrash
  rcases bind_eq_error.1 h with hvariant | ⟨variant, -, h⟩
  · obtain ⟨-, rfl⟩ := require_eq_error.1 hvariant
    cases hcrash
  · cases h

/-- In each of the cases a run breaks off. -/
lemma ending_of_breaks (h : call.Breaks disk) :
    ∃ crash, (call.execute disk).ending = .crash crash := by
  cases h with
  | start asks h =>
    have hwary : ¬(call.options.dryRun = true ∨ call.options.overwrite = true) := by
      simp [asks.1, asks.2]
    rw [execute, if_neg hwary]
    rcases h with hblank | ⟨output, houtput, hcheck, hlong⟩
    · exact ⟨.blankOutputAtStart, by simp [hblank]⟩
    · obtain ⟨fault, hfault⟩ := Disk.contains_of_tooLong hcheck hlong
      exact ⟨.disk fault, by simp [houtput, hfault]⟩
  | indent admits hnames h =>
    obtain ⟨fault, crash, hfault, hcrash⟩ := Options.indentFails_iff.2 h
    have hprepare : call.prepare disk = .error fault := by
      simp [prepare, Options.names_eq_ok.2 hnames, hfault, bind, Except.bind]
    exact execute_of_unprepared admits hprepare hcrash
  | number admits hnames hsettings h =>
    have hprepare : call.prepare disk = .error (.file .noNumber) := by
      simp [prepare, Options.names_eq_ok.2 hnames, Options.convertOptions_eq_ok.2 hsettings, h,
        Except.mapError, bind, Except.bind]
    exact execute_of_unprepared admits hprepare rfl
  | diagnostics converts h =>
    rw [execute_of_converts converts, deliver]
    rcases h with hblank | ⟨path, hpath, hcheck⟩
    · exact ⟨.blankDiagnostics, by simp [hblank]⟩
    · cases hfault : path.check with
      | ok _ => exact absurd hfault hcheck
      | error fault =>
        exact ⟨.noPath fault, by simp [hpath, Disk.writeText_of_check _ hfault, writeFailure]⟩
  | @output log result noted converts hnoted hdry h =>
    rw [execute_of_noted converts hnoted, writeScript, hdry]
    rcases h with hblank | ⟨path, hpath, h⟩
    · exact ⟨.blankOutputAtEnd, by simp [hblank]⟩
    · obtain ⟨left, fault, hreplace, hother⟩ := noted.replaceText_of_noName result.render h
      simpa [hpath, hreplace] using ending_writeFailure hother left log

/-- Outside these cases a run ends with an exit code. -/
lemma Course.exits_or_breaks (course : call.Course disk outcome) :
    outcome.Exits ∨ call.Breaks disk := by
  cases course with
  | blankStart asks h => exact .inr (.start asks (.inl h))
  | unanswered asks houtput h =>
    obtain ⟨hcheck, hlong⟩ := Disk.contains_eq_error h
    exact .inr (.start asks (.inr ⟨_, houtput, hcheck, hlong⟩))
  | present => exact .inl ⟨2, le_rfl, rfl, fun _ => ⟨_, rfl, rfl⟩⟩
  | @unprepared fault admits h =>
    cases hcrash : fault.crash? with
    | none => exact .inl (exits_refuse hcrash disk [])
    | some crash => exact .inr (breaks_of_prepare admits h hcrash)
  | unconverted => exact .inl (exits_refuse rfl disk _)
  | blankDiagnostics converts h => exact .inr (.diagnostics converts (.inl h))
  | unnoted converts hpath h =>
    rcases Disk.writeText_eq_error h with ⟨refused, rfl⟩ | hcheck | hencodable
    · exact .inl (exits_writeFailure refused _ _)
    · exact .inr (.diagnostics converts (.inr ⟨_, hpath, hcheck⟩))
    · exact absurd (encodable_diagnosticsText converts.encodable) hencodable
  | dry => exact .inl ⟨0, by omega, rfl, by simp⟩
  | blankEnd converts hnoted hdry h => exact .inr (.output converts hnoted hdry (.inl h))
  | unwritten converts hnoted hdry houtput h =>
    rcases Disk.replaceText_faults h with ⟨refused, rfl⟩ | hname | hcheck | hencodable
    · exact .inl (exits_writeFailure refused _ _)
    · exact .inr (.output converts hnoted hdry (.inr ⟨_, houtput, .inl hname⟩))
    · exact .inr (.output converts hnoted hdry (.inr ⟨_, houtput, .inr hcheck⟩))
    · exact absurd (RunResult.encodable_render converts.encodable) hencodable
  | written => exact .inl ⟨0, by omega, rfl, by simp⟩

/-- A run breaks off in one of these cases, and otherwise ends with the exit code 0, 1 or 2, with an
error at the end of its log unless the code is 0. -/
theorem run_exits (call : Invocation) (disk : Disk) :
    (call.Breaks disk → ∃ crash, (call.run disk).ending = .crash crash) ∧
      (¬call.Breaks disk → (call.run disk).Exits) := by
  refine ⟨ending_of_breaks, fun h => ?_⟩
  obtain ⟨code, hcode, hending, herror⟩ := (call.course_execute disk).exits_or_breaks.resolve_right h
  refine ⟨code, hcode, hending, fun hne => ?_⟩
  obtain ⟨record, hlast, hlevel⟩ := herror hne
  obtain ⟨front, hlog⟩ := List.getLast?_eq_some_iff.1 hlast
  refine ⟨record, ?_, hlevel⟩
  simp [run, hlog, hlevel]

/-- The script is to replace the current directory. -/
def intoDirectory : Invocation where
  input := ⟨0, ["CommonEvents.json"]⟩
  options := { output := .value ⟨0, []⟩, overwrite := true }

/-- A file is replaced without fail, the current directory is not. -/
theorem run_exits_replacing :
    ¬replacing.Breaks oneUnknown ∧ intoDirectory.Breaks oneUnknown := by
  have hreplaced : (replacing.run oneUnknown).ending.code? = some 0 := by decide +kernel
  have hcrashed : (intoDirectory.run oneUnknown).ending.code? = none := by decide +kernel
  constructor
  · intro h
    obtain ⟨crash, hcrash⟩ := (run_exits replacing oneUnknown).1 h
    rw [hcrash] at hreplaced
    cases hreplaced
  · by_contra h
    obtain ⟨code, -, hending, -⟩ := (run_exits intoDirectory oneUnknown).2 h
    rw [hending] at hcrashed
    cases hcrashed

/-- The current directory is no file that can be replaced, which no exit code reports. -/
theorem intoDirectory_breaks_off :
    parse ["CommonEvents.json", "-o", ".", "--overwrite"] = .ok intoDirectory ∧
      ¬(intoDirectory.run oneUnknown).Exits := by
  have hcode : (intoDirectory.run oneUnknown).ending.code? = none := by decide +kernel
  refine ⟨rfl, ?_⟩
  rintro ⟨code, -, hending, -⟩
  rw [hending] at hcode
  cases hcode

end Invocation

end CommandLine

end EventScript
