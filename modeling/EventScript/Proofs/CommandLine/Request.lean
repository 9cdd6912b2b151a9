import EventScript.CommandLine.Run
import EventScript.Proofs.Names.Table

/-! What a command line asks for, said without the steps that look it up: the names that stand in
their file, the settings, and the command lists of the input. -/
namespace EventScript

namespace NameTable

/-- A table that stands in a file, in the format that the ending of the file tells. -/
inductive StoredIn (disk : Disk) (path : Path) : NameTable → Prop
  | toml {text : Text} {value : Toml.Value} {table : NameTable}
      (hread : disk.readText? path = .ok (some text))
      (hending : path.ending.toLowerAscii = ".toml") (hparse : Toml.parse? text = some value)
      (h : ofStored Format.toml value = .ok table) : StoredIn disk path table
  | json {text : Text} {value : Json} {table : NameTable}
      (hread : disk.readText? path = .ok (some text))
      (hending : path.ending.toLowerAscii ≠ ".toml") (hparse : Json.parse? text = some value)
      (h : ofJson value = .ok table) : StoredIn disk path table

variable {disk : Disk} {path : Path} {table : NameTable}

lemma storedIn_of_ofText? {text : Text} (hread : disk.readText? path = .ok (some text))
    (h : ofText? path text = some (.ok table)) : StoredIn disk path table := by
  unfold ofText? at h
  split_ifs at h with hending
  · obtain ⟨value, hparse, hvalue⟩ := Option.map_eq_some_iff.1 h
    exact .toml hread hending hparse hvalue
  · obtain ⟨value, hparse, hvalue⟩ := Option.map_eq_some_iff.1 h
    exact .json hread hending hparse hvalue

lemma load_eq_ok : load disk path = .ok table ↔ StoredIn disk path table := by
  constructor
  · intro h
    unfold load at h
    split at h
    · cases h
    · rename_i text? hread
      split at h
      · cases h
      · cases h
      · rename_i hbind
        obtain rfl := Except.ok.inj h
        obtain ⟨text, rfl, htext⟩ := Option.bind_eq_some_iff.1 hbind
        exact storedIn_of_ofText? hread htext
  · intro h
    cases h with
    | toml hread hending hparse h => simp [load, hread, ofText?, hending, hparse, h]
    | json hread hending hparse h => simp [load, hread, ofText?, hending, hparse, h]

lemma StoredIn.valid (h : StoredIn disk path table) : table.Valid := by
  cases h with
  | toml _ _ _ h => exact valid_of_ofStored h
  | json _ _ _ h => exact valid_of_ofJson h

end NameTable

namespace CommandLine

@[simp] lemma require_eq_ok {α : Type} {fault : Fault} {given : Given α} {a : α} :
    require fault given = .ok a ↔ given = .value a := by
  cases given <;> simp [require]

@[simp] lemma require_eq_error {α : Type} {fault other : Fault} {given : Given α} :
    require fault given = .error other ↔ given = .blank ∧ fault = other := by
  cases given <;> simp [require]

namespace Options

variable {options : Options} {disk : Disk}

/-- The names of a run: those in the file that is given for them, and none without one. -/
def NamesAre (options : Options) (disk : Disk) (names : NameTable) : Prop :=
  options.config = none ∧ names = {} ∨
    ∃ path, options.config = some path ∧ NameTable.StoredIn disk path names

lemma names_eq_ok {names : NameTable} :
    options.names disk = .ok names ↔ options.NamesAre disk names := by
  unfold Options.names NamesAre
  cases hconfig : options.config with
  | none => simp [eq_comm]
  | some path => simp [mapError_eq_ok, NameTable.load_eq_ok]

lemma NamesAre.valid {names : NameTable} (h : options.NamesAre disk names) : names.Valid := by
  rcases h with ⟨-, rfl⟩ | ⟨path, -, h⟩
  · have hempty : NameTable.ofJson (.obj []) = .ok {} := rfl
    exact NameTable.valid_of_ofJson hempty
  · exact h.valid

/-- The settings of a run: the layout that the indent and the wish for short calls make, and the two
policies. -/
structure SettingsAre (options : Options) (settings : ConvertOptions) : Prop where
  style : ∃ spec, options.indent = .value spec ∧
    Style.ofSpec spec (!options.singleLineCalls) = .ok settings.style
  onUnknown : options.onUnknown = .value settings.onUnknown
  onError : options.onError = .value settings.onError

lemma convertOptions_eq_ok {settings : ConvertOptions} :
    options.convertOptions = .ok settings ↔ options.SettingsAre settings := by
  constructor
  · intro h
    obtain ⟨spec, hspec, h⟩ := bind_eq_ok.1 h
    obtain ⟨style, hstyle, h⟩ := bind_eq_ok.1 h
    obtain ⟨onUnknown, hunknown, h⟩ := bind_eq_ok.1 h
    obtain ⟨onError, herror, h⟩ := bind_eq_ok.1 h
    obtain rfl := Except.ok.inj h
    exact ⟨⟨spec, require_eq_ok.1 hspec, mapError_eq_ok.1 hstyle⟩, require_eq_ok.1 hunknown,
      require_eq_ok.1 herror⟩
  · rintro ⟨⟨spec, hspec, hstyle⟩, hunknown, herror⟩
    simp [convertOptions, require, hspec, hstyle, hunknown, herror, Except.mapError, bind,
      Except.bind]

end Options

namespace Invocation

/-- Command lists as the events of a run. -/
def eventsOf (lists : List (EventRef × List Json)) : List (EventId × List RawRow) :=
  lists.map fun (ref, commands) => (.ref ref, commands.map RawRow.stored)

/-- What a command line asks to convert, and how. -/
structure Asked (call : Invocation) (disk : Disk) (converter : Converter)
    (lists : List (EventRef × List Json)) : Prop where
  names : call.options.NamesAre disk converter.names
  settings : call.options.SettingsAre converter.options
  variant : call.options.variant = .value converter.variant
  lists : EventFile.load disk call.input call.options.selection = .ok lists

lemma prepare_eq_ok {call : Invocation} {disk : Disk} {converter : Converter}
    {events : List (EventId × List RawRow)} :
    call.prepare disk = .ok (converter, events) ↔
      ∃ lists, call.Asked disk converter lists ∧ events = eventsOf lists := by
  constructor
  · intro h
    obtain ⟨names, hnames, h⟩ := bind_eq_ok.1 h
    obtain ⟨settings, hsettings, h⟩ := bind_eq_ok.1 h
    obtain ⟨lists, hlists, h⟩ := bind_eq_ok.1 h
    obtain ⟨variant, hvariant, h⟩ := bind_eq_ok.1 h
    obtain ⟨rfl, rfl⟩ := Prod.mk.inj (Except.ok.inj h)
    exact ⟨lists, ⟨Options.names_eq_ok.1 hnames, Options.convertOptions_eq_ok.1 hsettings,
      require_eq_ok.1 hvariant, mapError_eq_ok.1 hlists⟩, rfl⟩
  · rintro ⟨lists, ⟨hnames, hsettings, hvariant, hlists⟩, rfl⟩
    rw [prepare, Options.names_eq_ok.2 hnames, Options.convertOptions_eq_ok.2 hsettings, hlists,
      hvariant]
    rfl

end Invocation

end CommandLine

end EventScript
