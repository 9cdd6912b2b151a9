import EventScript.Convert.Event
import EventScript.Project.EventFile

/-!
The words of a command line and what they ask for. A word that starts with a dash is an option,
unless it looks like a negative number or holds a space; a setting takes its value from behind an
equals sign or from the next word, and two dashes behind the sign leave it blank. Options have long
names, which may be cut short as long as only one fits, and some have a letter; letters may be
strung together behind one dash.
-/
namespace EventScript

namespace CommandLine

/-- Options without a value. -/
inductive Switch where
  | help
  | singleLineCalls
  | overwrite
  | dryRun
  | verbose
  deriving DecidableEq

/-- Options with a value. -/
inductive Setting where
  | eventId
  | eventPage
  | variant
  | config
  | output
  | unknownCommands
  | onError
  | indent
  | diagnostics
  deriving DecidableEq

inductive OptionKind where
  | switch (s : Switch)
  | setting (s : Setting)
  deriving DecidableEq

/-- The long names. -/
def longNames : List (String × OptionKind) :=
  [("help", .switch .help), ("event-id", .setting .eventId), ("event-page", .setting .eventPage),
   ("variant", .setting .variant), ("config", .setting .config), ("output", .setting .output),
   ("unknown-commands", .setting .unknownCommands), ("on-error", .setting .onError),
   ("indent", .setting .indent), ("single-line-calls", .switch .singleLineCalls),
   ("diagnostics", .setting .diagnostics), ("overwrite", .switch .overwrite),
   ("dry-run", .switch .dryRun), ("verbose", .switch .verbose)]

/-- The letters. -/
def letters : List (Char × OptionKind) :=
  [('h', .switch .help), ('o', .setting .output), ('v', .switch .verbose)]

def letter? (c : CodePoint) : Option OptionKind :=
  (letters.find? fun (letter, _) => CodePoint.ofChar letter = c).map Prod.snd

/-- What a run is asked to do. A blank name table is none. -/
structure Options where
  selection : Selection := {}
  variant : Given Variant := .value .mv
  config : Option Path := none
  output : Given Path := .value ⟨0, ["out.py"]⟩
  onUnknown : Given UnknownPolicy := .value .placeholder
  onError : Given ErrorPolicy := .value .abort
  indent : Given Text := .value "tab"
  singleLineCalls : Bool := false
  diagnostics : Option (Given Path) := none
  overwrite : Bool := false
  dryRun : Bool := false
  verbose : Bool := false

/-- A command line that was understood. -/
structure Invocation where
  input : Path
  options : Options

/-- Why a command line is not run: it asks for help, or it is not understood. -/
inductive Stop where
  | help
  | misuse
  deriving DecidableEq

def Stop.exitCode : Stop → Nat
  | .help => 0
  | .misuse => 2

/-- The options with a switch turned. -/
def Options.turn (options : Options) : Switch → Except Stop Options
  | .help => .error .help
  | .singleLineCalls => .ok { options with singleLineCalls := true }
  | .overwrite => .ok { options with overwrite := true }
  | .dryRun => .ok { options with dryRun := true }
  | .verbose => .ok { options with verbose := true }

/-- The variant that a word names, lower case only. -/
def variant? (word : Text) : Option Variant :=
  if word = "mv" then some .mv else if word = "mz" then some .mz else none

/-- The options with a setting made; none if its value is refused. -/
def Options.fill? (options : Options) (setting : Setting) (value : Text) : Option Options :=
  match setting with
  | .eventId => do
    let n ← value.toInt?
    return { options with selection := { options.selection with event := some (.value n) } }
  | .eventPage => do
    let n ← value.toInt?
    return { options with selection := { options.selection with page := some (.value n) } }
  | .variant => do return { options with variant := .value (← variant? value) }
  | .config => some { options with config := some (.parse value) }
  | .output => some { options with output := .value (.parse value) }
  | .unknownCommands => do
    return { options with onUnknown := .value (← UnknownPolicy.ofWord? value) }
  | .onError => do return { options with onError := .value (← ConvertOptions.errorPolicy? value) }
  | .indent => some { options with indent := .value value }
  | .diagnostics => some { options with diagnostics := some (.value (.parse value)) }

/-- The options with a setting left blank. -/
def Options.leaveBlank (options : Options) : Setting → Options
  | .eventId => { options with selection := { options.selection with event := some .blank } }
  | .eventPage => { options with selection := { options.selection with page := some .blank } }
  | .variant => { options with variant := .blank }
  | .config => { options with config := none }
  | .output => { options with output := .blank }
  | .unknownCommands => { options with onUnknown := .blank }
  | .onError => { options with onError := .blank }
  | .indent => { options with indent := .blank }
  | .diagnostics => { options with diagnostics := some .blank }

/-- The options with a setting made or left blank; none if its value is refused. -/
def Options.set? (options : Options) (setting : Setting) (value : Text) : Option Options :=
  if value = "--" then some (options.leaveBlank setting) else options.fill? setting value

/-- What a word asks for: switches, then perhaps a setting, whose value may be part of the word. -/
structure Request where
  switches : List Switch := []
  setting : Option (Setting × Option Text) := none

/-- How a word reads on its own. -/
inductive Word where
  | plain
  | unknown
  | ambiguous
  | misused
  | request (r : Request)

/-- What letters ask for that are strung together; none if one of them is not known. -/
def letterRun? : Text → Option Request
  | [] => none
  | c :: rest => match letter? c with
    | none => none
    | some (.setting s) =>
      some { setting := some (s, if rest.isEmpty then none else some rest) }
    | some (.switch s) =>
      if rest.isEmpty then some { switches := [s] }
      else (letterRun? rest).map fun r => { r with switches := s :: r.switches }

/-- A word of one dash and letters, if its first letter is known. An equals sign right behind that
letter is no part of what follows. -/
def letterWord? (first : CodePoint) (rest : Text) : Option Word :=
  let attached := (Text.after? "=" rest).getD rest
  (letter? first).map fun
    | .setting s => .request { setting := some (s, if rest.isEmpty then none else some attached) }
    | .switch s =>
      if rest.isEmpty then .request { switches := [s] }
      else match letterRun? attached with
        | some r => .request { r with switches := s :: r.switches }
        | none => .misused

/-- An option by its long name, perhaps with a value attached. -/
def OptionKind.attach (kind : OptionKind) (value : Option Text) : Word :=
  match kind with
  | .switch s => if value.isSome then .misused else .request { switches := [s] }
  | .setting s => .request { setting := some (s, value) }

/-- A word cut at its first equals sign. -/
def splitEquals (word : Text) : Text × Option Text :=
  let name := word.takeWhile fun (c : CodePoint) => c ≠ '='
  match word.dropWhile fun (c : CodePoint) => c ≠ '=' with
  | [] => (name, none)
  | _ :: value => (name, some value)

/-- A word behind two dashes: the name itself, or the only one that it begins. -/
def longWord? (word : Text) : Option Word :=
  let (name, value) := splitEquals word
  match longNames.find? fun (long, _) => Text.ofString long = name with
  | some (_, kind) => some (kind.attach value)
  | none => match longNames.filter fun (long, _) => name.isPrefixOf (Text.ofString long) with
    | [] => none
    | [(_, kind)] => some (kind.attach value)
    | _ => some .ambiguous

/-- A decimal digit of any script. -/
def isDecimal (c : CodePoint) : Bool := c.digitValue?.isSome

/-- Whether the text behind a dash is a number, with or without a point; a newline may end it. -/
def isNumeral (t : Text) : Bool :=
  let t := if t.getLast? = some CodePoint.newline then t.dropLast else t
  match t.dropWhile isDecimal with
  | [] => !t.isEmpty
  | c :: decimals => c = '.' && !decimals.isEmpty && decimals.all isDecimal

/-- A word that starts with a dash but names no option. -/
def unnamedWord (rest : Text) : Word :=
  if isNumeral rest ∨ CodePoint.ofChar ' ' ∈ rest then .plain else .unknown

/-- How a word reads, if no lone pair of dashes came before it. -/
def Word.read : Text → Word
  | [] => .plain
  | [_] => .plain
  | c :: d :: rest =>
    if c ≠ '-' then .plain
    else if d = '-' then (longWord? rest).getD (unnamedWord (d :: rest))
    else (letterWord? d rest).getD (unnamedWord (d :: rest))

/-- Whether a word can be the value of the setting before it. -/
def isValue (word : Text) : Bool :=
  match Word.read word with
  | .plain => true
  | _ => false

/-- What is known after some words. -/
structure Scan where
  options : Options := {}
  input : Option Text := none
  /-- Whether a word came that has no place. -/
  hasSurplus : Bool := false

namespace Scan

/-- The scan with what a word asks for done: its switches turned, then its setting made. -/
def apply (scan : Scan) (r : Request) (setting : Option (Setting × Text)) : Except Stop Scan := do
  let options ← r.switches.foldlM Options.turn scan.options
  let options ← match setting with
    | none => .ok options
    | some (setting, value) => match options.set? setting value with
      | none => .error .misuse
      | some options => .ok options
  return { scan with options }

/-- The scan with a word that is no option. -/
def take (scan : Scan) (word : Text) : Scan :=
  match scan.input with
  | none => { scan with input := some word }
  | some _ => { scan with hasSurplus := true }

/-- The words behind a lone pair of dashes; none of them is an option. If the input is already
known, the dashes have a place only right behind it. -/
def finish (scan : Scan) (afterInput : Bool) (rest : List Text) : Scan :=
  if scan.input.isSome ∧ ¬afterInput then { scan with hasSurplus := true }
  else rest.foldl take scan

/-- All words in order. The flag tells whether the input was the last word. -/
def run (scan : Scan) (afterInput : Bool) : List Text → Except Stop Scan
  | [] => .ok scan
  | word :: rest =>
    if word = "--" then .ok (scan.finish afterInput rest)
    else match Word.read word with
      | .plain => run (scan.take word) scan.input.isNone rest
      | .unknown => run { scan with hasSurplus := true } false rest
      | .ambiguous => .error .misuse
      | .misused => .error .misuse
      | .request r => match r.setting, rest with
        | none, rest => do run (← scan.apply r none) false rest
        | some (setting, some value), rest => do
          run (← scan.apply r (some (setting, value))) false rest
        | some _, [] => .error .misuse
        | some (setting, none), value :: rest =>
          if isValue value then do run (← scan.apply r (some (setting, value))) false rest
          else .error .misuse

end Scan

/-- Whether a word may stand for several options. -/
def isAmbiguous (word : Text) : Bool :=
  match Word.read word with
  | .ambiguous => true
  | _ => false

/-- What the words of a command line ask for. -/
def parse (words : List Text) : Except Stop Invocation := do
  if (words.takeWhile fun (word : Text) => word ≠ "--").any isAmbiguous then .error .misuse
  let scan ← Scan.run {} false words
  match scan.input with
  | none => .error .misuse
  | some input => if scan.hasSurplus then .error .misuse else .ok ⟨.parse input, scan.options⟩

end CommandLine

end EventScript
