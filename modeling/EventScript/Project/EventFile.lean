import EventScript.Convert.Diagnostic
import EventScript.Json.Equality
import EventScript.Json.Parser
import EventScript.Project.Given
import EventScript.Project.TextFile

/-!
The project files that hold event commands: maps, common events and troops. Records are listed by
id, with null in the place of a missing one. Maps and troops have events with pages, each page with
a command list; a common event has one command list of its own.
-/
namespace EventScript

/-- The kinds of files that hold event commands. -/
inductive EventFile where
  | map
  | commonEvents
  | troops
  deriving DecidableEq

/-- Which events and pages of a file are asked for; none stands for all of them. -/
structure Selection where
  event : Option (Given Int) := none
  page : Option (Given Int) := none

namespace EventFile

def name : EventFile → String
  | .map => "map"
  | .commonEvents => "common_events"
  | .troops => "troops"

/-- Why a file gives no command lists. -/
inductive Fault where
  | notJson (path : Path)
  | unknownKind (path : Path)
  | unreadable (path : Path) (fault : DiskFault)
  | malformed (path : Path)
  | noEvents (path : Path)
  | notRecords (path : Path)
  | pageOfCommonEvent
  | noEvent (path : Path) (event : Int)
  | wrongId (path : Path) (index : Nat)
  | noList (path : Path) (event : Nat)
  | noPages (path : Path) (event : Nat)
  | noPage (path : Path) (event : Nat) (page : Int)
  | noPageList (path : Path) (event page : Nat)
  /-- An event or a page is asked for, but not which one. -/
  | noNumber

def Fault.message : Fault → Text
  | .notJson path => path.text ++ ": file must be json"
  | .unknownKind path => path.text ++ ": unknown file type"
  | .unreadable path fault => "failed to read " ++ path.text ++ ": " ++ fault.message
  | .malformed path => "failed to parse " ++ path.text ++ ": " ++ malformedNote
  | .noEvents path => path.text ++ ": map file has no events list"
  | .notRecords path => path.text ++ ": expected a list of records"
  | .pageOfCommonEvent => "common events do not have pages"
  | .noEvent path event => path.text ++ ": no event with id " ++ Text.ofInt event
  | .wrongId path index =>
    path.text ++ ": record at index " ++ Text.ofNat index ++ " does not carry id " ++
      Text.ofNat index
  | .noList path event =>
    path.text ++ ": common event " ++ Text.ofNat event ++ " has no command list"
  | .noPages path event => path.text ++ ": event " ++ Text.ofNat event ++ " has no pages"
  | .noPage path event page =>
    path.text ++ ": event " ++ Text.ofNat event ++ " has no page with index " ++ Text.ofInt page
  | .noPageList path event page =>
    path.text ++ ": event " ++ Text.ofNat event ++ " page " ++ Text.ofNat page ++
      " has no command list"
  | .noNumber => "'<=' not supported between instances of 'int' and 'list'"

/-- Whether a name without ending is that of a map: `Map` and ASCII letters or digits, behind which
one newline may stand. The list of all maps has such a name but is none. -/
def isMapStem (stem : Text) : Bool :=
  match Text.after? "Map" stem with
  | none => false
  | some rest =>
    let behind := rest.dropWhile CodePoint.isAlphanumeric
    !(rest.takeWhile CodePoint.isAlphanumeric).isEmpty &&
      (behind = [] || behind = [CodePoint.newline]) && stem ≠ "MapInfos"

/-- The kind of a file, told by its name. -/
def detect (path : Path) : Except Fault EventFile :=
  if path.ending ≠ ".json" then .error (.notJson path)
  else if path.stem = "CommonEvents" then .ok .commonEvents
  else if path.stem = "Troops" then .ok .troops
  else if isMapStem path.stem then .ok .map
  else .error (.unknownKind path)

/-- The records of a file. -/
def records (kind : EventFile) (path : Path) (payload : Json) : Except Fault (List Json) :=
  match kind with
  | .map => match payload with
    | .obj fields => match Json.field "events" fields with
      | .arr records => .ok records
      | _ => .error (.noEvents path)
    | _ => .error (.noEvents path)
  | _ => match payload with
    | .arr records => .ok records
    | _ => .error (.notRecords path)

/-- A value at a position that may be negative, where there is nothing. -/
def at? {α : Type} (items : List α) (index : Int) : Option (Nat × α) :=
  if index < 0 then none else items[index.toNat]?.map (index.toNat, ·)

/-- Values with their positions. -/
def numbered {α : Type} (items : List α) : List (Nat × α) := items.zipIdx.map Prod.swap

/-- The records that are asked for, with their positions. -/
def select (path : Path) (records : List Json) :
    Option (Given Int) → Except Fault (List (Nat × Json))
  | none => .ok (numbered records)
  | some .blank => .error .noNumber
  | some (.value event) => match at? records event with
    | none => .error (.noEvent path event)
    | some (_, .null) => .error (.noEvent path event)
    | some record => .ok [record]

/-- The command list in a record or page. -/
def commands? : Json → Option (List Json)
  | .obj fields => match Json.field "list" fields with
    | .arr commands => some commands
    | _ => none
  | _ => none

/-- The pages of a record that are asked for, with their positions. -/
def selectPages (path : Path) (event : Nat) (pages : List Json) :
    Option (Given Int) → Except Fault (List (Nat × Json))
  | none => .ok (numbered pages)
  | some .blank => .error .noNumber
  | some (.value page) => match at? pages page with
    | none => .error (.noPage path event page)
    | some chosen => .ok [chosen]

/-- The command list of a page. -/
def pageList (path : Path) (event : Nat) : Nat × Json → Except Fault (EventRef × List Json)
  | (index, page) => match commands? page with
    | none => .error (.noPageList path event index)
    | some commands => .ok (⟨path.stem, event, some index⟩, commands)

/-- The command lists of a record that carries its id. -/
def fieldLists (kind : EventFile) (path : Path) (page : Option (Given Int)) (event : Nat)
    (fields : List (Text × Json)) : Except Fault (List (EventRef × List Json)) :=
  match kind with
  | .commonEvents => match commands? (.obj fields) with
    | none => .error (.noList path event)
    | some commands => .ok [(⟨path.stem, event, none⟩, commands)]
  | _ => match Json.field "pages" fields with
    | .arr pages => do
      let chosen ← selectPages path event pages page
      chosen.mapM (pageList path event)
    | _ => .error (.noPages path event)

/-- The command lists of a record; null has none. -/
def recordLists (kind : EventFile) (path : Path) (page : Option (Given Int)) :
    Nat × Json → Except Fault (List (EventRef × List Json))
  | (_, .null) => .ok []
  | (index, .obj fields) =>
    if (Json.field "id" fields).same (.int index) then fieldLists kind path page index fields
    else .error (.wrongId path index)
  | (index, _) => .error (.wrongId path index)

/-- The command lists of a file's value that are asked for. -/
def lists (kind : EventFile) (path : Path) (payload : Json) (selection : Selection) :
    Except Fault (List (EventRef × List Json)) := do
  let records ← records kind path payload
  if kind = .commonEvents ∧ selection.page.isSome then .error .pageOfCommonEvent
  let chosen ← select path records selection.event
  let lists ← chosen.mapM (recordLists kind path selection.page)
  return lists.flatten

/-- The value in a file. A byte order mark before it is ignored. -/
def payload (disk : Disk) (path : Path) : Except Fault Json :=
  match disk.readText? path with
  | .error fault => .error (.unreadable path fault)
  | .ok text? => match text?.bind fun text => Json.parse? text.dropByteOrderMark with
    | none => .error (.malformed path)
    | some value => .ok value

/-- The command lists of a file that are asked for. -/
def load (disk : Disk) (path : Path) (selection : Selection) :
    Except Fault (List (EventRef × List Json)) := do
  let kind ← detect path
  lists kind path (← payload disk path) selection

end EventFile

end EventScript
