import EventScript.Json.Display
import EventScript.Names.Category
import EventScript.Text.Identifier

/-!
Name tables: names that a user chose for database entries. An entry without one has its
mechanical name. Stored tables may come in several formats, which agree on how a table is read.
-/
namespace EventScript

/-- Chosen names by category and id. -/
structure NameTable where
  entries : List (Category × List (Int × Text)) := []

namespace NameTable

/-- The chosen name of an entry. -/
def chosen? (table : NameTable) (category : Category) (id : Int) : Option Text := do
  (← table.entries.lookup category).lookup id

/-- The name of an entry. -/
def name (table : NameTable) (category : Category) (id : Int) : Text :=
  (table.chosen? category id).getD (category.fallback id)

/-- A key that stands for no category. -/
structure UnknownCategory where
  key : Text

def UnknownCategory.message (fault : UnknownCategory) : Text :=
  "unknown name category " ++ fault.key.display

/-- The name of an entry whose category is given by its key. -/
def nameByKey (table : NameTable) (key : Text) (id : Int) : Except UnknownCategory Text :=
  match Category.ofKey? key with
  | some category => .ok (table.name category id)
  | none => .error ⟨key⟩

/-- The chosen names in the order of the categories' keys, then of the ids. -/
def sorted (table : NameTable) : List (Category × List (Int × Text)) :=
  Category.all.filterMap fun category =>
    (table.entries.lookup category).map fun names =>
      (category, names.mergeSort fun a b => a.1 ≤ b.1)

/-- What is wrong with a stored table. -/
inductive Fault where
  | notObject
  | unknownCategory (key : Text)
  | categoryNotObject (key : Text)
  | notId (key id : Text)
  /-- The value in place of a name, as messages show it. -/
  | notName (key shown : Text)

def Fault.message : Fault → Text
  | .notObject => "name table must be an object"
  | .unknownCategory key => "unknown category " ++ key.display
  | .categoryNotObject key => "category " ++ key.display ++ " must map ids to names"
  | .notId key id => key ++ " id " ++ id.display ++ " is not an integer"
  | .notName key shown => key ++ " name " ++ shown ++ " is not a valid Python identifier"

/-- What a table needs to know about stored values. -/
structure Format (α : Type) where
  /-- The fields of an object. -/
  fields? : α → Option (List (Text × α))
  text? : α → Option Text
  display : α → Text

/-- Tables stored as JSON. -/
def Format.json : Format Json where
  fields?
    | .obj fields => some fields
    | _ => none
  text?
    | .str t => some t
    | _ => none
  display := Json.display

variable {α : Type}

/-- The names of one category with one more. -/
def addName (format : Format α) (key : Text) (names : List (Int × Text)) :
    Text × α → Except Fault (List (Int × Text))
  | (id, value) =>
    match id.toInt? with
    | none => .error (.notId key id)
    | some n => match (format.text? value).filter Text.isName with
      | some name => .ok (insertPair n name names)
      | none => .error (.notName key (format.display value))

/-- The category that a key of a stored table stands for; it may be spelled with dashes. -/
def categoryOf? (key : Text) : Option Category :=
  Category.ofKey? (key.map fun (c : CodePoint) => if c = '-' then CodePoint.ofChar '_' else c)

/-- A table with the names of one more category, in place of those it had. -/
def addCategory (format : Format α) (table : NameTable) : Text × α → Except Fault NameTable
  | (key, value) =>
    match categoryOf? key with
    | none => .error (.unknownCategory key)
    | some category => match format.fields? value with
      | some fields => do
        let names ← fields.foldlM (addName format key) []
        return ⟨insertPair category names table.entries⟩
      | none => .error (.categoryNotObject key)

/-- A table from a stored object. -/
def ofStored (format : Format α) (value : α) : Except Fault NameTable :=
  match format.fields? value with
  | some fields => fields.foldlM (addCategory format) {}
  | none => .error .notObject

/-- A table from an object stored as JSON. -/
def ofJson (value : Json) : Except Fault NameTable := ofStored Format.json value

end NameTable

end EventScript
