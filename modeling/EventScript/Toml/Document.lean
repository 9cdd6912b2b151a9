import EventScript.Json.Basic
import EventScript.Toml.Value

/-!
TOML documents while they are read. Nothing that was read is ever replaced: a key gets its value
once, a header opens a table once, and a list or table that was written out as a value is closed to
later keys and headers. Only the lists that double brackets make grow, by one table at a time.
-/
namespace EventScript

namespace Toml

/-- A key behind the keys of the tables around it. -/
structure Key where
  parents : List Text
  last : Text

def Key.path (key : Key) : List Text := key.parents ++ [key.last]

namespace Value

/-- Whether a value has parts of its own. -/
def isNested : Value → Bool
  | .arr _ => true
  | .table _ => true
  | _ => false

/-- The fields of a table with a change to those at the end of a path. Tables that are missing on
the way are made; of a list of tables the last one is meant. -/
def change? (f : List (Text × Value) → Option (List (Text × Value))) :
    List Text → List (Text × Value) → Option (List (Text × Value))
  | [], fields => f fields
  | key :: path, fields =>
    match fields.lookup key with
    | none => do
      let inner ← change? f path []
      return insertPair key (.table inner) fields
    | some (.table inner) => do
      let inner ← change? f path inner
      return insertPair key (.table inner) fields
    | some (.arr items) => match items.getLast? with
      | some (.table inner) => do
        let inner ← change? f path inner
        return insertPair key (.arr (items.dropLast ++ [.table inner])) fields
      | _ => none
    | some _ => none

/-- Fields with one more, under a key that is new. -/
def addNew? (key : Text) (value : Value) (fields : List (Text × Value)) :
    Option (List (Text × Value)) :=
  if (fields.lookup key).isSome then none else some (insertPair key value fields)

/-- Fields with an empty table more in the list under a key. -/
def addItem? (key : Text) (fields : List (Text × Value)) : Option (List (Text × Value)) :=
  match fields.lookup key with
  | none => some (insertPair key (.arr [.table []]) fields)
  | some (.arr items) => some (insertPair key (.arr (items ++ [.table []])) fields)
  | some _ => none

end Value

/-- What was read so far. -/
structure Document where
  fields : List (Text × Value) := []
  /-- The path of the table that is being filled. -/
  header : List Text := []
  /-- The tables that can no longer be opened, neither by a header nor by the parts of a key. -/
  declared : List (List Text) := []
  /-- The tables that parts of keys have opened under the current header; with the next header they
  count as declared. -/
  opened : List (List Text) := []
  /-- The lists and tables that were written out as values. -/
  closed : List (List Text) := []

namespace Document

/-- Whether a path leads to a value that was written out, or into it. -/
def isClosed (doc : Document) (path : List Text) : Bool :=
  doc.closed.any fun closed => closed.isPrefixOf path

/-- The tables that the parts of a key open. -/
def passed (doc : Document) (key : Key) : List (List Text) :=
  (List.range key.parents.length).map fun n => doc.header ++ key.parents.take (n + 1)

/-- The document with a value under a key. -/
def put? (doc : Document) (key : Key) (value : Value) : Option Document := do
  let path := doc.header ++ key.path
  if doc.isClosed path then none
  if (doc.passed key).any doc.declared.contains then none
  let fields ← Value.change? (Value.addNew? key.last value) (doc.header ++ key.parents) doc.fields
  return { doc with
    fields := fields
    opened := doc.passed key ++ doc.opened
    closed := if value.isNested then path :: doc.closed else doc.closed }

/-- The document under its next header. -/
def settle (doc : Document) : Document :=
  { doc with declared := doc.opened ++ doc.declared, opened := [] }

/-- The document under the header of a table. -/
def openTable? (doc : Document) (key : Key) : Option Document := do
  let doc := doc.settle
  if doc.isClosed key.path ∨ doc.declared.contains key.path then none
  let fields ← Value.change? some key.path doc.fields
  return { doc with
    fields := fields
    header := key.path
    declared := key.path :: doc.declared }

/-- The document under the header of one more table in a list. What was said about the tables
inside an earlier one does not hold for it. -/
def openItem? (doc : Document) (key : Key) : Option Document := do
  let doc := doc.settle
  if doc.isClosed key.path then none
  let fields ← Value.change? (Value.addItem? key.last) key.parents doc.fields
  let isApart (path : List Text) : Bool := !key.path.isPrefixOf path
  return { doc with
    fields := fields
    header := key.path
    declared := key.path :: doc.declared.filter isApart
    closed := doc.closed.filter isApart }

/-- The table that keys with their values make on their own. -/
def ofPairs? (pairs : List (Key × Value)) : Option Value := do
  let doc ← pairs.foldlM (fun (doc : Document) (key, value) => doc.put? key value) {}
  return .table doc.fields

end Document

end Toml

end EventScript
