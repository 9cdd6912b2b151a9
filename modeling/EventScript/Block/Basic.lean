import EventScript.Command.Catalog
import EventScript.Command.Row

/-!
Events as trees of blocks. An entry is a row together with the continuation rows that extend it;
a block is an entry on its own, or a header with its body, its further sections and its closer.
-/
namespace EventScript

/-- A row that stands for a command, the rows that continue it, and its place in the list. -/
structure Entry where
  index : Nat
  row : Row
  kind : Option CommandKind
  extras : List Row

mutual

inductive Block where
  | leaf (entry : Entry)
  | compound (header : Entry) (body : List Block) (branches : List Branch) (closer : Entry)

/-- The blocks behind a marker. -/
inductive Branch where
  | mk (marker : Entry) (children : List Block)

end

namespace Branch

def marker : Branch → Entry
  | .mk marker _ => marker

def children : Branch → List Block
  | .mk _ children => children

end Branch

namespace Block

instance : Inhabited Block := ⟨.leaf ⟨0, ⟨0, 0, []⟩, none, []⟩⟩

/-- The entry that a block starts with. -/
def head : Block → Entry
  | .leaf entry => entry
  | .compound header .. => header

/-- The place of a block's first row. -/
def index (b : Block) : Nat := b.head.index

end Block

/-- The family of the block that an entry opens. -/
def Entry.family? (entry : Entry) : Option Family := entry.kind.bind fun kind => kind.role.family?

/-- Whether an entry splits a block in two. -/
def Entry.isSplit (entry : Entry) : Bool :=
  match entry.kind with
  | some kind => match kind.role with
    | .split _ => true
    | _ => false
  | none => false

end EventScript
