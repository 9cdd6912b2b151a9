import EventScript.Block.Reconstruct
import Mathlib

/-! The grammar of events: which forests of blocks are well formed, the order in which a forest is
read, and the place of each of its rows. -/
namespace EventScript

namespace Entry

/-- The rows of an entry: its own, then those that continue it. -/
def rows (entry : Entry) : List Row := entry.row :: entry.extras

/-- The role of an entry's command, if the command is known. -/
def role? (entry : Entry) : Option Role := entry.kind.map CommandKind.role

/-- A row that extends an entry: a continuation of its command at its indent. -/
def Continues (variant : Variant) (entry : Entry) (row : Row) : Prop :=
  row.indent = entry.row.indent ∧
    ∃ kind, Catalog.lookup variant row.code = some kind ∧
      kind.role = .continuation entry.row.code

/-- An entry that starts with a command of its own and holds only rows that extend it. -/
structure Lead (variant : Variant) (entry : Entry) : Prop where
  kind_eq : entry.kind = Catalog.lookup variant entry.row.code
  leads : ∀ lead, entry.role? ≠ some (.continuation lead)
  continues : ∀ row ∈ entry.extras, entry.Continues variant row

/-- An entry that opens no block, marks none and closes none. -/
def IsPlain (entry : Entry) : Prop := entry.role? = none ∨ entry.role? = some .leaf

/-- An entry that starts a section of a block. -/
def StartsSection (family : Family) (entry : Entry) : Prop :=
  entry.role? = some (.split family) ∨ entry.role? = some (.arm family)

/-- Each entry stands where the rows of those before it end, the first one at `position`. -/
def PlacedFrom : Nat → List Entry → Prop
  | _, [] => True
  | position, entry :: rest =>
    entry.index = position ∧ PlacedFrom (position + entry.rows.length) rest

@[simp] lemma rows_length (entry : Entry) : entry.rows.length = entry.extras.length + 1 := rfl

lemma placedFrom_append (position : Nat) (before after : List Entry) :
    PlacedFrom position (before ++ after) ↔ PlacedFrom position before ∧
      PlacedFrom (position + (before.flatMap rows).length) after := by
  induction before generalizing position with
  | nil => simp [PlacedFrom]
  | cons entry before ih =>
    simp only [List.cons_append, PlacedFrom, ih, List.flatMap_cons, List.length_append,
      Nat.add_assoc, and_assoc]

end Entry

namespace Block

mutual

/-- The entries of a block in reading order. -/
def entries : Block → List Entry
  | .leaf entry => [entry]
  | .compound header body branches closer =>
    header :: (entriesOf body ++ branchEntriesOf branches ++ [closer])
  termination_by structural block => block

def entriesOf : List Block → List Entry
  | [] => []
  | block :: rest => entries block ++ entriesOf rest
  termination_by structural blocks => blocks

/-- The entries of sections: each marker, then the blocks behind it. -/
def branchEntriesOf : List Branch → List Entry
  | [] => []
  | .mk marker children :: rest => marker :: (entriesOf children ++ branchEntriesOf rest)
  termination_by structural branches => branches

end

/-- The rows of a forest in reading order. -/
def rowsOf (blocks : List Block) : List Row := (entriesOf blocks).flatMap Entry.rows

@[simp] lemma entriesOf_append (blocks more : List Block) :
    entriesOf (blocks ++ more) = entriesOf blocks ++ entriesOf more := by
  induction blocks with
  | nil => simp [entriesOf]
  | cons block blocks ih => simp [entriesOf, ih]

@[simp] lemma branchEntriesOf_append (branches more : List Branch) :
    branchEntriesOf (branches ++ more) = branchEntriesOf branches ++ branchEntriesOf more := by
  induction branches with
  | nil => simp [branchEntriesOf]
  | cons branch branches ih =>
    obtain ⟨marker, children⟩ := branch
    simp [branchEntriesOf, ih]

lemma mem_entriesOf {blocks : List Block} {entry : Entry} :
    entry ∈ entriesOf blocks ↔ ∃ block ∈ blocks, entry ∈ block.entries := by
  induction blocks with
  | nil => simp [entriesOf]
  | cons block blocks ih => simp [entriesOf, ih]

lemma mem_branchEntriesOf {branches : List Branch} {entry : Entry} :
    entry ∈ branchEntriesOf branches ↔ entry ∈ branches.map Branch.marker ∨
      ∃ block ∈ branches.flatMap Branch.children, entry ∈ block.entries := by
  induction branches with
  | nil => simp [branchEntriesOf]
  | cons branch branches ih =>
    obtain ⟨marker, children⟩ := branch
    simp only [branchEntriesOf, List.mem_cons, List.mem_append, mem_entriesOf, ih, List.map_cons,
      List.flatMap_cons, Branch.marker, Branch.children, or_and_right, exists_or]
    exact iff_of_eq (by ac_rfl)

/-- The blocks directly inside a block. -/
def enclosed (body : List Block) (branches : List Branch) : List Block :=
  body ++ branches.flatMap Branch.children

lemma mem_entries_compound {header closer entry : Entry} {body : List Block}
    {branches : List Branch} :
    entry ∈ (Block.compound header body branches closer).entries ↔
      entry = header ∨ entry ∈ branches.map Branch.marker ∨ entry = closer ∨
        ∃ block ∈ enclosed body branches, entry ∈ block.entries := by
  simp only [entries, enclosed, List.mem_cons, List.mem_append, mem_entriesOf,
    mem_branchEntriesOf, List.mem_nil_iff, or_false, or_and_right, exists_or]
  exact iff_of_eq (by ac_rfl)

/-- The markers of a block at `indent`: what they are, how often each code comes and in which
order. -/
structure Marked (variant : Variant) (family : Family) (indent : Int) (markers : List Entry) :
    Prop where
  lead : ∀ marker ∈ markers, marker.Lead variant
  starts : ∀ marker ∈ markers, marker.StartsSection family
  indent_eq : ∀ marker ∈ markers, marker.row.indent = indent
  within_limits : ∀ code limit, family.limit? code = some limit →
    (markers.countP fun marker => decide (marker.row.code = code)) ≤ limit
  in_order : family.ordered = true →
    (markers.map fun marker => marker.row.code).Pairwise (· ≤ ·)

/-- A block as far as its own entries go: an opener, markers and a closer of one family at one
indent, with everything inside it deeper. -/
structure Framed (variant : Variant) (family : Family) (header : Entry) (body : List Block)
    (branches : List Branch) (closer : Entry) : Prop where
  header_lead : header.Lead variant
  header_opens : header.role? = some (.opens family)
  marked : Marked variant family header.row.indent (branches.map Branch.marker)
  closer_lead : closer.Lead variant
  closer_closes : closer.role? = some (.closes family)
  closer_indent : closer.row.indent = header.row.indent
  header_empty : family.emptyHeader = true → body = []
  deeper : ∀ block ∈ enclosed body branches, header.row.indent < block.head.row.indent

/-- A block that nests well where `inLoop` says whether a loop is around it. -/
inductive WellFormed (variant : Variant) : Bool → Block → Prop
  | leaf {inLoop : Bool} {entry : Entry} (lead : entry.Lead variant) (plain : entry.IsPlain)
      (breaks : entry.row.code = Nest.breakCode → inLoop = true) :
      WellFormed variant inLoop (.leaf entry)
  | compound {inLoop : Bool} {family : Family} {header closer : Entry} {body : List Block}
      {branches : List Branch} (framed : Framed variant family header body branches closer)
      (formed : ∀ block ∈ enclosed body branches,
        WellFormed variant (inLoop || decide (family = .loop)) block) :
      WellFormed variant inLoop (.compound header body branches closer)

lemma WellFormed.lead {variant : Variant} {inLoop : Bool} {block : Block}
    (formed : WellFormed variant inLoop block) {entry : Entry} (h : entry ∈ block.entries) :
    entry.Lead variant := by
  induction formed with
  | leaf lead =>
    obtain rfl := List.mem_singleton.1 h
    exact lead
  | compound framed formed ih =>
    rcases mem_entries_compound.1 h with rfl | hmarker | rfl | ⟨block, hblock, hentry⟩
    · exact framed.header_lead
    · exact framed.marked.lead entry hmarker
    · exact framed.closer_lead
    · exact ih block hblock hentry

/-- The forests of whole events: every block nests well outside of loops, and every entry has the
position of its first row. -/
structure IsEvent (variant : Variant) (blocks : List Block) : Prop where
  formed : ∀ block ∈ blocks, WellFormed variant false block
  placed : Entry.PlacedFrom 0 (entriesOf blocks)

end Block

end EventScript
