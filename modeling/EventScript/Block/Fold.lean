import EventScript.Block.Basic

/-!
Folding continuation rows into the rows that they extend. A continuation row has to follow a row
of its lead command, or another continuation of it, at the same indent.
-/
namespace EventScript

namespace Entry

/-- Entries so far, the latest first, with one more row. -/
def absorb (variant : Variant) (reversed : List Entry) (index : Nat) (row : Row) :
    Except (Located StructuralFault) (List Entry) :=
  match Catalog.lookup variant row.code with
  | none => .ok (⟨index, row, none, []⟩ :: reversed)
  | some kind =>
    match kind.role with
    | .continuation lead =>
      match reversed with
      | [] => .error ⟨index, .strayContinuation kind.name lead⟩
      | last :: earlier =>
        if last.row.code ≠ lead then .error ⟨index, .strayContinuation kind.name lead⟩
        else if row.indent ≠ last.row.indent then
          .error ⟨index, .continuationIndent kind.name row.indent last.row.indent⟩
        else .ok ({ last with extras := last.extras ++ [row] } :: earlier)
    | _ => .ok (⟨index, row, some kind, []⟩ :: reversed)

/-- The entries of rows whose first one stands at `index`, behind those so far. -/
def foldFrom (variant : Variant) :
    Nat → List Entry → List Row → Except (Located StructuralFault) (List Entry)
  | _, reversed, [] => .ok reversed.reverse
  | index, reversed, row :: rest => do
    foldFrom variant (index + 1) (← absorb variant reversed index row) rest

/-- The entries of an event's rows. -/
def fold (variant : Variant) (rows : List Row) : Except (Located StructuralFault) (List Entry) :=
  foldFrom variant 0 [] rows

end Entry

end EventScript
