import EventScript.Block.Fold

/-!
Rebuilding the nesting of an event from its rows in one pass over the entries, with a stack of the
blocks that are open. Whatever does not nest is refused at once; a block is never closed for lack of
its closer.
-/
namespace EventScript

/-- An open block. Its sections so far are kept with the latest first. -/
structure Frame where
  header : Entry
  kind : CommandKind
  family : Family
  body : List Block
  branches : List Branch

namespace Frame

def indent (frame : Frame) : Int := frame.header.row.indent

def opening (frame : Frame) : Opening := ⟨frame.kind.name, frame.header.index⟩

/-- One more block in the section that is being filled. -/
def add (frame : Frame) (block : Block) : Frame :=
  match frame.branches with
  | [] => { frame with body := frame.body ++ [block] }
  | .mk marker children :: earlier =>
    { frame with branches := .mk marker (children ++ [block]) :: earlier }

/-- How many sections so far start with a marker of this code. -/
def count (frame : Frame) (code : Int) : Nat :=
  frame.branches.countP fun branch => decide (branch.marker.row.code = code)

end Frame

/-- The blocks that are finished, and those that are open, the innermost first. -/
structure Nest where
  done : List Block
  frames : List Frame

namespace Nest

def empty : Nest := ⟨[], []⟩

/-- One more block where the next one belongs. -/
def add (nest : Nest) (block : Block) : Nest :=
  match nest.frames with
  | [] => { nest with done := nest.done ++ [block] }
  | top :: rest => { nest with frames := top.add block :: rest }

/-- The closer of the innermost block `top`; `rest` are the blocks around it. -/
def close (nest : Nest) (top : Frame) (rest : List Frame) (entry : Entry) :
    Except (Located StructuralFault) Nest :=
  match top.family.emptyHeader, top.body with
  | true, block :: _ => .error ⟨block.index, .headerNotEmpty top.opening "marker"⟩
  | _, _ =>
    .ok (add ⟨nest.done, rest⟩ (.compound top.header top.body top.branches.reverse entry))

/-- Whether the codes of markers would decrease. -/
def outOfOrder (top : Frame) (code : Int) : Bool :=
  match top.branches with
  | [] => false
  | branch :: _ => top.family.ordered && decide (code < branch.marker.row.code)

/-- Whether one more marker of a code is too many. -/
def exceedsLimit (top : Frame) (code : Int) : Bool :=
  match top.family.limit? code with
  | none => false
  | some limit => limit ≤ top.count code

/-- A marker that starts a new section of the innermost block. -/
def startSection (nest : Nest) (top : Frame) (rest : List Frame) (entry : Entry)
    (kind : CommandKind) : Except (Located StructuralFault) Nest :=
  if exceedsLimit top kind.code then
    .error ⟨entry.index, .duplicateMarker kind.name top.opening⟩
  else if outOfOrder top kind.code then
    .error ⟨entry.index, .markerOrder kind.name top.opening⟩
  else match top.family.emptyHeader && top.branches.isEmpty, top.body with
    | true, block :: _ => .error ⟨block.index, .headerNotEmpty top.opening kind.name⟩
    | _, _ =>
      .ok ⟨nest.done, { top with branches := .mk entry [] :: top.branches } :: rest⟩

/-- A marker of a family: it has to belong to the innermost block and stand at its indent. -/
def mark (nest : Nest) (entry : Entry) (kind : CommandKind) (family : Family) :
    Except (Located StructuralFault) Nest :=
  match nest.frames with
  | [] => .error ⟨entry.index, .noOpenBlock kind.name family⟩
  | top :: rest =>
    if top.family ≠ family then .error ⟨entry.index, .noOpenBlock kind.name family⟩
    else if entry.row.indent ≠ top.indent then
      .error ⟨entry.index, .markerIndent kind.name entry.row.indent top.opening top.indent⟩
    else match kind.role with
      | .closes _ => nest.close top rest entry
      | _ => nest.startSection top rest entry kind

/-- The code of the command that leaves a loop. -/
def breakCode : Int := 113

/-- Whether some open block is a loop. -/
def insideLoop (nest : Nest) : Bool :=
  nest.frames.any fun frame => decide (frame.family = .loop)

/-- Refuses an entry that does not stand deeper than the innermost block. -/
def checkIndent (nest : Nest) (entry : Entry) : Except (Located StructuralFault) Unit :=
  match nest.frames with
  | [] => .ok ()
  | top :: _ =>
    if entry.row.indent ≤ top.indent then
      .error ⟨entry.index, .indentDropped entry.row.indent top.opening⟩
    else .ok ()

/-- One entry. -/
def step (nest : Nest) (entry : Entry) : Except (Located StructuralFault) Nest :=
  match entry.kind with
  | none => do
    nest.checkIndent entry
    return nest.add (.leaf entry)
  | some kind =>
    match kind.role with
    | .split family => nest.mark entry kind family
    | .arm family => nest.mark entry kind family
    | .closes family => nest.mark entry kind family
    | .opens family => do
      nest.checkIndent entry
      return ⟨nest.done, ⟨entry, kind, family, [], []⟩ :: nest.frames⟩
    | _ => do
      nest.checkIndent entry
      if kind.code = breakCode ∧ ¬nest.insideLoop then
        throw ⟨entry.index, .breakOutsideLoop⟩
      return nest.add (.leaf entry)

/-- The finished blocks, if none is open. -/
def finish (nest : Nest) : Except (Located StructuralFault) (List Block) :=
  match nest.frames with
  | [] => .ok nest.done
  | top :: _ => .error ⟨top.header.index, .unclosed top.opening⟩

end Nest

namespace Block

/-- The blocks of an event's rows. -/
def reconstruct (variant : Variant) (rows : List Row) :
    Except (Located StructuralFault) (List Block) := do
  let entries ← Entry.fold variant rows
  let nest ← entries.foldlM Nest.step Nest.empty
  nest.finish

end Block

end EventScript
