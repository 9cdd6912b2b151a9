import EventScript.Command.Layout
import EventScript.Command.Role
import EventScript.Command.Variant
import EventScript.Json.Display

/-!
What can be wrong with stored commands. A `Cause` is a fault of the data; it has a kind, which
diagnostics report, and a message. A `Defect` is a fault of the program itself: a layout that
cannot be read, or a command whose writer asks for something its layout does not hold.
-/
namespace EventScript

/-- Rows and parameters that do not have the declared shape. -/
inductive SchemaFault where
  | missing (slot : Text) (given : Nat)
  | surplus (read given : Nat)
  | wrongKind (slot : Text) (kind : ValueKind) (value : Json)
  | rowNotObject (value : Json)
  | rowCode (value : Json)
  | rowIndent (value : Json)
  | rowParameters
  | audioNotObject (value : Json)
  | audioName
  | audioNumber (key : String) (value : Json)
  | stepNotObject
  | stepCode (value : Json)
  | stepParameters
  | stepIndent (value : Json)
  | routeNotObject
  | routeList
  | routeFlag (key : String) (value : Json)

namespace SchemaFault

def message : SchemaFault → Text
  | .missing slot given =>
    "failed to read parameter " ++ Text.display slot ++ ": expected more than " ++
      Text.ofNat given ++ " parameters"
  | .surplus read given =>
    "expected " ++ Text.ofNat read ++ " parameters, but got " ++ Text.ofNat given
  | .wrongKind slot kind value =>
    "parameter " ++ Text.display slot ++ " must be of kind " ++ kind.name ++ ", got " ++
      value.display
  | .rowNotObject value => "event command must be an object, got " ++ Text.ofString value.typeName
  | .rowCode value => "event command code must be an integer, got " ++ value.display
  | .rowIndent value =>
    "event command indent must be a non-negative integer, got " ++ value.display
  | .rowParameters => "event command parameters must be a list"
  | .audioNotObject value => "audio file must be an object, got " ++ Text.ofString value.typeName
  | .audioName => "audio file name must be a string"
  | .audioNumber key value =>
    "audio file " ++ Text.ofString key ++ " must be an integer, got " ++ value.display
  | .stepNotObject => "move command must be an object"
  | .stepCode value => "move command code must be an integer, got " ++ value.display
  | .stepParameters => "move command parameters must be a list"
  | .stepIndent value => "move command indent must be an integer, got " ++ value.display
  | .routeNotObject => "move route must be an object"
  | .routeList => "move route list must be a list"
  | .routeFlag key value =>
    "move route " ++ Text.ofString key ++ " must be a boolean, got " ++ value.display

end SchemaFault

/-- Values of the right type that mean nothing where they stand. -/
inductive DataFault where
  | notBinary (name : Text) (value : Json)
  | notMember (slot : Text) (value : Int) (members : List Int)
  | noCase (slot : Text) (value : Int)
  | idRange (first last : Int)
  | routeRows (rows steps : Nat)
  | routeRow (position : Nat)

namespace DataFault

def message : DataFault → Text
  | .notBinary name value => name ++ " must be 0 or 1, got " ++ value.display
  | .notMember slot value members =>
    slot ++ " value " ++ Text.ofInt value ++ " is not one of [" ++
      Text.join ", " (members.map Text.ofInt) ++ "]"
  | .noCase slot value => "unsupported " ++ slot ++ " kind " ++ Text.ofInt value
  | .idRange first last =>
    "id range end " ++ Text.ofInt last ++ " precedes start " ++ Text.ofInt first
  | .routeRows rows steps =>
    Text.ofNat rows ++ " movement route rows for a route of " ++ Text.ofNat steps ++ " steps"
  | .routeRow position =>
    "movement route row " ++ Text.ofNat position ++ " does not match route step " ++
      Text.ofNat position

end DataFault

/-- An open block, as messages name it. -/
structure Opening where
  command : String
  index : Nat

def Opening.text (opening : Opening) : Text :=
  Text.ofString opening.command ++ " at command " ++ Text.ofNat opening.index

/-- Rows that do not nest. -/
inductive StructuralFault where
  | strayContinuation (command : String) (lead : Int)
  | continuationIndent (command : String) (indent leadIndent : Int)
  | indentDropped (indent : Int) (opening : Opening)
  | breakOutsideLoop
  | unclosed (opening : Opening)
  | noOpenBlock (command : String) (family : Family)
  | markerIndent (command : String) (indent : Int) (opening : Opening) (openingIndent : Int)
  /-- Commands before the first section of a block that may have none there; the word is the marker
  that found them. -/
  | headerNotEmpty (opening : Opening) (marker : String)
  | duplicateMarker (command : String) (opening : Opening)
  | markerOrder (command : String) (opening : Opening)

namespace StructuralFault

def message : StructuralFault → Text
  | .strayContinuation command lead =>
    Text.ofString command ++ " row without a preceding lead command " ++ Text.ofInt lead
  | .continuationIndent command indent leadIndent =>
    Text.ofString command ++ " row at indent " ++ Text.ofInt indent ++
      " does not match its lead command at indent " ++ Text.ofInt leadIndent
  | .indentDropped indent opening =>
    "indent dropped to " ++ Text.ofInt indent ++ " before " ++ opening.text ++ " was closed"
  | .breakOutsideLoop => "break outside of a loop"
  | .unclosed opening => "command list ended before " ++ opening.text ++ " was closed"
  | .noOpenBlock command family =>
    Text.ofString command ++ " without an open " ++ Text.ofString family.name ++ " block"
  | .markerIndent command indent opening openingIndent =>
    Text.ofString command ++ " at indent " ++ Text.ofInt indent ++ " does not match " ++
      opening.text ++ " at indent " ++ Text.ofInt openingIndent
  | .headerNotEmpty opening marker =>
    "unexpected commands between " ++ opening.text ++ " and its first " ++ Text.ofString marker
  | .duplicateMarker command opening =>
    "duplicate " ++ Text.ofString command ++ " inside " ++ opening.text
  | .markerOrder command opening =>
    Text.ofString command ++ " out of order inside " ++ opening.text

end StructuralFault

/-- A fault of the data. -/
inductive Cause where
  | schema (fault : SchemaFault)
  | data (fault : DataFault)
  | structural (fault : StructuralFault)
  | unrecognized (code : Int) (variant : Variant)

namespace Cause

/-- The word for a fault's kind in diagnostics. -/
def kind : Cause → String
  | .schema _ => "SchemaMismatch"
  | .data _ => "DataError"
  | .structural _ => "StructuralError"
  | .unrecognized .. => "UnrecognizedCode"

def message : Cause → Text
  | .schema fault => fault.message
  | .data fault => fault.message
  | .structural fault => fault.message
  | .unrecognized code variant =>
    "unrecognized command code " ++ Text.ofInt code ++ " for variant " ++
      Text.ofString variant.name

end Cause

/-- A fault of the program: none of the commands of the catalogue leads to one. -/
inductive Defect where
  | unknownKind (kind : Text)
  | flagNotRead (slot flag : Text)
  | missingOperand (name : String)
  | operandShape (name : String)
  | unknownMember (member : String)
  | notAnOpener (command : String)
  | kindless (index : Nat)

namespace Defect

/-- The word for a defect in reports. -/
def kind : Defect → String
  | .unknownKind _ => "ValueError"
  | .flagNotRead .. => "ValueError"
  | .missingOperand _ => "KeyError"
  | .unknownMember _ => "KeyError"
  | .kindless _ => "AssertionError"
  | _ => "TypeError"

def message : Defect → Text
  | .unknownKind kind => "unknown field kind " ++ kind.display
  | .flagNotRead slot flag =>
    "reference field " ++ Text.display slot ++ " precedes flag " ++ Text.display flag
  | .missingOperand name => "no operand " ++ Text.display name
  | .operandShape name => "unexpected operand " ++ Text.display name
  | .unknownMember member => "unexpected member " ++ Text.display member
  | .notAnOpener command => Text.ofString command ++ " does not open a block"
  | .kindless index => "the command at " ++ Text.ofNat index ++ " has no kind"

end Defect

/-- Why a command cannot be read or written. -/
inductive Fault where
  | cause (c : Cause)
  | defect (d : Defect)

namespace Fault

def schema (fault : SchemaFault) : Fault := .cause (.schema fault)

def data (fault : DataFault) : Fault := .cause (.data fault)

def message : Fault → Text
  | .cause c => c.message
  | .defect d => d.message

end Fault

/-- A fault and the position of the row it is about. -/
structure Located (ε : Type) where
  index : Nat
  fault : ε

end EventScript
