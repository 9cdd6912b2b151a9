/-!
The part a command plays in the nesting of an event. Four families of commands open blocks; inside
a block, markers of its family start new sections, and one closes it. Continuation rows belong to
the row before them.
-/
namespace EventScript

/-- The kinds of blocks. -/
inductive Family where
  | conditional
  | loop
  | choice
  | battleResult
  deriving DecidableEq

namespace Family

def name : Family → String
  | .conditional => "conditional"
  | .loop => "loop"
  | .choice => "choice"
  | .battleResult => "battle_result"

/-- The families in the order of their names. -/
def all : List Family := [.battleResult, .choice, .conditional, .loop]

def opener : Family → Int
  | .conditional => 111
  | .loop => 112
  | .choice => 102
  | .battleResult => 601

def closer : Family → Int
  | .conditional => 412
  | .loop => 413
  | .choice => 404
  | .battleResult => 604

/-- The codes of the markers that start a section, with the number of times each may occur in one
block. -/
def markers : Family → List (Int × Option Nat)
  | .conditional => [(411, some 1)]
  | .loop => []
  | .choice => [(402, none), (403, some 1)]
  | .battleResult => [(602, some 1), (603, some 1)]

/-- How often a marker may occur in one block, if there is a limit. -/
def limit? (family : Family) (code : Int) : Option Nat := (family.markers.lookup code).join

/-- Whether the codes of the markers may not decrease. -/
def ordered : Family → Bool
  | .choice => true
  | .battleResult => true
  | _ => false

/-- Whether nothing may stand between the opener and the first marker. -/
def emptyHeader : Family → Bool
  | .choice => true
  | _ => false

end Family

/-- The part of a command in the nesting. -/
inductive Role where
  | leaf
  | opens (family : Family)
  | split (family : Family)
  | arm (family : Family)
  | closes (family : Family)
  | continuation (lead : Int)
  deriving DecidableEq

namespace Role

def name : Role → String
  | .leaf => "leaf"
  | .opens _ => "open"
  | .split _ => "split"
  | .arm _ => "arm"
  | .closes _ => "close"
  | .continuation _ => "continuation"

def family? : Role → Option Family
  | .opens family => some family
  | .split family => some family
  | .arm family => some family
  | .closes family => some family
  | _ => none

/-- The code whose rows a continuation row extends. -/
def lead? : Role → Option Int
  | .continuation lead => some lead
  | _ => none

/-- Whether rows of this role start a section of an open block, or close it. -/
def isMarker : Role → Bool
  | .split _ => true
  | .arm _ => true
  | .closes _ => true
  | _ => false

end Role

end EventScript
