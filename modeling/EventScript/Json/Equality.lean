import EventScript.Json.Basic

/-!
Equality of stored values by meaning: numbers are compared by value, the truth values are the
numbers 0 and 1, and the order of an object's keys does not matter.
-/
namespace EventScript

namespace Json

/-- A value as a number, where the truth values are 0 and 1. -/
inductive Numeric where
  | int (n : Int)
  | float (x : Double)

def numeric? : Json → Option Numeric
  | .bool b => some (.int (if b then 1 else 0))
  | .int n => some (.int n)
  | .float x => some (.float x)
  | _ => none

def Numeric.same : Numeric → Numeric → Bool
  | .int m, .int n => m = n
  | .int m, .float y => y.isInt m
  | .float x, .int n => x.isInt n
  | .float x, .float y => x.same y

/-- Numbers compared by value. -/
def sameNumber (v w : Json) : Bool :=
  match v.numeric?, w.numeric? with
  | some m, some n => m.same n
  | _, _ => false

mutual

/-- Whether two values mean the same. -/
def same : Json → Json → Bool
  | .null, .null => true
  | .str s, .str t => s = t
  | .arr xs, .arr ys => sameItems xs ys
  | .obj fs, .obj gs => fs.length = gs.length && sameFields fs gs
  | .bool a, w => sameNumber (.bool a) w
  | .int m, w => sameNumber (.int m) w
  | .float x, w => sameNumber (.float x) w
  | _, _ => false
  termination_by structural v => v

/-- Item by item. -/
def sameItems : List Json → List Json → Bool
  | [], [] => true
  | x :: xs, y :: ys => same x y && sameItems xs ys
  | _, _ => false
  termination_by structural v => v

/-- Each field has its counterpart among the others. -/
def sameFields : List (Text × Json) → List (Text × Json) → Bool
  | [], _ => true
  | (k, v) :: fs, gs =>
    (match gs.lookup k with
      | some w => same v w
      | none => false) && sameFields fs gs
  termination_by structural v => v

end

end Json

end EventScript
