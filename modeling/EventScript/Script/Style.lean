import EventScript.Text.Numeral
import EventScript.Text.Quoted

/-!
The layout of written scripts: the unit of indentation, and whether a call with several arguments
gets a line for each of them. Memory is taken to be unlimited, so that only a width that cannot be
counted is too large.
-/
namespace EventScript

structure Style where
  indent : Text := [CodePoint.tab]
  multilineCalls : Bool := true

namespace Style

/-- Why an indentation is refused. -/
inductive Fault where
  | notWidth (spec : Text)
  | notPositive
  /-- More spaces than a text can count. -/
  | uncountable

/-- The word for a fault in reports. -/
def Fault.kind : Fault → String
  | .uncountable => "OverflowError"
  | _ => "ValueError"

def Fault.message : Fault → Text
  | .notWidth spec => "indent must be 'tab' or a number of spaces, got " ++ spec.display
  | .notPositive => "indent width must be positive"
  | .uncountable => "cannot fit 'int' into an index-sized integer"

/-- A style from the word `tab` or a number of spaces. -/
def ofSpec (spec : Text) (multilineCalls : Bool) : Except Fault Style :=
  if spec = "tab" then .ok ⟨[CodePoint.tab], multilineCalls⟩
  else match spec.toInt? with
    | none => .error (.notWidth spec)
    | some width =>
      if width ≤ 0 then .error .notPositive
      else if 0x8000000000000000 ≤ width then .error .uncountable
      else .ok ⟨List.replicate width.toNat (CodePoint.ofChar ' '), multilineCalls⟩

end Style

end EventScript
