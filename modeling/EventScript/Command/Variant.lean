import EventScript.Text.Quoted

/-!
The two editor generations whose stored commands the library reads.
-/
namespace EventScript

inductive Variant where
  | mv
  | mz
  deriving DecidableEq

namespace Variant

def name : Variant → String
  | .mv => "mv"
  | .mz => "mz"

/-- A word that names no editor generation. -/
structure Fault where
  text : Text

def Fault.message (fault : Fault) : Text := "unknown engine variant " ++ fault.text.display

/-- The variant that a word names, in either case. -/
def parse (text : Text) : Except Fault Variant :=
  if text.toLowerAscii = "mv" then .ok .mv
  else if text.toLowerAscii = "mz" then .ok .mz
  else .error ⟨text⟩

end Variant

end EventScript
