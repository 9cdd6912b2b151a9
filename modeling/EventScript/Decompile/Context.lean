import EventScript.Command.Access
import EventScript.Names.Table
import EventScript.Script.Stmt

/-!
What the decompilation of an event depends on, and the expressions for named entries, amounts and
characters.
-/
namespace EventScript

/-- What becomes of a command whose code is not known. -/
inductive UnknownPolicy where
  | placeholder
  | fail
  deriving DecidableEq

namespace UnknownPolicy

/-- The policy that a word stands for. -/
def ofWord? (word : Text) : Option UnknownPolicy :=
  if word = "placeholder" then some .placeholder
  else if word = "fail" then some .fail
  else none

/-- A word that stands for no policy. -/
structure Fault where
  word : Text

def Fault.message (fault : Fault) : Text :=
  "unknown command policy must be 'placeholder' or 'fail', got " ++ fault.word.display

def parse (word : Text) : Except Fault UnknownPolicy :=
  match ofWord? word with
  | some policy => .ok policy
  | none => .error ⟨word⟩

end UnknownPolicy

namespace Decompile

/-- The editor generation, the names, and the policy for unknown codes. -/
structure Context where
  variant : Variant
  names : NameTable
  onUnknown : UnknownPolicy

/-- A call of a dotted name with keyword arguments. -/
def invoke (path : String) (keywords : List (String × Expr)) : Expr :=
  .callPath path [] (keywords.map fun (key, e) => (Text.ofString key, e))

/-- A call as a statement. -/
def perform (path : String) (keywords : List (String × Expr)) : List Stmt :=
  [.expr (invoke path keywords)]

def number (n : Int) : Expr := .literal (.int n)

def truth (b : Bool) : Expr := .literal (.bool b)

def string (t : Text) : Expr := .literal (.str t)

def name (word : String) : Expr := .name (Text.ofString word)

/-- A method of an expression, called with keyword arguments. -/
def method (target : Expr) (word : String) (keywords : List (String × Expr)) : Expr :=
  .call (.attribute target (Text.ofString word)) []
    (keywords.map fun (key, e) => (Text.ofString key, e))

namespace Context

/-- The name of a database entry. -/
def named (context : Context) (category : Category) (id : Int) : Expr :=
  .name (context.names.name category id)

def variableNamed (context : Context) (id : Int) : Expr := context.named .variables id

/-- An amount: a number, or the variable that holds it. -/
def amount (context : Context) (a : Operands.Amount) : Expr :=
  if a.isVariable then context.variableNamed a.number else number a.number

/-- An amount, or its opposite. -/
def signedAmount (context : Context) (a : Operands.Amount) (negate : Bool) : Expr :=
  if ¬negate then context.amount a
  else if a.isVariable then .unary "-" (context.variableNamed a.number)
  else number (-a.number)

/-- The actor that a command is about, as a keyword argument. Number zero is the whole party. -/
def actorTarget (context : Context) (a : Operands.Amount) : String × Expr :=
  if a.isVariable then ("actor_id", context.variableNamed a.number)
  else if a.number = 0 then ("actors", name "game_party")
  else ("actor", context.named .actors a.number)

end Context

/-- A character on the map: the player, the event itself, or another one. -/
def character (id : Int) : Expr :=
  if id < 0 then name "game_player"
  else if id = 0 then name "this_event"
  else .name ("game_character_" ++ Text.ofInt id)

end Decompile

end EventScript
