/-!
Values that a user is asked for.
-/
namespace EventScript

/-- The answer to a question that may be left blank. -/
inductive Given (α : Type) where
  | value (a : α)
  | blank
  deriving DecidableEq

end EventScript
