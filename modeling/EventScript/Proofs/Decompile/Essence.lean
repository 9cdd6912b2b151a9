import EventScript.Decompile.Event
import EventScript.Proofs.Command.Decoding

/-! What conditions and values show of the operands. Slots that are not used leave nothing in a
script, and every negative character is the player; nothing else of the operands is lost. -/
namespace EventScript

mutual

/-- What a script shows of the operand of a slot. -/
def Operand.essence (name : Text) : Operand → Operand
  | .value (.int n) => .value (.int (if name = Text.ofString "character_id" ∧ n < 0 then -1 else n))
  | .tagged tag n operands => .tagged tag n (Operands.essence operands)
  | operand => operand
  termination_by structural operand => operand

/-- What a script shows of operands. -/
def Operands.essence : Operands → Operands
  | [] => []
  | (name, operand) :: rest =>
    if name = Text.ofString "unused" then Operands.essence rest
    else (name, operand.essence name) :: Operands.essence rest
  termination_by structural operands => operands

end

namespace Operands

variable {name : String} (operands : Operands)

lemma lookup_essence {name : Text} (h : name ≠ Text.ofString "unused") :
    (essence operands).lookup name = (operands.lookup name).map (Operand.essence name) := by
  induction operands with
  | nil => rfl
  | cons pair operands ih =>
    obtain ⟨key, operand⟩ := pair
    rw [essence, lookup_pair]
    split_ifs with hunused hkey hkey
    · rw [← hkey] at hunused
      exact absurd hunused h
    · exact ih
    · subst hkey
      simp
    · rw [lookup_pair, if_neg hkey, ih]

lemma get_essence (h : name ≠ "unused") :
    (essence operands).get name =
      (operands.get name).map (Operand.essence (Text.ofString name)) := by
  rw [get, get, lookup_essence operands (by simpa [Text.ofString_inj] using h)]
  cases operands.lookup (Text.ofString name) <;> rfl

/-- A reader that sees nothing but the essence of an operand. -/
lemma bind_get_essence {β : Type} {read : Operand → Except Fault β} (h : name ≠ "unused")
    (hread : ∀ operand, read (Operand.essence (Text.ofString name) operand) = read operand) :
    ((essence operands).get name >>= read) = (operands.get name >>= read) := by
  rw [get_essence operands h]
  cases operands.get name with
  | error fault => rfl
  | ok operand => exact hread operand

lemma essence_value {name : Text} (h : name ≠ Text.ofString "character_id") (v : Json) :
    Operand.essence name (.value v) = .value v := by
  cases v <;> simp [Operand.essence, h]

lemma int_essence (h : name ≠ "unused") (hcharacter : name ≠ "character_id") :
    (essence operands).int name = operands.int name := by
  refine bind_get_essence operands h fun operand => ?_
  cases operand with
  | value v => rw [essence_value (by simpa [Text.ofString_inj] using hcharacter)]
  | _ => rfl

lemma value_essence (h : name ≠ "unused") (hcharacter : name ≠ "character_id") :
    (essence operands).value name = operands.value name := by
  refine bind_get_essence operands h fun operand => ?_
  cases operand with
  | value v => rw [essence_value (by simpa [Text.ofString_inj] using hcharacter)]
  | _ => rfl

lemma flag_essence (h : name ≠ "unused") : (essence operands).flag name = operands.flag name := by
  refine bind_get_essence operands h fun operand => ?_
  cases operand with
  | value v => cases v <;> rfl
  | _ => rfl

lemma member_essence (h : name ≠ "unused") :
    (essence operands).member name = operands.member name := by
  refine bind_get_essence operands h fun operand => ?_
  cases operand with
  | value v => cases v <;> rfl
  | _ => rfl

lemma amount_essence (h : name ≠ "unused") :
    (essence operands).amount name = operands.amount name := by
  refine bind_get_essence operands h fun operand => ?_
  cases operand with
  | value v => cases v <;> rfl
  | _ => rfl

lemma tagged_essence (h : name ≠ "unused") :
    (essence operands).tagged name = (operands.tagged name).map fun (tag, inner) =>
      (tag, essence inner) := by
  rw [tagged, tagged, get_essence operands h]
  cases operands.get name with
  | error fault => rfl
  | ok operand =>
    cases operand with
    | value v => cases v <;> rfl
    | _ => rfl

/-- A character is shown as it is, whatever its number. -/
lemma character_essence : (essence operands).int "character_id" = operands.int "character_id" ∨
    ∃ m n, (essence operands).int "character_id" = .ok m ∧ operands.int "character_id" = .ok n ∧
      Decompile.character m = Decompile.character n := by
  rw [int, int, get_essence operands (by decide)]
  cases operands.get "character_id" with
  | error fault => exact .inl rfl
  | ok operand =>
    cases operand with
    | value v =>
      cases v with
      | int n =>
        refine .inr ⟨_, n, rfl, rfl, ?_⟩
        by_cases hneg : n < 0
        · simp [hneg, Decompile.character]
        · simp [hneg]
      | _ => exact .inl rfl
    | _ => exact .inl rfl

end Operands

namespace Decompile

open Operands

namespace Context

variable (context : Context) (tag : String) (operands : Operands)

lemma gameData_essence :
    context.gameData tag (essence operands) = context.gameData tag operands := by
  unfold gameData
  split
  all_goals try simp (disch := decide) only [int_essence, member_essence]
  rcases character_essence operands with h | ⟨m, n, hm, hn, hcharacter⟩
  · rw [h]
  · simp only [hm, hn, hcharacter, ok_bind]

lemma variableOperand_essence :
    context.variableOperand tag (essence operands) = context.variableOperand tag operands := by
  unfold variableOperand
  split
  all_goals try simp (disch := decide) only [int_essence, value_essence]
  rw [tagged_essence operands (by decide)]
  cases operands.tagged "data" with
  | error fault => rfl
  | ok data => exact gameData_essence context data.1 data.2

lemma actorProperty_essence (actor : Expr) :
    context.actorProperty actor tag (essence operands) =
      context.actorProperty actor tag operands := by
  unfold actorProperty
  split
  all_goals simp (disch := decide) only [int_essence]

lemma actorCondition_essence (id : Int) :
    context.actorCondition id tag (essence operands) =
      context.actorCondition id tag operands := by
  unfold actorCondition
  split
  · rfl
  · rw [value_essence operands (by decide) (by decide)]
  · exact actorProperty_essence context _ operands _

lemma enemyCondition_essence (index : Int) :
    context.enemyCondition index tag (essence operands) =
      context.enemyCondition index tag operands := by
  unfold enemyCondition
  split
  · rfl
  · rw [int_essence operands (by decide) (by decide)]

lemma condition_essence :
    context.condition tag (essence operands) = context.condition tag operands := by
  unfold condition
  split
  all_goals try simp (disch := decide) only [int_essence, value_essence, flag_essence,
    member_essence, amount_essence]
  · rw [tagged_essence operands (by decide)]
    cases operands.tagged "check" with
    | error fault => rfl
    | ok check =>
      exact congrArg _ (funext fun id => actorCondition_essence context check.1 check.2 id)
  · rw [tagged_essence operands (by decide)]
    cases operands.tagged "check" with
    | error fault => rfl
    | ok check =>
      exact congrArg _ (funext fun index => enemyCondition_essence context check.1 check.2 index)
  · rcases character_essence operands with h | ⟨m, n, hm, hn, hcharacter⟩
    · rw [h]
    · simp only [hm, hn, hcharacter, ok_bind]

end Context

variable (context : Context) (entry : Entry) (operands : Operands)

/-- The condition of a branch depends on the essence of its operands only. -/
lemma branchCondition_essence :
    branchCondition context (essence operands) = branchCondition context operands := by
  rw [branchCondition, branchCondition, tagged_essence operands (by decide)]
  cases operands.tagged "condition" with
  | error fault => rfl
  | ok asked => exact context.condition_essence asked.1 asked.2

lemma idRange_essence : idRange (essence operands) = idRange operands := by
  simp (disch := decide) only [idRange, int_essence]

/-- Assignments depend on the essence of the operands only. -/
lemma controlVariables_essence : controlVariables context entry (essence operands) =
    controlVariables context entry operands := by
  rw [controlVariables, controlVariables, member_essence operands (by decide),
    tagged_essence operands (by decide), idRange_essence]
  cases operands.tagged "operand" with
  | error fault => rfl
  | ok operand =>
    simp only [Except.map, ok_bind, context.variableOperand_essence operand.1 operand.2]

end Decompile

end EventScript
