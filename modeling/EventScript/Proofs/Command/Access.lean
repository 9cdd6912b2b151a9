import EventScript.Command.Catalog
import EventScript.Proofs.Command.Decoding

/-! Operands by name: asking for an operand in the form that its slot declares never fails. -/
namespace EventScript

@[simp] lemma Text.ofString_append (s t : String) :
    Text.ofString s ++ Text.ofString t = Text.ofString (s ++ t) := by
  simp [Text.ofString]

namespace Slot

def givesInt : Slot → Bool
  | .plain _ .int false => true
  | _ => false

def givesFlag : Slot → Bool
  | .plain _ .bool false => true
  | .plain _ .intBool false => true
  | .flag _ => true
  | _ => false

def givesText : Slot → Bool
  | .plain _ .str false => true
  | _ => false

/-- Slots whose operand is a stored value. -/
def givesValue : Slot → Bool
  | .plain _ .audio _ => false
  | .plain _ .moveRoute _ => false
  | .plain .. => true
  | _ => false

def givesAmount : Slot → Bool
  | .reference _ _ .int => true
  | _ => false

def givesAudio : Slot → Bool
  | .plain _ .audio false => true
  | _ => false

def givesRoute : Slot → Bool
  | .plain _ .moveRoute false => true
  | _ => false

def givesMember : Slot → Bool
  | .member .. => true
  | _ => false

/-- Whether the slot of a name has the form that is asked for. -/
def offers (layout : Layout) (name : String) (form : Slot → Bool) : Bool :=
  (named? (Text.ofString name) layout).any form

end Slot

-- A goal about the slot of a name in a layout of the catalogue is decided by unfolding both.
attribute [simp] Slot.offers Slot.named? Slot.name Slot.int Slot.required Slot.unused
  Slot.referencePair Slot.givesInt Slot.givesFlag Slot.givesText Slot.givesValue Slot.givesAmount
  Slot.givesAudio Slot.givesRoute Slot.givesMember Catalog.text Catalog.binary Catalog.flag
  Catalog.change Catalog.addition Catalog.comparison Catalog.designation Text.ofString_inj

lemma Catalog.mem_cases {alternatives : List (String × Layout)} {discriminant : Int} {tag : Text}
    {layout : Layout} (h : Case.mk discriminant tag layout ∈ cases alternatives) :
    ∃ word, (word, layout) ∈ alternatives ∧ tag = Text.ofString word := by
  obtain ⟨⟨⟨word, slots⟩, n⟩, hmem, heq⟩ := List.mem_map.1 h
  obtain ⟨-, rfl, rfl⟩ := Case.mk.inj heq
  exact ⟨word, List.fst_mem_of_mem_zipIdx hmem, rfl⟩

namespace Operands

lemma value_eq_ok {operands : Operands} {name : String} {v : Json} :
    operands.value name = .ok v ↔ operands.value? name = some v := by
  unfold value value? get
  cases operands.lookup (Text.ofString name) with
  | none => simp [bind, Except.bind]
  | some operand => cases operand <;> simp

namespace Decoded

variable {slots : List Slot} {operands : Operands}

/-- The operand under a name whose slot has some form. -/
lemma get (decoded : Decoded slots operands) {name : String} {form : Slot → Bool}
    (h : Slot.offers slots name form = true) :
    ∃ slot operand, form slot = true ∧ operands.get name = .ok operand ∧ slot.Gives operand := by
  obtain ⟨slot, hslot, hform⟩ := (Option.any_eq_true _ _).1 h
  obtain ⟨operand, hoperand, gives⟩ := decoded.lookup hslot
  exact ⟨slot, operand, hform, by simp [Operands.get, hoperand], gives⟩

lemma int (decoded : Decoded slots operands) (name : String)
    (h : Slot.offers slots name Slot.givesInt = true) :
    ∃ n, operands.int name = .ok n := by
  obtain ⟨slot, operand, hform, hget, gives⟩ := decoded.get h
  unfold Slot.givesInt at hform
  split at hform
  · obtain ⟨value, rfl, haccepts⟩ := gives.resolve_right (by simp)
    cases value with
    | int n => exact ⟨n, by simp [Operands.int, hget]⟩
    | _ => simp [ValueKind.accepts, Json.isInt] at haccepts
  · cases hform

lemma flag (decoded : Decoded slots operands) (name : String)
    (h : Slot.offers slots name Slot.givesFlag = true) :
    ∃ b, operands.flag name = .ok b := by
  obtain ⟨slot, operand, hform, hget, gives⟩ := decoded.get h
  unfold Slot.givesFlag at hform
  split at hform
  · obtain ⟨value, rfl, haccepts⟩ := gives.resolve_right (by simp)
    cases value with
    | bool b => exact ⟨b, by simp [Operands.flag, hget]⟩
    | _ => simp [ValueKind.accepts] at haccepts
  · obtain ⟨b, rfl⟩ := gives.resolve_right (by simp)
    exact ⟨b, by simp [Operands.flag, hget]⟩
  · obtain ⟨b, rfl⟩ := gives
    exact ⟨b, by simp [Operands.flag, hget]⟩
  · cases hform

lemma text (decoded : Decoded slots operands) (name : String)
    (h : Slot.offers slots name Slot.givesText = true) :
    ∃ t, operands.text name = .ok t ∧ operands.value name = .ok (.str t) := by
  obtain ⟨slot, operand, hform, hget, gives⟩ := decoded.get h
  unfold Slot.givesText at hform
  split at hform
  · obtain ⟨value, rfl, haccepts⟩ := gives.resolve_right (by simp)
    cases value with
    | str t => exact ⟨t, by simp [Operands.text, hget], by simp [Operands.value, hget]⟩
    | _ => simp [ValueKind.accepts, Json.isStr] at haccepts
  · cases hform

lemma value (decoded : Decoded slots operands) (name : String)
    (h : Slot.offers slots name Slot.givesValue = true) :
    ∃ v, operands.value name = .ok v := by
  obtain ⟨slot, operand, hform, hget, gives⟩ := decoded.get h
  suffices hvalue : ∃ v, operand = .value v by
    obtain ⟨v, rfl⟩ := hvalue
    exact ⟨v, by simp [Operands.value, hget]⟩
  cases slot with
  | plain _ kind isOptional =>
    rcases gives with gives | ⟨-, rfl⟩
    · cases kind with
      | audio => cases hform
      | moveRoute => cases hform
      | intBool => exact ⟨_, gives.choose_spec⟩
      | _ => exact ⟨_, gives.choose_spec.1⟩
    · exact ⟨_, rfl⟩
  | _ => cases hform

lemma amount (decoded : Decoded slots operands) (name : String)
    (h : Slot.offers slots name Slot.givesAmount = true) :
    ∃ a, operands.amount name = .ok a := by
  obtain ⟨slot, operand, hform, hget, gives⟩ := decoded.get h
  unfold Slot.givesAmount at hform
  split at hform
  · obtain ⟨value, isVariable, rfl, haccepts⟩ := gives
    rw [ite_self] at haccepts
    cases value with
    | int n => exact ⟨⟨n, isVariable⟩, by simp [Operands.amount, hget]⟩
    | _ => simp [ValueKind.accepts, Json.isInt] at haccepts
  · cases hform

lemma audio (decoded : Decoded slots operands) (name : String)
    (h : Slot.offers slots name Slot.givesAudio = true) :
    ∃ a, operands.audio name = .ok a := by
  obtain ⟨slot, operand, hform, hget, gives⟩ := decoded.get h
  unfold Slot.givesAudio at hform
  split at hform
  · obtain ⟨a, rfl⟩ := gives.resolve_right (by simp)
    exact ⟨a, by simp [Operands.audio, hget]⟩
  · cases hform

lemma route (decoded : Decoded slots operands) (name : String)
    (h : Slot.offers slots name Slot.givesRoute = true) :
    ∃ r, operands.route name = .ok r := by
  obtain ⟨slot, operand, hform, hget, gives⟩ := decoded.get h
  unfold Slot.givesRoute at hform
  split at hform
  · obtain ⟨r, rfl⟩ := gives.resolve_right (by simp)
    exact ⟨r, by simp [Operands.route, hget]⟩
  · cases hform

lemma member (decoded : Decoded slots operands) (name : String)
    (h : Slot.offers slots name Slot.givesMember = true) :
    ∃ word, operands.member name = .ok word := by
  obtain ⟨slot, operand, hform, hget, gives⟩ := decoded.get h
  unfold Slot.givesMember at hform
  split at hform
  · obtain ⟨pair, -, rfl⟩ := gives
    exact ⟨pair.2.toString, by simp [Operands.member, hget]⟩
  · cases hform

/-- One of the words that a slot declares. -/
lemma memberOf (decoded : Decoded slots operands) (name : String) (words : List String)
    (h : Slot.named? (Text.ofString name) slots =
      some (.member (Text.ofString name) (Catalog.members words))) :
    ∃ word ∈ words, operands.member name = .ok word := by
  obtain ⟨operand, hoperand, pair, hpair, rfl⟩ := decoded.lookup h
  obtain ⟨⟨word, n⟩, hmem, rfl⟩ := List.mem_map.1 hpair
  refine ⟨word, List.fst_mem_of_mem_zipIdx hmem, ?_⟩
  simp [Operands.member, Operands.get, hoperand]

/-- One of the cases that a slot declares, with operands that were read against its slots. -/
lemma tagged (decoded : Decoded slots operands) (name : String) (cases : List Case)
    (h : Slot.named? (Text.ofString name) slots = some (.tagged (Text.ofString name) cases)) :
    ∃ discriminant tag layout inner, Case.mk discriminant tag layout ∈ cases ∧
      Decoded layout inner ∧ operands.tagged name = .ok (tag.toString, inner) := by
  obtain ⟨operand, hoperand, discriminant, tag, layout, inner, hcase, rfl, hinner⟩ :=
    decoded.lookup h
  exact ⟨discriminant, tag, layout, inner, hcase, hinner,
    by simp [Operands.tagged, Operands.get, hoperand]⟩

end Decoded

end Operands

end EventScript
