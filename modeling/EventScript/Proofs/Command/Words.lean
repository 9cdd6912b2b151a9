import EventScript.Proofs.Command.Catalog
import EventScript.Proofs.Text.Printable

/-! The words among the operands of a command are those that the catalogue declares: visible characters
only. -/
namespace EventScript

mutual

/-- Whether the words that a slot declares are made of visible characters. -/
def Slot.isWorded : Slot → Bool
  | .member _ members => members.all fun pair => Text.isSolid pair.2.toString
  | .tagged _ cases => Case.areWorded cases
  | _ => true
  termination_by structural slot => slot

def Case.areWorded : List Case → Bool
  | [] => true
  | .mk _ _ slots :: rest => Slot.areWorded slots && Case.areWorded rest
  termination_by structural cases => cases

def Slot.areWorded : List Slot → Bool
  | [] => true
  | slot :: rest => Slot.isWorded slot && Slot.areWorded rest
  termination_by structural slots => slots

end

lemma Catalog.worded {variant : Variant} {kind : CommandKind} (h : kind ∈ kinds variant) :
    Slot.areWorded kind.layout = true := by
  have hall : (kinds variant).all (fun kind => Slot.areWorded kind.layout) = true := by
    cases variant <;> decide +kernel
  exact List.all_eq_true.1 hall kind h

lemma Case.worded_of_mem {cases : List Case} (h : areWorded cases = true) {discriminant : Int}
    {tag : Text} {slots : List Slot} (hmem : Case.mk discriminant tag slots ∈ cases) :
    Slot.areWorded slots = true := by
  induction cases with
  | nil => cases hmem
  | cons case cases ih =>
    obtain ⟨_, _, first⟩ := case
    rw [areWorded, Bool.and_eq_true] at h
    rcases List.mem_cons.1 hmem with heq | hmem
    · cases heq
      exact h.1
    · exact ih h.2 hmem

namespace Slot

lemma worded_of_mem {slots : List Slot} (h : areWorded slots = true) {slot : Slot}
    (hmem : slot ∈ slots) : slot.isWorded = true := by
  induction slots with
  | nil => cases hmem
  | cons first slots ih =>
    rw [areWorded, Bool.and_eq_true] at h
    rcases List.mem_cons.1 hmem with rfl | hmem
    · exact h.1
    · exact ih h.2 hmem

lemma mem_of_named? {name : Text} {slots : List Slot} {slot : Slot}
    (h : named? name slots = some slot) : slot ∈ slots := by
  induction slots with
  | nil => cases h
  | cons first slots ih =>
    rw [named?] at h
    split at h
    · exact List.mem_cons_of_mem _ (ih (by simp_all))
    · split_ifs at h
      simp_all

end Slot

namespace Operands

/-- Operands that were read against slots with visible words. -/
def Worded (operands : Operands) : Prop :=
  ∃ slots, Slot.areWorded slots = true ∧ Decoded slots operands

variable {operands : Operands}

lemma gives_member {slot : Slot} {word : Text} (h : slot.Gives (.member word)) :
    ∃ name members, slot = .member name members ∧ ∃ pair ∈ members, word = pair.2 := by
  cases slot with
  | plain name kind isOptional => cases kind <;> simp [Slot.Gives, ValueKind.Gives] at h
  | member name members =>
    obtain ⟨pair, hmem, heq⟩ := h
    exact ⟨name, members, rfl, pair, hmem, Operand.member.inj heq⟩
  | _ => simp [Slot.Gives] at h

lemma gives_tagged {slot : Slot} {tag : Text} {discriminant : Int} {inner : Operands}
    (h : slot.Gives (.tagged tag discriminant inner)) :
    ∃ name cases slots, slot = .tagged name cases ∧
      (∃ discriminant tag, Case.mk discriminant tag slots ∈ cases) ∧ Decoded slots inner := by
  cases slot with
  | plain name kind isOptional => cases kind <;> simp [Slot.Gives, ValueKind.Gives] at h
  | tagged name cases =>
    obtain ⟨discriminant, tag, slots, operands, hmem, heq, hdecoded⟩ := h
    obtain ⟨-, -, rfl⟩ := Operand.tagged.inj heq
    exact ⟨name, cases, slots, rfl, ⟨discriminant, tag, hmem⟩, hdecoded⟩
  | _ => simp [Slot.Gives] at h

lemma Worded.get (h : operands.Worded) (name : String) :
    Returns (fun operand => ∃ slot, Slot.isWorded slot = true ∧ slot.Gives operand)
      (operands.get name) := by
  obtain ⟨slots, hworded, before, after, hslots⟩ := h
  have hlookup := lookup_of_decodeSlots hslots (Text.ofString name)
  unfold Operands.get
  cases hnamed : Slot.named? (Text.ofString name) slots with
  | none =>
    rw [hnamed] at hlookup
    simp [hlookup]
  | some slot =>
    rw [hnamed] at hlookup
    obtain ⟨operand, hoperand, gives⟩ := hlookup
    rw [hoperand]
    exact ⟨slot, Slot.worded_of_mem hworded (Slot.mem_of_named? hnamed), gives⟩

/-- A word among the operands is made of visible characters. -/
lemma Worded.member (h : operands.Worded) (name : String) :
    Returns (fun word => Text.isSolid word = true) (operands.member name) := by
  refine (h.get name).bind ?_
  rintro operand ⟨slot, hslot, gives⟩
  cases operand with
  | member word =>
    obtain ⟨name, members, rfl, pair, hpair, rfl⟩ := gives_member gives
    exact List.all_eq_true.1 hslot pair hpair
  | _ => trivial

/-- The operands of a selected case are worded as well. -/
lemma Worded.tagged (h : operands.Worded) (name : String) :
    Returns (fun selected => Worded selected.2) (operands.tagged name) := by
  refine (h.get name).bind ?_
  rintro operand ⟨slot, hslot, gives⟩
  cases operand with
  | tagged tag discriminant inner =>
    obtain ⟨name, cases, slots, rfl, ⟨_, _, hcase⟩, hdecoded⟩ := gives_tagged gives
    exact ⟨slots, Case.worded_of_mem hslot hcase, hdecoded⟩
  | _ => trivial

end Operands

end EventScript
