import EventScript.Proofs.Command.Access

/-! What operands are, slot by slot: a list of the slots' names with what each slot gives, where a
reference says what its flag says. -/
namespace EventScript

namespace Slot

variable {name : Text} {operand : Operand}

lemma gives_int (h : (Slot.int name).Gives operand) : ∃ n, operand = .value (.int n) := by
  obtain ⟨v, rfl, haccepts⟩ := h.resolve_right (by simp)
  cases v with
  | int n => exact ⟨n, rfl⟩
  | _ => cases haccepts

lemma gives_text {name : String} (h : (Catalog.text name).Gives operand) :
    ∃ t, operand = .value (.str t) := by
  obtain ⟨v, rfl, haccepts⟩ := h.resolve_right (by simp)
  cases v with
  | str t => exact ⟨t, rfl⟩
  | _ => cases haccepts

lemma gives_flag {name : String} (h : (Catalog.flag name).Gives operand) :
    ∃ b, operand = .value (.bool b) := by
  obtain ⟨v, rfl, haccepts⟩ := h.resolve_right (by simp)
  cases v with
  | bool b => exact ⟨b, rfl⟩
  | _ => cases haccepts

lemma gives_binary {name : String} (h : (Catalog.binary name).Gives operand) :
    ∃ b, operand = .value (.bool b) :=
  h.resolve_right (by simp)

lemma gives_member {words : List String}
    (h : (Slot.member name (Catalog.members words)).Gives operand) :
    ∃ word ∈ words, operand = .member (Text.ofString word) := by
  obtain ⟨pair, hpair, rfl⟩ := h
  obtain ⟨⟨word, n⟩, hmem, rfl⟩ := List.mem_map.1 hpair
  exact ⟨word, List.fst_mem_of_mem_zipIdx hmem, rfl⟩

end Slot

namespace Operands

/-- Operands that were read against slots, behind those of the slots before them. -/
def Continues (earlier : Operands) (slots : List Slot) (operands : Operands) : Prop :=
  ∃ before after, decodeSlots slots earlier before = .ok (operands, after)

variable {earlier operands : Operands} {slots : List Slot} {slot : Slot}

lemma decodeSlots_cons {before after : Cursor}
    (h : decodeSlots (slot :: slots) earlier before = .ok (operands, after)) :
    ∃ operand cursor, decodeSlot slot before = .ok (operand, cursor) ∧
      decodeSlots slots (insertPair slot.name operand earlier) cursor = .ok (operands, after) := by
  rw [decodeSlots] at h
  obtain ⟨⟨operand, cursor⟩, hslot, h⟩ := bind_eq_ok.1 h
  exact ⟨operand, cursor, hslot, h⟩

lemma Continues.nil (h : Continues earlier [] operands) : operands = earlier := by
  obtain ⟨before, after, h⟩ := h
  exact (Prod.mk.inj (Except.ok.inj h)).1.symm

/-- The next slot gives an operand. -/
lemma Continues.next (h : Continues earlier (slot :: slots) operands) :
    ∃ operand, slot.Gives operand ∧
      Continues (insertPair slot.name operand earlier) slots operands := by
  obtain ⟨before, after, h⟩ := h
  obtain ⟨operand, cursor, hslot, h⟩ := decodeSlots_cons h
  exact ⟨operand, gives_of_decodeSlot hslot, cursor, after, h⟩

/-- A flag and the reference behind it, which agree. -/
lemma Continues.pair {name : Text}
    (h : Continues earlier (Slot.referencePair name ++ slots) operands) :
    ∃ n isVariable, Continues
      (insertPair name (.reference ⟨.int n, isVariable⟩)
        (insertPair (name ++ "_is_variable") (.value (.bool isVariable)) earlier))
      slots operands := by
  obtain ⟨before, after, h⟩ := h
  rw [Slot.referencePair, List.cons_append, List.cons_append, List.nil_append] at h
  obtain ⟨flag, middle, hflag, h⟩ := decodeSlots_cons h
  obtain ⟨reference, cursor, hreference, h⟩ := decodeSlots_cons h
  simp only [decodeSlot, decodeFlag] at hflag
  obtain ⟨⟨m, taken⟩, -, hflag⟩ := bind_eq_ok.1 hflag
  obtain ⟨isVariable, -, hflag⟩ := bind_eq_ok.1 hflag
  obtain ⟨rfl, rfl⟩ := Prod.mk.inj (Except.ok.inj hflag)
  simp only [decodeSlot, decodeReference, lookup_insertPair, if_true, ite_self] at hreference
  obtain ⟨⟨value, rest⟩, -, hreference⟩ := bind_eq_ok.1 hreference
  obtain ⟨_, hcheck, hreference⟩ := bind_eq_ok.1 hreference
  obtain ⟨rfl, rfl⟩ := Prod.mk.inj (Except.ok.inj hreference)
  have haccepts := ValueKind.accepts_of_check hcheck
  cases value with
  | int n => exact ⟨n, isVariable, rest, after, h⟩
  | _ => cases haccepts

lemma Decoded.continues (h : Decoded slots operands) : Continues [] slots operands := h

lemma Decoded.single (h : Decoded [slot] operands) :
    ∃ operand, slot.Gives operand ∧ operands = [(slot.name, operand)] := by
  obtain ⟨operand, gives, h⟩ := Continues.next h
  exact ⟨operand, gives, h.nil⟩

lemma Decoded.double {other : Slot} (h : Decoded [slot, other] operands) :
    ∃ operand second, slot.Gives operand ∧ other.Gives second ∧
      operands = insertPair other.name second [(slot.name, operand)] := by
  obtain ⟨operand, gives, h⟩ := Continues.next h
  obtain ⟨second, gives', h⟩ := h.next
  exact ⟨operand, second, gives, gives', h.nil⟩

end Operands

end EventScript
