import EventScript.Command.Access
import EventScript.Proofs.Json.Pairs
import EventScript.Proofs.Outcome

/-! Reading parameters against a layout: what is read from each slot, and that a layout whose
references come behind their flags is read without a defect. -/
namespace EventScript

namespace Slot

/-- The slot whose operand a name stands for: the last one of that name. -/
def named? (name : Text) : List Slot → Option Slot
  | [] => none
  | slot :: rest => match named? name rest with
    | some found => some found
    | none => if slot.name = name then some slot else none

end Slot

namespace Operands

/-- Operands that were read against slots, with any parameters and flags. -/
def Decoded (slots : List Slot) (operands : Operands) : Prop :=
  ∃ before after, decodeSlots slots [] before = .ok (operands, after)

end Operands

/-- What a plain slot of a kind gives. -/
def ValueKind.Gives (kind : ValueKind) (operand : Operand) : Prop :=
  match kind with
  | .intBool => ∃ b, operand = .value (.bool b)
  | .audio => ∃ a, operand = .audio a
  | .moveRoute => ∃ r, operand = .route r
  | kind => ∃ v, operand = .value v ∧ kind.accepts v = true

/-- What a slot gives. -/
def Slot.Gives (slot : Slot) (operand : Operand) : Prop :=
  match slot with
  | .plain _ kind isOptional =>
    kind.Gives operand ∨ isOptional = true ∧ operand = .value .null
  | .flag _ => ∃ b, operand = .value (.bool b)
  | .reference _ _ kind => ∃ value isVariable, operand = .reference ⟨value, isVariable⟩ ∧
      (if isVariable then ValueKind.int else kind).accepts value = true
  | .member _ members => ∃ pair ∈ members, operand = .member pair.2
  | .tagged _ cases => ∃ discriminant tag slots operands,
      Case.mk discriminant tag slots ∈ cases ∧ operand = .tagged tag discriminant operands ∧
        Operands.Decoded slots operands

lemma readBinary_eq_ok {name : Text} {value : Json} {b : Bool} (h : readBinary name value = .ok b) :
    value = .int (if b then 1 else 0) := by
  cases value with
  | int n =>
    rw [readBinary] at h
    split_ifs at h with hzero hone
    · obtain rfl := Except.ok.inj h
      rw [hzero]
      rfl
    · obtain rfl := Except.ok.inj h
      rw [hone]
      rfl
  | _ => cases h

namespace ValueKind

lemma accepts_of_check {kind : ValueKind} {slot : Text} {value : Json}
    (h : kind.check slot value = .ok ()) : kind.accepts value = true := by
  cases kind <;> simp_all [check]

/-- What was read from a plain slot: the parameter itself, or what its kind makes of it. -/
lemma read_eq_ok {kind : ValueKind} {slot : Text} {value : Json} {operand : Operand}
    (h : kind.read slot value = .ok operand) :
    match kind with
    | .intBool => ∃ b, value = .int (if b then 1 else 0) ∧ operand = .value (.bool b)
    | .audio => ∃ a, Audio.ofJson value = .ok a ∧ operand = .audio a
    | .moveRoute => ∃ r, MoveRoute.ofJson value = .ok r ∧ operand = .route r
    | kind => kind.accepts value = true ∧ operand = .value value := by
  obtain ⟨_, hcheck, h⟩ := bind_eq_ok.1 h
  have haccepts := accepts_of_check hcheck
  cases kind with
  | intBool =>
    obtain ⟨b, hb, h⟩ := bind_eq_ok.1 h
    exact ⟨b, readBinary_eq_ok hb, (Except.ok.inj h).symm⟩
  | audio =>
    cases haudio : Audio.ofJson value with
    | error fault => simp [haudio] at h
    | ok a => exact ⟨a, rfl, by simpa [haudio, eq_comm] using h⟩
  | moveRoute =>
    cases hroute : MoveRoute.ofJson value with
    | error fault => simp [hroute] at h
    | ok r => exact ⟨r, rfl, by simpa [hroute, eq_comm] using h⟩
  | _ => exact ⟨haccepts, (Except.ok.inj h).symm⟩

lemma gives_of_read {kind : ValueKind} {slot : Text} {value : Json} {operand : Operand}
    (h : kind.read slot value = .ok operand) : kind.Gives operand := by
  have hread := read_eq_ok h
  cases kind with
  | intBool =>
    obtain ⟨b, -, hb⟩ := hread
    exact ⟨b, hb⟩
  | audio =>
    obtain ⟨a, -, ha⟩ := hread
    exact ⟨a, ha⟩
  | moveRoute =>
    obtain ⟨r, -, hr⟩ := hread
    exact ⟨r, hr⟩
  | _ => exact ⟨value, hread.2, hread.1⟩

end ValueKind

/-! ### Layouts that can be read -/

/-- Whether values of a kind can be read. -/
def ValueKind.isKnown : ValueKind → Bool
  | .other _ => false
  | _ => true

/-- The flag that a slot holds, if it does. -/
def Slot.flags : Slot → List Text
  | .flag name => [name]
  | _ => []

mutual

/-- Whether a slot can be read once some flags were: kinds are known, and references name one of the
flags. -/
def Slot.isReadable (flags : List Text) : Slot → Bool
  | .plain _ kind _ => kind.isKnown
  | .flag _ => true
  | .reference _ flag kind => decide (flag ∈ flags) && kind.isKnown
  | .member .. => true
  | .tagged _ cases => Case.areReadable flags cases
  termination_by structural slot => slot

def Case.areReadable (flags : List Text) : List Case → Bool
  | [] => true
  | .mk _ _ slots :: rest => Slot.areReadable flags slots && Case.areReadable flags rest
  termination_by structural cases => cases

/-- Whether slots can be read from left to right. -/
def Slot.areReadable (flags : List Text) : List Slot → Bool
  | [] => true
  | slot :: rest => Slot.isReadable flags slot && Slot.areReadable (slot.flags ++ flags) rest
  termination_by structural slots => slots

end

namespace Operands

/-- The flags that a cursor has read. -/
def Cursor.Knows (cursor : Cursor) (flags : List Text) : Prop :=
  ∀ flag ∈ flags, ∃ b, cursor.flags.lookup flag = some b

lemma Cursor.Knows.of_flags_eq {before after : Cursor} {flags : List Text}
    (knows : before.Knows flags) (h : after.flags = before.flags) : after.Knows flags := by
  simpa only [Cursor.Knows, h] using knows

lemma gives_of_decodeCase {cases : List Case} {name : Text} {n : Int} {before after : Cursor}
    {operand : Operand} (h : decodeCase cases name n before = .ok (operand, after)) :
    (Slot.tagged name cases).Gives operand := by
  induction cases with
  | nil => simp [decodeCase] at h
  | cons case cases ih =>
    obtain ⟨discriminant, tag, slots⟩ := case
    rw [decodeCase] at h
    split_ifs at h with hn
    · obtain ⟨⟨operands, cursor⟩, hslots, h⟩ := bind_eq_ok.1 h
      obtain ⟨rfl, rfl⟩ : Operand.tagged tag n operands = operand ∧ cursor = after := by
        simpa using h
      exact ⟨discriminant, tag, slots, operands, by simp, by rw [hn], before, cursor, hslots⟩
    · obtain ⟨discriminant, tag, slots, operands, hmem, rest⟩ := ih h
      exact ⟨discriminant, tag, slots, operands, by simp [hmem], rest⟩

/-- What is read from a slot has the slot's form. -/
lemma gives_of_decodeSlot {slot : Slot} {before after : Cursor} {operand : Operand}
    (h : decodeSlot slot before = .ok (operand, after)) : slot.Gives operand := by
  cases slot with
  | plain name kind isOptional =>
    simp only [decodeSlot, decodePlain] at h
    split_ifs at h with hmissing
    · obtain ⟨rfl, -⟩ : Operand.value .null = operand ∧ before = after := by simpa using h
      exact .inr ⟨(Bool.and_eq_true_iff.1 hmissing).1, rfl⟩
    · obtain ⟨⟨value, cursor⟩, -, h⟩ := bind_eq_ok.1 h
      obtain ⟨read, hread, h⟩ := bind_eq_ok.1 h
      obtain ⟨rfl, -⟩ : read = operand ∧ cursor = after := by simpa using h
      exact .inl (ValueKind.gives_of_read hread)
  | flag name =>
    simp only [decodeSlot, decodeFlag] at h
    obtain ⟨⟨n, cursor⟩, -, h⟩ := bind_eq_ok.1 h
    obtain ⟨flag, -, h⟩ := bind_eq_ok.1 h
    exact ⟨flag, (Prod.mk.inj (Except.ok.inj h)).1.symm⟩
  | reference name flag kind =>
    simp only [decodeSlot, decodeReference] at h
    split at h
    · cases h
    · rename_i isVariable _
      obtain ⟨⟨value, cursor⟩, -, h⟩ := bind_eq_ok.1 h
      obtain ⟨_, hcheck, h⟩ := bind_eq_ok.1 h
      exact ⟨value, isVariable, (Prod.mk.inj (Except.ok.inj h)).1.symm,
        ValueKind.accepts_of_check hcheck⟩
  | member name members =>
    simp only [decodeSlot, decodeMember] at h
    obtain ⟨⟨n, cursor⟩, -, h⟩ := bind_eq_ok.1 h
    cases hword : members.lookup n with
    | none => simp [hword] at h
    | some word =>
      simp only [hword] at h
      exact ⟨(n, word), mem_of_lookup hword, (Prod.mk.inj (Except.ok.inj h)).1.symm⟩
  | tagged name cases =>
    rw [decodeSlot] at h
    obtain ⟨⟨n, cursor⟩, -, h⟩ := bind_eq_ok.1 h
    exact gives_of_decodeCase h

/-- The operand under a name is that of the last slot with the name; other names keep what they
had. -/
lemma lookup_of_decodeSlots {slots : List Slot} {earlier operands : Operands}
    {before after : Cursor} (h : decodeSlots slots earlier before = .ok (operands, after))
    (name : Text) :
    match Slot.named? name slots with
    | some slot => ∃ operand, operands.lookup name = some operand ∧ slot.Gives operand
    | none => operands.lookup name = earlier.lookup name := by
  induction slots generalizing earlier before with
  | nil =>
    obtain ⟨rfl, -⟩ : earlier = operands ∧ before = after := by simpa [decodeSlots] using h
    rfl
  | cons slot slots ih =>
    rw [decodeSlots] at h
    obtain ⟨⟨operand, cursor⟩, hslot, h⟩ := bind_eq_ok.1 h
    have hrest := ih h
    rw [Slot.named?]
    cases hnamed : Slot.named? name slots with
    | some found => simpa [hnamed] using hrest
    | none =>
      simp only [hnamed, lookup_insertPair] at hrest
      by_cases hname : slot.name = name
      · simpa [hname] using ⟨operand, by simpa [hname] using hrest, gives_of_decodeSlot hslot⟩
      · have hname' : name ≠ slot.name := fun h => hname h.symm
        simpa [hname, hname'] using hrest

lemma Decoded.lookup {slots : List Slot} {operands : Operands} (decoded : Decoded slots operands)
    {name : Text} {slot : Slot} (h : Slot.named? name slots = some slot) :
    ∃ operand, operands.lookup name = some operand ∧ slot.Gives operand := by
  obtain ⟨before, after, hslots⟩ := decoded
  have := lookup_of_decodeSlots hslots name
  rwa [h] at this

lemma decoded_of_decode {layout : Layout} {parameters : List Json} {operands : Operands}
    (h : decode layout parameters = .ok operands) : Decoded layout operands := by
  obtain ⟨⟨read, cursor⟩, hslots, h⟩ := bind_eq_ok.1 h
  simp only at h
  split_ifs at h
  obtain rfl := Except.ok.inj h
  exact ⟨_, cursor, hslots⟩

lemma Cursor.take_yields (cursor : Cursor) (slot : Text) :
    Yields (fun result => result.2.flags = cursor.flags) (cursor.take slot) := by
  unfold Cursor.take
  cases cursor.rest <;> simp

lemma Cursor.takeInt_yields (cursor : Cursor) (slot : Text) :
    Yields (fun result => result.2.flags = cursor.flags) (cursor.takeInt slot) := by
  refine (cursor.take_yields slot).bind ?_
  rintro ⟨value, after⟩ hflags
  cases value <;> simp_all

lemma readBinary_yields (name : Text) (value : Json) :
    Yields (fun _ => True) (readBinary name value) := by
  cases value with
  | int n =>
    simp only [readBinary]
    split_ifs <;> simp
  | _ => simp [readBinary]

lemma check_yields {kind : ValueKind} (known : kind.isKnown = true) (slot : Text) (value : Json) :
    Yields (fun _ => True) (kind.check slot value) := by
  cases kind with
  | other name => simp [ValueKind.isKnown] at known
  | _ =>
    simp only [ValueKind.check]
    split_ifs <;> simp

lemma read_yields {kind : ValueKind} (known : kind.isKnown = true) (slot : Text) (value : Json) :
    Yields (fun _ => True) (kind.read slot value) := by
  refine (check_yields known slot value).bind fun _ _ => ?_
  cases kind with
  | intBool => exact (readBinary_yields slot value).bind fun _ _ => trivial
  | audio => cases Audio.ofJson value <;> simp
  | moveRoute => cases MoveRoute.ofJson value <;> simp
  | _ => trivial

lemma decodeFlag_yields {flags : List Text} {cursor : Cursor} (name : Text)
    (knows : cursor.Knows flags) :
    Yields (fun result => result.2.Knows (name :: flags)) (decodeFlag name cursor) := by
  refine (cursor.takeInt_yields name).bind ?_
  rintro ⟨n, after⟩ hflags
  refine (readBinary_yields name (.int n)).bind fun flag _ => ?_
  intro other hother
  simp only [lookup_insertPair]
  by_cases hname : other = name
  · exact ⟨flag, by simp [hname]⟩
  · obtain ⟨b, hb⟩ := knows.of_flags_eq hflags other (by simpa [hname] using hother)
    exact ⟨b, by simpa [hname] using hb⟩

-- The flags of a case are forgotten behind it: a reference outside names one that is outside too.
mutual

theorem decodeSlot_yields {flags : List Text} : (slot : Slot) → {cursor : Cursor} →
    slot.isReadable flags = true → cursor.Knows flags →
      Yields (fun result => result.2.Knows (slot.flags ++ flags)) (decodeSlot slot cursor)
  | .plain name kind isOptional, cursor, readable, knows => by
    rw [Slot.isReadable] at readable
    simp only [decodeSlot, decodePlain]
    split_ifs
    · exact knows
    · refine (cursor.take_yields name).bind ?_
      rintro ⟨value, after⟩ hflags
      exact (read_yields readable name value).bind fun _ _ => knows.of_flags_eq hflags
  | .flag name, cursor, _, knows => by
    rw [decodeSlot]
    exact decodeFlag_yields name knows
  | .reference name flag kind, cursor, readable, knows => by
    simp only [Slot.isReadable, Bool.and_eq_true, decide_eq_true_eq] at readable
    obtain ⟨isVariable, hflag⟩ := knows flag readable.1
    simp only [decodeSlot, decodeReference, hflag]
    refine (cursor.take_yields name).bind ?_
    rintro ⟨value, after⟩ hflags
    have known : (if isVariable then ValueKind.int else kind).isKnown = true := by
      cases isVariable with
      | false => exact readable.2
      | true => rfl
    exact (check_yields known name value).bind fun _ _ => knows.of_flags_eq hflags
  | .member name members, cursor, _, knows => by
    simp only [decodeSlot, decodeMember]
    refine (cursor.takeInt_yields name).bind ?_
    rintro ⟨n, after⟩ hflags
    cases members.lookup n with
    | none => simp
    | some word => exact knows.of_flags_eq hflags
  | .tagged name cases, cursor, readable, knows => by
    rw [Slot.isReadable] at readable
    rw [decodeSlot]
    refine (cursor.takeInt_yields name).bind ?_
    rintro ⟨n, after⟩ hflags
    exact decodeCase_yields cases name n readable (knows.of_flags_eq hflags)
  termination_by structural slot => slot

theorem decodeCase_yields {flags : List Text} : (cases : List Case) → (name : Text) → (n : Int) →
    {cursor : Cursor} → Case.areReadable flags cases = true → cursor.Knows flags →
      Yields (fun result => result.2.Knows flags) (decodeCase cases name n cursor)
  | [], name, n, cursor, _, _ => by simp [decodeCase]
  | .mk discriminant tag slots :: rest, name, n, cursor, readable, knows => by
    simp only [Case.areReadable, Bool.and_eq_true] at readable
    rw [decodeCase]
    split_ifs
    · exact (decodeSlots_yields slots [] readable.1 knows).bind fun result h => h
    · exact decodeCase_yields rest name n readable.2 knows
  termination_by structural cases => cases

theorem decodeSlots_yields {flags : List Text} : (slots : List Slot) → (earlier : Operands) →
    {cursor : Cursor} → Slot.areReadable flags slots = true → cursor.Knows flags →
      Yields (fun result => result.2.Knows flags) (decodeSlots slots earlier cursor)
  | [], earlier, cursor, _, knows => by simpa [decodeSlots] using knows
  | slot :: rest, earlier, cursor, readable, knows => by
    simp only [Slot.areReadable, Bool.and_eq_true] at readable
    rw [decodeSlots]
    refine (decodeSlot_yields slot readable.1 knows).bind fun result h => ?_
    exact (decodeSlots_yields rest _ readable.2 h).mono (fun _ h => h) fun result h flag hflag =>
      h flag (by simp [hflag])
  termination_by structural slots => slots

end

/-- A readable layout is read without a defect. -/
theorem decode_yields {layout : Layout} (readable : Slot.areReadable [] layout = true)
    (parameters : List Json) : Yields (Decoded layout) (decode layout parameters) := by
  have hslots : Yields (fun _ => True) (decode layout parameters) := by
    refine (decodeSlots_yields layout [] readable (by simp [Cursor.Knows])).bind ?_
    rintro ⟨operands, cursor⟩ -
    simp only
    split_ifs <;> simp
  exact hslots.strengthen fun operands h => decoded_of_decode h

end Operands

end EventScript
