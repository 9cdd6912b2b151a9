import EventScript.Command.Row
import EventScript.Proofs.Command.Catalog
import EventScript.Proofs.Text.Encoding

/-! The messages of faults can be written to a file. A text or a value that a message complains about
is displayed, which spells surrogates by their numbers; everything else in a message is a word of the
catalogue or a number. -/
namespace EventScript

namespace Text

lemma Numeral.encodable {t : Text} (h : Numeral t) : Encodable t :=
  fun c hc => encodable_ofString _ c (h c hc)

@[simp] lemma encodable_ofNat (n : Nat) : Encodable (ofNat n) := (numeral_ofNat n).encodable

@[simp] lemma encodable_ofInt (n : Int) : Encodable (ofInt n) := (numeral_ofInt n).encodable

lemma encodable_charEscape {c : CodePoint} (h : c.isSurrogate = false) :
    Encodable (charEscape c) := by
  simp [charEscape, h]

@[simp] lemma encodable_hexEscape (letter : Char) (width n : Nat) :
    Encodable (hexEscape letter width n) := by
  have hdigits : ∀ c ∈ hexDigits, c.isSurrogate = false := by decide
  simp only [hexEscape, encodable_cons, CodePoint.isSurrogate_backslash,
    CodePoint.isSurrogate_ofChar, true_and]
  exact fun c hc => hdigits c (mem_hexDigits hc)

lemma encodable_of_lineEscape? {c : CodePoint} {escape : Text} (h : lineEscape? c = some escape) :
    Encodable escape := by
  unfold lineEscape? at h
  split_ifs at h
  all_goals
    obtain rfl := Option.some.inj h
    exact encodable_charEscape (CodePoint.isSurrogate_ofChar _)

lemma encodable_displayChar {mark : CodePoint} (hmark : mark.isSurrogate = false) (c : CodePoint) :
    Encodable (displayChar mark c) := by
  unfold displayChar
  by_cases hspecial : c = CodePoint.backslash ∨ c = mark
  · rw [if_pos hspecial]
    apply encodable_charEscape
    rcases hspecial with rfl | rfl
    · exact CodePoint.isSurrogate_backslash
    · exact hmark
  · rw [if_neg hspecial]
    cases hescape : lineEscape? c with
    | some escape => exact encodable_of_lineEscape? hescape
    | none =>
      simp only
      split_ifs with hprintable
      · simpa using CodePoint.not_isSurrogate_of_isPrintable hprintable
      all_goals simp

/-- What a message shows of a text holds no surrogate. -/
@[simp] lemma encodable_display (t : Text) : Encodable t.display := by
  have hmark : (displayMark t).isSurrogate = false := by
    unfold displayMark
    split_ifs <;> decide
  simp only [display, encodable_append, encodable_cons, encodable_nil, hmark, true_and, and_true]
  intro c hc
  obtain ⟨d, -, hc⟩ := List.mem_flatMap.1 hc
  exact encodable_displayChar hmark d c hc

end Text

open Text

lemma Double.encodable_text (x : Double) : Encodable x.text := by
  cases x with
  | nan => simp [text, textWith]
  | infinite negative => cases negative <;> simp [text, textWith]
  | finite negative significand exponent =>
    exact (numeral_text negative significand exponent).1.encodable

namespace Json

mutual

theorem encodable_display : (v : Json) → Encodable v.display
  | .null => by simp [display]
  | .bool b => by cases b <;> simp [display]
  | .int n => by simp [display]
  | .float x => by simpa [display] using Double.encodable_text x
  | .str t => by simp [display]
  | .arr items => by
    simp only [display, encodable_append, encodable_ofString, true_and, and_true]
    exact encodable_join (encodable_ofString _) (encodable_displayItems items)
  | .obj fields => by
    simp only [display, encodable_append, encodable_ofString, true_and, and_true]
    exact encodable_join (encodable_ofString _) (encodable_displayFields fields)
  termination_by structural v => v

theorem encodable_displayItems : (items : List Json) → ∀ part ∈ displayItems items, Encodable part
  | [] => by simp [displayItems]
  | v :: rest => by
    simpa [displayItems] using ⟨encodable_display v, encodable_displayItems rest⟩
  termination_by structural items => items

theorem encodable_displayFields : (fields : List (Text × Json)) →
    ∀ part ∈ displayFields fields, Encodable part
  | [] => by simp [displayFields]
  | (k, v) :: rest => by
    simpa [displayFields] using ⟨encodable_display v, encodable_displayFields rest⟩
  termination_by structural fields => fields

end

end Json

attribute [simp] Json.encodable_display

/-! ### Faults -/

@[simp] lemma Defect.encodable_message (d : Defect) : Encodable d.message := by
  cases d <;> simp [Defect.message]

@[simp] lemma Opening.encodable_text (opening : Opening) : Encodable opening.text := by
  simp [Opening.text]

@[simp] lemma StructuralFault.encodable_message (fault : StructuralFault) :
    Encodable fault.message := by
  cases fault <;> simp [StructuralFault.message]

lemma SchemaFault.encodable_wrongKind {kind : ValueKind} (known : kind.isKnown = true) (slot : Text)
    (value : Json) : Encodable (wrongKind slot kind value).message := by
  have hkind : Encodable kind.name := by
    cases kind with
    | other name => simp [ValueKind.isKnown] at known
    | _ => simp [ValueKind.name]
  simp [message, hkind]

@[simp] lemma Fault.message_schema (fault : SchemaFault) : (schema fault).message = fault.message := rfl

@[simp] lemma Fault.message_data (fault : DataFault) : (data fault).message = fault.message := rfl

@[simp] lemma Fault.message_defect (d : Defect) : (Fault.defect d).message = d.message := rfl

/-- A computation whose faults have messages that can be written. -/
abbrev Tells {α : Type} (x : Except Fault α) : Prop :=
  Ends (fun fault => Encodable fault.message) (fun _ => True) x

/-- The same of a reader of stored records. -/
abbrev TellsShape {α : Type} (x : Except SchemaFault α) : Prop :=
  Ends (fun fault => Encodable fault.message) (fun _ => True) x

lemma Audio.ofJson_tells (value : Json) : TellsShape (Audio.ofJson value) := by
  have hnumber : ∀ fields key, TellsShape (number fields key) := by
    intro fields key
    unfold number
    split <;> simp [SchemaFault.message]
  unfold ofJson
  split
  · split
    · refine (hnumber _ "pan").bind fun pan _ => (hnumber _ "pitch").bind fun pitch _ => ?_
      exact (hnumber _ "volume").bind fun volume _ => trivial
    · simp [SchemaFault.message]
  · simp [SchemaFault.message]

lemma MoveStep.ofJson_tells (value : Json) : TellsShape (MoveStep.ofJson value) := by
  have hparameters : ∀ stored, TellsShape (parametersOf stored) := by
    intro stored
    unfold parametersOf
    split_ifs
    · trivial
    · split <;> simp [SchemaFault.message]
  have hindent : ∀ stored, TellsShape (indentOf stored) := by
    intro stored
    unfold indentOf
    split <;> simp [SchemaFault.message]
  unfold ofJson
  split
  · split
    · exact (hparameters _).bind fun parameters _ => (hindent _).bind fun indent _ => trivial
    · simp [SchemaFault.message]
  · simp [SchemaFault.message]

lemma MoveRoute.ofJson_tells (value : Json) : TellsShape (MoveRoute.ofJson value) := by
  have hflag : ∀ fields key, TellsShape (flag fields key) := by
    intro fields key
    unfold flag
    split <;> simp [SchemaFault.message]
  unfold ofJson
  split
  · split
    · refine (hflag _ "repeat").bind fun _ _ => (hflag _ "skippable").bind fun _ _ => ?_
      refine (hflag _ "wait").bind fun _ _ => ?_
      exact (ends_mapM fun step _ => MoveStep.ofJson_tells step).bind fun _ _ => trivial
    · simp [SchemaFault.message]
  · simp [SchemaFault.message]

lemma Row.ofJson_tells (value : Json) : TellsShape (Row.ofJson value) := by
  unfold ofJson
  split
  · split
    · split
      · split_ifs
        · simp [SchemaFault.message]
        · split <;> simp [SchemaFault.message]
      · simp [SchemaFault.message]
    · simp [SchemaFault.message]
  · simp [SchemaFault.message]

/-! ### Reading operands -/

/-- Whether a text holds no surrogate. -/
def Text.isEncodable (t : Text) : Bool := t.all fun c => !c.isSurrogate

lemma Text.isEncodable_eq_true {t : Text} : t.isEncodable = true ↔ Encodable t := by
  simp [isEncodable, Encodable]

mutual

/-- Whether the names in a slot can be written. -/
def Slot.isEncodable : Slot → Bool
  | .plain name .. => name.isEncodable
  | .flag name => name.isEncodable
  | .reference name .. => name.isEncodable
  | .member name _ => name.isEncodable
  | .tagged name cases => name.isEncodable && Case.areEncodable cases
  termination_by structural slot => slot

def Case.areEncodable : List Case → Bool
  | [] => true
  | .mk _ _ slots :: rest => Slot.areEncodable slots && Case.areEncodable rest
  termination_by structural cases => cases

/-- Whether the names in slots can be written. -/
def Slot.areEncodable : List Slot → Bool
  | [] => true
  | slot :: rest => slot.isEncodable && Slot.areEncodable rest
  termination_by structural slots => slots

end

lemma Catalog.encodable {variant : Variant} {kind : CommandKind} (h : kind ∈ kinds variant) :
    Slot.areEncodable kind.layout = true := by
  have hall : (kinds variant).all (fun kind => Slot.areEncodable kind.layout) = true := by
    cases variant <;> decide +kernel
  exact List.all_eq_true.1 hall kind h

lemma readBinary_tells {name : Text} (hname : Encodable name) (value : Json) :
    Tells (readBinary name value) := by
  unfold readBinary
  split
  · split_ifs <;> simp [DataFault.message, hname]
  · simp [DataFault.message, hname]

lemma ValueKind.check_tells (kind : ValueKind) (slot : Text) (value : Json) :
    Tells (kind.check slot value) := by
  cases kind with
  | other name => simp [check]
  | _ =>
    simp only [check]
    split_ifs
    · trivial
    · exact SchemaFault.encodable_wrongKind rfl slot value

lemma ValueKind.read_tells (kind : ValueKind) {slot : Text} (hslot : Encodable slot)
    (value : Json) : Tells (kind.read slot value) := by
  refine (kind.check_tells slot value).bind fun _ _ => ?_
  cases kind with
  | intBool => exact (readBinary_tells hslot value).bind fun _ _ => trivial
  | audio =>
    have h := Audio.ofJson_tells value
    cases haudio : Audio.ofJson value with
    | ok a => trivial
    | error fault => simpa [haudio] using h
  | moveRoute =>
    have h := MoveRoute.ofJson_tells value
    cases hroute : MoveRoute.ofJson value with
    | ok r => trivial
    | error fault => simpa [hroute] using h
  | _ => trivial

namespace Operands

lemma Cursor.take_tells (cursor : Cursor) (slot : Text) : Tells (cursor.take slot) := by
  unfold Cursor.take
  split <;> simp [SchemaFault.message]

lemma Cursor.takeInt_tells (cursor : Cursor) (slot : Text) : Tells (cursor.takeInt slot) := by
  refine (cursor.take_tells slot).bind ?_
  rintro ⟨value, after⟩ -
  cases value with
  | int n => trivial
  | _ => exact SchemaFault.encodable_wrongKind rfl slot _

mutual

theorem decodeSlot_tells : (slot : Slot) → (cursor : Cursor) → slot.isEncodable = true →
    Tells (decodeSlot slot cursor)
  | .plain name kind isOptional, cursor, h => by
    rw [Slot.isEncodable, isEncodable_eq_true] at h
    simp only [decodeSlot, decodePlain]
    split_ifs
    · trivial
    · refine (cursor.take_tells name).bind fun taken _ => ?_
      exact (kind.read_tells h taken.1).bind fun _ _ => trivial
  | .flag name, cursor, h => by
    rw [Slot.isEncodable, isEncodable_eq_true] at h
    rw [decodeSlot, decodeFlag]
    refine (cursor.takeInt_tells name).bind fun taken _ => ?_
    exact (readBinary_tells h _).bind fun _ _ => trivial
  | .reference name flag kind, cursor, h => by
    simp only [decodeSlot, decodeReference]
    split
    · simp
    · refine (cursor.take_tells name).bind fun taken _ => ?_
      exact (ValueKind.check_tells _ name taken.1).bind fun _ _ => trivial
  | .member name members, cursor, h => by
    rw [Slot.isEncodable, isEncodable_eq_true] at h
    rw [decodeSlot, decodeMember]
    refine (cursor.takeInt_tells name).bind fun taken _ => ?_
    simp only
    split
    · trivial
    · have hmembers : ∀ list : List Int, Encodable (Text.join ", " (list.map Text.ofInt)) :=
        fun list => encodable_join (encodable_ofString _) (by simp)
      simp [DataFault.message, h, hmembers]
  | .tagged name cases, cursor, h => by
    rw [Slot.isEncodable, Bool.and_eq_true, isEncodable_eq_true] at h
    rw [decodeSlot]
    refine (cursor.takeInt_tells name).bind fun taken _ => ?_
    exact decodeCase_tells cases taken.1 taken.2 h.1 h.2
  termination_by structural slot => slot

theorem decodeCase_tells : (cases : List Case) → {name : Text} → (n : Int) → (cursor : Cursor) →
    Encodable name → Case.areEncodable cases = true → Tells (decodeCase cases name n cursor)
  | [], name, n, cursor, hname, _ => by
    simp [decodeCase, DataFault.message, hname]
  | .mk discriminant tag slots :: rest, name, n, cursor, hname, h => by
    rw [Case.areEncodable, Bool.and_eq_true] at h
    rw [decodeCase]
    split_ifs
    · exact (decodeSlots_tells slots [] cursor h.1).bind fun _ _ => trivial
    · exact decodeCase_tells rest n cursor hname h.2
  termination_by structural cases => cases

theorem decodeSlots_tells : (slots : List Slot) → (earlier : Operands) → (cursor : Cursor) →
    Slot.areEncodable slots = true → Tells (decodeSlots slots earlier cursor)
  | [], earlier, cursor, _ => trivial
  | slot :: rest, earlier, cursor, h => by
    rw [Slot.areEncodable, Bool.and_eq_true] at h
    rw [decodeSlots]
    refine (decodeSlot_tells slot cursor h.1).bind fun result _ => ?_
    exact decodeSlots_tells rest _ _ h.2
  termination_by structural slots => slots

end

/-- What is wrong with the parameters of a command can be written down. -/
theorem decode_tells {layout : Layout} (h : Slot.areEncodable layout = true)
    (parameters : List Json) : Tells (decode layout parameters) := by
  refine (decodeSlots_tells layout [] _ h).bind fun result _ => ?_
  simp only
  split_ifs <;> simp [SchemaFault.message]

end Operands

end EventScript
