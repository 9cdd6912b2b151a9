import EventScript.Proofs.Command.Access
import EventScript.Proofs.Command.Catalog

/-! The later editor generation extends the earlier one. Apart from plugin commands it knows the
same codes, and parameters that the earlier layouts accept are accepted by the later ones. -/
namespace EventScript

namespace Catalog

/-- The codes of plugin commands, which only one of the generations knows. -/
def pluginCodes : List Int := [356, 357, 657]

/-- What the later generation makes of a command of the earlier one. -/
inductive Later : CommandKind → CommandKind → Prop
  | same {kind : CommandKind} (h : kind ∈ commonKinds) : Later kind kind
  | showText : Later (showText []) (showText [.plain "speaker_name" .str true])
  | movePicture : Later (movePicture []) (movePicture [.plain "easing_type" .int true])
  | battleProcessing : Later (battleProcessing []) (battleProcessing ["active_troop"])

/-- More words get the numbers behind those of the first ones. -/
lemma members_append (words more : List String) :
    ∃ rest, members (words ++ more) = members words ++ rest := by
  simp only [members, List.zipIdx_append, List.map_append]
  exact ⟨_, rfl⟩

variable {kind later : CommandKind}

lemma Later.name_eq (h : Later kind later) : later.name = kind.name := by
  cases h <;> rfl

lemma Later.role_eq (h : Later kind later) : later.role = kind.role := by
  cases h <;> rfl

/-- Only layouts of commands that open no block differ. -/
lemma Later.eq_of_role (h : Later kind later) (hrole : kind.role ≠ .leaf) : later = kind := by
  cases h with
  | same => rfl
  | _ => exact absurd rfl hrole

/-- A code that is not a plugin command's is unknown to both generations, or known to both. -/
theorem lookup_later {code : Int} (h : code ∉ pluginCodes) :
    lookup .mv code = none ∧ lookup .mz code = none ∨
      ∃ kind later, lookup .mv code = some kind ∧ lookup .mz code = some later ∧
        Later kind later := by
  simp only [lookup, kinds, List.find?_append]
  cases hcommon : commonKinds.find? fun kind => decide (kind.code = code) with
  | some kind => exact .inr ⟨kind, kind, rfl, rfl, .same (List.mem_of_find?_eq_some hcommon)⟩
  | none =>
    simp only [pluginCodes, List.mem_cons, List.not_mem_nil, or_false, not_or] at h
    by_cases htext : code = 101
    · exact .inr ⟨_, _, by subst htext; rfl, by subst htext; rfl, .showText⟩
    by_cases hpicture : code = 232
    · exact .inr ⟨_, _, by subst hpicture; rfl, by subst hpicture; rfl, .movePicture⟩
    by_cases hbattle : code = 301
    · exact .inr ⟨_, _, by subst hbattle; rfl, by subst hbattle; rfl, .battleProcessing⟩
    simp [variantKinds, Catalog.showText, Catalog.movePicture, Catalog.battleProcessing,
      Ne.symm htext, Ne.symm hpicture, Ne.symm hbattle, Ne.symm h.1, Ne.symm h.2.1, Ne.symm h.2.2]

/-- The rows that may continue a command are the same in both generations. -/
lemma lookup_later_of_continuation {code lead : Int} (h : lookup .mv code = some kind)
    (hrole : kind.role = .continuation lead) : lookup .mz code = some kind := by
  have hcode : code ∉ pluginCodes := by
    intro hcode
    simp only [pluginCodes, List.mem_cons, List.not_mem_nil, or_false] at hcode
    rcases hcode with rfl | rfl | rfl
    · obtain rfl := Option.some.inj h
      cases hrole
    · cases h
    · cases h
  rcases lookup_later hcode with ⟨hnone, -⟩ | ⟨earlier, later, hearlier, hlater, hkinds⟩
  · simp [h] at hnone
  · obtain rfl := Option.some.inj (h.symm.trans hearlier)
    rw [hlater, hkinds.eq_of_role (by simp [hrole])]

end Catalog

namespace Operands

variable {layout : Layout} {parameters : List Json} {operands : Operands}

lemma decodeSlots_append (slots more : List Slot) (earlier : Operands) (cursor : Cursor) :
    decodeSlots (slots ++ more) earlier cursor =
      decodeSlots slots earlier cursor >>= fun read => decodeSlots more read.1 read.2 := by
  induction slots generalizing earlier cursor with
  | nil => rfl
  | cons slot slots ih =>
    rw [List.cons_append, decodeSlots, decodeSlots]
    cases decodeSlot slot cursor with
    | error fault => rfl
    | ok read => simp only [ok_bind, ih]

/-- An optional slot behind the last parameter is null. -/
lemma decode_optional (h : decode layout parameters = .ok operands) (name : Text)
    (kind : ValueKind) :
    decode (layout ++ [.plain name kind true]) parameters =
      .ok (insertPair name (.value .null) operands) := by
  obtain ⟨⟨read, cursor⟩, hslots, h⟩ := bind_eq_ok.1 h
  simp only at h
  split_ifs at h with hrest
  obtain rfl := Except.ok.inj h
  have hrest : cursor.rest = [] := by simpa using hrest
  rw [decode, decodeSlots_append, hslots]
  simp [decodeSlots, decodeSlot, decodePlain, hrest]

/-- More words for a slot do not change how the others are read. -/
lemma decode_members {name : Text} {members more : List (Int × Text)}
    (h : decode (.member name members :: layout) parameters = .ok operands) :
    decode (.member name (members ++ more) :: layout) parameters = .ok operands := by
  obtain ⟨⟨read, last⟩, hslots, hdone⟩ := bind_eq_ok.1 h
  rw [decodeSlots] at hslots
  obtain ⟨⟨operand, after⟩, hslot, hslots⟩ := bind_eq_ok.1 hslots
  obtain ⟨⟨n, cursor⟩, hn, hmember⟩ := bind_eq_ok.1 hslot
  have hmember' : decodeSlot (.member name (members ++ more)) ⟨parameters.length, parameters, []⟩ =
      .ok (operand, after) := by
    rw [decodeSlot, decodeMember, hn, ok_bind]
    simp only at hmember
    split at hmember
    · rename_i word hword
      simpa [List.lookup_append, hword] using hmember
    · cases hmember
  have hslots' : decodeSlots (.member name (members ++ more) :: layout) []
      ⟨parameters.length, parameters, []⟩ = .ok (read, last) := by
    rw [decodeSlots, hmember', ok_bind]
    exact hslots
  rw [decode, hslots', ok_bind]
  exact hdone

lemma decode_battleProcessing {extra : List String}
    (h : decode (Catalog.battleProcessing []).layout parameters = .ok operands) :
    decode (Catalog.battleProcessing extra).layout parameters = .ok operands := by
  obtain ⟨more, hmore⟩ :=
    Catalog.members_append ["constant", "variable", "random_encounter"] extra
  simp only [Catalog.battleProcessing, hmore, List.append_nil] at h ⊢
  exact decode_members h

/-- Names that no slot has stand for nothing. -/
lemma value?_eq_none_of_decode (h : decode layout parameters = .ok operands) {name : String}
    (hname : Slot.named? (Text.ofString name) layout = none) : operands.value? name = none := by
  obtain ⟨before, after, hslots⟩ := decoded_of_decode h
  have hlookup := lookup_of_decodeSlots hslots (Text.ofString name)
  rw [hname] at hlookup
  simp [value?, hlookup]

section InsertPair

variable {key name : String} (operand : Operand)

lemma get_insertPair (h : name ≠ key) :
    get (insertPair (Text.ofString key) operand operands) name = operands.get name := by
  have hne : Text.ofString name ≠ Text.ofString key := by simpa using h
  simp only [get, lookup_insertPair, if_neg hne]

lemma value_insertPair (h : name ≠ key) :
    value (insertPair (Text.ofString key) operand operands) name = operands.value name := by
  rw [value, value, get_insertPair operand h]

lemma amount_insertPair (h : name ≠ key) :
    amount (insertPair (Text.ofString key) operand operands) name = operands.amount name := by
  rw [amount, amount, get_insertPair operand h]

lemma value?_insertPair (h : name ≠ key) :
    value? (insertPair (Text.ofString key) operand operands) name = operands.value? name := by
  have hne : Text.ofString name ≠ Text.ofString key := by simpa using h
  simp only [value?, lookup_insertPair, if_neg hne]

lemma value?_insertPair_self (v : Json) :
    value? (insertPair (Text.ofString key) (.value v) operands) key = some v := by
  simp [value?, lookup_insertPair]

end InsertPair

end Operands

end EventScript
