import EventScript.Names.Table
import EventScript.Proofs.Command.Decoding
import EventScript.Proofs.Text.Word

/-! The names that a table gives: those that were accepted into it and the mechanical ones are all
names of the script language. -/
namespace EventScript

open Text

lemma Category.isName_fallback (category : Category) (id : Int) :
    (category.fallback id).isName = true := by
  have hstems : ∀ category : Category, isWord category.stem = true := by
    intro category
    cases category <;> decide +kernel
  have hstem := isName_of_isWord (hstems category)
  have hdigits : ∀ c ∈ Text.ofNat id.natAbs, c.isIdentifierContinue = true := by
    intro c hc
    obtain ⟨hlow, hhigh⟩ := digit_of_mem_ofNat hc
    exact CodePoint.isIdentifierContinue_of_digit hlow hhigh
  obtain ⟨separator, hfallback, hunderscore, hseparator⟩ : ∃ separator : Text,
      category.fallback id = ofString category.stem ++ (separator ++ Text.ofNat id.natAbs) ∧
        CodePoint.ofChar '_' ∈ separator ∧ ∀ c ∈ separator, c.isIdentifierContinue = true := by
    by_cases hid : id < 0
    · exact ⟨ofString "_minus_", by rw [fallback, if_pos hid, List.append_assoc], by decide,
        by decide +kernel⟩
    · exact ⟨ofString "_", by rw [fallback, if_neg hid, List.append_assoc], by decide,
        by decide +kernel⟩
  rw [hfallback]
  refine isName_of_underscore (isIdentifier_append (Bool.and_eq_true_iff.1 hstem).1 ?_) ?_
  · intro c hc
    rcases List.mem_append.1 hc with hc | hc
    · exact hseparator c hc
    · exact hdigits c hc
  · exact List.mem_append_right _ (List.mem_append_left _ hunderscore)

namespace NameTable

/-- A table that gives every entry a name of the script language. -/
def Valid (table : NameTable) : Prop :=
  ∀ category id, (table.name category id).isName = true

/-- Chosen names that are all names of the script language. -/
def AllNames (names : List (Int × Text)) : Prop :=
  ∀ id name, names.lookup id = some name → name.isName = true

variable {α : Type} {format : Format α}

lemma addName_eq_ok {key : Text} {names more : List (Int × Text)} {field : Text × α}
    (h : addName format key names field = .ok more) :
    ∃ n name, field.1.toInt? = some n ∧ format.text? field.2 = some name ∧ name.isName = true ∧
      more = insertPair n name names := by
  obtain ⟨id, value⟩ := field
  simp only [addName] at h
  split at h
  · cases h
  · rename_i n hid
    split at h
    · rename_i name hname
      obtain ⟨htext, hisName⟩ := Option.filter_eq_some_iff.1 hname
      exact ⟨n, name, hid, htext, hisName, (Except.ok.inj h).symm⟩
    · cases h

lemma addCategory_eq_ok {table more : NameTable} {field : Text × α}
    (h : addCategory format table field = .ok more) :
    ∃ category fields names, categoryOf? field.1 = some category ∧
      format.fields? field.2 = some fields ∧
      fields.foldlM (addName format field.1) [] = .ok names ∧
      more = ⟨insertPair category names table.entries⟩ := by
  obtain ⟨key, value⟩ := field
  simp only [addCategory] at h
  split at h
  · cases h
  · rename_i category hcategory
    split at h
    · rename_i fields hfields
      obtain ⟨names, hnames, h⟩ := bind_eq_ok.1 h
      exact ⟨category, fields, names, hcategory, hfields, hnames, (Except.ok.inj h).symm⟩
    · cases h

lemma allNames_addName {key : Text} {names more : List (Int × Text)} {field : Text × α}
    (hnames : AllNames names) (h : addName format key names field = .ok more) :
    AllNames more := by
  obtain ⟨n, name, -, -, hname, rfl⟩ := addName_eq_ok h
  intro other chosen hchosen
  rw [lookup_insertPair] at hchosen
  split_ifs at hchosen with hother
  · obtain rfl := Option.some.inj hchosen
    exact hname
  · exact hnames other chosen hchosen

/-- A table in which every chosen name is a name of the script language. -/
def Checked (table : NameTable) : Prop :=
  ∀ category names, table.entries.lookup category = some names → AllNames names

lemma checked_addCategory {table more : NameTable} {field : Text × α} (hchecked : table.Checked)
    (h : addCategory format table field = .ok more) : more.Checked := by
  obtain ⟨category, fields, names, -, -, hnames, rfl⟩ := addCategory_eq_ok h
  have hall : AllNames names :=
    invariant_foldlM (fun _ _ _ => allNames_addName) (by simp [AllNames]) hnames
  intro other chosen hchosen
  rw [lookup_insertPair] at hchosen
  split_ifs at hchosen with hother
  · obtain rfl := Option.some.inj hchosen
    exact hall
  · exact hchecked other chosen hchosen

/-- An accepted table names every entry validly, whatever it was stored in. -/
lemma valid_of_ofStored {value : α} {table : NameTable} (h : ofStored format value = .ok table) :
    table.Valid := by
  have hchecked : table.Checked := by
    unfold ofStored at h
    split at h
    · exact invariant_foldlM (fun _ _ _ => checked_addCategory) (by simp [Checked]) h
    · cases h
  intro category id
  unfold name chosen?
  cases hnames : table.entries.lookup category with
  | none => exact category.isName_fallback id
  | some names =>
    cases hname : names.lookup id with
    | none => simpa [hname] using category.isName_fallback id
    | some chosen => simpa [hname] using hchecked category names hnames id chosen hname

lemma valid_of_ofJson {value : Json} {table : NameTable} (h : ofJson value = .ok table) :
    table.Valid := valid_of_ofStored h

end NameTable

end EventScript
