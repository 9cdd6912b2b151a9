import EventScript.Proofs.Names.Table

/-! Which entry of a stored table gives a name. Within an object of names the last entry for an id
counts. Of several objects for one category, spelled with dashes or not, only the last one is kept,
so that an entry of an earlier one is lost even if the last one says nothing about its id. -/
namespace EventScript

/-- The last of the values that some pairs of a list stand for. -/
lemma getLast?_filterMap_cons {α β : Type} (f : α → Option β) (a : α) (list : List α) :
    ((a :: list).filterMap f).getLast? = ((list.filterMap f).getLast?).or (f a) := by
  cases h : f a with
  | none => simp [h]
  | some b => simp [h, List.getLast?_cons, Option.or_some]

namespace NameTable

/-- The name that an entry of an object of names gives to an id. -/
def entryName? (id : Int) : Text × Json → Option Text
  | (key, .str name) => if key.toInt? = some id then some name else none
  | _ => none

/-- The names that an object gives to an id, in order. -/
def namesFor (id : Int) : Json → List Text
  | .obj fields => fields.filterMap (entryName? id)
  | _ => []

/-- The value in a stored table that is for a category. -/
def categoryValue? (category : Category) : Text × Json → Option Json
  | (key, value) => if categoryOf? key = some category then some value else none

/-- The values in a stored table that are for a category, in order. -/
def objectsFor (category : Category) : Json → List Json
  | .obj fields => fields.filterMap (categoryValue? category)
  | _ => []

/-- The name that the last entry of a stored table gives, over all objects for the category. -/
def lastName? (payload : Json) (category : Category) (id : Int) : Option Text :=
  ((objectsFor category payload).flatMap (namesFor id)).getLast?

/-! ### What reading a table keeps -/

lemma text?_json {value : Json} {name : Text} :
    Format.json.text? value = some name ↔ value = .str name := by
  cases value <;> simp [Format.json]

lemma fields?_json {value : Json} {fields : List (Text × Json)} :
    Format.json.fields? value = some fields ↔ value = .obj fields := by
  cases value <;> simp [Format.json]

lemma lookup_addName {key : Text} {names more : List (Int × Text)} {field : Text × Json}
    (h : addName Format.json key names field = .ok more) (id : Int) :
    more.lookup id = (entryName? id field).or (names.lookup id) := by
  obtain ⟨n, name, hn, hname, -, rfl⟩ := addName_eq_ok h
  obtain ⟨text, value⟩ := field
  obtain rfl : value = .str name := text?_json.1 hname
  have hn : text.toInt? = some n := hn
  rw [lookup_insertPair, entryName?, hn]
  by_cases hid : n = id
  · simp [hid]
  · simp [hid, Ne.symm hid]

/-- The last entry for an id counts; without one the id keeps the name it had. -/
lemma lookup_foldlM_addName {key : Text} {fields : List (Text × Json)}
    {names more : List (Int × Text)} (h : fields.foldlM (addName Format.json key) names = .ok more)
    (id : Int) : more.lookup id = ((namesFor id (.obj fields)).getLast?).or (names.lookup id) := by
  induction fields generalizing names with
  | nil =>
    obtain rfl := Except.ok.inj h
    rfl
  | cons field fields ih =>
    rw [List.foldlM_cons] at h
    obtain ⟨next, hnext, h⟩ := bind_eq_ok.1 h
    have hrest := ih h
    rw [namesFor] at hrest ⊢
    rw [hrest, lookup_addName hnext, getLast?_filterMap_cons, Option.or_assoc]

lemma chosen?_addCategory {table more : NameTable} {field : Text × Json}
    (h : addCategory Format.json table field = .ok more) (category : Category) (id : Int) :
    more.chosen? category id = match categoryValue? category field with
      | some object => (namesFor id object).getLast?
      | none => table.chosen? category id := by
  obtain ⟨kept, fields, names, hcategory, hfields, hnames, rfl⟩ := addCategory_eq_ok h
  obtain ⟨key, value⟩ := field
  obtain rfl : value = .obj fields := fields?_json.1 hfields
  have hcategory : categoryOf? key = some kept := hcategory
  simp only [chosen?, categoryValue?, lookup_insertPair, hcategory, Option.some_inj]
  by_cases hkept : kept = category
  · have hlookup := lookup_foldlM_addName hnames id
    simpa [hkept] using hlookup
  · simp [hkept, Ne.symm hkept]

/-- The last object for a category counts, and no other one. -/
lemma chosen?_foldlM_addCategory {fields : List (Text × Json)} {table more : NameTable}
    (h : fields.foldlM (addCategory Format.json) table = .ok more) (category : Category) (id : Int) :
    more.chosen? category id = match (objectsFor category (.obj fields)).getLast? with
      | some object => (namesFor id object).getLast?
      | none => table.chosen? category id := by
  induction fields generalizing table with
  | nil =>
    obtain rfl := Except.ok.inj h
    rfl
  | cons field fields ih =>
    rw [List.foldlM_cons] at h
    obtain ⟨next, hnext, h⟩ := bind_eq_ok.1 h
    have hrest := ih h
    rw [objectsFor] at hrest ⊢
    rw [hrest, getLast?_filterMap_cons]
    cases (fields.filterMap (categoryValue? category)).getLast? with
    | none => exact chosen?_addCategory hnext category id
    | some object => rfl

lemma chosen?_of_ofJson {payload : Json} {table : NameTable} (h : ofJson payload = .ok table)
    (category : Category) (id : Int) :
    table.chosen? category id =
      (objectsFor category payload).getLast?.bind fun object => (namesFor id object).getLast? := by
  cases payload with
  | obj fields =>
    rw [chosen?_foldlM_addCategory h]
    cases (objectsFor category (.obj fields)).getLast? <;> rfl
  | _ => cases h

/-- The names of a list of objects end with those of the last object. -/
lemma lastName?_of_getLast? {payload : Json} {category : Category} {object : Json}
    (h : (objectsFor category payload).getLast? = some object) (id : Int) :
    ∃ earlier, lastName? payload category id = ((namesFor id object).getLast?).or earlier := by
  obtain ⟨before, hobjects⟩ := List.getLast?_eq_some_iff.1 h
  refine ⟨(before.flatMap (namesFor id)).getLast?, ?_⟩
  rw [lastName?, hobjects, List.flatMap_append, List.flatMap_singleton, List.getLast?_append]

/-- The name of an entry is the last one that the last object for its category gives to its id, and
else the mechanical one. It is the name that the last entry of the whole table gives, over all
objects for the category, if and only if that entry gives the mechanical name or the last object has
an entry for the id. -/
theorem name_of_ofJson {payload : Json} {table : NameTable} (h : ofJson payload = .ok table)
    (category : Category) (id : Int) :
    table.name category id =
      ((objectsFor category payload).getLast?.bind fun object =>
        (namesFor id object).getLast?).getD (category.fallback id) ∧
    (table.name category id = (lastName? payload category id).getD (category.fallback id) ↔
      ∀ name ∈ lastName? payload category id, name = category.fallback id ∨
        ∃ object ∈ (objectsFor category payload).getLast?, namesFor id object ≠ []) := by
  have hname : table.name category id =
      ((objectsFor category payload).getLast?.bind fun object =>
        (namesFor id object).getLast?).getD (category.fallback id) := by
    rw [name, chosen?_of_ofJson h]
  refine ⟨hname, ?_⟩
  rw [hname]
  cases hlast : (objectsFor category payload).getLast? with
  | none =>
    have hobjects := List.getLast?_eq_none_iff.1 hlast
    simp [lastName?, hobjects]
  | some object =>
    obtain ⟨earlier, hentry⟩ := lastName?_of_getLast? hlast id
    rw [hentry]
    cases hnames : (namesFor id object).getLast? with
    | some name =>
      have hne : namesFor id object ≠ [] := by
        rw [Ne, ← List.getLast?_eq_none_iff, hnames]
        simp
      simp [hnames, hne]
    | none =>
      have hnil := List.getLast?_eq_none_iff.1 hnames
      cases earlier with
      | none => simp [hnames]
      | some name => simpa [hnames, hnil] using eq_comm

/-- Common events under both spellings of their category, one id twice under the first. -/
def twoSpellings : Json :=
  .obj [("common_events", .obj [("1", .str "open_shop"), ("01", .str "open_stall")]),
    ("common-events", .obj [(" +2 ", .str "visit_inn")])]

lemma ofJson_twoSpellings :
    ofJson twoSpellings = .ok ⟨[(.commonEvents, [(2, "visit_inn")])]⟩ := rfl

theorem name_of_ofJson_twoSpellings :
    let table : NameTable := ⟨[(.commonEvents, [(2, "visit_inn")])]⟩
    ofJson twoSpellings = .ok table ∧
      table.name .commonEvents 2 = (lastName? twoSpellings .commonEvents 2).getD
        (Category.fallback .commonEvents 2) := by
  intro table
  refine ⟨ofJson_twoSpellings, (name_of_ofJson ofJson_twoSpellings .commonEvents 2).2.2 ?_⟩
  intro name _
  exact .inr ⟨.obj [(" +2 ", .str "visit_inn")], rfl, by decide⟩

/-- The names under the first spelling are lost: the last entry for the id is not honoured. -/
theorem ofJson_twoSpellings_loses : ∃ table, ofJson twoSpellings = .ok table ∧
    lastName? twoSpellings .commonEvents 1 = some (Text.ofString "open_stall") ∧
    table.name .commonEvents 1 = Text.ofString "common_event_1" :=
  ⟨_, ofJson_twoSpellings, by decide, by decide⟩

end NameTable

end EventScript
