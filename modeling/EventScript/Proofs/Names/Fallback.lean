import EventScript.Proofs.Names.Table
import EventScript.Proofs.Script.Template

/-! Mechanical names. The stems of the categories differ before either of them ends, so that no two
entries share a mechanical name. -/
namespace EventScript

namespace Category

/-- The mechanical names of a category, with a gap for the number. -/
def template (category : Category) : Template :=
  Template.words category.stem ++ (Template.words "_" ++ [.gap .entry])

lemma fallback_eq_fill (category : Category) (id : Int) :
    category.fallback id = category.template.fill [.int id] := by
  have hsign : Text.ofString "_minus_" = Text.ofString "_" ++ Text.ofString "minus_" := by decide
  simp only [template, Template.words, Template.fill_plain_append, fallback, List.append_assoc]
  by_cases hid : id < 0
  · simp only [hid, if_true, hsign, Template.fill, Gap.filled, Text.entryNumber, List.append_assoc,
      List.append_nil]
  · simp [hid, Template.fill, Gap.filled, Text.entryNumber]

lemma fits_template (category : Category) (id : Int) : category.template.Fits [.int id] := by
  rw [template, Template.words, Template.fits_plain_append]
  exact ⟨⟨id, rfl⟩, rfl⟩

lemma mem_all (category : Category) : category ∈ all := by
  cases category <;> decide

lemma readable_templates : Template.Readable all template := by
  constructor
  · simp only [all, List.map, template, stem]
    repeat rw [Template.words_ofList]
    decide +kernel
  · intro s hs
    obtain ⟨category, -, rfl⟩ := List.mem_map.1 hs
    simp [template, Template.words, Template.isLegible, Template.follows]

/-- No two entries share a mechanical name. -/
lemma fallback_injective :
    Function.Injective fun entry : Category × Int => entry.1.fallback entry.2 := by
  rintro ⟨category, id⟩ ⟨other, otherId⟩ heq
  have htext : category.template.fill [.int id] ++ [] =
      other.template.fill [.int otherId] ++ [] := by
    rw [List.append_nil, List.append_nil, ← fallback_eq_fill, ← fallback_eq_fill]
    exact heq
  obtain ⟨rfl, hvalues, -⟩ := readable_templates.inj (mem_all _) (mem_all _) (fits_template _ _)
    (fits_template _ _) Json.Dialect.stops_nil Json.Dialect.stops_nil htext
  simpa using hvalues

end Category

namespace NameTable

@[simp] lemma name_empty (category : Category) (id : Int) :
    ({} : NameTable).name category id = category.fallback id := rfl

/-- Every name that an accepted table gives is an identifier and no keyword. Where nothing is
chosen, different entries have different names. -/
theorem name_identifies {payload : Json} {table : NameTable} (h : ofJson payload = .ok table) :
    (∀ category id, (table.name category id).isIdentifier = true ∧
      (table.name category id).isKeyword = false) ∧
    Function.Injective fun entry : Category × Int => ({} : NameTable).name entry.1 entry.2 := by
  constructor
  · intro category id
    simpa [Text.isName] using valid_of_ofJson h category id
  · simpa only [name_empty] using Category.fallback_injective

/-- A chosen name outside ASCII, beside the names of entries on both sides of zero. -/
theorem name_identifies_foreign :
    let payload : Json := .obj [("actors", .obj [("-1", .str "café")])]
    ∃ table, ofJson payload = .ok table ∧
      (table.name .actors (-1)).isIdentifier = true ∧
      (table.name .actors (-2)).isKeyword = false ∧
      ({} : NameTable).name .maps (-5) ≠ ({} : NameTable).name .maps 5 := by
  intro payload
  have h : ofJson payload = .ok ⟨[(.actors, [(-1, "café")])]⟩ := rfl
  obtain ⟨hnames, hinjective⟩ := name_identifies h
  refine ⟨_, h, (hnames .actors (-1)).1, (hnames .actors (-2)).2, ?_⟩
  have hdiffer : (Category.maps, (-5 : Int)) ≠ (Category.maps, 5) := by decide
  exact hinjective.ne hdiffer

end NameTable

end EventScript
