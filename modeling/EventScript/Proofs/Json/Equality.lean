import EventScript.Json.Equality
import EventScript.Proofs.Json.Pairs

/-! Every value means the same as itself, as long as its objects hold each key once. -/
namespace EventScript

lemma Double.same_self (x : Double) : x.same x = true := by
  cases x <;> simp [same]

namespace Json

/-- The values whose objects, at any depth, hold each key once. -/
inductive Keyed : Json → Prop
  | null : Keyed .null
  | bool (b : Bool) : Keyed (.bool b)
  | int (n : Int) : Keyed (.int n)
  | float (x : Double) : Keyed (.float x)
  | str (t : Text) : Keyed (.str t)
  | arr {items : List Json} (h : ∀ v ∈ items, Keyed v) : Keyed (.arr items)
  | obj {fields : List (Text × Json)} (distinct : (fields.map Prod.fst).Nodup)
      (h : ∀ field ∈ fields, Keyed field.2) : Keyed (.obj fields)

lemma sameItems_self {items : List Json} (h : ∀ v ∈ items, v.same v = true) :
    sameItems items items = true := by
  induction items with
  | nil => rfl
  | cons v items ih =>
    rw [List.forall_mem_cons] at h
    rw [sameItems, h.1, ih h.2]
    rfl

/-- Fields that stand among others have their counterparts there. -/
lemma sameFields_of_lookup {fields others : List (Text × Json)}
    (h : ∀ field ∈ fields, others.lookup field.1 = some field.2 ∧ field.2.same field.2 = true) :
    sameFields fields others = true := by
  induction fields with
  | nil => rfl
  | cons field fields ih =>
    obtain ⟨key, v⟩ := field
    rw [List.forall_mem_cons] at h
    simp only [sameFields, h.1.1, h.1.2, ih h.2, Bool.and_self]

lemma Keyed.same_self {v : Json} (keyed : v.Keyed) : v.same v = true := by
  induction keyed with
  | null => rfl
  | bool b => simp [same, sameNumber, numeric?, Numeric.same]
  | int n => simp [same, sameNumber, numeric?, Numeric.same]
  | float x => simp [same, sameNumber, numeric?, Numeric.same, Double.same_self]
  | str t => simp [same]
  | arr _ ih =>
    rw [same]
    exact sameItems_self ih
  | obj distinct _ ih =>
    have hfields := sameFields_of_lookup fun field hfield =>
      ⟨lookup_of_mem distinct hfield, ih field hfield⟩
    simp [same, hfields]

/-- What stands under a key of an object, or null. -/
lemma Keyed.field {fields : List (Text × Json)} (keyed : (Json.obj fields).Keyed) (key : String) :
    (Json.field key fields).Keyed := by
  cases keyed with
  | obj _ h =>
    rw [Json.field]
    cases hlookup : fields.lookup (Text.ofString key) with
    | none => exact .null
    | some v =>
      obtain ⟨before, after, rfl, -⟩ := List.lookup_eq_some_iff.1 hlookup
      exact h (Text.ofString key, v) (by simp)

end Json

end EventScript
