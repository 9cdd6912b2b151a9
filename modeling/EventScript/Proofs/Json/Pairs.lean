import EventScript.Json.Basic
import Mathlib

/-! Pairs under keys: what a key leads to, and which keys a list has to which pairs were added one
after another. It holds each of them once. -/
namespace EventScript

section Lookup

variable {α β : Type} [BEq α] [LawfulBEq α]

lemma mem_of_lookup {key : α} {value : β} {pairs : List (α × β)}
    (h : pairs.lookup key = some value) : (key, value) ∈ pairs := by
  obtain ⟨before, after, rfl, -⟩ := List.lookup_eq_some_iff.1 h
  simp

/-- A key that occurs once leads to the value it stands with. -/
lemma lookup_of_mem {pairs : List (α × β)} (distinct : (pairs.map Prod.fst).Nodup) {key : α}
    {value : β} (h : (key, value) ∈ pairs) : pairs.lookup key = some value := by
  induction pairs with
  | nil => cases h
  | cons pair pairs ih =>
    obtain ⟨first, other⟩ := pair
    rw [List.map_cons, List.nodup_cons] at distinct
    rcases List.mem_cons.1 h with hfirst | hrest
    · obtain ⟨rfl, rfl⟩ := Prod.mk.inj hfirst
      rw [List.lookup_cons_self]
    · have hne : key ≠ first := by
        rintro rfl
        exact distinct.1 (List.mem_map.2 ⟨_, hrest, rfl⟩)
      rw [List.lookup_cons, beq_eq_false_iff_ne.2 hne]
      exact ih distinct.2 hrest

variable [DecidableEq α]

lemma lookup_pair (key other : α) (value : β) (pairs : List (α × β)) :
    ((key, value) :: pairs).lookup other =
      if other = key then some value else pairs.lookup other := by
  by_cases h : other = key
  · simp [h]
  · have hne : (other == key) = false := by simpa using h
    simp [List.lookup, hne, h]

lemma lookup_insertPair (key other : α) (value : β) (pairs : List (α × β)) :
    (insertPair key value pairs).lookup other =
      if other = key then some value else pairs.lookup other := by
  induction pairs with
  | nil => simp [insertPair, lookup_pair]
  | cons pair pairs ih =>
    obtain ⟨k, v⟩ := pair
    by_cases hk : k = key
    · subst hk
      by_cases h : other = k <;> simp [insertPair, lookup_pair, h]
    · by_cases hother : other = k
      · subst hother
        simp [insertPair, hk]
      · simp [insertPair, hk, lookup_pair, hother, ih]

end Lookup

section Keys

variable {α β : Type} [DecidableEq α] {key : α} {value : β} {pairs : List (α × β)}

/-- A new key comes last. -/
lemma insertPair_of_not_mem (h : key ∉ pairs.map Prod.fst) :
    insertPair key value pairs = pairs ++ [(key, value)] := by
  induction pairs with
  | nil => rfl
  | cons pair pairs ih =>
    rw [List.map_cons, List.mem_cons, not_or] at h
    rw [insertPair, if_neg (Ne.symm h.1), ih h.2, List.cons_append]

/-- A key that is there already keeps its place. -/
lemma map_fst_insertPair_of_mem (h : key ∈ pairs.map Prod.fst) :
    (insertPair key value pairs).map Prod.fst = pairs.map Prod.fst := by
  induction pairs with
  | nil => cases h
  | cons pair pairs ih =>
    rw [insertPair]
    split_ifs with hfirst
    · rfl
    · have hrest : key ∈ pairs.map Prod.fst :=
        (List.mem_cons.1 h).resolve_left (Ne.symm hfirst)
      rw [List.map_cons, List.map_cons, ih hrest]

lemma mem_of_mem_insertPair {pair : α × β} (h : pair ∈ insertPair key value pairs) :
    pair = (key, value) ∨ pair ∈ pairs := by
  induction pairs with
  | nil => exact .inl (List.mem_singleton.1 h)
  | cons first pairs ih =>
    rw [insertPair] at h
    split_ifs at h with hfirst
    · rw [hfirst] at h
      exact (List.mem_cons.1 h).imp id (List.mem_cons_of_mem _)
    · rcases List.mem_cons.1 h with rfl | h
      · exact .inr List.mem_cons_self
      · exact (ih h).imp id (List.mem_cons_of_mem _)

lemma nodup_insertPair (distinct : (pairs.map Prod.fst).Nodup) :
    ((insertPair key value pairs).map Prod.fst).Nodup := by
  by_cases h : key ∈ pairs.map Prod.fst
  · rwa [map_fst_insertPair_of_mem h]
  · rw [insertPair_of_not_mem h, List.map_append, List.map_singleton]
    exact distinct.append (List.nodup_singleton key) (by simpa using h)

lemma nodup_collectPairs (pairs : List (α × β)) : ((collectPairs pairs).map Prod.fst).Nodup :=
  List.foldlRecOn (motive := fun collected : List (α × β) => (collected.map Prod.fst).Nodup) pairs _
    List.nodup_nil fun _ distinct _ _ => nodup_insertPair distinct

lemma mem_of_mem_collectPairs {pair : α × β} (h : pair ∈ collectPairs pairs) : pair ∈ pairs := by
  have hall : ∀ pair ∈ collectPairs pairs, pair ∈ pairs := by
    refine List.foldlRecOn (motive := fun collected : List (α × β) => ∀ pair ∈ collected,
      pair ∈ pairs) pairs _ (by simp) ?_
    intro collected ih first hfirst pair hpair
    rcases mem_of_mem_insertPair hpair with rfl | hold
    · exact hfirst
    · exact ih pair hold
  exact hall pair h

/-- Pairs whose keys are distinct are collected as they are. -/
lemma collectPairs_of_nodup (distinct : (pairs.map Prod.fst).Nodup) :
    collectPairs pairs = pairs := by
  have hall : ∀ collected : List (α × β), ((collected ++ pairs).map Prod.fst).Nodup →
      pairs.foldl (fun collected pair => insertPair pair.1 pair.2 collected) collected =
        collected ++ pairs := by
    clear distinct
    induction pairs with
    | nil => simp
    | cons pair pairs ih =>
      intro collected distinct
      have hnew : pair.1 ∉ collected.map Prod.fst := by
        rw [List.map_append, List.map_cons] at distinct
        exact fun h => (List.disjoint_of_nodup_append distinct) h List.mem_cons_self
      rw [List.foldl_cons, insertPair_of_not_mem hnew, ih, List.append_assoc, List.singleton_append]
      rwa [List.append_assoc, List.singleton_append]
  simpa [collectPairs] using hall [] (by simpa using distinct)

end Keys

end EventScript
