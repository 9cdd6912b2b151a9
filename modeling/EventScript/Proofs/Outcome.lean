import EventScript.Command.Fault
import Mathlib

/-! Results of computations that may fail: which failures can occur, and what holds of a result. -/
namespace EventScript

section Except

variable {ε α β : Type} {fails : ε → Prop} {post : α → Prop}

lemma bind_eq_ok {x : Except ε α} {f : α → Except ε β} {b : β} :
    (x >>= f) = .ok b ↔ ∃ a, x = .ok a ∧ f a = .ok b := by
  cases x with
  | error fault => simp [bind, Except.bind]
  | ok a => simp [bind, Except.bind]

lemma bind_eq_error {x : Except ε α} {f : α → Except ε β} {fault : ε} :
    (x >>= f) = .error fault ↔ x = .error fault ∨ ∃ a, x = .ok a ∧ f a = .error fault := by
  cases x with
  | error fault => simp [bind, Except.bind]
  | ok a => simp [bind, Except.bind]

@[simp] lemma ok_bind (a : α) (f : α → Except ε β) : (Except.ok a >>= f) = f a := rfl

@[simp] lemma pure_eq_ok (a : α) : (pure a : Except ε α) = .ok a := rfl

@[simp] lemma throw_eq_error (fault : ε) : (throw fault : Except ε α) = .error fault := rfl

@[simp] lemma mapError_eq_ok {η : Type} {x : Except ε α} {f : ε → η} {a : α} :
    x.mapError f = .ok a ↔ x = .ok a := by
  cases x <;> simp [Except.mapError]

@[simp] lemma mapError_eq_error {η : Type} {x : Except ε α} {f : ε → η} {fault : η} :
    x.mapError f = .error fault ↔ ∃ cause, x = .error cause ∧ f cause = fault := by
  cases x <;> simp [Except.mapError]

/-- A computation that fails only as `fails` allows and whose result satisfies `post`. -/
def Ends (fails : ε → Prop) (post : α → Prop) : Except ε α → Prop
  | .ok a => post a
  | .error fault => fails fault

@[simp] lemma ends_ok (a : α) : Ends fails post (.ok a) ↔ post a := Iff.rfl

@[simp] lemma ends_error (fault : ε) : Ends fails post (.error fault) ↔ fails fault := Iff.rfl

@[simp] lemma ends_bind {post : β → Prop} (x : Except ε α) (f : α → Except ε β) :
    Ends fails post (x >>= f) ↔ Ends fails (fun a => Ends fails post (f a)) x := by
  cases x <;> rfl

lemma Ends.mono {more : ε → Prop} {weaker : α → Prop} {x : Except ε α} (h : Ends fails post x)
    (hfails : ∀ fault, fails fault → more fault) (hpost : ∀ a, post a → weaker a) :
    Ends more weaker x := by
  cases x with
  | error fault => exact hfails fault h
  | ok a => exact hpost a h

/-- What holds of a result that was obtained. -/
lemma Ends.of_ok {x : Except ε α} {a : α} (h : Ends fails post x) (hx : x = .ok a) : post a := by
  subst hx
  exact h

lemma Ends.strengthen {stronger : α → Prop} {x : Except ε α} (h : Ends fails post x)
    (hpost : ∀ a, x = .ok a → stronger a) : Ends fails stronger x := by
  cases x with
  | error fault => exact h
  | ok a => exact hpost a rfl

lemma Ends.bind {post : β → Prop} {middle : α → Prop} {x : Except ε α} {f : α → Except ε β}
    (hx : Ends fails middle x) (hf : ∀ a, middle a → Ends fails post (f a)) :
    Ends fails post (x >>= f) :=
  (ends_bind x f).2 (hx.mono (fun _ h => h) hf)

lemma ends_mapM {post : β → Prop} {f : α → Except ε β} {list : List α}
    (h : ∀ a ∈ list, Ends fails post (f a)) :
    Ends fails (fun results => ∀ b ∈ results, post b) (list.mapM f) := by
  induction list with
  | nil => simp
  | cons a list ih =>
    rw [List.mapM_cons]
    refine (h a (by simp)).bind fun b hb => (ih fun a ha => h a (by simp [ha])).bind ?_
    intro results hresults
    simpa using ⟨hb, hresults⟩

/-- If a function never fails on the elements of a list, the traversal does not fail. -/
lemma mapM_ok {f : α → Except ε β} {list : List α} (h : ∀ a ∈ list, ∃ b, f a = .ok b) :
    ∃ results, list.mapM f = .ok results := by
  induction list with
  | nil => exact ⟨[], rfl⟩
  | cons a list ih =>
    obtain ⟨b, hb⟩ := h a (by simp)
    obtain ⟨results, hresults⟩ := ih fun a ha => h a (by simp [ha])
    exact ⟨b :: results, by simp [hb, hresults]⟩

lemma mapM_congr {f g : α → Except ε β} {list : List α} (h : ∀ a ∈ list, f a = g a) :
    list.mapM f = list.mapM g := by
  induction list with
  | nil => rfl
  | cons a list ih =>
    rw [List.mapM_cons, List.mapM_cons, h a (by simp), ih fun a ha => h a (by simp [ha])]

lemma exists_ok_of_mapM {f : α → Except ε β} {list : List α} {results : List β}
    (h : list.mapM f = .ok results) : ∀ a ∈ list, ∃ b, f a = .ok b := by
  induction list generalizing results with
  | nil => simp
  | cons a list ih =>
    rw [List.mapM_cons] at h
    obtain ⟨b, hb, hrest⟩ := bind_eq_ok.1 h
    obtain ⟨more, hmore, -⟩ := bind_eq_ok.1 hrest
    simpa using ⟨⟨b, hb⟩, ih hmore⟩

/-- A traversal fails as the function does on one of the elements. -/
lemma exists_error_of_mapM {f : α → Except ε β} {list : List α} {fault : ε}
    (h : list.mapM f = .error fault) : ∃ a ∈ list, f a = .error fault := by
  induction list with
  | nil => simp at h
  | cons a list ih =>
    rw [List.mapM_cons] at h
    rcases bind_eq_error.1 h with hfirst | ⟨b, -, hrest⟩
    · exact ⟨a, by simp, hfirst⟩
    · rcases bind_eq_error.1 hrest with hrest | ⟨more, -, hdone⟩
      · obtain ⟨a, ha, hfault⟩ := ih hrest
        exact ⟨a, by simp [ha], hfault⟩
      · cases hdone

/-- The results of a traversal stand where the elements stood. -/
lemma getElem?_mapM {f : α → Except ε β} {list : List α} {results : List β}
    (h : list.mapM f = .ok results) (j : Nat) :
    (∀ a, list[j]? = some a → ∃ b, f a = .ok b ∧ results[j]? = some b) ∧
      (list[j]? = none → results[j]? = none) := by
  induction list generalizing results j with
  | nil =>
    obtain rfl : [] = results := Except.ok.inj h
    simp
  | cons first list ih =>
    rw [List.mapM_cons] at h
    obtain ⟨b, hb, h⟩ := bind_eq_ok.1 h
    obtain ⟨more, hmore, h⟩ := bind_eq_ok.1 h
    obtain rfl : b :: more = results := Except.ok.inj h
    cases j with
    | zero => simpa using hb
    | succ j => simpa using ih hmore j

/-- What every step of a run preserves holds of its result. -/
lemma invariant_foldlM {σ : Type} {step : σ → α → Except ε σ} {invariant : σ → Prop}
    (hstep : ∀ s a s', invariant s → step s a = .ok s' → invariant s') {list : List α} {s s' : σ}
    (hs : invariant s) (h : list.foldlM step s = .ok s') : invariant s' := by
  induction list generalizing s with
  | nil =>
    obtain rfl := Except.ok.inj h
    exact hs
  | cons a list ih =>
    rw [List.foldlM_cons] at h
    obtain ⟨next, hnext, h⟩ := bind_eq_ok.1 h
    exact ih (hstep s a next hs hnext) h

/-- How a computation fails, if it does. -/
def failure? : Except ε α → Option ε
  | .ok _ => none
  | .error fault => some fault

@[simp] lemma failure?_ok (a : α) : failure? (.ok a : Except ε α) = none := rfl

@[simp] lemma failure?_error (fault : ε) : failure? (.error fault : Except ε α) = some fault := rfl

lemma failure?_eq_none {x : Except ε α} : failure? x = none ↔ ∃ a, x = .ok a := by
  cases x <;> simp

lemma failure?_eq_some {x : Except ε α} {fault : ε} :
    failure? x = some fault ↔ x = .error fault := by
  cases x <;> simp

/-- A computation fails as its first step does, or else as the rest does. -/
lemma failure?_bind {x : Except ε α} {f : α → Except ε β} {later : Option ε}
    (h : ∀ a, x = .ok a → failure? (f a) = later) :
    failure? (x >>= f) = (failure? x).or later := by
  cases x with
  | error fault => rfl
  | ok a => exact h a rfl

/-- What is made of a result does not make a computation fail. -/
lemma failure?_bind_ok {x : Except ε α} {f : α → Except ε β}
    (h : ∀ a, x = .ok a → ∃ b, f a = .ok b) : failure? (x >>= f) = failure? x := by
  rw [failure?_bind fun a ha => failure?_eq_none.2 (h a ha), Option.or_none]

end Except

/-- A fault of the parameters that a command was given: their shape, or a value among them. -/
def Fault.IsInput : Fault → Prop
  | .cause (.schema _) => True
  | .cause (.data _) => True
  | _ => False

@[simp] lemma Fault.isInput_schema (fault : SchemaFault) : (Fault.schema fault).IsInput := trivial

@[simp] lemma Fault.isInput_data (fault : DataFault) : (Fault.data fault).IsInput := trivial

/-- A computation that fails only for the parameters it was given. -/
abbrev Yields {α : Type} (post : α → Prop) (x : Except Fault α) : Prop :=
  Ends Fault.IsInput post x

/-- A computation that may fail in any way; whatever it returns satisfies `post`. -/
abbrev Returns {ε α : Type} (post : α → Prop) (x : Except ε α) : Prop :=
  Ends (fun _ => True) post x

@[simp] lemma returns_true {ε α : Type} (x : Except ε α) : Returns (fun _ => True) x := by
  cases x <;> trivial

lemma returns_bind {ε α β : Type} {post : β → Prop} {x : Except ε α} {f : α → Except ε β}
    (h : ∀ a, Returns post (f a)) : Returns post (x >>= f) :=
  (returns_true x).bind fun a _ => h a

end EventScript
