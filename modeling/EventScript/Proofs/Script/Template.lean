import EventScript.Proofs.Json.Reading

/-! Templates of script text. A template is a text with gaps for literals and for the numbers of
entries. Which template a text was made from, and what its gaps were filled with, can be told from
the text if no gap runs into what follows it and the templates in question differ before either of
them ends. Both conditions can be decided. -/
namespace EventScript

open Json.Dialect (Stops)

namespace Text

/-- The number of an entry, as mechanical names spell it. -/
def entryNumber (id : Int) : Text :=
  if id < 0 then "minus_" ++ ofNat id.natAbs else ofNat id.natAbs

/-- A numeral ends where no digit follows. -/
lemma ofNat_append_inj {m n : Nat} {x y : Text} (hx : ∀ c ∈ x.head?, c.isDigit = false)
    (hy : ∀ c ∈ y.head?, c.isDigit = false) (h : ofNat m ++ x = ofNat n ++ y) :
    m = n ∧ x = y := by
  have hspan : ∀ (k : Nat) (z : Text), (∀ c ∈ z.head?, c.isDigit = false) →
      (ofNat k ++ z).takeWhile CodePoint.isDigit = ofNat k ∧
        (ofNat k ++ z).dropWhile CodePoint.isDigit = z := by
    intro k z hz
    have hdigits : ∀ c ∈ ofNat k, c.isDigit = true := by
      intro c hc
      simpa [CodePoint.isDigit] using digit_of_mem_ofNat hc
    rw [List.takeWhile_append_of_pos hdigits, List.dropWhile_append_of_pos hdigits]
    cases z with
    | nil => simp
    | cons c z => simp [hz c rfl]
  obtain ⟨hmtake, hmdrop⟩ := hspan m x hx
  obtain ⟨hntake, hndrop⟩ := hspan n y hy
  have hnumeral : ofNat m = ofNat n := by rw [← hmtake, ← hntake, h]
  have hread := toNat?_ofNat m
  rw [hnumeral, toNat?_ofNat] at hread
  exact ⟨(Option.some.inj hread).symm, by rw [← hmdrop, ← hndrop, h]⟩

lemma head?_ofNat (n : Nat) : ∃ c ∈ (ofNat n).head?, c.isDigit = true := by
  have hne : ofNat n ≠ [] := by simp [ofNat]
  obtain ⟨c, rest, hcons⟩ := List.exists_cons_of_ne_nil hne
  refine ⟨c, by simp [hcons], ?_⟩
  simpa [CodePoint.isDigit] using digit_of_mem_ofNat (n := n) (by simp [hcons])

lemma entryNumber_append_inj {m n : Int} {x y : Text} (hx : ∀ c ∈ x.head?, c.isDigit = false)
    (hy : ∀ c ∈ y.head?, c.isDigit = false) (h : entryNumber m ++ x = entryNumber n ++ y) :
    m = n ∧ x = y := by
  -- A number with a sign starts with a letter, the others with a digit.
  have hsigns : ∀ (k l : Nat) (z w : Text),
      Text.ofString "minus_" ++ ofNat k ++ z ≠ ofNat l ++ w := by
    intro k l z w heq
    obtain ⟨c, hc, hdigit⟩ := head?_ofNat l
    have hhead := congrArg List.head? heq
    rw [List.head?_append (l := ofNat l), Option.mem_def.1 hc] at hhead
    obtain rfl : CodePoint.ofChar 'm' = c := Option.some.inj hhead
    exact absurd hdigit (by decide)
  unfold entryNumber at h
  split_ifs at h with hm hn hn
  · rw [List.append_assoc, List.append_assoc, List.append_cancel_left_eq] at h
    obtain ⟨habs, hrest⟩ := ofNat_append_inj hx hy h
    exact ⟨by omega, hrest⟩
  · exact absurd h (hsigns _ _ _ _)
  · exact absurd h.symm (hsigns _ _ _ _)
  · obtain ⟨habs, hrest⟩ := ofNat_append_inj hx hy h
    exact ⟨by omega, hrest⟩

end Text

/-- A gap of a template. -/
inductive Gap where
  /-- For a literal without doubles. -/
  | literal
  /-- For the number of an entry. -/
  | entry
  deriving DecidableEq

namespace Gap

/-- The values that a gap may be filled with. -/
def Fits : Gap → Json → Prop
  | .literal, v => v.FloatFree
  | .entry, v => ∃ id, v = .int id

/-- The text of a value in a gap. -/
def filled : Gap → Json → Text
  | .literal, v => v.literal
  | .entry, .int id => Text.entryNumber id
  | .entry, _ => []

/-- Whether the text in a gap may start with a character. -/
def startsWith : Gap → CodePoint → Bool
  | .literal, c => c.isDigit || decide (c ∈ Text.ofString "-'NTF[\x7b")
  | .entry, c => c.isDigit || decide (c ∈ Text.ofString "m")

/-- Whether a character does not go on with the text in a gap before it. -/
def endsBefore : Gap → CodePoint → Bool
  | .literal, c => !Json.Dialect.isWordPart c
  | .entry, c => !c.isDigit

/-- A text that does not go on with the text in a gap before it. -/
def EndsBefore (gap : Gap) (rest : Text) : Prop := ∀ c ∈ rest.head?, gap.endsBefore c = true

lemma endsBefore_of_stops {rest : Text} (h : Stops rest) (gap : Gap) : gap.EndsBefore rest := by
  intro c hc
  have hword := h c hc
  cases gap with
  | literal => simp [endsBefore, hword]
  | entry =>
    have hdigit : c.isDigit = false := by
      by_contra hdigit
      simp [Json.Dialect.isWordPart, CodePoint.isAlphanumeric, hdigit] at hword
    simp [endsBefore, hdigit]

lemma startsWith_of_fits {gap : Gap} {v : Json} (h : gap.Fits v) :
    ∃ c ∈ (gap.filled v).head?, gap.startsWith c = true := by
  have hmarks : ∀ c ∈ Text.ofString "-'NTF[\x7b", literal.startsWith c = true := by decide
  cases gap with
  | entry =>
    obtain ⟨id, rfl⟩ := h
    rw [filled, Text.entryNumber]
    split_ifs
    · exact ⟨CodePoint.ofChar 'm', rfl, by decide⟩
    · obtain ⟨c, hc, hdigit⟩ := Text.head?_ofNat id.natAbs
      exact ⟨c, hc, by simp [startsWith, hdigit]⟩
  | literal =>
    have hv : v.FloatFree := h
    rw [filled]
    cases hv with
    | null => exact ⟨_, rfl, hmarks _ (by decide)⟩
    | bool b => cases b <;> exact ⟨_, rfl, hmarks _ (by decide)⟩
    | int n =>
      cases n with
      | ofNat n =>
        obtain ⟨c, hc, hdigit⟩ := Text.head?_ofNat n
        exact ⟨c, hc, by simp [startsWith, hdigit]⟩
      | negSucc n => exact ⟨CodePoint.ofChar '-', rfl, hmarks _ (by decide)⟩
    | str t => exact ⟨CodePoint.singleQuote, rfl, hmarks _ (by decide)⟩
    | arr _ => exact ⟨_, by rw [Json.literal]; rfl, hmarks (CodePoint.ofChar '[') (by decide)⟩
    | obj _ => exact ⟨_, by rw [Json.literal]; rfl, hmarks CodePoint.openBrace (by decide)⟩

/-- What a gap was filled with can be told from the text if it ends before what follows. -/
lemma filled_append_inj {gap : Gap} {v w : Json} {x y : Text} (hv : gap.Fits v) (hw : gap.Fits w)
    (hx : gap.EndsBefore x) (hy : gap.EndsBefore y) (h : gap.filled v ++ x = gap.filled w ++ y) :
    v = w ∧ x = y := by
  cases gap with
  | literal =>
    have hstops : ∀ z, literal.EndsBefore z → Stops z := by
      intro z hz c hc
      simpa [endsBefore] using hz c hc
    have hxread := Json.writes_literal.read? hv (hstops x hx)
    have hyread := Json.writes_literal.read? hw (hstops y hy)
    have h : v.literal ++ x = w.literal ++ y := h
    rw [h, hyread] at hxread
    obtain ⟨hvalue, hrest⟩ := Prod.mk.inj (Option.some.inj hxread)
    exact ⟨hvalue.symm, hrest.symm⟩
  | entry =>
    obtain ⟨m, rfl⟩ := hv
    obtain ⟨n, rfl⟩ := hw
    obtain ⟨hid, hrest⟩ := Text.entryNumber_append_inj (by simpa [EndsBefore, endsBefore] using hx)
      (by simpa [EndsBefore, endsBefore] using hy) h
    exact ⟨by rw [hid], hrest⟩

end Gap

/-- A part of a template: a character of its own, or a gap. -/
inductive Piece where
  | fixed (c : CodePoint)
  | gap (gap : Gap)
  deriving DecidableEq

/-- A text with gaps. -/
abbrev Template := List Piece

namespace Template

/-- A template without gaps. -/
def plain (t : Text) : Template := t.map .fixed

/-- The template without gaps that a string spells. -/
def words (s : String) : Template := plain (Text.ofString s)

/-- A string in a template as a list of characters, on which templates are compared. -/
lemma words_ofList {cs : List Char} :
    words (String.ofList cs) = cs.map fun c => .fixed (CodePoint.ofChar c) := by
  simp [words, plain, Text.ofString, String.toList_ofList]

/-- Values that fill the gaps of a template, one for each. -/
def Fits : Template → List Json → Prop
  | [], values => values = []
  | .fixed _ :: rest, values => Fits rest values
  | .gap gap :: rest, v :: values => gap.Fits v ∧ Fits rest values
  | .gap _ :: _, [] => False

/-- The text of a template with values in its gaps. -/
def fill : Template → List Json → Text
  | [], _ => []
  | .fixed c :: rest, values => c :: fill rest values
  | .gap gap :: rest, v :: values => gap.filled v ++ fill rest values
  | .gap _ :: _, [] => []

/-- Whether a template may follow a gap. -/
def follows (gap : Gap) : Template → Bool
  | [] => true
  | .fixed c :: _ => gap.endsBefore c
  | .gap _ :: _ => false

/-- Whether the gaps of a template end before what follows them. -/
def isLegible : Template → Bool
  | [] => true
  | .fixed _ :: rest => isLegible rest
  | .gap gap :: rest => follows gap rest && isLegible rest

/-- Whether two templates differ before either of them ends. -/
def apart : Template → Template → Bool
  | .fixed c :: s, .fixed d :: t => c ≠ d || apart s t
  | .fixed c :: _, .gap gap :: _ => !gap.startsWith c
  | .gap gap :: _, .fixed c :: _ => !gap.startsWith c
  | .gap gap :: s, .gap other :: t => gap = other && apart s t
  | _, _ => false

variable {s t : Template} {values others : List Json} {x y : Text}

@[simp] lemma fill_plain_append (t : Text) (s : Template) (values : List Json) :
    fill (plain t ++ s) values = t ++ fill s values := by
  induction t with
  | nil => rfl
  | cons c t ih => exact congrArg (c :: ·) ih

@[simp] lemma fits_plain_append (t : Text) : Fits (plain t ++ s) values ↔ Fits s values := by
  induction t with
  | nil => rfl
  | cons c t ih => exact ih

@[simp] lemma isLegible_plain_append (t : Text) (s : Template) :
    isLegible (plain t ++ s) = isLegible s := by
  induction t with
  | nil => rfl
  | cons c t ih => exact ih

lemma endsBefore_fill {gap : Gap} (hfollows : follows gap s = true) (hx : Stops x)
    (values : List Json) : gap.EndsBefore (fill s values ++ x) := by
  cases s with
  | nil => exact Gap.endsBefore_of_stops hx gap
  | cons piece s =>
    cases piece with
    | fixed c =>
      intro d hd
      obtain rfl := Option.some.inj hd
      exact hfollows
    | gap other => cases hfollows

/-- The values in the gaps of a template can be told from the text. -/
lemma fill_inj (hs : isLegible s = true) (hvalues : Fits s values) (hothers : Fits s others)
    (hx : Stops x) (hy : Stops y) (h : fill s values ++ x = fill s others ++ y) :
    values = others ∧ x = y := by
  induction s generalizing values others with
  | nil =>
    obtain rfl : values = [] := hvalues
    obtain rfl : others = [] := hothers
    exact ⟨rfl, h⟩
  | cons piece s ih =>
    cases piece with
    | fixed c => exact ih hs hvalues hothers (List.cons.inj h).2
    | gap gap =>
      cases values with
      | nil => cases hvalues
      | cons v values =>
        cases others with
        | nil => cases hothers
        | cons w others =>
          obtain ⟨hfollows, hs⟩ := Bool.and_eq_true_iff.1 hs
          rw [fill, fill, List.append_assoc, List.append_assoc] at h
          obtain ⟨rfl, hbehind⟩ := Gap.filled_append_inj hvalues.1 hothers.1
            (endsBefore_fill hfollows hx values) (endsBefore_fill hfollows hy others) h
          obtain ⟨rfl, hrest⟩ := ih hs hvalues.2 hothers.2 hbehind
          exact ⟨rfl, hrest⟩

/-- A character that the text in a gap does not start with is not where the gap is. -/
lemma fixed_ne_filled {gap : Gap} {v : Json} (hv : gap.Fits v) {c : CodePoint}
    (hc : gap.startsWith c = false) : c :: x ≠ gap.filled v ++ y := by
  intro h
  obtain ⟨d, hd, hstarts⟩ := Gap.startsWith_of_fits hv
  have hhead := congrArg List.head? h
  rw [List.head?_append, Option.mem_def.1 hd] at hhead
  obtain rfl : c = d := Option.some.inj hhead
  rw [hc] at hstarts
  cases hstarts

/-- Templates that are apart give different texts, whatever follows them. -/
lemma fill_ne_fill (happart : apart s t = true) (hs : isLegible s = true)
    (ht : isLegible t = true) (hvalues : Fits s values) (hothers : Fits t others) (hx : Stops x)
    (hy : Stops y) : fill s values ++ x ≠ fill t others ++ y := by
  intro h
  induction s, t using apart.induct generalizing values others with
  | case1 c s d t ih =>
    obtain ⟨rfl, hbehind⟩ := List.cons.inj h
    exact ih (by simpa [apart] using happart) hs ht hvalues hothers hbehind
  | case2 c s gap t =>
    cases others with
    | nil => cases hothers
    | cons w others =>
      rw [fill, fill, List.append_assoc] at h
      exact fixed_ne_filled hothers.1 (by simpa [apart] using happart) h
  | case3 gap s c t =>
    cases values with
    | nil => cases hvalues
    | cons v values =>
      rw [fill, fill, List.append_assoc] at h
      exact fixed_ne_filled hvalues.1 (by simpa [apart] using happart) h.symm
  | case4 gap s other t ih =>
    obtain ⟨hgap, hbehind⟩ := Bool.and_eq_true_iff.1 happart
    obtain rfl := of_decide_eq_true hgap
    cases values with
    | nil => cases hvalues
    | cons v values =>
      cases others with
      | nil => cases hothers
      | cons w others =>
        obtain ⟨hsfollows, hs⟩ := Bool.and_eq_true_iff.1 hs
        obtain ⟨htfollows, ht⟩ := Bool.and_eq_true_iff.1 ht
        rw [fill, fill, List.append_assoc, List.append_assoc] at h
        obtain ⟨-, hrest⟩ := Gap.filled_append_inj hvalues.1 hothers.1
          (endsBefore_fill hsfollows hx values) (endsBefore_fill htfollows hy others) h
        exact ih hbehind hs ht hvalues.2 hothers.2 hrest
  | case5 => simp_all [apart]

lemma apart_symm (h : apart s t = true) : apart t s = true := by
  induction s, t using apart.induct with
  | case1 c s d t ih =>
    simp only [apart, Bool.or_eq_true, decide_eq_true_eq] at h ⊢
    exact h.imp Ne.symm ih
  | case2 => exact h
  | case3 => exact h
  | case4 gap s other t ih =>
    simp only [apart, Bool.and_eq_true, decide_eq_true_eq] at h ⊢
    exact ⟨h.1.symm, ih h.2⟩
  | case5 => simp_all [apart]

lemma apart_append (h : apart s t = true) (more : Template) : apart (s ++ more) t = true := by
  induction s, t using apart.induct with
  | case1 c s d t ih =>
    simp only [List.cons_append, apart, Bool.or_eq_true, decide_eq_true_eq] at h ⊢
    exact h.imp_right ih
  | case2 => exact h
  | case3 => exact h
  | case4 gap s other t ih =>
    simp only [List.cons_append, apart, Bool.and_eq_true, decide_eq_true_eq] at h ⊢
    exact ⟨h.1, ih h.2⟩
  | case5 => simp_all [apart]

/-- Forms whose templates are legible and apart from each other. -/
structure Readable {α : Type} (forms : List α) (template : α → Template) : Prop where
  apart : (forms.map template).Pairwise fun s t => s.apart t = true
  legible : ∀ s ∈ forms.map template, s.isLegible = true

/-- The form, the values and what follows them can be told from the text. -/
lemma Readable.inj {α : Type} {forms : List α} {template : α → Template}
    (h : Readable forms template) {form other : α} (hform : form ∈ forms) (hother : other ∈ forms)
    (hvalues : (template form).Fits values) (hothers : (template other).Fits others)
    (hx : Stops x) (hy : Stops y)
    (heq : (template form).fill values ++ x = (template other).fill others ++ y) :
    form = other ∧ values = others ∧ x = y := by
  have hlegible : ∀ form ∈ forms, (template form).isLegible = true := fun form hform =>
    h.legible _ (List.mem_map_of_mem hform)
  obtain rfl : form = other := by
    by_contra hne
    have : Std.Symm fun form other => (template form).apart (template other) = true :=
      ⟨fun _ _ => apart_symm⟩
    have happart := (List.pairwise_map.1 h.apart).forall hform hother hne
    exact fill_ne_fill happart (hlegible _ hform) (hlegible _ hother) hvalues hothers hx hy heq
  exact ⟨rfl, fill_inj (hlegible _ hform) hvalues hothers hx hy heq⟩

end Template

end EventScript
