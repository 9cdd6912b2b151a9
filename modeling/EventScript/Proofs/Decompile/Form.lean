import EventScript.Decompile.Context
import EventScript.Proofs.Command.Access
import EventScript.Proofs.Names.Fallback

/-! Forms in which operands are shown. Where the forms are readable, the operand can be told from
the text. -/
namespace EventScript

open Json.Dialect (Stops)

/-- One way in which operands are shown: a template, and the operand that values in its gaps stand
for. -/
structure Form where
  template : Template
  operand : List Json → Operand

namespace Form

/-- An operand, and a text that shows it in one of some forms. -/
def Shows (forms : List Form) (operand : Operand) (text : Text) : Prop :=
  ∃ form ∈ forms, ∃ values, form.template.Fits values ∧ form.operand values = operand ∧
    form.template.fill values = text

/-- The operand, and where its text ends, can be told from the text. -/
lemma Shows.inj {forms : List Form} (h : Template.Readable forms template) {a b : Operand}
    {x y z w : Text} (ha : Shows forms a x) (hb : Shows forms b y) (hz : Stops z) (hw : Stops w)
    (heq : x ++ z = y ++ w) : a = b ∧ z = w := by
  obtain ⟨form, hform, values, hvalues, rfl, rfl⟩ := ha
  obtain ⟨other, hother, others, hothers, rfl, rfl⟩ := hb
  obtain ⟨rfl, rfl, hrest⟩ := h.inj hform hother hvalues hothers hz hw heq
  exact ⟨rfl, hrest⟩

end Form

attribute [simp] Json.FloatFree.bool Json.FloatFree.int Json.FloatFree.str

namespace Text

lemma ofString_append_append (s t : String) (x : Text) :
    ofString s ++ (ofString t ++ x) = ofString (s ++ t) ++ x := by
  rw [← List.append_assoc, ofString_append]

lemma entryNumber_of_pos {id : Int} (h : 0 < id) : entryNumber id = ofInt id := by
  cases id with
  | ofNat n => rfl
  | negSucc n => omega

/-- The pieces of a text, with the separator before each but the first, are the text. -/
lemma splitAt_join (c : CodePoint) (t : Text) : ∃ head rest, t.splitAt c = head :: rest ∧
    head ++ rest.flatMap (c :: ·) = t := by
  induction t with
  | nil => exact ⟨[], [], rfl, rfl⟩
  | cons d t ih =>
    obtain ⟨head, rest, hsplit, hjoin⟩ := ih
    rw [splitAt, hsplit]
    split_ifs with hd
    · exact ⟨[], head :: rest, rfl, by simp [hd, hjoin]⟩
    · exact ⟨d :: head, rest, rfl, by simp [hjoin]⟩

end Text

namespace Expr

lemma render_attributes (e : Expr) (fields : List Text) :
    (fields.foldl Expr.attribute e).render =
      e.render ++ fields.flatMap (CodePoint.ofChar '.' :: ·) := by
  induction fields generalizing e with
  | nil => simp
  | cons field fields ih =>
    rw [List.foldl_cons, ih, render]
    simp [Text.ofString]

@[simp] lemma render_dotted (path : Text) : (dotted path).render = path := by
  obtain ⟨head, rest, hsplit, hjoin⟩ := Text.splitAt_join '.' path
  rw [dotted, hsplit]
  exact (render_attributes _ _).trans hjoin

end Expr

namespace Decompile

lemma renderKeywords_map (keywords : List (String × Expr)) :
    Expr.renderKeywords (keywords.map fun (key, e) => (Text.ofString key, e)) =
      keywords.map fun (key, e) => Text.ofString key ++ "=" ++ e.render := by
  induction keywords with
  | nil => rfl
  | cons keyword keywords ih => rw [List.map_cons, Expr.renderKeywords, ih, List.map_cons]

@[simp] lemma render_invoke (path : String) (keywords : List (String × Expr)) :
    (invoke path keywords).render = Text.ofString path ++ "(" ++
      Text.join ", " (keywords.map fun (key, e) => Text.ofString key ++ "=" ++ e.render) ++
      ")" := by
  rw [invoke, Expr.callPath, Expr.render, Expr.render_dotted, renderKeywords_map]
  rfl

@[simp] lemma render_method (target : Expr) (word : String) (keywords : List (String × Expr)) :
    (method target word keywords).render = target.render ++ "." ++ Text.ofString word ++ "(" ++
      Text.join ", " (keywords.map fun (key, e) => Text.ofString key ++ "=" ++ e.render) ++
      ")" := by
  rw [method, Expr.render, Expr.render, renderKeywords_map]
  rfl

lemma Context.render_named {context : Context} (hnames : context.names = {}) (category : Category)
    (id : Int) : (context.named category id).render = category.fallback id := by
  rw [named, hnames]
  rfl

end Decompile

namespace Template

@[simp] lemma fill_words_append (s : String) (t : Template) (values : List Json) :
    fill (words s ++ t) values = Text.ofString s ++ fill t values :=
  fill_plain_append _ t values

@[simp] lemma fill_words (s : String) (values : List Json) :
    fill (words s) values = Text.ofString s := by
  rw [← List.append_nil (words s), fill_words_append, fill, List.append_nil]

@[simp] lemma isLegible_words_append (s : String) (t : Template) :
    isLegible (words s ++ t) = isLegible t :=
  isLegible_plain_append _ t

@[simp] lemma fill_entry_append (category : Category) (id : Int) (t : Template)
    (values : List Json) : fill (category.template ++ t) (.int id :: values) =
      category.fallback id ++ fill t values := by
  rw [Category.fallback_eq_fill, Category.template]
  simp [fill]

@[simp] lemma fill_entry (category : Category) (id : Int) :
    fill category.template [.int id] = category.fallback id :=
  (Category.fallback_eq_fill category id).symm

@[simp] lemma fill_nil (values : List Json) : fill [] values = [] := rfl

@[simp] lemma fill_literal (t : Template) (v : Json) (values : List Json) :
    fill (.gap .literal :: t) (v :: values) = v.literal ++ fill t values := rfl

@[simp] lemma fits_words_append {s : String} {t : Template} {values : List Json} :
    Fits (words s ++ t) values ↔ Fits t values :=
  fits_plain_append _

@[simp] lemma fits_words {s : String} {values : List Json} :
    Fits (words s) values ↔ values = [] := by
  rw [← List.append_nil (words s), fits_words_append]
  rfl

@[simp] lemma fits_entry_append {category : Category} {id : Int} {t : Template}
    {values : List Json} : Fits (category.template ++ t) (.int id :: values) ↔ Fits t values := by
  simp [Category.template, Fits, Gap.Fits]

@[simp] lemma fits_entry {category : Category} {id : Int} : Fits category.template [.int id] :=
  category.fits_template id

@[simp] lemma fits_nil {values : List Json} : Fits [] values ↔ values = [] := Iff.rfl

@[simp] lemma fits_literal {t : Template} {v : Json} {values : List Json} :
    Fits (.gap .literal :: t) (v :: values) ↔ v.FloatFree ∧ Fits t values := Iff.rfl

end Template

/-- The characters that have names of their own, and the others. -/
inductive Who where
  | player
  | thisEvent
  | other

namespace Who

open Decompile

def all : List Who := [.player, .thisEvent, .other]

def template : Who → Template
  | .player => Template.words "game_player"
  | .thisEvent => Template.words "this_event"
  | .other => Template.words "game_character_" ++ [.gap .entry]

/-- The number of a character, and the values behind it. -/
def take : Who → List Json → Json × List Json
  | .player, values => (.int (-1), values)
  | .thisEvent, values => (.int 0, values)
  | .other, id :: values => (id, values)
  | .other, [] => (.null, [])

/-- What shows a character; all negative ones are the player. -/
lemma exists_who (id : Int) : ∃ who ∈ all, ∃ values : List Json,
    (∀ more, who.take (values ++ more) = (.int (if id < 0 then -1 else id), more)) ∧
    ∀ t more, (Template.Fits t more → Template.Fits (who.template ++ t) (values ++ more)) ∧
      Template.fill (who.template ++ t) (values ++ more) =
        (character id).render ++ Template.fill t more := by
  rcases lt_trichotomy id 0 with hneg | rfl | hpos
  · refine ⟨.player, by simp [all], [], fun more => by simp [take, hneg], fun t more => ?_⟩
    simp [template, character, hneg, name, Expr.render]
  · refine ⟨.thisEvent, by simp [all], [], fun more => by simp [take], fun t more => ?_⟩
    simp [template, character, name, Expr.render]
  · have hneg : ¬id < 0 := by omega
    refine ⟨.other, by simp [all], [.int id], fun more => by simp [take, hneg], fun t more => ?_⟩
    simp [template, character, hneg, hpos.ne', Expr.render, Template.Fits, Gap.Fits, Template.fill,
      Gap.filled, Text.entryNumber_of_pos hpos]

end Who

end EventScript
