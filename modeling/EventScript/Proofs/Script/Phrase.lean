import EventScript.Proofs.Text.Word
import EventScript.Script.Expr

/-! Literals and expressions stand on one line, and no line starts with a word of control because of
them. -/
namespace EventScript

namespace Text

/-- The first piece of a text ends before the first separator. -/
lemma splitAt_eq_cons (c : CodePoint) (t : Text) : ∃ pieces,
    t.splitAt c = t.takeWhile (· ≠ c) :: pieces ∧ ∀ piece ∈ pieces, piece.Sublist t := by
  induction t with
  | nil => exact ⟨[], rfl, nofun⟩
  | cons d t ih =>
    obtain ⟨pieces, hsplit, hpieces⟩ := ih
    rw [splitAt, hsplit]
    split_ifs with hd
    · refine ⟨t.takeWhile (· ≠ c) :: pieces, by simp [hd], ?_⟩
      rw [List.forall_mem_cons]
      exact ⟨(List.takeWhile_sublist _).cons d, fun piece hmem => (hpieces piece hmem).cons d⟩
    · exact ⟨pieces, by simp [hd], fun piece hmem => (hpieces piece hmem).cons d⟩

/-- Marks that no word goes on behind. -/
def marks : List String := [".", "[", "(", " ", "=", ":", ","]

lemma breaks_mark {mark : String} (h : mark ∈ marks) (rest : Text) :
    Breaks (ofString mark ++ rest) := by
  have hmarks : ∀ mark ∈ marks, ofString mark ≠ [] ∧ Breaks (ofString mark) := by decide +kernel
  obtain ⟨hne, hbreaks⟩ := hmarks mark h
  obtain ⟨c, more, heq⟩ := List.exists_cons_of_ne_nil hne
  rw [heq] at hbreaks ⊢
  exact hbreaks

lemma ending_mark {mark : String} (h : mark ∈ marks) {rest : Text} (hrest : Ending rest) :
    Ending (ofString mark ++ rest) := by
  have hmarks : ∀ mark ∈ marks, isPlain mark = true := by decide +kernel
  exact hrest.append (printable_ofString (hmarks mark h))

/-- A phrase may be followed by a mark and whatever may end a line. -/
lemma Phrase.mark {t rest : Text} (h : Phrase t) (mark : String) (hmark : mark ∈ marks)
    (hrest : Ending rest) : Phrase (t ++ (ofString mark ++ rest)) :=
  h.append (breaks_mark hmark rest) (ending_mark hmark hrest)

lemma Headed.mark {t : Text} (h : Headed t) (mark : String) (hmark : mark ∈ marks) (rest : Text) :
    Headed (t ++ (ofString mark ++ rest)) :=
  h.append (breaks_mark hmark rest)

/-- What opens a bracket or a sign is a phrase. -/
lemma phrase_opening {opening : String} (h : opening ∈ ["[", "\x7b", "-"]) {rest : Text}
    (hrest : Ending rest) : Phrase (ofString opening ++ rest) := by
  have hall : ∀ s ∈ ["[", "\x7b", "-"], ∃ c ∈ (ofString s).head?, ofString s = [c] ∧
      c.isIdentifierContinue = false ∧ c.isBlank = false ∧ Printable [c] := by
    unfold Printable
    decide +kernel
  obtain ⟨c, -, heq, hcontinue, hblank, hprintable⟩ := hall opening h
  rw [heq]
  exact phrase_of_mark hcontinue hblank (hrest.append hprintable)

/-- The words among literals and operators. -/
lemma phrase_word (word : String) (h : word ∈ ["None", "True", "False", "nan", "inf", "not"]) :
    Phrase (ofString word) := by
  have hall : ∀ s ∈ ["None", "True", "False", "nan", "inf", "not"], isPlain s = true ∧
      (ofString s).Closed ∧ (∃ c ∈ (ofString s).head?, c.isBlank = false) ∧
      leadingWord (ofString s) ∉ controlWords := by
    decide +kernel
  obtain ⟨hplain, hclosed, hstarts, hword⟩ := hall word h
  exact ⟨⟨printable_ofString hplain, hclosed⟩, hstarts, hword⟩

/-- A closing bracket may end a line. -/
lemma ending_bracket {bracket : String} (h : bracket ∈ [")", "]", "\x7d"]) {t : Text}
    (ht : Printable t) : Ending (t ++ ofString bracket) := by
  have hall : ∀ s ∈ [")", "]", "\x7d"], isPlain s = true ∧ (ofString s).Closed := by
    decide +kernel
  obtain ⟨hplain, hclosed⟩ := hall bracket h
  exact Ending.append ⟨printable_ofString hplain, hclosed⟩ ht

lemma printable_items {items : List Text} (h : ∀ item ∈ items, Printable item) :
    Printable (join ", " items) :=
  printable_join (printable_ofString (by decide)) h

end Text

open Text

lemma Double.phrase_text (x : Double) : Phrase x.text := by
  cases x with
  | nan => exact phrase_word "nan" (by simp)
  | infinite negative =>
    cases negative with
    | false => exact phrase_word "inf" (by simp)
    | true => exact phrase_opening (by simp) (phrase_word "inf" (by simp)).toEnding
  | finite negative significand exponent =>
    obtain ⟨hnumeral, hne⟩ := numeral_text negative significand exponent
    exact hnumeral.phrase hne

lemma Text.phrase_ofInt (n : Int) : Phrase (ofInt n) := by
  refine (numeral_ofInt n).phrase ?_
  cases n with
  | ofNat n => simp [ofInt, ofNat, Nat.toDigits_ne_nil]
  | negSucc n => simp [ofInt]

lemma Text.phrase_quote (t : Text) : Phrase (quote t) := by
  obtain ⟨rest, hrest⟩ : ∃ rest, quote t = CodePoint.singleQuote :: (rest ++ [.singleQuote]) :=
    ⟨_, rfl⟩
  have hprintable := printable_quote t
  rw [hrest] at hprintable ⊢
  refine phrase_of_mark (by decide +kernel) (by decide) ⟨hprintable, ?_⟩
  exact Closed.append (by decide) (.singleQuote :: rest)

/-- Items in brackets are a phrase. -/
lemma Text.phrase_list {items : List Text} (h : ∀ item ∈ items, Printable item) :
    Phrase ("[" ++ join ", " items ++ "]") := by
  rw [List.append_assoc]
  exact phrase_opening (by simp) (ending_bracket (by simp) (printable_items h))

namespace Json

mutual

/-- The literal of every value is a phrase. -/
theorem phrase_literal : (value : Json) → Phrase value.literal
  | .null => phrase_word "None" (by simp)
  | .bool true => phrase_word "True" (by simp)
  | .bool false => phrase_word "False" (by simp)
  | .int n => phrase_ofInt n
  | .float x => by
    rw [literal]
    split
    · exact phrase_ofInt _
    · exact x.phrase_text
  | .str t => phrase_quote t
  | .arr items => by
    rw [literal]
    exact phrase_list (printable_literalItems items)
  | .obj fields => by
    rw [literal, List.append_assoc]
    exact phrase_opening (by simp)
      (ending_bracket (by simp) (printable_items (printable_literalFields fields)))
  termination_by structural value => value

theorem printable_literalItems : (items : List Json) → ∀ item ∈ literalItems items, Printable item
  | [] => by simp [literalItems]
  | value :: rest => by
    rw [literalItems, List.forall_mem_cons]
    exact ⟨(phrase_literal value).printable, printable_literalItems rest⟩
  termination_by structural items => items

theorem printable_literalFields : (fields : List (Text × Json)) →
    ∀ item ∈ literalFields fields, Printable item
  | [] => by simp [literalFields]
  | (key, value) :: rest => by
    rw [literalFields, List.forall_mem_cons, printable_append, printable_append]
    exact ⟨⟨⟨printable_quote key, printable_ofString (by decide)⟩, (phrase_literal value).printable⟩,
      printable_literalFields rest⟩
  termination_by structural fields => fields

end

end Json

namespace Expr

/-- An expression of which every name is one. Operators in front of an expression are known, and
those between two are printable. -/
inductive Proper : Expr → Prop
  | literal (value : Json) : Proper (.literal value)
  | name {text : Text} (htext : text.isName = true) : Proper (.name text)
  | field {target : Expr} {field : Text} (htarget : Proper target) (hfield : Solid field) :
      Proper (.attribute target field)
  | subscript {target index : Expr} (htarget : Proper target) (hindex : Proper index) :
      Proper (.subscript target index)
  | unary {operator : Text} {operand : Expr} (hoperator : operator ∈ [("-" : Text), "not "])
      (hoperand : Proper operand) : Proper (.unary operator operand)
  | binary {left right : Expr} {operator : Text} (hleft : Proper left)
      (hoperator : Printable operator) (hright : Proper right) :
      Proper (.binary left operator right)
  | call {callee : Expr} {args : List Expr} {keywords : List (Text × Expr)}
      (hcallee : Proper callee) (hargs : ∀ e ∈ args, Proper e)
      (hkeys : ∀ keyword ∈ keywords, keyword.1.isName = true)
      (hvalues : ∀ keyword ∈ keywords, Proper keyword.2) : Proper (.call callee args keywords)
  | list {items : List Expr} (hitems : ∀ e ∈ items, Proper e) : Proper (.list items)

lemma renderArgs_eq (args : List Expr) : renderArgs args = args.map render := by
  induction args with
  | nil => rfl
  | cons e args ih => rw [renderArgs, ih, List.map_cons]

lemma renderKeywords_eq (keywords : List (Text × Expr)) :
    renderKeywords keywords =
      keywords.map fun keyword => keyword.1 ++ ofString "=" ++ keyword.2.render := by
  induction keywords with
  | nil => rfl
  | cons keyword keywords ih => rw [renderKeywords, ih, List.map_cons]

lemma phrase_keyword {key value : Text} (hkey : key.isName = true) (hvalue : Phrase value) :
    Phrase (key ++ "=" ++ value) := by
  rw [List.append_assoc]
  exact (phrase_of_isName hkey).mark "=" (by simp [marks]) hvalue.toEnding

lemma phrase_arguments {args : List Expr} {keywords : List (Text × Expr)}
    (hargs : ∀ e ∈ args, Phrase e.render) (hkeys : ∀ keyword ∈ keywords, keyword.1.isName = true)
    (hvalues : ∀ keyword ∈ keywords, Phrase keyword.2.render) :
    ∀ argument ∈ arguments args keywords, Phrase argument := by
  rw [arguments, renderArgs_eq, renderKeywords_eq, List.forall_mem_append, List.forall_mem_map,
    List.forall_mem_map]
  exact ⟨hargs, fun keyword hmem => phrase_keyword (hkeys keyword hmem) (hvalues keyword hmem)⟩

lemma phrase_operator {operator rest : Text} (hoperator : operator ∈ [("-" : Text), "not "])
    (hrest : Ending rest) : Phrase (operator ++ rest) := by
  rcases List.mem_pair.1 hoperator with rfl | rfl
  · exact phrase_opening (by simp) hrest
  · exact (phrase_word "not" (by simp)).mark " " (by simp [marks]) hrest

lemma phrase_field {target field : Text} (htarget : Phrase target) (hfield : Solid field) :
    Phrase (target ++ (ofString "." ++ field)) := by
  have hsolid : Solid (ofString "." ++ field) :=
    List.forall_mem_append.2 ⟨solid_ofString (by decide), hfield⟩
  refine htarget.append (breaks_mark (by simp [marks]) field) (hsolid.ending ?_)
  exact List.append_ne_nil_of_left_ne_nil (by decide) field

/-- The text of a proper expression is a phrase. -/
theorem Proper.phrase {e : Expr} (h : e.Proper) : Phrase e.render := by
  induction h with
  | literal value => exact value.phrase_literal
  | name htext => exact phrase_of_isName htext
  | field _ hfield ih =>
    rw [render, List.append_assoc]
    exact phrase_field ih hfield
  | subscript _ _ ihtarget ihindex =>
    rw [render, List.append_assoc, List.append_assoc]
    exact ihtarget.mark "[" (by simp [marks]) (ending_bracket (by simp) ihindex.printable)
  | unary hoperator _ ih =>
    rw [render]
    split_ifs
    · rw [List.append_assoc, List.append_assoc]
      refine phrase_operator hoperator (ending_mark (by simp [marks]) ?_)
      exact ending_bracket (by simp) ih.printable
    · exact phrase_operator hoperator ih.toEnding
  | binary _ hoperator _ ihleft ihright =>
    rw [render, List.append_assoc, List.append_assoc, List.append_assoc]
    refine ihleft.mark " " (by simp [marks]) (Ending.append ?_ hoperator)
    exact ending_mark (by simp [marks]) ihright.toEnding
  | call _ _ hkeys _ ihcallee ihargs ihvalues =>
    rw [render, List.append_assoc, List.append_assoc]
    refine ihcallee.mark "(" (by simp [marks]) (ending_bracket (by simp) (printable_items ?_))
    exact fun argument hmem => (phrase_arguments ihargs hkeys ihvalues argument hmem).printable
  | list _ ih =>
    rw [render, renderArgs_eq]
    exact phrase_list (List.forall_mem_map.2 fun e hmem => (ih e hmem).printable)

/-! Dotted names. -/

lemma proper_fields {fields : List Text} (hfields : ∀ field ∈ fields, Solid field)
    {target : Expr} (hproper : target.Proper) (hheaded : target.render.Headed) :
    (fields.foldl .attribute target).Proper ∧ (fields.foldl .attribute target).render.Headed := by
  induction fields generalizing target with
  | nil => exact ⟨hproper, hheaded⟩
  | cons field fields ih =>
    obtain ⟨hfield, hfields⟩ := List.forall_mem_cons.1 hfields
    refine ih hfields (.field hproper hfield) ?_
    rw [render, List.append_assoc]
    exact hheaded.mark "." (by simp [marks]) field

/-- A dotted name that starts with a name is proper, and its text starts with that name. -/
lemma proper_dotted {path : Text}
    (hname : isName (path.takeWhile (· ≠ CodePoint.ofChar '.')) = true)
    (hsolid : Solid path) : (dotted path).Proper ∧ (dotted path).render.Headed := by
  obtain ⟨fields, hsplit, hfields⟩ := splitAt_eq_cons (CodePoint.ofChar '.') path
  rw [dotted, hsplit]
  exact proper_fields (fun field hmem => hsolid.sublist (hfields field hmem)) (.name hname)
    (headed_of_isName hname)

lemma proper_path {path : String} (h : isPath path = true) :
    (dotted path).Proper ∧ (dotted path).render.Headed :=
  proper_dotted (isName_of_isPath h) (solid_ofString (Bool.and_eq_true_iff.1 h).1)

lemma proper_dotted_name {name : Text} (h : name.isName = true) :
    (dotted name).Proper ∧ (dotted name).render.Headed := by
  have hpoint : (CodePoint.ofChar '.').isIdentifierContinue = false := by decide +kernel
  have hname : name.takeWhile (· ≠ CodePoint.ofChar '.') = name := by
    refine List.takeWhile_eq_self_iff.2 fun c hc => decide_eq_true ?_
    rintro rfl
    rw [continues_of_isName h _ hc] at hpoint
    cases hpoint
  exact proper_dotted (hname.symm ▸ h) (solid_of_isName h)

end Expr

end EventScript
