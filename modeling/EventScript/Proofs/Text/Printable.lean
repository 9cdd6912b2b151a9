import EventScript.Number.Shortest
import EventScript.Proofs.Text.Escape
import EventScript.Text.Blank
import EventScript.Text.Identifier
import EventScript.Text.Quoted
import Mathlib

/-! Texts of printable characters only: numerals, identifiers, and every text that was escaped. -/
namespace EventScript

namespace RangeTable

/-- Whether two tables share no number, by one pass over both. -/
def apart : RangeTable → RangeTable → Bool
  | [], _ => true
  | (low, high) :: rest, other =>
    let other := other.dropWhile fun range => decide (range.2 < low)
    decide (low ≤ high) &&
      (match other with
        | [] => true
        | (first, last) :: _ => decide (high < first) && decide (first ≤ last)) &&
      apart rest other

lemma contains_dropWhile {low n : Nat} (h : low ≤ n) (table : RangeTable) :
    contains (table.dropWhile fun range => decide (range.2 < low)) n = contains table n := by
  induction table with
  | nil => rfl
  | cons range table ih =>
    obtain ⟨first, last⟩ := range
    by_cases hlast : last < low
    · have hn : ¬n ≤ last := by omega
      simp [hlast, contains, hn, ih]
    · simp [hlast]

lemma not_contains_of_apart {table other : RangeTable} (h : apart table other = true) {n : Nat}
    (hn : contains table n = true) : contains other n = false := by
  induction table generalizing other with
  | nil => cases hn
  | cons range table ih =>
    obtain ⟨low, high⟩ := range
    simp only [apart, Bool.and_eq_true, decide_eq_true_eq] at h
    obtain ⟨⟨hrange, hhead⟩, hrest⟩ := h
    have hlow : low ≤ n := by
      by_cases hhigh : n ≤ high
      · simpa [contains, hhigh] using hn
      · omega
    rw [← contains_dropWhile hlow other]
    by_cases hhigh : n ≤ high
    · cases hother : other.dropWhile fun range => decide (range.2 < low) with
      | nil => rfl
      | cons range more =>
        obtain ⟨first, last⟩ := range
        simp only [hother, Bool.and_eq_true, decide_eq_true_eq] at hhead
        have hlast : n ≤ last := by omega
        have hfirst : ¬first ≤ n := by omega
        simp [contains, hlast, hfirst]
    · exact ih hrest (by simpa [contains, hhigh] using hn)

end RangeTable

namespace CodePoint

lemma ofChar_inj {c d : Char} : ofChar c = ofChar d ↔ c = d :=
  (Function.LeftInverse.injective toChar_ofChar).eq_iff

lemma isPrintable_of_ascii {c : CodePoint} (hlow : 0x20 ≤ c.val) (hhigh : c.val ≤ 0x7e) :
    c.isPrintable = true := by
  obtain ⟨rest, htable⟩ : ∃ rest, unprintableRanges = (0x0, 0x1f) :: (0x7f, 0xa0) :: rest :=
    ⟨_, rfl⟩
  have hfirst : ¬c.val ≤ 0x1f := by omega
  have hsecond : c.val ≤ 0xa0 := by omega
  have hbetween : ¬0x7f ≤ c.val := by omega
  simp [isPrintable, htable, RangeTable.contains, hfirst, hsecond, hbetween]

lemma isPrintable_of_identifier {c : CodePoint} (h : c.isIdentifierContinue = true) :
    c.isPrintable = true := by
  have hstart : identifierStartRanges.apart unprintableRanges = true := by decide +kernel
  have hextend : identifierExtendRanges.apart unprintableRanges = true := by decide +kernel
  have hnot : unprintableRanges.contains c.val = false := by
    rcases Bool.or_eq_true_iff.1 h with h | h
    · exact RangeTable.not_contains_of_apart hstart h
    · exact RangeTable.not_contains_of_apart hextend h
  rw [isPrintable, hnot]
  rfl

lemma not_isBlank_of_identifier {c : CodePoint} (h : c.isIdentifierContinue = true) :
    c.isBlank = false := by
  have hstart : identifierStartRanges.apart blankRanges = true := by decide +kernel
  have hextend : identifierExtendRanges.apart blankRanges = true := by decide +kernel
  rcases Bool.or_eq_true_iff.1 h with h | h
  · exact RangeTable.not_contains_of_apart hstart h
  · exact RangeTable.not_contains_of_apart hextend h

end CodePoint

namespace Text

/-- All characters are printable. -/
def Printable (t : Text) : Prop := ∀ c ∈ t, c.isPrintable = true

/-- Printable ASCII characters only. -/
def isPlain (s : String) : Bool :=
  s.toList.all fun c => decide (0x20 ≤ c.toNat) && decide (c.toNat ≤ 0x7e)

@[simp] lemma printable_nil : Printable [] := by simp [Printable]

@[simp] lemma printable_cons (c : CodePoint) (t : Text) :
    Printable (c :: t) ↔ c.isPrintable = true ∧ Printable t := by
  simp [Printable]

@[simp] lemma printable_append (t u : Text) :
    Printable (t ++ u) ↔ Printable t ∧ Printable u := by
  simp [Printable, or_imp, forall_and]

lemma printable_join {separator : Text} (hseparator : Printable separator) {parts : List Text}
    (h : ∀ part ∈ parts, Printable part) : Printable (join separator parts) := by
  fun_induction join separator parts with
  | case1 => simp
  | case2 t => exact h t (by simp)
  | case3 t rest _ ih =>
    simp only [printable_append]
    exact ⟨⟨h t (by simp), hseparator⟩, ih fun part hpart => h part (by simp [hpart])⟩

lemma Printable.sublist {t u : Text} (h : Printable u) (hsub : t.Sublist u) : Printable t :=
  fun c hc => h c (hsub.subset hc)

lemma isPrintable_ofChar {c : Char} (h : (decide (0x20 ≤ c.toNat) && decide (c.toNat ≤ 0x7e)) = true) :
    (CodePoint.ofChar c).isPrintable = true := by
  simp only [Bool.and_eq_true, decide_eq_true_eq] at h
  exact CodePoint.isPrintable_of_ascii h.1 h.2

lemma printable_ofString {s : String} (h : isPlain s = true) : Printable (ofString s) := by
  intro c hc
  obtain ⟨d, hd, rfl⟩ := List.mem_map.1 hc
  exact isPrintable_ofChar (List.all_eq_true.1 h d hd)

/-- Printable characters only, and none that ends a word or a header. -/
def Solid (t : Text) : Prop :=
  ∀ c ∈ t, c.isPrintable = true ∧ c.isBlank = false ∧ c ≠ CodePoint.ofChar ':'

/-- Visible ASCII characters other than the colon only. -/
def isSolid (s : String) : Bool :=
  s.toList.all fun c => decide (0x21 ≤ c.toNat) && decide (c.toNat ≤ 0x7e) && c != ':'

lemma Solid.printable {t : Text} (h : Solid t) : Printable t := fun c hc => (h c hc).1

lemma Solid.sublist {t u : Text} (h : Solid u) (hsub : t.Sublist u) : Solid t :=
  fun c hc => h c (hsub.subset hc)

lemma solid_ofString {s : String} (h : isSolid s = true) : Solid (ofString s) := by
  have hall : ∀ n ≤ 0x7e, 0x21 ≤ n → (CodePoint.ofChar (Char.ofNat n)).isBlank = false := by
    decide +kernel
  intro c hc
  obtain ⟨d, hd, rfl⟩ := List.mem_map.1 hc
  have hd := List.all_eq_true.1 h d hd
  simp only [Bool.and_eq_true, decide_eq_true_eq, bne_iff_ne] at hd
  obtain ⟨⟨hlow, hhigh⟩, hcolon⟩ := hd
  refine ⟨CodePoint.isPrintable_of_ascii (Nat.le_of_succ_le hlow) hhigh, ?_, ?_⟩
  · simpa using hall d.toNat hhigh hlow
  · rwa [Ne, CodePoint.ofChar_inj]

/-! Numerals. -/

/-- Only characters that numerals are made of. -/
def Numeral (t : Text) : Prop := ∀ c ∈ t, c ∈ ofString "0123456789.e+-"

@[simp] lemma numeral_nil : Numeral [] := by simp [Numeral]

@[simp] lemma numeral_cons (c : CodePoint) (t : Text) :
    Numeral (c :: t) ↔ c ∈ ofString "0123456789.e+-" ∧ Numeral t := by
  simp [Numeral]

@[simp] lemma numeral_append (t u : Text) : Numeral (t ++ u) ↔ Numeral t ∧ Numeral u := by
  simp [Numeral, or_imp, forall_and]

lemma Numeral.sublist {t u : Text} (h : Numeral u) (hsub : t.Sublist u) : Numeral t :=
  fun c hc => h c (hsub.subset hc)

lemma digit_of_mem_ofNat {n : Nat} {c : CodePoint} (h : c ∈ ofNat n) :
    0x30 ≤ c.val ∧ c.val ≤ 0x39 := by
  obtain ⟨d, hd, rfl⟩ := List.mem_map.1 h
  have hdigit := Nat.isDigit_of_mem_toDigits (by decide) (by decide) hd
  simp only [Char.isDigit, Bool.and_eq_true, decide_eq_true_eq, ge_iff_le,
    UInt32.le_iff_toNat_le] at hdigit
  exact hdigit

lemma numeral_ofNat (n : Nat) : Numeral (ofNat n) := by
  have hdigits : ∀ k < 0x3a, 0x30 ≤ k →
      CodePoint.ofChar (Char.ofNat k) ∈ ofString "0123456789.e+-" := by
    decide +kernel
  intro c hc
  obtain ⟨hlow, hhigh⟩ := digit_of_mem_ofNat hc
  obtain ⟨d, -, rfl⟩ := List.mem_map.1 hc
  simpa using hdigits d.toNat (Nat.lt_succ_of_le hhigh) hlow

lemma numeral_ofInt (n : Int) : Numeral (ofInt n) := by
  cases n with
  | ofNat n => exact numeral_ofNat n
  | negSucc n =>
    rw [ofInt, numeral_cons]
    exact ⟨by decide, numeral_ofNat (n + 1)⟩

/-! Escaped texts. -/

lemma printsAscii_isPrintable : CodePoint.PrintsAscii CodePoint.isPrintable :=
  fun _ hlow hhigh => CodePoint.isPrintable_of_ascii hlow hhigh

/-- No character of a comment can leave its line. -/
lemma printable_escapeComment (t : Text) : Printable (escapeComment t) :=
  fun _ hc => (stands_of_mem_escapeComment printsAscii_isPrintable hc).prints

/-- No character of a string literal can leave its line. -/
lemma printable_quote (t : Text) : Printable (quote t) :=
  fun _ hc => (stands_of_mem_quote printsAscii_isPrintable hc).prints

end Text

namespace Double

open Text

lemma numeral_layout (d : Decimal) : Numeral (layout d) := by
  have hwords : ∀ s ∈ ["0", "e", "-", "+", "0.", ".0", "."], Numeral (ofString s) := by
    unfold Numeral
    decide +kernel
  simp only [List.forall_mem_cons] at hwords
  have hzeros : ∀ n, Numeral (List.replicate n (CodePoint.ofChar '0')) :=
    fun n c hc => hwords.1 c (by simp [List.eq_of_mem_replicate hc, ofString])
  have hpoint : CodePoint.ofChar '.' ∈ ofString "0123456789.e+-" := by decide
  have hdigits : ∀ n, Numeral (ofNat n) := numeral_ofNat
  have htake : ∀ n, Numeral ((ofNat d.digits).take n) :=
    fun n => (hdigits _).sublist (List.take_sublist n _)
  have hdrop : ∀ n, Numeral ((ofNat d.digits).drop n) :=
    fun n => (hdigits _).sublist (List.drop_sublist n _)
  simp only [layout]
  split_ifs <;>
    simp only [numeral_append, numeral_cons, numeral_nil, hpoint, hzeros, hdigits, htake, hdrop,
      hwords, and_self]

lemma layout_ne_nil (d : Decimal) : layout d ≠ [] := by
  have hwords : ofString "e" ≠ [] ∧ ofString "0." ≠ [] ∧ ofString ".0" ≠ [] ∧ ofString "." ≠ [] := by
    decide
  simp only [layout]
  split_ifs <;>
    simp only [ne_eq, List.append_eq_nil_iff, hwords, and_false, false_and, not_false_eq_true]

/-- The text of a finite double is a numeral. -/
lemma numeral_text (negative : Bool) (significand : Nat) (exponent : Int) :
    Numeral (text (.finite negative significand exponent)) ∧
      text (.finite negative significand exponent) ≠ [] := by
  have hsign : Numeral (if negative then ofString "-" else []) := by
    unfold Numeral
    cases negative <;> decide
  have hzero : Numeral (ofString "0.0") ∧ ofString "0.0" ≠ [] := by
    unfold Numeral
    decide
  have hlayout := numeral_layout (shortest significand exponent)
  have hne := layout_ne_nil (shortest significand exponent)
  rw [text, textWith, numeral_append]
  by_cases hsignificand : significand = 0
  · rw [if_pos hsignificand]
    exact ⟨⟨hsign, hzero.1⟩, List.append_ne_nil_of_right_ne_nil _ hzero.2⟩
  · rw [if_neg hsignificand]
    exact ⟨⟨hsign, hlayout⟩, List.append_ne_nil_of_right_ne_nil _ hne⟩

end Double

end EventScript
