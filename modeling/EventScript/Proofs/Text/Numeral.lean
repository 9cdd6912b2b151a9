import EventScript.Proofs.Text.Printable

/-! Numerals are read back as the numbers they were written from. -/
namespace EventScript

namespace CodePoint

/-- The digits of ASCII are the first of those that numerals may have. -/
lemma digitValue?_ofChar {c : Char} (h : c.isDigit = true) :
    (ofChar c).digitValue? = some (c.toNat - 0x30) := by
  have hrange : 0x30 ≤ c.toNat ∧ c.toNat ≤ 0x39 := by
    simpa [Char.isDigit, UInt32.le_iff_toNat_le] using h
  obtain ⟨rest, htable⟩ : ∃ rest, digitZeros = 0x30 :: rest := ⟨_, rfl⟩
  have hlow : 0x30 ≤ (ofChar c).val := hrange.1
  have hhigh : (ofChar c).val ≤ 0x30 + 9 := hrange.2
  rw [digitValue?, htable, List.find?_cons_of_pos (by simp [hlow, hhigh])]
  rfl

end CodePoint

namespace Text

lemma readDigits_map {digits : List Char} (h : ∀ c ∈ digits, c.isDigit = true) (value : Nat)
    (afterDigit : Bool) (hne : digits = [] → afterDigit = true) :
    readDigits value afterDigit (digits.map CodePoint.ofChar) =
      some (Nat.ofDigitChars 10 digits value) := by
  induction digits generalizing value afterDigit with
  | nil => simp [readDigits, hne rfl]
  | cons c digits ih =>
    have hc := CodePoint.digitValue?_ofChar (h c (by simp))
    rw [List.map_cons, readDigits, hc, Nat.ofDigitChars_cons]
    apply ih
    · intro d hd
      exact h d (by simp [hd])
    · intro _
      rfl

lemma toNat?_ofNat (n : Nat) : toNat? (ofNat n) = some n := by
  have hdigits : ∀ c ∈ Nat.toDigits 10 n, c.isDigit = true := fun c hc =>
    Nat.isDigit_of_mem_toDigits (by decide) (by decide) hc
  rw [toNat?, ofNat, readDigits_map hdigits 0 false fun hnil => absurd hnil Nat.toDigits_ne_nil,
    Nat.ofDigitChars_ten_toDigits]

/-- A text without characters of some kind has none of them at its ends. -/
lemma strip_eq_self {p : CodePoint → Bool} {t : Text} (h : ∀ c ∈ t, p c = false) :
    dropEndWhile p (t.dropWhile p) = t := by
  have hdrop : ∀ u : Text, (∀ c ∈ u, p c = false) → u.dropWhile p = u := by
    intro u hu
    cases u with
    | nil => rfl
    | cons c u => simp [hu c (by simp)]
  have hreverse : ∀ c ∈ t.reverse, p c = false := fun c hc => h c (List.mem_reverse.1 hc)
  rw [hdrop t h, dropEndWhile, hdrop _ hreverse, List.reverse_reverse]

lemma strip_ofInt (n : Int) :
    dropEndWhile CodePoint.isNumeralBlank ((ofInt n).dropWhile CodePoint.isNumeralBlank) =
      ofInt n := by
  have hall : ∀ c ∈ ofString "0123456789.e+-", c.isNumeralBlank = false := by decide +kernel
  apply strip_eq_self
  intro c hc
  exact hall c (numeral_ofInt n c hc)

lemma toInt?_ofInt (n : Int) : toInt? (ofInt n) = some n := by
  rw [toInt?, strip_ofInt]
  cases n with
  | negSucc n =>
    simp only [ofInt, if_true, toNat?_ofNat, Option.map_some]
    rfl
  | ofNat n =>
    rw [ofInt]
    cases hdigits : ofNat n with
    | nil =>
      have hne : ofNat n ≠ [] := by simp [ofNat]
      exact absurd hdigits hne
    | cons c rest =>
      -- The first character is a digit and no sign.
      have hdigit : 0x30 ≤ c.val := (digit_of_mem_ofNat (n := n) (by simp [hdigits])).1
      have hminus : c ≠ CodePoint.ofChar '-' := by
        rintro rfl
        exact absurd hdigit (by decide)
      have hplus : c ≠ CodePoint.ofChar '+' := by
        rintro rfl
        exact absurd hdigit (by decide)
      simp only [hminus, hplus, if_false, ← hdigits, toNat?_ofNat, Option.map_some]

end Text

end EventScript
