import EventScript.Json.Parser
import EventScript.Proofs.Text.Printable

/-! Quoted texts are read back. A reader goes through a text character by character up to the quote
that ends it; behind a quoted text it stops at the closing quote and nowhere before it, whatever
follows. -/
namespace EventScript

namespace Text

open CodePoint

/-- What a reader is in the middle of between two quotes: nothing, an escape whose backslash it has
passed, or the number in an escape, of which some digits are missing. -/
inductive QuoteState where
  | plain
  | escape
  | number (missing value : Nat)

/-- A character in front of what the text behind it is read as. -/
def prepend (c : CodePoint) (result : Option (Text × Text)) : Option (Text × Text) :=
  result.map fun (t, rest) => (c :: t, rest)

/-- The text up to a closing quote, and what is behind the quote. A line end or a surrogate may only
be spelled. -/
def unquoteFrom? (mark : CodePoint) : QuoteState → Text → Option (Text × Text)
  | _, [] => none
  | .plain, c :: rest =>
    if c = mark then some ([], rest)
    else if c = backslash then unquoteFrom? mark .escape rest
    else if c = newline ∨ c = carriageReturn ∨ c.isSurrogate then none
    else prepend c (unquoteFrom? mark .plain rest)
  | .escape, c :: rest =>
    match hexWidth? c with
    | some width => unquoteFrom? mark (.number width 0) rest
    | none => match escapeOf? c with
      | some d => prepend d (unquoteFrom? mark .plain rest)
      | none => none
  | .number missing value, c :: rest =>
    match Json.Parser.hexValue? c with
    | none => none
    | some digit =>
      if 1 < missing then unquoteFrom? mark (.number (missing - 1) (16 * value + digit)) rest
      else match CodePoint.ofNat? (16 * value + digit) with
        | some d => prepend d (unquoteFrom? mark .plain rest)
        | none => none

/-- The text that a literal at the start of a text stands for, and what is behind the literal. -/
def unquote? (mark : CodePoint) : Text → Option (Text × Text)
  | [] => none
  | c :: rest => if c = mark then unquoteFrom? mark .plain rest else none

/-! ### Numbers in escapes -/

lemma hexValue?_hexDigit (n : Nat) : Json.Parser.hexValue? (hexDigit n) = some (n % 16) := by
  have hall : ∀ d < 16, Json.Parser.hexValue? (CodePoint.ofChar (Nat.digitChar d)) = some d := by
    decide
  exact hall (n % 16) (Nat.mod_lt n (by decide))

/-- The first digit is the most significant one. -/
lemma hex_succ (width n : Nat) :
    hex (width + 1) n = hexDigit (n / 16 ^ width) :: hex width n := by
  induction width generalizing n with
  | zero => simp [hex]
  | succ width ih =>
    have hdigit : n / 16 / 16 ^ width = n / 16 ^ (width + 1) := by
      rw [Nat.div_div_eq_div_mul, pow_succ']
    calc hex (width + 2) n
        = hex (width + 1) (n / 16) ++ [hexDigit n] := rfl
      _ = hexDigit (n / 16 ^ (width + 1)) :: hex width (n / 16) ++ [hexDigit n] := by
          rw [ih, hdigit]
      _ = hexDigit (n / 16 ^ (width + 1)) :: hex (width + 1) n := rfl

/-- One more digit of a number. -/
lemma div_pow_succ (n width : Nat) :
    16 * (n / 16 ^ (width + 1)) + n / 16 ^ width % 16 = n / 16 ^ width := by
  rw [pow_succ, ← Nat.div_div_eq_div_mul]
  omega

-- The value that has been read is the number without the digits that are missing.
lemma unquoteFrom?_hex (mark c : CodePoint) (width : Nat) (rest : Text) :
    unquoteFrom? mark (.number (width + 1) (c.val / 16 ^ (width + 1)))
        (hex (width + 1) c.val ++ rest) =
      prepend c (unquoteFrom? mark .plain rest) := by
  induction width with
  | zero =>
    have hvalue := div_pow_succ c.val 0
    have hc : CodePoint.ofNat? c.val = some c := dif_pos c.isLt
    rw [hex_succ, List.cons_append, unquoteFrom?, hexValue?_hexDigit]
    simp only [zero_add, lt_irrefl, if_false]
    rw [hvalue, pow_zero, Nat.div_one, hc]
    rfl
  | succ width ih =>
    have hvalue := div_pow_succ c.val (width + 1)
    rw [hex_succ, List.cons_append, unquoteFrom?, hexValue?_hexDigit]
    have hmissing : 1 < width + 1 + 1 := by omega
    simp only [hmissing, if_true, hvalue]
    exact ih

/-! ### Literals -/

variable {printable : CodePoint → Bool} {mark : CodePoint}

/-- A spelled character is read as one character. -/
lemma Spelled.unquote (hmark : mark ≠ backslash) {c : CodePoint} {t : Text}
    (h : Spelled (fun c => c.Stands printable ∧ c ≠ backslash ∧ c ≠ mark) c t) (rest : Text) :
    unquoteFrom? mark .plain (t ++ rest) = prepend c (unquoteFrom? mark .plain rest) := by
  have hescape : ∀ behind, unquoteFrom? mark .plain (backslash :: behind) =
      unquoteFrom? mark .escape behind := by
    intro behind
    rw [unquoteFrom?, if_neg hmark.symm, if_pos rfl]
  cases h with
  | self hkept =>
    obtain ⟨hstands, hbackslash, hquote⟩ := hkept
    have hplain : ¬(c = newline ∨ c = carriageReturn ∨ c.isSurrogate = true) := by
      simp [hstands.ne_newline, hstands.ne_carriageReturn, hstands.not_surrogate]
    rw [List.singleton_append, unquoteFrom?, if_neg hquote, if_neg hbackslash, if_neg hplain]
  | mark d hd =>
    have hcons : charEscape d ++ rest = backslash :: d :: rest := rfl
    rw [hcons, hescape, unquoteFrom?, hexWidth?_of_escapeOf? hd, hd]
  | number letter width hletter hval =>
    have hcons : hexEscape letter width c.val ++ rest =
        backslash :: letter :: (hex width c.val ++ rest) := rfl
    have hpos : 0 < width := by
      unfold hexWidth? at hletter
      split_ifs at hletter <;> simp only [Option.some.injEq] at hletter <;> omega
    obtain ⟨more, rfl⟩ : ∃ more, width = more + 1 := ⟨width - 1, by omega⟩
    rw [hcons, hescape, unquoteFrom?, hletter]
    simp only
    rw [← Nat.div_eq_of_lt hval]
    exact unquoteFrom?_hex mark c more rest

/-- A literal is read back, and the reader stops behind its closing quote. -/
lemma unquote?_of_spelled (hmark : mark ≠ backslash) {spell : CodePoint → Text}
    (h : ∀ c, Spelled (fun c => c.Stands printable ∧ c ≠ backslash ∧ c ≠ mark) c (spell c))
    (t rest : Text) :
    unquote? mark (mark :: t.flatMap spell ++ [mark] ++ rest) = some (t, rest) := by
  have hbody : unquoteFrom? mark .plain (t.flatMap spell ++ mark :: rest) = some (t, rest) := by
    induction t with
    | nil => rw [List.flatMap_nil, List.nil_append, unquoteFrom?, if_pos rfl]
    | cons c t ih =>
      rw [List.flatMap_cons, List.append_assoc, (h c).unquote hmark, ih]
      rfl
  simpa [unquote?] using hbody

lemma unquote?_quoteWith (printable : CodePoint → Bool) (t rest : Text) :
    unquote? singleQuote (quoteWith printable t ++ rest) = some (t, rest) :=
  unquote?_of_spelled (by decide) (spelled_literalChar printable) t rest

/-! ### Characters that are not escaped -/

/-- The characters of a text that no backslash escapes, the backslashes apart that escape one. -/
def bare : Text → Text
  | [] => []
  | [c] => if c = backslash then [] else [c]
  | c :: d :: rest => if c = backslash then bare rest else c :: bare (d :: rest)

lemma bare_cons {c : CodePoint} (h : c ≠ backslash) (rest : Text) :
    bare (c :: rest) = c :: bare rest := by
  cases rest with
  | nil => simp [bare, h]
  | cons d rest => simp [bare, h]

lemma bare_escape (c : CodePoint) (rest : Text) : bare (backslash :: c :: rest) = bare rest := by
  simp [bare]

lemma bare_append {t : Text} (h : backslash ∉ t) (rest : Text) :
    bare (t ++ rest) = t ++ bare rest := by
  induction t with
  | nil => rfl
  | cons c t ih =>
    rw [List.mem_cons, not_or] at h
    rw [List.cons_append, bare_cons (Ne.symm h.1), ih h.2, List.cons_append]

/-- No spelling has a quote that is not escaped. -/
lemma Spelled.not_mem_bare {c : CodePoint} {t : Text}
    (h : Spelled (fun c => c.Stands printable ∧ c ≠ backslash ∧ c ≠ singleQuote) c t) {rest : Text}
    (hrest : singleQuote ∉ bare rest) : singleQuote ∉ bare (t ++ rest) := by
  cases h with
  | self hkept =>
    rw [List.singleton_append, bare_cons hkept.2.1, List.mem_cons, not_or]
    exact ⟨hkept.2.2.symm, hrest⟩
  | mark d hd => simpa [charEscape, bare_escape] using hrest
  | number letter width hletter hval =>
    have hdigits : backslash ∉ hexDigits ∧ singleQuote ∉ hexDigits := by decide
    have hbackslash : backslash ∉ hex width c.val := fun hmem => hdigits.1 (mem_hexDigits hmem)
    have hquote : singleQuote ∉ hex width c.val := fun hmem => hdigits.2 (mem_hexDigits hmem)
    rw [hexEscape, List.cons_append, List.cons_append, bare_escape, bare_append hbackslash,
      List.mem_append, not_or]
    exact ⟨hquote, hrest⟩

lemma not_mem_bare_literal (printable : CodePoint → Bool) (t : Text) :
    singleQuote ∉ bare (t.flatMap (literalCharWith printable)) := by
  induction t with
  | nil => simp [bare]
  | cons c t ih =>
    rw [List.flatMap_cons]
    exact (spelled_literalChar printable c).not_mem_bare ih

/-- A literal stands between single quotes, with no line end and no surrogate between them and no
quote that is not escaped. It is read back as the text it was written from, and reading stops behind
it whatever follows. Literals and comments consist of printable characters, and to escape a comment
again changes nothing. -/
theorem quote_roundTrip {printable : CodePoint → Bool} (ascii : PrintsAscii printable) (t : Text) :
    (∃ body, quoteWith printable t = singleQuote :: body ++ [singleQuote] ∧
      singleQuote ∉ bare body ∧
      ∀ c ∈ body, c ≠ newline ∧ c ≠ carriageReturn ∧ c.isSurrogate = false) ∧
    (∀ rest, unquote? singleQuote (quoteWith printable t ++ rest) = some (t, rest)) ∧
    (∀ c ∈ quoteWith printable t, printable c = true) ∧
    (∀ c ∈ escapeCommentWith printable t, printable c = true) ∧
    escapeCommentWith printable (escapeCommentWith printable t) =
      escapeCommentWith printable t := by
  refine ⟨⟨_, rfl, not_mem_bare_literal printable t, ?_⟩, unquote?_quoteWith printable t,
    ?_, ?_, ?_⟩
  · intro c hc
    have hstands := stands_of_mem_literal ascii hc
    exact ⟨hstands.ne_newline, hstands.ne_carriageReturn, hstands.not_surrogate⟩
  · intro c hc
    exact (stands_of_mem_quote ascii hc).prints
  · intro c hc
    exact (stands_of_mem_escapeComment ascii hc).prints
  · apply escapeComment_of_stands
    intro c hc
    exact stands_of_mem_escapeComment ascii hc

/-- A quote, a backslash, a line end, two surrogates in a row and a digit behind them. -/
theorem quote_roundTrip_surrogates :
    let t : Text := ofString "'\\\n" ++ [⟨0xd83d, by decide⟩, ⟨0xde00, by decide⟩] ++ ofString "0"
    PrintsAscii isPrintable ∧
      quote t = "'\\'\\\\\\n\\ud83d\\ude000'" ∧
      unquote? singleQuote (quote t ++ ofString "'") = some (t, ofString "'") := by
  intro t
  have h := quote_roundTrip printsAscii_isPrintable t
  exact ⟨printsAscii_isPrintable, by decide +kernel, h.2.1 _⟩

end Text

end EventScript
