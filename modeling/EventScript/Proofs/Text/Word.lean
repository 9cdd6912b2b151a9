import EventScript.Proofs.Text.Printable

/-! Names, and the word that a line starts with. Words of the library's own vocabulary are ASCII, so
that a test on their characters decides whether they are names. -/
namespace EventScript

namespace CodePoint

lemma isIdentifierContinue_of_start {c : CodePoint} (h : c.isIdentifierStart = true) :
    c.isIdentifierContinue = true := by
  rw [isIdentifierContinue, h, Bool.true_or]

lemma isIdentifierContinue_of_digit {c : CodePoint} (hlow : 0x30 ≤ c.val) (hhigh : c.val ≤ 0x39) :
    c.isIdentifierContinue = true := by
  have hdigits : ∀ n < 0x3a, 0x30 ≤ n → identifierExtendRanges.contains n = true := by
    decide +kernel
  rw [isIdentifierContinue, hdigits c.val (by omega) hlow, Bool.or_true]

end CodePoint

namespace Text

/-- The longest word at the start of a text. -/
def leadingWord (t : Text) : Text := t.takeWhile CodePoint.isIdentifierContinue

/-- A text that starts with a name. -/
def Headed (t : Text) : Prop := t.leadingWord.isName = true

/-- A text that no word at the end of another text can be continued by. -/
def Breaks (t : Text) : Prop := ∀ c ∈ t.head?, c.isIdentifierContinue = false

instance (t : Text) : Decidable t.Breaks :=
  inferInstanceAs (Decidable (∀ c ∈ t.head?, c.isIdentifierContinue = false))

/-- What stands behind a text does not matter to its first word, unless it continues the text. -/
lemma leadingWord_append {t rest : Text} (hrest : Breaks rest) :
    leadingWord (t ++ rest) = leadingWord t := by
  have hnone : rest.takeWhile CodePoint.isIdentifierContinue = [] := by
    cases rest with
    | nil => rfl
    | cons c rest => simp [hrest c rfl]
  rw [leadingWord, List.takeWhile_append, hnone, List.append_nil]
  split_ifs with hlength
  · exact (List.takeWhile_prefix _).eq_of_length hlength |>.symm
  · rfl

lemma leadingWord_of_continues {t : Text} (h : ∀ c ∈ t, c.isIdentifierContinue = true) :
    leadingWord t = t :=
  List.takeWhile_eq_self_iff.2 h

lemma continues_of_isName {t : Text} (h : t.isName = true) :
    ∀ c ∈ t, c.isIdentifierContinue = true := by
  have hidentifier : t.isIdentifier = true := (Bool.and_eq_true_iff.1 h).1
  cases t with
  | nil => cases hidentifier
  | cons c rest =>
    obtain ⟨hstart, hrest⟩ := Bool.and_eq_true_iff.1 hidentifier
    rw [List.forall_mem_cons]
    exact ⟨CodePoint.isIdentifierContinue_of_start hstart, List.all_eq_true.1 hrest⟩

lemma ne_nil_of_isName {t : Text} (h : t.isName = true) : t ≠ [] := by
  rintro rfl
  cases h

lemma headed_of_isName {word : Text} (h : word.isName = true) : Headed word := by
  rw [Headed, leadingWord_of_continues (continues_of_isName h)]
  exact h

lemma Headed.append {t rest : Text} (h : Headed t) (hrest : Breaks rest) : Headed (t ++ rest) := by
  rw [Headed, leadingWord_append hrest]
  exact h

lemma isIdentifier_append {t rest : Text} (h : t.isIdentifier = true)
    (hrest : ∀ c ∈ rest, c.isIdentifierContinue = true) : (t ++ rest).isIdentifier = true := by
  cases t with
  | nil => cases h
  | cons c t =>
    obtain ⟨hstart, ht⟩ := Bool.and_eq_true_iff.1 h
    simp only [List.cons_append, isIdentifier, List.all_append, Bool.and_eq_true]
    exact ⟨hstart, ht, List.all_eq_true.2 hrest⟩

/-- Keywords have no underscore, so an identifier with one is a name. -/
lemma isName_of_underscore {t : Text} (hidentifier : t.isIdentifier = true)
    (h : CodePoint.ofChar '_' ∈ t) : t.isName = true := by
  have hkeywords : ∀ word ∈ keywords, CodePoint.ofChar '_' ∉ ofString word := by decide +kernel
  rw [isName, hidentifier, Bool.true_and, Bool.not_eq_true', isKeyword, List.any_eq_false]
  intro word hword heq
  rw [← of_decide_eq_true heq] at h
  exact hkeywords word hword h

/-! What a line may start with. -/

/-- The words that lines of control start with. -/
def controlWords : List Text := ["if", "elif", "else", "while", "pass", "break"]

lemma not_mem_controlWords {word : Text} (h : word.isKeyword = false) : word ∉ controlWords := by
  have hkeywords : ∀ word ∈ controlWords, word.isKeyword = true := by decide +kernel
  intro hmem
  rw [hkeywords word hmem] at h
  cases h

/-- A text that ends neither in a blank nor in a colon. -/
def Closed (t : Text) : Prop :=
  ∃ c ∈ t.getLast?, c.isBlank = false ∧ c ≠ CodePoint.ofChar ':'

instance (t : Text) : Decidable t.Closed :=
  inferInstanceAs (Decidable (∃ c ∈ t.getLast?, c.isBlank = false ∧ c ≠ CodePoint.ofChar ':'))

lemma Closed.append {rest : Text} (h : Closed rest) (t : Text) : Closed (t ++ rest) := by
  obtain ⟨c, hc, hends⟩ := h
  exact ⟨c, by simp [List.getLast?_append, Option.mem_def.1 hc], hends⟩

/-- A printable text that ends neither in a blank nor in a colon. -/
structure Ending (t : Text) : Prop where
  printable : Printable t
  closed : Closed t

lemma Ending.append {rest : Text} (h : Ending rest) {t : Text} (ht : Printable t) :
    Ending (t ++ rest) where
  printable := (printable_append t rest).2 ⟨ht, h.printable⟩
  closed := h.closed.append t

lemma Solid.ending {t : Text} (h : Solid t) (hne : t ≠ []) : Ending t where
  printable := h.printable
  closed := ⟨t.getLast hne, by simp [List.getLast?_eq_some_getLast hne],
    (h _ (List.getLast_mem hne)).2⟩

lemma solid_of_isName {t : Text} (h : t.isName = true) : Solid t := by
  have hcolon : (CodePoint.ofChar ':').isIdentifierContinue = false := by decide +kernel
  intro c hc
  have hcontinue := continues_of_isName h c hc
  refine ⟨CodePoint.isPrintable_of_identifier hcontinue,
    CodePoint.not_isBlank_of_identifier hcontinue, ?_⟩
  rintro rfl
  rw [hcontinue] at hcolon
  cases hcolon

/-- A text that may stand on a line: it starts neither with a blank nor with a word of control. -/
structure Phrase (t : Text) : Prop extends Ending t where
  starts : ∃ c ∈ t.head?, c.isBlank = false
  word : t.leadingWord ∉ controlWords

lemma Phrase.append {t rest : Text} (h : Phrase t) (hbreaks : Breaks rest)
    (hrest : Ending rest) : Phrase (t ++ rest) where
  toEnding := hrest.append h.printable
  starts := by
    obtain ⟨c, hc, hblank⟩ := h.starts
    exact ⟨c, by simp [List.head?_append, Option.mem_def.1 hc], hblank⟩
  word := by
    rw [leadingWord_append hbreaks]
    exact h.word

lemma Headed.not_control {t : Text} (h : Headed t) : t.leadingWord ∉ controlWords :=
  not_mem_controlWords (by simpa using (Bool.and_eq_true_iff.1 h).2)

/-- What starts with a name does not start with a blank. -/
lemma Headed.starts {t : Text} (h : Headed t) : ∃ c ∈ t.head?, c.isBlank = false := by
  cases t with
  | nil => cases h
  | cons c t =>
    refine ⟨c, rfl, CodePoint.not_isBlank_of_identifier ?_⟩
    by_contra hc
    rw [Headed, leadingWord, List.takeWhile_cons_of_neg hc] at h
    cases h

/-- What starts with a name is a phrase. -/
lemma Headed.phrase {t : Text} (h : Headed t) (hending : Ending t) : Phrase t where
  toEnding := hending
  starts := h.starts
  word := h.not_control

lemma phrase_of_isName {t : Text} (h : t.isName = true) : Phrase t :=
  (headed_of_isName h).phrase ((solid_of_isName h).ending (ne_nil_of_isName h))

/-- What starts with a mark is a phrase. -/
lemma phrase_of_mark {c : CodePoint} {t : Text} (hcontinue : c.isIdentifierContinue = false)
    (hblank : c.isBlank = false) (h : Ending (c :: t)) : Phrase (c :: t) where
  toEnding := h
  starts := ⟨c, rfl, hblank⟩
  word := by
    rw [leadingWord, List.takeWhile_cons_of_neg (by simp [hcontinue])]
    decide

/-- Words of control are not made of the characters of numerals. -/
lemma Numeral.phrase {t : Text} (h : Numeral t) (hne : t ≠ []) : Phrase t := by
  have hsolid : Solid t := fun c hc => solid_ofString (by decide) c (h c hc)
  refine ⟨hsolid.ending hne, ?_, ?_⟩
  · obtain ⟨c, rest, rfl⟩ := List.exists_cons_of_ne_nil hne
    exact ⟨c, rfl, (hsolid c (by simp)).2.1⟩
  · have hwords : ∀ word ∈ controlWords, ∃ c ∈ word, c ∉ ofString "0123456789.e+-" := by
      decide +kernel
    intro hmem
    obtain ⟨c, hc, hnot⟩ := hwords _ hmem
    exact hnot (h c ((List.takeWhile_sublist _).subset hc))

/-! The vocabulary. -/

/-- An ASCII character that may stand in a name. -/
def isWordChar (c : Char) : Bool := c.isAlphanum || c == '_'

/-- ASCII characters that spell a name. -/
def spellsName : List Char → Bool
  | [] => false
  | c :: rest => isWordChar c && !c.isDigit && rest.all isWordChar &&
    (rest.contains '_' || keywords.all fun word => !(word.toList == c :: rest))

/-- A string that is a name. -/
def isWord (s : String) : Bool := spellsName s.toList

/-- A string of visible characters with a name before its first point. -/
def isPath (s : String) : Bool := isSolid s && spellsName (s.toList.takeWhile (· != '.'))

lemma toNat_le_of_isWordChar {c : Char} (h : isWordChar c = true) : c.toNat ≤ 0x7e := by
  simp only [isWordChar, Char.isAlphanum, Char.isAlpha, Char.isUpper, Char.isLower, Char.isDigit,
    Bool.or_eq_true, Bool.and_eq_true, decide_eq_true_eq, beq_iff_eq,
    UInt32.le_iff_toNat_le] at h
  change c.val.toNat ≤ 0x7e
  rcases h with ((h | h) | h) | rfl
  · exact h.2.trans (by decide)
  · exact h.2.trans (by decide)
  · exact h.2.trans (by decide)
  · decide

lemma isIdentifierContinue_ofChar {c : Char} (h : c.toNat ≤ 0x7e) :
    (CodePoint.ofChar c).isIdentifierContinue = isWordChar c := by
  have hall : ∀ n ≤ 0x7e,
      (CodePoint.ofChar (Char.ofNat n)).isIdentifierContinue = isWordChar (Char.ofNat n) := by
    decide +kernel
  simpa using hall c.toNat h

lemma isIdentifierStart_ofChar {c : Char} (h : c.toNat ≤ 0x7e) :
    (CodePoint.ofChar c).isIdentifierStart = (isWordChar c && !c.isDigit) := by
  have hall : ∀ n ≤ 0x7e, (CodePoint.ofChar (Char.ofNat n)).isIdentifierStart =
      (isWordChar (Char.ofNat n) && !(Char.ofNat n).isDigit) := by
    decide +kernel
  simpa using hall c.toNat h

lemma isName_of_spellsName {cs : List Char} (h : spellsName cs = true) :
    isName (cs.map CodePoint.ofChar) = true := by
  cases cs with
  | nil => cases h
  | cons c rest =>
    simp only [spellsName, Bool.and_eq_true, List.all_eq_true] at h
    obtain ⟨⟨⟨hword, hdigit⟩, hrest⟩, hkeyword⟩ := h
    have hidentifier : isIdentifier ((c :: rest).map CodePoint.ofChar) = true := by
      simp only [List.map_cons, isIdentifier, Bool.and_eq_true, List.all_eq_true, List.mem_map,
        forall_exists_index, and_imp, forall_apply_eq_imp_iff₂]
      refine ⟨?_, fun d hd => ?_⟩
      · rw [isIdentifierStart_ofChar (toNat_le_of_isWordChar hword), hword, hdigit]
        rfl
      · rw [isIdentifierContinue_ofChar (toNat_le_of_isWordChar (hrest d hd)), hrest d hd]
    rcases Bool.or_eq_true_iff.1 hkeyword with hunderscore | hkeyword
    · refine isName_of_underscore hidentifier ?_
      exact List.mem_map_of_mem (List.mem_cons_of_mem c (List.contains_iff_mem.1 hunderscore))
    · rw [isName, hidentifier, Bool.true_and, Bool.not_eq_true', isKeyword, List.any_eq_false]
      intro word hmem heq
      have hne := List.all_eq_true.1 hkeyword word hmem
      have heq' : word = String.ofList (c :: rest) := by
        rw [← ofString_inj, of_decide_eq_true heq]
        simp [ofString]
      simp [heq'] at hne

lemma isName_of_isWord {s : String} (h : isWord s = true) : (ofString s).isName = true :=
  isName_of_spellsName h

lemma isName_of_isPath {s : String} (h : isPath s = true) :
    isName ((ofString s).takeWhile (· ≠ CodePoint.ofChar '.')) = true := by
  have hpoint : (fun c : Char => decide (CodePoint.ofChar c ≠ CodePoint.ofChar '.')) =
      (· != '.') := by
    funext c
    rw [Bool.eq_iff_iff, decide_eq_true_eq, Ne, CodePoint.ofChar_inj, bne_iff_ne]
  have hsplit : (ofString s).takeWhile (· ≠ CodePoint.ofChar '.') =
      (s.toList.takeWhile (· != '.')).map CodePoint.ofChar := by
    rw [ofString, List.takeWhile_map]
    exact congrArg (List.map CodePoint.ofChar <| s.toList.takeWhile ·) hpoint
  rw [hsplit]
  exact isName_of_spellsName (Bool.and_eq_true_iff.1 h).2

end Text

end EventScript
