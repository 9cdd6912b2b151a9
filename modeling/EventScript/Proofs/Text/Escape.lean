import EventScript.Text.Quoted
import Mathlib

/-! Escapes. A character of a written text stands for itself, or is spelled by a letter or by its
number behind a backslash. What is known about comments and quoted texts follows from these three
cases. -/
namespace EventScript

namespace CodePoint

/-- Whether a character may stand in a line as it is, where `printable` says which ones print. -/
structure Stands (printable : CodePoint → Bool) (c : CodePoint) : Prop where
  visible : 0x20 ≤ c.val
  not_delete : c.val ≠ 0x7f
  not_surrogate : c.isSurrogate = false
  prints : printable c = true

/-- The ASCII characters from the space on print, the last of them apart. -/
def PrintsAscii (printable : CodePoint → Bool) : Prop :=
  ∀ c : CodePoint, 0x20 ≤ c.val → c.val ≤ 0x7e → printable c = true

variable {printable : CodePoint → Bool}

lemma stands_of_ascii (ascii : PrintsAscii printable) {c : CodePoint} (hlow : 0x20 ≤ c.val)
    (hhigh : c.val ≤ 0x7e) : c.Stands printable where
  visible := hlow
  not_delete := by omega
  not_surrogate := by
    rw [isSurrogate, Bool.and_eq_false_iff]
    left
    apply decide_eq_false
    omega
  prints := ascii c hlow hhigh

lemma Stands.ne_newline {c : CodePoint} (h : c.Stands printable) : c ≠ newline := by
  rintro rfl
  exact absurd h.visible (by decide)

lemma Stands.ne_carriageReturn {c : CodePoint} (h : c.Stands printable) : c ≠ carriageReturn := by
  rintro rfl
  exact absurd h.visible (by decide)

lemma Stands.ne_tab {c : CodePoint} (h : c.Stands printable) : c ≠ tab := by
  rintro rfl
  exact absurd h.visible (by decide)

end CodePoint

namespace Text

open CodePoint

/-- How many hexadecimal digits a letter behind a backslash asks for. -/
def hexWidth? (c : CodePoint) : Option Nat :=
  if c = 'x' then some 2
  else if c = 'u' then some 4
  else if c = 'U' then some 8
  else none

/-- The character that another one behind a backslash stands for. -/
def escapeOf? (c : CodePoint) : Option CodePoint :=
  if c = backslash ∨ c = singleQuote ∨ c = doubleQuote then some c
  else if c = 'n' then some newline
  else if c = 'r' then some carriageReturn
  else if c = 't' then some tab
  else if c = 'b' then CodePoint.ofNat? 0x08
  else if c = 'f' then CodePoint.ofNat? 0x0c
  else none

/-- The characters that have a meaning behind a backslash without a number. -/
def escapeMarks : List CodePoint :=
  [backslash, singleQuote, doubleQuote, 'n', 'r', 't', 'b', 'f']

lemma mem_escapeMarks {c d : CodePoint} (h : escapeOf? d = some c) : d ∈ escapeMarks := by
  unfold escapeOf? at h
  split_ifs at h with hmark hn hr ht hb hf
  · rcases hmark with rfl | rfl | rfl <;> decide
  all_goals
    subst d
    decide

lemma hexWidth?_of_escapeOf? {c d : CodePoint} (h : escapeOf? d = some c) : hexWidth? d = none := by
  have hall : ∀ d ∈ escapeMarks, hexWidth? d = none := by decide
  exact hall d (mem_escapeMarks h)

lemma ascii_of_escapeOf? {c d : CodePoint} (h : escapeOf? d = some c) :
    0x20 ≤ d.val ∧ d.val ≤ 0x7e := by
  have hall : ∀ d ∈ escapeMarks, 0x20 ≤ d.val ∧ d.val ≤ 0x7e := by decide
  exact hall d (mem_escapeMarks h)

lemma ascii_of_hexWidth? {c : CodePoint} {width : Nat} (h : hexWidth? c = some width) :
    0x20 ≤ c.val ∧ c.val ≤ 0x7e := by
  unfold hexWidth? at h
  split_ifs at h with hx hu hU
  all_goals
    subst c
    decide

/-- The lower case hexadecimal digits. -/
def hexDigits : List CodePoint := (List.range 16).map hexDigit

lemma mem_hexDigits {width n : Nat} {c : CodePoint} (h : c ∈ hex width n) : c ∈ hexDigits := by
  induction width generalizing n with
  | zero => simp [hex] at h
  | succ width ih =>
    rcases List.mem_append.1 h with hfront | hlast
    · exact ih hfront
    · rw [List.mem_singleton.1 hlast]
      refine List.mem_map.2 ⟨n % 16, List.mem_range.2 (Nat.mod_lt n (by decide)), ?_⟩
      rw [hexDigit, hexDigit, Nat.mod_mod]

lemma ascii_of_mem_hex {width n : Nat} {c : CodePoint} (h : c ∈ hex width n) :
    0x20 ≤ c.val ∧ c.val ≤ 0x7e := by
  have hall : ∀ c ∈ hexDigits, 0x20 ≤ c.val ∧ c.val ≤ 0x7e := by decide
  exact hall c (mem_hexDigits h)

/-- How a character is spelled: as it is, which `kept` has to allow, by another one behind a
backslash, or by its number. -/
inductive Spelled (kept : CodePoint → Prop) (c : CodePoint) : Text → Prop
  | self (h : kept c) : Spelled kept c [c]
  | mark (d : CodePoint) (h : escapeOf? d = some c) : Spelled kept c (charEscape d)
  | number (letter : Char) (width : Nat) (h : hexWidth? letter = some width)
      (hval : c.val < 16 ^ width) : Spelled kept c (hexEscape letter width c.val)

lemma Spelled.imp {kept more : CodePoint → Prop} {c : CodePoint} {t : Text}
    (h : Spelled kept c t) (himp : kept c → more c) : Spelled more c t := by
  cases h with
  | self hkept => exact .self (himp hkept)
  | mark d hd => exact .mark d hd
  | number letter width hletter hval => exact .number letter width hletter hval

variable {printable : CodePoint → Bool}

lemma spelled_spell (printable : CodePoint → Bool) (c : CodePoint) :
    Spelled (Stands printable) c (spellWith printable c) := by
  have hbound := c.isLt
  unfold spellWith
  split_ifs with hcontrol hsurrogate hprintable hlarge
  · exact .number 'x' 2 rfl (by omega)
  · have hrange := Bool.and_eq_true_iff.1 hsurrogate
    have hhigh : c.val ≤ 0xdfff := of_decide_eq_true hrange.2
    exact .number 'u' 4 rfl (by omega)
  · exact .self ⟨by omega, by omega, by simpa using hsurrogate, hprintable⟩
  · exact .number 'U' 8 rfl (by omega)
  · exact .number 'u' 4 rfl (by omega)

/-- The escapes of line ends and tabs are letters. -/
lemma lineEscape?_eq_some {c : CodePoint} {t : Text} (h : lineEscape? c = some t) :
    ∃ d, escapeOf? d = some c ∧ t = charEscape d := by
  unfold lineEscape? at h
  split_ifs at h with hnewline hreturn htab
  · exact ⟨'n', by rw [hnewline]; decide, (Option.some.inj h).symm⟩
  · exact ⟨'r', by rw [hreturn]; decide, (Option.some.inj h).symm⟩
  · exact ⟨'t', by rw [htab]; decide, (Option.some.inj h).symm⟩

lemma spelled_commentChar (printable : CodePoint → Bool) (c : CodePoint) :
    Spelled (Stands printable) c (commentCharWith printable c) := by
  unfold commentCharWith
  cases hescape : lineEscape? c with
  | none => exact spelled_spell printable c
  | some t =>
    obtain ⟨d, hd, rfl⟩ := lineEscape?_eq_some hescape
    exact .mark d hd

lemma spelled_literalChar (printable : CodePoint → Bool) (c : CodePoint) :
    Spelled (fun c => c.Stands printable ∧ c ≠ backslash ∧ c ≠ singleQuote) c
      (literalCharWith printable c) := by
  unfold literalCharWith
  split_ifs with hmark
  · apply Spelled.mark c
    rcases hmark with rfl | rfl <;> decide
  · rw [not_or] at hmark
    exact (spelled_commentChar printable c).imp fun h => ⟨h, hmark⟩

/-- A spelling consists of characters that may stand in a line. -/
lemma Spelled.stands (ascii : PrintsAscii printable) {c : CodePoint} {t : Text}
    (h : Spelled (Stands printable) c t) : ∀ d ∈ t, d.Stands printable := by
  have hbackslash : backslash.Stands printable := stands_of_ascii ascii (by decide) (by decide)
  intro d hd
  cases h with
  | self hc =>
    rw [List.mem_singleton.1 hd]
    exact hc
  | mark e he =>
    obtain ⟨hlow, hhigh⟩ := ascii_of_escapeOf? he
    simp only [charEscape, List.mem_cons, List.not_mem_nil, or_false] at hd
    rcases hd with rfl | rfl
    · exact hbackslash
    · exact stands_of_ascii ascii hlow hhigh
  | number letter width hletter hval =>
    obtain ⟨hlow, hhigh⟩ := ascii_of_hexWidth? hletter
    simp only [hexEscape, List.mem_cons] at hd
    rcases hd with rfl | rfl | hdigit
    · exact hbackslash
    · exact stands_of_ascii ascii hlow hhigh
    · obtain ⟨hlow, hhigh⟩ := ascii_of_mem_hex hdigit
      exact stands_of_ascii ascii hlow hhigh

/-- Every character behind a comment sign may stand in a line. -/
lemma stands_of_mem_escapeComment (ascii : PrintsAscii printable) {t : Text} {d : CodePoint}
    (h : d ∈ escapeCommentWith printable t) : d.Stands printable := by
  obtain ⟨c, -, hd⟩ := List.mem_flatMap.1 h
  exact (spelled_commentChar printable c).stands ascii d hd

/-- Every character between the quotes of a literal may stand in a line. -/
lemma stands_of_mem_literal (ascii : PrintsAscii printable) {t : Text} {d : CodePoint}
    (h : d ∈ t.flatMap (literalCharWith printable)) : d.Stands printable := by
  obtain ⟨c, -, hd⟩ := List.mem_flatMap.1 h
  exact ((spelled_literalChar printable c).imp And.left).stands ascii d hd

/-- Every character of a literal may stand in a line. -/
lemma stands_of_mem_quote (ascii : PrintsAscii printable) {t : Text} {d : CodePoint}
    (h : d ∈ quoteWith printable t) : d.Stands printable := by
  have hquote : singleQuote.Stands printable := stands_of_ascii ascii (by decide) (by decide)
  simp only [quoteWith, List.cons_append, List.mem_cons, List.mem_append, List.not_mem_nil,
    or_false] at h
  rcases h with rfl | hbody | rfl
  · exact hquote
  · exact stands_of_mem_literal ascii hbody
  · exact hquote

/-- What may stand in a line is left alone. -/
lemma commentChar_of_stands {c : CodePoint} (h : c.Stands printable) :
    commentCharWith printable c = [c] := by
  have hplain : lineEscape? c = none := by
    simp [lineEscape?, h.ne_newline, h.ne_carriageReturn, h.ne_tab]
  have hvisible : ¬(c.val < 0x20 ∨ c.val = 0x7f) := by
    have hlow := h.visible
    have hdelete := h.not_delete
    omega
  rw [commentCharWith, hplain, Option.getD_none, spellWith, if_neg hvisible, h.not_surrogate,
    h.prints]
  rfl

lemma escapeComment_of_stands {t : Text} (h : ∀ c ∈ t, c.Stands printable) :
    escapeCommentWith printable t = t := by
  induction t with
  | nil => rfl
  | cons c t ih =>
    have hrest := ih fun d hd => h d (by simp [hd])
    rw [escapeCommentWith] at hrest ⊢
    rw [List.flatMap_cons, commentChar_of_stands (h c (by simp)), hrest]
    rfl

end Text

end EventScript
