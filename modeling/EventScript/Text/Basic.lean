/-!
Text as a list of Unicode code points. Stored event data may hold a surrogate that has no
partner, so a code point is any number below `0x110000`, and every text of the library, from a
stored string to a written line, is a list of them.
-/
namespace EventScript

/-- A Unicode code point, surrogates included. -/
structure CodePoint where
  val : Nat
  isLt : val < 0x110000
  deriving DecidableEq

/-- A sequence of code points. -/
abbrev Text := List CodePoint

namespace CodePoint

instance : Inhabited CodePoint := ⟨⟨0, by decide⟩⟩

/-- The code point of a character. -/
def ofChar (c : Char) : CodePoint :=
  ⟨c.toNat, by
    have h := c.valid
    unfold Char.toNat
    rcases h with h | h
    · have h' : c.val.toNat < 0xd800 := h
      omega
    · exact h.2⟩

instance : Coe Char CodePoint := ⟨ofChar⟩

/-- The code point with a given number, if there is one. -/
def ofNat? (n : Nat) : Option CodePoint :=
  if h : n < 0x110000 then some ⟨n, h⟩ else none

/-- Half of a pair that spells a code point above `0xffff`; it means nothing on its own. -/
def isSurrogate (c : CodePoint) : Bool := 0xd800 ≤ c.val && c.val ≤ 0xdfff

/-- An ASCII digit. -/
def isDigit (c : CodePoint) : Bool := 0x30 ≤ c.val && c.val ≤ 0x39

/-- An ASCII letter or digit. -/
def isAlphanumeric (c : CodePoint) : Bool :=
  c.isDigit || (0x41 ≤ c.val && c.val ≤ 0x5a) || (0x61 ≤ c.val && c.val ≤ 0x7a)

def backslash : CodePoint := ⟨0x5c, by decide⟩

def singleQuote : CodePoint := ⟨0x27, by decide⟩

def doubleQuote : CodePoint := ⟨0x22, by decide⟩

def openBrace : CodePoint := ⟨0x7b, by decide⟩

def closeBrace : CodePoint := ⟨0x7d, by decide⟩

def tab : CodePoint := ⟨0x09, by decide⟩

def newline : CodePoint := ⟨0x0a, by decide⟩

def carriageReturn : CodePoint := ⟨0x0d, by decide⟩

/-- The character of a code point; a surrogate, which has none, becomes the replacement
character. -/
def toChar (c : CodePoint) : Char :=
  if c.isSurrogate then Char.ofNat 0xfffd else Char.ofNat c.val

theorem isSurrogate_ofChar (c : Char) : (ofChar c).isSurrogate = false := by
  have h : c.toNat < 0xd800 ∨ 0xdfff < c.toNat ∧ c.toNat < 0x110000 := c.valid
  rw [Bool.eq_false_iff]
  intro surrogate
  obtain ⟨low, high⟩ := Bool.and_eq_true_iff.1 surrogate
  have low : 0xd800 ≤ c.toNat := of_decide_eq_true low
  have high : c.toNat ≤ 0xdfff := of_decide_eq_true high
  omega

@[simp] theorem toChar_ofChar (c : Char) : (ofChar c).toChar = c := by
  rw [toChar, isSurrogate_ofChar]
  exact Char.ofNat_toNat c

end CodePoint

namespace Text

/-- The code points of a string. -/
def ofString (s : String) : Text := s.toList.map CodePoint.ofChar

instance : Coe String Text := ⟨ofString⟩

/-- The string of a text, as far as strings reach: see `CodePoint.toChar`. -/
def toString (t : Text) : String := String.ofList (t.map CodePoint.toChar)

@[simp] theorem toString_ofString (s : String) : (ofString s).toString = s := by
  have h : CodePoint.toChar ∘ CodePoint.ofChar = id := funext CodePoint.toChar_ofChar
  simp [toString, ofString, h]

theorem ofString_inj {s t : String} : ofString s = ofString t ↔ s = t :=
  ⟨fun h => by rw [← toString_ofString s, h, toString_ofString], fun h => h ▸ rfl⟩

/-- The parts joined with a separator between neighbours. -/
def join (separator : Text) : List Text → Text
  | [] => []
  | [t] => t
  | t :: rest => t ++ separator ++ join separator rest

/-- The pieces between the occurrences of a code point; there is always at least one. -/
def splitAt (c : CodePoint) : Text → List Text
  | [] => [[]]
  | d :: rest =>
    if d = c then [] :: splitAt c rest
    else match splitAt c rest with
      | [] => [[d]]
      | piece :: pieces => (d :: piece) :: pieces

/-- The text behind a word, if it starts with it. -/
def after? : Text → Text → Option Text
  | [], t => some t
  | c :: word, d :: t => if c = d then after? word t else none
  | _ :: _, [] => none

/-- The text without the longest run at its end that satisfies `p`. -/
def dropEndWhile (p : CodePoint → Bool) (t : Text) : Text :=
  (t.reverse.dropWhile p).reverse

/-- Upper case ASCII letters become lower case, all else stays. -/
def toLowerAscii (t : Text) : Text :=
  t.map fun c => if h : 0x41 ≤ c.val ∧ c.val ≤ 0x5a then ⟨c.val + 0x20, by omega⟩ else c

end Text

end EventScript
