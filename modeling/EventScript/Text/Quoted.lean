import EventScript.Text.Basic
import EventScript.Text.Numeral
import EventScript.Text.Printable

/-!
Texts on one line. `quote` writes a text as a string literal in single quotes, `escapeComment`
makes it safe behind a comment sign, and `display` shows it in a message. All three keep printable
characters and spell the others with backslash escapes; they differ in what else they escape.
-/
namespace EventScript

namespace Text

/-- A backslash escape: a letter and the last `width` hexadecimal digits of a number. -/
def hexEscape (letter : Char) (width n : Nat) : Text :=
  CodePoint.backslash :: CodePoint.ofChar letter :: hex width n

/-- A backslash and a character. -/
def charEscape (c : CodePoint) : Text := [CodePoint.backslash, c]

/-- A character of a line: as it is if printable, else by its number. -/
def spellWith (printable : CodePoint → Bool) (c : CodePoint) : Text :=
  if c.val < 0x20 ∨ c.val = 0x7f then hexEscape 'x' 2 c.val
  else if c.isSurrogate then hexEscape 'u' 4 c.val
  else if printable c then [c]
  else if 0xffff < c.val then hexEscape 'U' 8 c.val
  else hexEscape 'u' 4 c.val

/-- The escapes of line ends and tabs, which have letters of their own. -/
def lineEscape? (c : CodePoint) : Option Text :=
  if c = CodePoint.newline then some (charEscape 'n')
  else if c = CodePoint.carriageReturn then some (charEscape 'r')
  else if c = CodePoint.tab then some (charEscape 't')
  else none

/-- A character behind a comment sign. -/
def commentCharWith (printable : CodePoint → Bool) (c : CodePoint) : Text :=
  (lineEscape? c).getD (spellWith printable c)

/-- A character between single quotes. -/
def literalCharWith (printable : CodePoint → Bool) (c : CodePoint) : Text :=
  if c = CodePoint.backslash ∨ c = CodePoint.singleQuote then charEscape c
  else commentCharWith printable c

/-- Comment text under a given notion of printable characters. -/
def escapeCommentWith (printable : CodePoint → Bool) (t : Text) : Text :=
  t.flatMap (commentCharWith printable)

/-- A string literal under a given notion of printable characters. -/
def quoteWith (printable : CodePoint → Bool) (t : Text) : Text :=
  CodePoint.singleQuote :: t.flatMap (literalCharWith printable) ++ [CodePoint.singleQuote]

/-- The text as it stands behind a comment sign: quotes and backslashes are kept as written. -/
def escapeComment (t : Text) : Text := escapeCommentWith CodePoint.isPrintable t

/-- The text as a string literal in single quotes. -/
def quote (t : Text) : Text := quoteWith CodePoint.isPrintable t

/-- A character between `mark`s in a message. -/
def displayChar (mark c : CodePoint) : Text :=
  if c = CodePoint.backslash ∨ c = mark then charEscape c
  else match lineEscape? c with
    | some escape => escape
    | none =>
      if c.isPrintable then [c]
      else if c.val < 0x100 then hexEscape 'x' 2 c.val
      else if c.val < 0x10000 then hexEscape 'u' 4 c.val
      else hexEscape 'U' 8 c.val

/-- Messages quote a text in single quotes, or in double quotes if it holds single ones only. -/
def displayMark (t : Text) : CodePoint :=
  if CodePoint.singleQuote ∈ t ∧ CodePoint.doubleQuote ∉ t then CodePoint.doubleQuote
  else CodePoint.singleQuote

/-- The text as messages show it, in quotes. -/
def display (t : Text) : Text :=
  let mark := displayMark t
  mark :: t.flatMap (displayChar mark) ++ [mark]

end Text

end EventScript
