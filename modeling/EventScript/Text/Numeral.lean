import EventScript.Text.Basic
import EventScript.Text.Blank

/-!
Numerals: whole numbers written in decimal, fixed width hexadecimal, and whole numbers read from
text. A reader accepts the decimal digits of every script. Neither writing nor reading limits how
many digits a number has.
-/
namespace EventScript

namespace Text

/-- A natural number in decimal, without leading zeros. -/
def ofNat (n : Nat) : Text := (Nat.toDigits 10 n).map CodePoint.ofChar

/-- An integer in decimal, a minus sign before the digits of a negative one. All digits are written,
however many they are. -/
def ofInt : Int → Text
  | .ofNat n => ofNat n
  | .negSucc n => CodePoint.ofChar '-' :: ofNat (n + 1)

/-- A lower case hexadecimal digit. -/
def hexDigit (n : Nat) : CodePoint := CodePoint.ofChar (Nat.digitChar (n % 16))

/-- The last `width` hexadecimal digits of a number. -/
def hex : Nat → Nat → Text
  | 0, _ => []
  | width + 1, n => hex width (n / 16) ++ [hexDigit n]

end Text

/-- The zeros of the scripts that have decimal digits; nine more digits follow each of them. -/
def digitZeros : List Nat :=
  [0x30, 0x660, 0x6f0, 0x7c0, 0x966, 0x9e6, 0xa66, 0xae6, 0xb66, 0xbe6, 0xc66, 0xce6, 0xd66,
   0xde6, 0xe50, 0xed0, 0xf20, 0x1040, 0x1090, 0x17e0, 0x1810, 0x1946, 0x19d0, 0x1a80, 0x1a90,
   0x1b50, 0x1bb0, 0x1c40, 0x1c50, 0xa620, 0xa8d0, 0xa900, 0xa9d0, 0xa9f0, 0xaa50, 0xabf0,
   0xff10, 0x104a0, 0x10d30, 0x11066, 0x110f0, 0x11136, 0x111d0, 0x112f0, 0x11450, 0x114d0,
   0x11650, 0x116c0, 0x11730, 0x118e0, 0x11950, 0x11c50, 0x11d50, 0x11da0, 0x16a60, 0x16ac0,
   0x16b50, 0x1d7ce, 0x1d7d8, 0x1d7e2, 0x1d7ec, 0x1d7f6, 0x1e140, 0x1e2f0, 0x1e950, 0x1fbf0]

namespace CodePoint

/-- The value of a decimal digit of any script. -/
def digitValue? (c : CodePoint) : Option Nat :=
  (digitZeros.find? fun first => first ≤ c.val && c.val ≤ first + 9).map (c.val - ·)

/-- Blanks that may surround a whole number; the separators `0x1c` to `0x1f` may not. -/
def isNumeralBlank (c : CodePoint) : Bool := c.isBlank && !(0x1c ≤ c.val && c.val ≤ 0x1f)

end CodePoint

namespace Text

/-- Digits with single underscores between them, continuing the number `value`. The flag tells
whether a digit was just read, so that an underscore may follow or the numeral may end. -/
def readDigits (value : Nat) (afterDigit : Bool) : Text → Option Nat
  | [] => if afterDigit then some value else none
  | c :: rest =>
    match c.digitValue? with
    | some d => readDigits (10 * value + d) true rest
    | none => if c = '_' ∧ afterDigit then readDigits value false rest else none

/-- An unsigned numeral. -/
def toNat? (t : Text) : Option Nat := readDigits 0 false t

/-- A whole number: blanks around it, at most one sign, then digits, as many as there are. -/
def toInt? (t : Text) : Option Int :=
  match dropEndWhile CodePoint.isNumeralBlank (t.dropWhile CodePoint.isNumeralBlank) with
  | [] => none
  | c :: rest =>
    if c = '-' then (toNat? rest).map fun n => -(n : Int)
    else if c = '+' then (toNat? rest).map Int.ofNat
    else (toNat? (c :: rest)).map Int.ofNat

end Text

end EventScript
