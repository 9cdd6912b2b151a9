import EventScript.Json.Basic
import EventScript.Text.Numeral

/-!
Reading JSON. Besides the standard grammar the words `NaN`, `Infinity` and `-Infinity` are
numbers. A number with a fraction or an exponent is a double, every other one a whole number of any
size. An escaped surrogate that has no partner is kept; a key that comes again replaces the value in
its first place. Each reader returns what it read and the text behind it. There is no limit to the
digits of a number or to the depth of a value.
-/
namespace EventScript

namespace Json

namespace Parser

def isSpace (c : CodePoint) : Bool :=
  c.val = 0x20 || c.val = 0x09 || c.val = 0x0a || c.val = 0x0d

def skipSpace (t : Text) : Text := t.dropWhile isSpace

def hexValue? (c : CodePoint) : Option Nat :=
  if c.isDigit then some (c.val - 0x30)
  else if 0x61 ≤ c.val ∧ c.val ≤ 0x66 then some (c.val - 0x61 + 10)
  else if 0x41 ≤ c.val ∧ c.val ≤ 0x46 then some (c.val - 0x41 + 10)
  else none

/-- The number that four hexadecimal digits spell. -/
def hexFour? : Text → Option (Nat × Text)
  | a :: b :: c :: d :: rest => do
    let n := (((← hexValue? a) * 16 + (← hexValue? b)) * 16 + (← hexValue? c)) * 16
      + (← hexValue? d)
    return (n, rest)
  | _ => none

/-- The characters that a letter behind a backslash stands for. -/
def simpleEscape? (c : CodePoint) : Option CodePoint :=
  if c = CodePoint.doubleQuote ∨ c = CodePoint.backslash ∨ c = '/' then some c
  else if c = 'b' then CodePoint.ofNat? 0x08
  else if c = 'f' then CodePoint.ofNat? 0x0c
  else if c = 'n' then some CodePoint.newline
  else if c = 'r' then some CodePoint.carriageReturn
  else if c = 't' then some CodePoint.tab
  else none

/-- A code point escaped by number; two escapes in a row that are the halves of a pair are one. -/
def numberEscape? (t : Text) : Option (CodePoint × Text) := do
  let (n, rest) ← hexFour? t
  let pair? : Option (CodePoint × Text) := do
    if 0xd800 ≤ n ∧ n ≤ 0xdbff then
      let behind ← Text.after? "\\u" rest
      let (m, behind) ← hexFour? behind
      if 0xdc00 ≤ m ∧ m ≤ 0xdfff then
        let c ← CodePoint.ofNat? (0x10000 + (n - 0xd800) * 0x400 + (m - 0xdc00))
        return (c, behind)
      else none
    else none
  match pair? with
  | some result => return result
  | none => return (← CodePoint.ofNat? n, rest)

/-- The rest of a string, behind its opening quote. -/
def string? : Nat → Text → Text → Option (Text × Text)
  | 0, _, _ => none
  | _ + 1, _, [] => none
  | fuel + 1, reversed, c :: rest =>
    if c = CodePoint.doubleQuote then some (reversed.reverse, rest)
    else if c = CodePoint.backslash then
      match rest with
      | [] => none
      | d :: rest =>
        if d = 'u' then do
          let (e, rest) ← numberEscape? rest
          string? fuel (e :: reversed) rest
        else do
          let e ← simpleEscape? d
          string? fuel (e :: reversed) rest
    else if c.val < 0x20 then none
    else string? fuel (c :: reversed) rest

/-- The number that ASCII digits spell. -/
def digitsValue (digits : Text) : Nat := digits.foldl (fun n c => 10 * n + (c.val - 0x30)) 0

/-- The digits behind a point, if there are any. -/
def fraction? : Text → Option (Text × Text)
  | c :: rest =>
    let digits := rest.takeWhile CodePoint.isDigit
    if c = '.' ∧ digits ≠ [] then some (digits, rest.dropWhile CodePoint.isDigit) else none
  | [] => none

/-- The exponent behind an `e`, if there is one. -/
def exponent? : Text → Option (Int × Text)
  | c :: rest =>
    if c = 'e' ∨ c = 'E' then
      let (negative, rest) : Bool × Text := match rest with
        | d :: more =>
          if d = '-' then (true, more) else if d = '+' then (false, more) else (false, rest)
        | [] => (false, [])
      let digits := rest.takeWhile CodePoint.isDigit
      if digits = [] then none
      else
        let n : Int := digitsValue digits
        some (if negative then -n else n, rest.dropWhile CodePoint.isDigit)
    else none
  | [] => none

/-- The digits of a number before its point; only zero itself starts with a zero. -/
def whole? : Text → Option (Text × Text)
  | [] => none
  | c :: rest =>
    if c = '0' then some ([c], rest)
    else if c.isDigit then
      some ((c :: rest).takeWhile CodePoint.isDigit, (c :: rest).dropWhile CodePoint.isDigit)
    else none

/-- A number without its sign. -/
def unsigned? (negative : Bool) (t : Text) : Option (Json × Text) := do
  let (whole, rest) ← whole? t
  let (decimals, rest) : Option Text × Text := match fraction? rest with
    | some (decimals, behind) => (some decimals, behind)
    | none => (none, rest)
  let (power, rest) : Option Int × Text := match exponent? rest with
    | some (power, behind) => (some power, behind)
    | none => (none, rest)
  match decimals, power with
  | none, none =>
    let n : Int := digitsValue whole
    return (.int (if negative then -n else n), rest)
  | _, _ =>
    let decimals := decimals.getD []
    return (.float (Double.ofDecimal negative (digitsValue (whole ++ decimals))
      (power.getD 0 - decimals.length)), rest)

/-- The words that are values, with what they mean. -/
def words : List (Text × Json) :=
  [("null", .null), ("true", .bool true), ("false", .bool false), ("NaN", .float .nan),
   ("Infinity", .float (.infinite false)), ("-Infinity", .float (.infinite true))]

/-- A word or a number. -/
def scalar? (t : Text) : Option (Json × Text) :=
  match words.findSome? fun (word, value) => (Text.after? word t).map fun rest => (value, rest) with
  | some result => some result
  | none => match t with
    | c :: rest => if c = '-' then unsigned? true rest else unsigned? false t
    | [] => none

/-- Parts with commas between them, up to a closing bracket. -/
def parts? {α : Type} (part? : Text → Option (α × Text)) (closing : CodePoint) :
    Nat → Text → Option (List α × Text)
  | 0, _ => none
  | limit + 1, t => do
    let (a, rest) ← part? t
    match skipSpace rest with
    | [] => none
    | c :: rest =>
      if c = closing then some ([a], rest)
      else if c = ',' then do
        let (more, rest) ← parts? part? closing limit (skipSpace rest)
        return (a :: more, rest)
      else none

/-- What is between brackets, behind the opening one. -/
def bracketed? {α : Type} (part? : Text → Option (α × Text)) (closing : CodePoint) (limit : Nat)
    (t : Text) : Option (List α × Text) :=
  match skipSpace t with
  | [] => none
  | c :: rest => if c = closing then some ([], rest) else parts? part? closing limit (c :: rest)

/-- A key, a colon and a value. -/
def field? (string? : Text → Option (Text × Text)) (value? : Text → Option (Json × Text))
    (t : Text) : Option ((Text × Json) × Text) := do
  let (key, rest) ← string? t
  match skipSpace rest with
  | [] => none
  | c :: rest =>
    if c = ':' then do
      let (value, rest) ← value? (skipSpace rest)
      return ((key, value), rest)
    else none

/-- A string with its quotes. -/
def quoted? (fuel : Nat) : Text → Option (Text × Text)
  | [] => none
  | c :: rest => if c = CodePoint.doubleQuote then string? fuel [] rest else none

/-- A value at the start of a text. -/
def value? : Nat → Text → Option (Json × Text)
  | 0, _ => none
  | _ + 1, [] => none
  | fuel + 1, c :: rest =>
    if c = CodePoint.doubleQuote then
      (string? fuel [] rest).map fun (t, rest) => (.str t, rest)
    else if c = '[' then
      (bracketed? (value? fuel) ']' fuel rest).map fun (items, rest) => (.arr items, rest)
    else if c = CodePoint.openBrace then
      (bracketed? (field? (quoted? fuel) (value? fuel)) CodePoint.closeBrace fuel rest).map
        fun (fields, rest) => (.obj (collectPairs fields), rest)
    else scalar? (c :: rest)

end Parser

/-- The value that a whole text spells, with blanks around it. Lists and objects may be nested to
any depth, and whole numbers may have any number of digits. -/
def parse? (t : Text) : Option Json := do
  let t := Parser.skipSpace t
  let (value, rest) ← Parser.value? (2 * t.length + 2) t
  if (Parser.skipSpace rest).isEmpty then some value else none

end Json

end EventScript
