import EventScript.Json.Parser
import EventScript.Toml.Document

/-!
Reading TOML. A document is a sequence of statements, each with a line end behind it: a key with
its value, or a header that says which table the keys below it are for. Strings may run over lines,
and so may lists, with comments between their items. Each reader returns what it read and the text
behind it.
-/
namespace EventScript

namespace Toml

def isSpace (c : CodePoint) : Bool := c.val = 0x20 || c.val = 0x09

def skipSpace (t : Text) : Text := t.dropWhile isSpace

/-- Characters that stand nowhere, not even in a comment. -/
def isControl (c : CodePoint) : Bool := (c.val < 0x20 && c.val ≠ 0x09) || c.val = 0x7f

/-- The text behind blanks, line ends and comments; the flag tells whether it starts in a
comment. -/
def skipFill? (inComment : Bool) : Text → Option Text
  | [] => some []
  | c :: rest =>
    if c = CodePoint.newline then skipFill? false rest
    else if inComment then if isControl c then none else skipFill? true rest
    else if isSpace c then skipFill? false rest
    else if c = '#' then skipFill? true rest
    else some (c :: rest)

/-- The text behind a comment, if it starts with one. -/
def skipComment? (t : Text) : Option Text :=
  if t.head? = some (CodePoint.ofChar '#') then
    if (t.takeWhile (· ≠ CodePoint.newline)).any isControl then none
    else some (t.dropWhile (· ≠ CodePoint.newline))
  else some t

/-! ### Strings -/

/-- The character that a letter behind a backslash stands for. -/
def simpleEscape? (c : CodePoint) : Option CodePoint :=
  if c = '/' then none else Json.Parser.simpleEscape? c

/-- A character escaped by number; the number of a surrogate is refused. -/
def numberEscape? (eight : Bool) (t : Text) : Option (CodePoint × Text) := do
  let (n, rest) ← if eight then do
      let (high, rest) ← Json.Parser.hexFour? t
      let (low, rest) ← Json.Parser.hexFour? rest
      pure (high * 0x10000 + low, rest)
    else Json.Parser.hexFour? t
  let c ← CodePoint.ofNat? n
  if c.isSurrogate then none else some (c, rest)

/-- The text behind a backslash at the end of a line: the line end goes, with all blanks and line
ends behind it. -/
def joinLine? (t : Text) : Option Text :=
  match skipSpace t with
  | [] => none
  | c :: rest =>
    if c = CodePoint.newline then
      some (rest.dropWhile fun c => isSpace c || c = CodePoint.newline)
    else none

/-- The rest of a string with escapes, behind its opening quotes: three of them around a string that
may run over lines, else one. -/
def basic? (long : Bool) : Nat → Text → Text → Option (Text × Text)
  | 0, _, _ => none
  | _ + 1, _, [] => none
  | fuel + 1, reversed, c :: rest =>
    if c = CodePoint.doubleQuote then
      if long then match Text.after? "\"\"" rest with
        | some behind => some (reversed.reverse, behind)
        | none => basic? long fuel (c :: reversed) rest
      else some (reversed.reverse, rest)
    else if c = CodePoint.backslash then
      match rest with
      | [] => none
      | d :: behind =>
        if long ∧ (isSpace d ∨ d = CodePoint.newline) then do
          basic? long fuel reversed (← joinLine? rest)
        else if d = 'u' ∨ d = 'U' then do
          let (e, behind) ← numberEscape? (d = 'U') behind
          basic? long fuel (e :: reversed) behind
        else do
          let e ← simpleEscape? d
          basic? long fuel (e :: reversed) behind
    else if isControl c ∧ ¬(long ∧ c = CodePoint.newline) then none
    else basic? long fuel (c :: reversed) rest

/-- The text before the first occurrence of a word, and the text behind it. -/
def until? (word : Text) : Text → Option (Text × Text)
  | [] => none
  | c :: rest => match Text.after? word (c :: rest) with
    | some behind => some ([], behind)
    | none => do
      let (before, behind) ← until? word rest
      return (c :: before, behind)

/-- The rest of a string without escapes, behind its opening quotes. -/
def literal? (long : Bool) (t : Text) : Option (Text × Text) := do
  let (content, rest) ← until? (if long then "'''" else "'") t
  if content.any fun c => isControl c && !(long && c = CodePoint.newline) then none
  return (content, rest)

/-- A string on one line, in quotes of either kind. -/
def shortString? (fuel : Nat) : Text → Option (Text × Text)
  | [] => none
  | c :: rest =>
    if c = CodePoint.doubleQuote then basic? false fuel [] rest
    else if c = CodePoint.singleQuote then literal? false rest
    else none

/-- Up to two quotes right behind a string over several lines are its last characters. -/
def withQuotes (quote : CodePoint) (content rest : Text) : Text × Text :=
  let more := (rest.take 2).takeWhile (· = quote)
  (content ++ more, rest.drop more.length)

/-- A string in quotes. A line end right behind three opening quotes is no part of it. -/
def string? (fuel : Nat) (t : Text) : Option (Text × Text) :=
  let behindLineEnd (inner : Text) : Text := (Text.after? [CodePoint.newline] inner).getD inner
  match Text.after? "\"\"\"" t, Text.after? "'''" t with
  | some inner, _ => do
    let (content, rest) ← basic? true fuel [] (behindLineEnd inner)
    return withQuotes CodePoint.doubleQuote content rest
  | none, some inner => do
    let (content, rest) ← literal? true (behindLineEnd inner)
    return withQuotes CodePoint.singleQuote content rest
  | none, none => shortString? fuel t

/-! ### Keys -/

/-- Characters of a key without quotes. -/
def isBare (c : CodePoint) : Bool := c.isAlphanumeric || c = '-' || c = '_'

/-- A part of a key, in quotes or bare. -/
def keyPart? (fuel : Nat) (t : Text) : Option (Text × Text) :=
  match shortString? fuel t with
  | some result => some result
  | none =>
    let part := t.takeWhile isBare
    if part.isEmpty then none else some (part, t.dropWhile isBare)

/-- A key of parts with points between them, with the blanks behind it. -/
def key? : Nat → Text → Option (Key × Text)
  | 0, _ => none
  | fuel + 1, t => do
    let (part, rest) ← keyPart? fuel t
    match Text.after? "." (skipSpace rest) with
    | none => return (⟨[], part⟩, skipSpace rest)
    | some rest =>
      let (key, rest) ← key? fuel (skipSpace rest)
      return (⟨part :: key.parents, key.last⟩, rest)

/-! ### Numbers -/

/-- The value of a digit in a base up to sixteen. -/
def digit? (base : Nat) (c : CodePoint) : Option Nat :=
  (Json.Parser.hexValue? c).filter (· < base)

/-- The digits that continue a number; an underscore may stand between two of them. -/
def moreDigits (base : Nat) : Text → List Nat × Text
  | [] => ([], [])
  | [c] => match digit? base c with
    | some d => ([d], [])
    | none => ([], [c])
  | c :: c' :: rest => match digit? base c with
    | some d =>
      let (digits, behind) := moreDigits base (c' :: rest)
      (d :: digits, behind)
    | none => match (digit? base c').filter fun _ => c = '_' with
      | some d =>
        let (digits, behind) := moreDigits base rest
        (d :: digits, behind)
      | none => ([], c :: c' :: rest)

/-- The digits of a number, of which there is at least one. -/
def digits? (base : Nat) : Text → Option (List Nat × Text)
  | [] => none
  | c :: rest => do
    let first ← digit? base c
    let (digits, rest) := moreDigits base rest
    return (first :: digits, rest)

/-- The number that digits spell. -/
def ofDigits (base : Nat) (digits : List Nat) : Nat := digits.foldl (fun n d => base * n + d) 0

/-- The number behind letters that tell its base. -/
def based? : Text → Option (Nat × Text)
  | c :: d :: rest => do
    if c ≠ '0' then none
    let base ← if d = 'x' then some 16 else if d = 'o' then some 8 else if d = 'b' then some 2
      else none
    let (digits, rest) ← digits? base rest
    return (ofDigits base digits, rest)
  | _ => none

/-- Whether a minus sign starts a text, and the text behind its sign. -/
def sign : Text → Bool × Text
  | [] => (false, [])
  | c :: rest =>
    if c = '-' then (true, rest) else if c = '+' then (false, rest) else (false, c :: rest)

def signed (negative : Bool) (n : Nat) : Int := if negative then -(n : Int) else n

/-- The digits of a decimal number before its point; only zero itself starts with a zero. -/
def whole? (t : Text) : Option (List Nat × Text) :=
  match Text.after? "0" t with
  | some rest => some ([0], rest)
  | none => digits? 10 t

/-- The digits behind a point, if there are any. -/
def fraction? (t : Text) : Option (List Nat × Text) := do digits? 10 (← Text.after? "." t)

/-- The exponent behind an `e`, if there is one. -/
def exponent? : Text → Option (Int × Text)
  | [] => none
  | c :: rest => do
    if c ≠ 'e' ∧ c ≠ 'E' then none
    let (negative, rest) := sign rest
    let (digits, rest) ← digits? 10 rest
    return (signed negative (ofDigits 10 digits), rest)

/-- A number in decimal. With a fraction or an exponent it is a double. -/
def decimal? (t : Text) : Option (Value × Text) := do
  let (negative, rest) := sign t
  let (whole, rest) ← whole? rest
  let (decimals, rest) : Option (List Nat) × Text := match fraction? rest with
    | some (decimals, behind) => (some decimals, behind)
    | none => (none, rest)
  let (power, rest) : Option Int × Text := match exponent? rest with
    | some (power, behind) => (some power, behind)
    | none => (none, rest)
  match decimals, power with
  | none, none => return (.int (signed negative (ofDigits 10 whole)), rest)
  | _, _ =>
    let decimals := decimals.getD []
    return (.float (Double.ofDecimal negative (ofDigits 10 (whole ++ decimals))
      (power.getD 0 - decimals.length)), rest)

/-! ### Dates and times -/

/-- The number that so many digits spell. -/
def exactly? : Nat → Nat → Text → Option (Nat × Text)
  | 0, n, t => some (n, t)
  | _ + 1, _, [] => none
  | count + 1, n, c :: rest => do exactly? count (10 * n + (← digit? 10 c)) rest

/-- Two digits for a number below a bound. -/
def below? (bound : Nat) (t : Text) : Option (Fin bound × Text) := do
  let (n, rest) ← exactly? 2 0 t
  if h : n < bound then return (⟨n, h⟩, rest) else none

def date? (t : Text) : Option (Date × Text) := do
  let (year, rest) ← exactly? 4 0 t
  let (month, rest) ← exactly? 2 0 (← Text.after? "-" rest)
  let (day, rest) ← exactly? 2 0 (← Text.after? "-" rest)
  return (← Date.ofNumbers? year month day, rest)

/-- The millionths of a second that digits behind a point spell; those behind the sixth do not
count. -/
def micros (digits : Text) : Fin 1000000 :=
  let shown := digits.take 6
  Fin.ofNat 1000000 (Json.Parser.digitsValue shown * Double.tenPow (6 - shown.length))

def time? (t : Text) : Option (Time × Text) := do
  let (hour, rest) ← below? 24 t
  let (minute, rest) ← below? 60 (← Text.after? ":" rest)
  let (second, rest) ← below? 60 (← Text.after? ":" rest)
  match Json.Parser.fraction? rest with
  | some (digits, rest) => return (⟨hour, minute, second, micros digits⟩, rest)
  | none => return (⟨hour, minute, second, 0⟩, rest)

/-- The distance from universal time: none at all, or behind a sign. -/
def offset? : Text → Option (Offset × Text)
  | [] => none
  | c :: rest => do
    if c = 'Z' ∨ c = 'z' then return (⟨0, by decide⟩, rest)
    if c ≠ '+' ∧ c ≠ '-' then none
    let (hour, rest) ← below? 24 rest
    let (minute, rest) ← below? 60 (← Text.after? ":" rest)
    let minutes := signed (c = '-') (hour * 60 + minute)
    if h : minutes.natAbs < 24 * 60 then return (⟨minutes, h⟩, rest) else none

/-- A time behind a date. -/
def timeBehind? : Text → Option (Time × Text)
  | [] => none
  | c :: rest => if c = 'T' ∨ c = 't' ∨ c = ' ' then time? rest else none

def moment? (t : Text) : Option (Moment × Text) :=
  match date? t with
  | none => (time? t).map fun (time, rest) => (.time time, rest)
  | some (date, rest) => match timeBehind? rest with
    | none => some (.date date, rest)
    | some (time, rest) => match offset? rest with
      | none => some (.dateTime date time none, rest)
      | some (offset, rest) => some (.dateTime date time (some offset), rest)

/-! ### Values -/

/-- The words that are values, with what they mean. -/
def words : List (Text × Value) :=
  [("true", .bool true), ("false", .bool false), ("inf", .float (.infinite false)),
   ("+inf", .float (.infinite false)), ("-inf", .float (.infinite true)), ("nan", .float .nan),
   ("+nan", .float .nan), ("-nan", .float .nan)]

/-- A value without parts. A date and a time start like a number, so they come first. -/
def scalar? (fuel : Nat) (t : Text) : Option (Value × Text) :=
  (string? fuel t).map (fun (s, rest) => (.str s, rest)) <|>
  (words.findSome? fun (word, value) => (Text.after? word t).map fun rest => (value, rest)) <|>
  (moment? t).map (fun (m, rest) => (.moment m, rest)) <|>
  (based? t).map (fun (n, rest) => (.int n, rest)) <|>
  decimal? t

mutual

/-- A value at the start of a text. -/
def value? : Nat → Text → Option (Value × Text)
  | 0, _ => none
  | _ + 1, [] => none
  | fuel + 1, c :: rest =>
    if c = '[' then do
      let (items, rest) ← items? fuel (← skipFill? false rest)
      return (.arr items, rest)
    else if c = CodePoint.openBrace then
      match Text.after? [CodePoint.closeBrace] (skipSpace rest) with
      | some behind => some (.table [], behind)
      | none => do
        let (pairs, rest) ← pairs? fuel (skipSpace rest)
        return (← Document.ofPairs? pairs, rest)
    else scalar? fuel (c :: rest)

/-- The items of a list up to its closing bracket, before which a comma may stand. -/
def items? : Nat → Text → Option (List Value × Text)
  | 0, _ => none
  | fuel + 1, t => match Text.after? "]" t with
    | some behind => some ([], behind)
    | none => do
      let (item, rest) ← value? fuel t
      match ← skipFill? false rest with
      | [] => none
      | c :: rest =>
        if c = ']' then some ([item], rest)
        else if c = ',' then do
          let (items, rest) ← items? fuel (← skipFill? false rest)
          return (item :: items, rest)
        else none

/-- A key, an equals sign and a value. -/
def pair? : Nat → Text → Option ((Key × Value) × Text)
  | 0, _ => none
  | fuel + 1, t => do
    let (key, rest) ← key? fuel t
    let (value, rest) ← value? fuel (skipSpace (← Text.after? "=" rest))
    return ((key, value), rest)

/-- The pairs of a table up to its closing bracket, all on one line. -/
def pairs? : Nat → Text → Option (List (Key × Value) × Text)
  | 0, _ => none
  | fuel + 1, t => do
    let (pair, rest) ← pair? fuel t
    match skipSpace rest with
    | [] => none
    | c :: rest =>
      if c = CodePoint.closeBrace then some ([pair], rest)
      else if c = ',' then do
        let (pairs, rest) ← pairs? fuel (skipSpace rest)
        return (pair :: pairs, rest)
      else none

end

/-! ### Documents -/

/-- The document after a header or a pair; a comment leaves it as it is. -/
def statement? (fuel : Nat) (doc : Document) (t : Text) : Option (Document × Text) :=
  match Text.after? "[[" t, Text.after? "[" t with
  | some inner, _ => do
    let (key, rest) ← key? fuel (skipSpace inner)
    return (← doc.openItem? key, ← Text.after? "]]" rest)
  | none, some inner => do
    let (key, rest) ← key? fuel (skipSpace inner)
    return (← doc.openTable? key, ← Text.after? "]" rest)
  | none, none =>
    if t.head? = some (CodePoint.ofChar '#') then some (doc, t)
    else do
      let ((key, value), rest) ← pair? fuel t
      return (← doc.put? key value, rest)

/-- The document after all statements of a text. -/
def statements? : Nat → Document → Text → Option Document
  | 0, _, _ => none
  | fuel + 1, doc, t => match skipSpace t with
    | [] => some doc
    | c :: rest =>
      if c = CodePoint.newline then statements? fuel doc rest
      else do
        let (doc, rest) ← statement? fuel doc (c :: rest)
        match ← skipComment? (skipSpace rest) with
        | [] => some doc
        | d :: rest => if d = CodePoint.newline then statements? fuel doc rest else none

/-- Line ends that start with a carriage return, without it. -/
def dropReturns : Text → Text
  | c :: d :: rest =>
    if c = CodePoint.carriageReturn ∧ d = CodePoint.newline then d :: dropReturns rest
    else c :: dropReturns (d :: rest)
  | t => t

/-- The table that a whole text spells. The length of the text and the depth of its lists and
tables are not limited. -/
def parse? (t : Text) : Option Value := do
  let t := dropReturns t
  let doc ← statements? (3 * t.length + 3) {} t
  return .table doc.fields

end Toml

end EventScript
