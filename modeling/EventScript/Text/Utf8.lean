import EventScript.Text.Numeral
import EventScript.Text.Quoted

/-!
Texts in files. Bytes are read as UTF-8 without forgiveness: a malformed sequence, an overlong
one or an encoded surrogate is refused. A text file may end its lines with a line feed, a carriage
return or both; inside the library they all are line feeds.
-/
namespace EventScript

namespace Text

/-- The low six bits of a byte that continues a sequence. -/
def continuationBits? (b : UInt8) : Option Nat :=
  if 0x80 ≤ b.toNat ∧ b.toNat < 0xc0 then some (b.toNat - 0x80) else none

/-- A code point made of a sequence's bits, refused if a shorter sequence could hold it. -/
def sequencePoint? (least n : Nat) : Option CodePoint := do
  let c ← CodePoint.ofNat? n
  if least ≤ n ∧ ¬c.isSurrogate then some c else none

/-- The text that bytes spell in UTF-8. -/
def decodeUtf8? : List UInt8 → Option Text
  | [] => some []
  | a :: rest =>
    if a.toNat < 0x80 then do
      let c ← sequencePoint? 0 a.toNat
      return c :: (← decodeUtf8? rest)
    else if 0xc0 ≤ a.toNat ∧ a.toNat < 0xe0 then
      match rest with
      | b :: rest => do
        let c ← sequencePoint? 0x80 ((a.toNat - 0xc0) * 0x40 + (← continuationBits? b))
        return c :: (← decodeUtf8? rest)
      | _ => none
    else if 0xe0 ≤ a.toNat ∧ a.toNat < 0xf0 then
      match rest with
      | b :: b' :: rest => do
        let c ← sequencePoint? 0x800
          (((a.toNat - 0xe0) * 0x40 + (← continuationBits? b)) * 0x40 + (← continuationBits? b'))
        return c :: (← decodeUtf8? rest)
      | _ => none
    else if 0xf0 ≤ a.toNat ∧ a.toNat < 0xf8 then
      match rest with
      | b :: b' :: b'' :: rest => do
        let c ← sequencePoint? 0x10000
          ((((a.toNat - 0xf0) * 0x40 + (← continuationBits? b)) * 0x40
            + (← continuationBits? b')) * 0x40 + (← continuationBits? b''))
        return c :: (← decodeUtf8? rest)
      | _ => none
    else none

/-- The UTF-8 bytes of a code point; a surrogate has none. -/
def pointBytes? (c : CodePoint) : Option (List UInt8) :=
  let byte (n : Nat) : UInt8 := n.toUInt8
  let tail (shift : Nat) : UInt8 := byte (0x80 + c.val / shift % 0x40)
  if c.val < 0x80 then some [byte c.val]
  else if c.val < 0x800 then some [byte (0xc0 + c.val / 0x40), tail 1]
  else if c.isSurrogate then none
  else if c.val < 0x10000 then some [byte (0xe0 + c.val / 0x1000), tail 0x40, tail 1]
  else some [byte (0xf0 + c.val / 0x40000), tail 0x1000, tail 0x40, tail 1]

/-- The UTF-8 bytes of a text without surrogates. -/
def encodeUtf8? : Text → Option (List UInt8)
  | [] => some []
  | c :: rest => do return (← pointBytes? c) ++ (← encodeUtf8? rest)

/-- The rest of a text from the first code point that satisfies `p` on, and where it starts if the
text itself starts at `position`. -/
def findFrom? (p : CodePoint → Bool) : Nat → Text → Option (Nat × Text)
  | _, [] => none
  | position, c :: rest =>
    if p c then some (position, c :: rest) else findFrom? p (position + 1) rest

/-- Line ends as line feeds, where a line feed right after a carriage return is part of one end. -/
def unifyNewlinesFrom (afterReturn : Bool) : Text → Text
  | [] => []
  | c :: rest =>
    if c = CodePoint.carriageReturn then CodePoint.newline :: unifyNewlinesFrom true rest
    else if c = CodePoint.newline ∧ afterReturn then unifyNewlinesFrom false rest
    else c :: unifyNewlinesFrom false rest

/-- Every way to end a line becomes a line feed. -/
def unifyNewlines (t : Text) : Text := unifyNewlinesFrom false t

/-- The mark that may open a text file. -/
def byteOrderMark : CodePoint := ⟨0xfeff, by decide⟩

/-- The text without one leading byte order mark. -/
def dropByteOrderMark : Text → Text
  | [] => []
  | c :: rest => if c = byteOrderMark then rest else c :: rest

end Text

/-- Surrogates in a row that have no bytes. -/
structure SurrogateRun where
  position : Nat
  first : CodePoint
  length : Nat

namespace SurrogateRun

def message (run : SurrogateRun) : Text :=
  let place : Text :=
    if run.length = 1 then
      " '" ++ Text.hexEscape 'u' 4 run.first.val ++ "' in position " ++ Text.ofNat run.position
    else
      "s in position " ++ Text.ofNat run.position ++ "-" ++
        Text.ofNat (run.position + run.length - 1)
  "'utf-8' codec can't encode character" ++ place ++ ": surrogates not allowed"

/-- The first surrogates of a text that count as such, with those right behind them. -/
def find? (counts : CodePoint → Bool) (t : Text) : Option SurrogateRun :=
  match Text.findFrom? (fun c => c.isSurrogate && counts c) 0 t with
  | some (position, c :: rest) =>
    some ⟨position, c, 1 + (rest.takeWhile CodePoint.isSurrogate).length⟩
  | _ => none

end SurrogateRun

end EventScript
