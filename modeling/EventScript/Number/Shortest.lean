import EventScript.Number.Double
import EventScript.Text.Numeral

/-!
The decimal text of a double: the fewest significant digits that read back as the same number,
the nearest such decimal if there are two. Exponents from -4 to 15 are written positionally.
-/
namespace EventScript

namespace Double

/-- A positive decimal `digits · 10 ^ exponent`. -/
structure Decimal where
  digits : Nat
  exponent : Int

namespace Decimal

/-- The same number without zeros at the end of its digits. -/
def trim : Nat → Decimal → Decimal
  | 0, d => d
  | fuel + 1, d =>
    if d.digits % 10 = 0 ∧ d.digits ≠ 0 then trim fuel ⟨d.digits / 10, d.exponent + 1⟩ else d

end Decimal

/-- The reals that round to a positive double, in quarters of its last place. Both ends belong to
them if the significand is even. -/
structure Interval where
  low : Nat
  high : Nat
  closed : Bool

/-- Below a power of two the neighbour is only half as far. -/
def interval (significand : Nat) (exponent : Int) : Interval where
  low := 4 * significand -
    (if significand = twoPow 52 ∧ minExponent < exponent then 1 else 2)
  high := 4 * significand + 2
  closed := significand % 2 = 0

/-- Factors `(a, b)` such that `d · 10 ^ place` compares with `n · 2 ^ (exponent - 2)` as `d · a`
with `n · b`. -/
def commonScale (place exponent : Int) : Nat × Nat :=
  let two := exponent - 2
  let left :=
    (if 0 ≤ place then tenPow place.toNat else 1) * (if 0 ≤ two then 1 else twoPow (-two).toNat)
  let right :=
    (if 0 ≤ place then 1 else tenPow (-place).toNat) * (if 0 ≤ two then twoPow two.toNat else 1)
  (left, right)

/-- The better of the two neighbours of a double among the multiples of `10 ^ place`, if one of
them rounds to it. -/
def onGrid? (significand : Nat) (exponent place : Int) : Option Decimal :=
  let range := interval significand exponent
  let (a, b) := commonScale place exponent
  let value := 4 * significand * b
  let inside (d : Nat) : Bool :=
    let x := d * a
    if range.closed then range.low * b ≤ x && x ≤ range.high * b
    else range.low * b < x && x < range.high * b
  let below := value / a
  let above := below + 1
  match inside below && below != 0, inside above with
  | true, true =>
    let toBelow := value - below * a
    let toAbove := above * a - value
    if toBelow < toAbove ∨ (toBelow = toAbove ∧ below % 2 = 0) then some ⟨below, place⟩
    else some ⟨above, place⟩
  | true, false => some ⟨below, place⟩
  | false, true => some ⟨above, place⟩
  | false, false => none

/-- The exponent of ten of a positive double's first digit, plus one. -/
def pointPosition (significand : Nat) (exponent : Int) : Int :=
  let bits : Int := (significand.log2 : Int) + exponent
  let guess := Int.fdiv (bits * 30103) 100000 + 1
  let (a, b) := commonScale guess exponent
  if a ≤ 4 * significand * b then guess + 1 else guess

/-- The first grid with a decimal that rounds to the double, trying ever more digits. -/
def search (significand : Nat) (exponent point : Int) : Nat → Nat → Decimal
  | 0, _ => ⟨significand, exponent⟩
  | fuel + 1, count =>
    match onGrid? significand exponent (point - count) with
    | some d => d
    | none => search significand exponent point fuel (count + 1)

/-- The shortest decimal of a positive finite double. Seventeen digits always suffice. -/
def shortest (significand : Nat) (exponent : Int) : Decimal :=
  (search significand exponent (pointPosition significand exponent) 20 1).trim 400

/-- The text of a positive decimal. -/
def layout (d : Decimal) : Text :=
  let digits := Text.ofNat d.digits
  let point : Int := digits.length + d.exponent
  if point ≤ -4 ∨ 16 < point then
    let rest := digits.drop 1
    let mantissa : Text := digits.take 1 ++ (if rest = [] then [] else CodePoint.ofChar '.' :: rest)
    let power := point - 1
    let size := Text.ofNat power.natAbs
    let padded := if size.length < 2 then "0" ++ size else size
    mantissa ++ "e" ++ (if power < 0 then ("-" : Text) else "+") ++ padded
  else if point ≤ 0 then
    "0." ++ List.replicate (-point).toNat (CodePoint.ofChar '0') ++ digits
  else if digits.length ≤ point.toNat then
    digits ++ List.replicate (point.toNat - digits.length) (CodePoint.ofChar '0') ++ ".0"
  else
    digits.take point.toNat ++ "." ++ digits.drop point.toNat

/-- The text of a double, with the given words for those that are not finite. -/
def textWith (nan infinity : Text) : Double → Text
  | .nan => nan
  | .infinite negative => (if negative then ("-" : Text) else []) ++ infinity
  | .finite negative significand exponent =>
    (if negative then ("-" : Text) else []) ++
      (if significand = 0 then ("0.0" : Text) else layout (shortest significand exponent))

/-- The text of a double in messages and scripts. -/
def text (x : Double) : Text := textWith "nan" "inf" x

end Double

end EventScript
