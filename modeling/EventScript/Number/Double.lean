/-!
Binary floating point numbers with 53 significant bits, as stored data and scripts hold them. A
finite number is kept as a whole significand times a power of two, so that reading a decimal,
comparing with an integer and writing the number back are exact arithmetic on naturals.
-/
namespace EventScript

/-- A double: the finite ones have the value `± significand · 2 ^ exponent`. -/
inductive Double where
  | nan
  | infinite (negative : Bool)
  | finite (negative : Bool) (significand : Nat) (exponent : Int)
  deriving DecidableEq

namespace Double

/-- The least exponent; numbers with it may have any significand below `2 ^ 53`, the others have
one of at least `2 ^ 52`. -/
def minExponent : Int := -1074

def maxExponent : Int := 971

/-- A power of two. -/
def twoPow (n : Nat) : Nat := Nat.pow 2 n

/-- A power of ten. -/
def tenPow (n : Nat) : Nat := Nat.pow 10 n

/-- The quotient rounded to the nearest integer, a half going to the even neighbour. -/
def roundDiv (num den : Nat) : Nat :=
  let q := num / den
  let r := num % den
  if 2 * r < den then q
  else if den < 2 * r then q + 1
  else q + q % 2

/-- The two sides of `num / den / 2 ^ exponent` as naturals. -/
def scaledRatio (num den : Nat) (exponent : Int) : Nat × Nat :=
  if 0 ≤ exponent then (num, den * twoPow exponent.toNat)
  else (num * twoPow (-exponent).toNat, den)

/-- The exponent for a positive ratio: it leaves a quotient of 53 bits, unless it would fall below
the least one. -/
def ratioExponent (num den : Nat) : Int :=
  let guess : Int := (num.log2 : Int) - (den.log2 : Int) - 52
  let scaled := scaledRatio num den guess
  let exponent := if twoPow 52 * scaled.2 ≤ scaled.1 then guess else guess - 1
  max exponent minExponent

/-- The double nearest to `± num / den`, for positive `den`. -/
def ofRatio (negative : Bool) (num den : Nat) : Double :=
  if num = 0 then .finite negative 0 minExponent
  else
    let exponent := ratioExponent num den
    let scaled := scaledRatio num den exponent
    let significand := roundDiv scaled.1 scaled.2
    let (significand, exponent) :=
      if significand = twoPow 53 then (twoPow 52, exponent + 1) else (significand, exponent)
    if maxExponent < exponent then .infinite negative
    else .finite negative significand exponent

/-- The double nearest to `± digits · 10 ^ exponent`. Numbers whose first digit stands more than
400 places from the point are infinite or zero without any arithmetic. -/
def ofDecimal (negative : Bool) (digits : Nat) (exponent : Int) : Double :=
  let places : Int := (Nat.toDigits 10 digits).length + exponent
  if digits = 0 ∨ places < -400 then .finite negative 0 minExponent
  else if 400 < places then .infinite negative
  else if 0 ≤ exponent then ofRatio negative (digits * tenPow exponent.toNat) 1
  else ofRatio negative digits (tenPow (-exponent).toNat)

/-- The value of a double that is a whole number. -/
def toInt? : Double → Option Int
  | .nan => none
  | .infinite _ => none
  | .finite negative significand exponent =>
    let signed (n : Nat) : Int := if negative then -(n : Int) else n
    if 0 ≤ exponent then some (signed (significand * twoPow exponent.toNat))
    else if significand % twoPow (-exponent).toNat = 0 then
      some (signed (significand / twoPow (-exponent).toNat))
    else none

/-- Whether two doubles are the same number. The two zeros are, and so is a double that is not a
number with itself. -/
def same : Double → Double → Bool
  | .nan, .nan => true
  | .infinite a, .infinite b => a = b
  | .finite a m e, .finite b n f =>
    if m = 0 ∨ n = 0 then m = 0 ∧ n = 0
    else a = b ∧ m * twoPow (e - min e f).toNat = n * twoPow (f - min e f).toNat
  | _, _ => false

/-- Whether a double is the number zero. -/
def isZero : Double → Bool
  | .finite _ significand _ => significand = 0
  | _ => false

/-- Whether a double is a given whole number. -/
def isInt (x : Double) (n : Int) : Bool := x.toInt? = some n

end Double

end EventScript
