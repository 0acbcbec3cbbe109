/-!
# Binary floating-point numbers

A number of the 64-bit format is kept as its sign, a whole significand below `2 ^ 53` and a power
of two not below `2 ^ (-1074)`; the significand is at least `2 ^ 52` unless the power is the least
one. All arithmetic is exact on natural numbers and rounds once, to the nearest number of the
format, an exact half to the even significand.
-/

namespace BrowserScript

inductive Binary64 where
  /-- The value `significand * 2 ^ exponent` with a sign; zeros are signed too. -/
  | finite (negative : Bool) (significand : Nat) (exponent : Int)
  | infinite (negative : Bool)
  | nan
  deriving DecidableEq, Inhabited

namespace Binary64

def leastExponent : Int := -1074

def greatestExponent : Int := 971

def leastNormal : Nat := 0x10000000000000

/-- The quotient of two natural numbers rounded to nearest, a half to even. -/
def roundQuotient (numerator denominator : Nat) : Nat :=
  let quotient := numerator / denominator
  let rest := 2 * (numerator % denominator)
  if rest < denominator then quotient
  else if denominator < rest then quotient + 1
  else if quotient % 2 == 0 then quotient else quotient + 1

/-- Numerator and denominator after division by a power of two. -/
def scaleDown (numerator denominator : Nat) (exponent : Int) : Nat × Nat :=
  if exponent < 0 then (numerator * Nat.pow 2 (-exponent).toNat, denominator)
  else (numerator, denominator * Nat.pow 2 exponent.toNat)

def zero (negative : Bool) : Binary64 := .finite negative 0 leastExponent

/-- The power of two at which a positive quotient has a significand of 53 bits. -/
def quotientExponent (numerator denominator : Nat) : Int :=
  let estimate : Int := (numerator.log2 : Int) - denominator.log2 - 53
  let (top, bottom) := scaleDown numerator denominator estimate
  let exponent := if 2 * leastNormal ≤ top / bottom then estimate + 1 else estimate
  max exponent leastExponent

/-- The number of the format nearest to a quotient with a positive denominator. -/
def ofQuotient (negative : Bool) (numerator denominator : Nat) : Binary64 :=
  if numerator == 0 then zero negative
  else
    let exponent := quotientExponent numerator denominator
    let (top, bottom) := scaleDown numerator denominator exponent
    let significand := roundQuotient top bottom
    let (significand, exponent) :=
      if significand == 2 * leastNormal then (leastNormal, exponent + 1) else (significand, exponent)
    if greatestExponent < exponent then .infinite negative
    else .finite negative significand exponent

def ofInt (value : Int) : Binary64 := ofQuotient (value < 0) value.natAbs 1

/-- The nearest number to `digits * 10 ^ exponent`. Where the length of the digits already shows that
the result is out of range, it is decided without powers of ten. -/
def ofDecimal (negative : Bool) (digits : Nat) (exponent : Int) : Binary64 :=
  if digits == 0 then zero negative
  else if (digits.log2 : Int) * 3 / 10 + exponent > 320 then .infinite negative
  else if (digits.log2 : Int) / 3 + 1 + exponent < -340 then zero negative
  else if exponent < 0 then ofQuotient negative digits (Nat.pow 10 (-exponent).toNat)
  else ofQuotient negative (digits * Nat.pow 10 exponent.toNat) 1

/-- The numerator over a power of two that equals the magnitude of a finite number. -/
def ratio (significand : Nat) (exponent : Int) : Nat × Nat :=
  if exponent < 0 then (significand, Nat.pow 2 (-exponent).toNat)
  else (significand * Nat.pow 2 exponent.toNat, 1)

/-- An integer times a power of two, rounded; a zero takes the given sign. -/
def ofScaled (zeroNegative : Bool) (value : Int) (exponent : Int) : Binary64 :=
  if value == 0 then zero zeroNegative
  else
    let (numerator, denominator) := ratio value.natAbs exponent
    ofQuotient (value < 0) numerator denominator

def signed (negative : Bool) (significand : Nat) : Int :=
  if negative then -(significand : Int) else significand

def add : Binary64 → Binary64 → Binary64
  | .nan, _ => .nan
  | _, .nan => .nan
  | .infinite left, .infinite right => if left == right then .infinite left else .nan
  | .infinite left, .finite .. => .infinite left
  | .finite .., .infinite right => .infinite right
  | .finite leftSign left leftExponent, .finite rightSign right rightExponent =>
      let exponent := min leftExponent rightExponent
      let total :=
        signed leftSign left * Int.pow 2 (leftExponent - exponent).toNat
          + signed rightSign right * Int.pow 2 (rightExponent - exponent).toNat
      ofScaled (leftSign && rightSign) total exponent

def mul : Binary64 → Binary64 → Binary64
  | .nan, _ => .nan
  | _, .nan => .nan
  | .infinite left, .infinite right => .infinite (left != right)
  | .infinite left, .finite right significand _ =>
      if significand == 0 then .nan else .infinite (left != right)
  | .finite left significand _, .infinite right =>
      if significand == 0 then .nan else .infinite (left != right)
  | .finite leftSign left leftExponent, .finite rightSign right rightExponent =>
      ofScaled (leftSign != rightSign) (signed (leftSign != rightSign) (left * right))
        (leftExponent + rightExponent)

def neg : Binary64 → Binary64
  | .finite negative significand exponent => .finite (!negative) significand exponent
  | .infinite negative => .infinite (!negative)
  | .nan => .nan

def isFinite : Binary64 → Bool
  | .finite .. => true
  | _ => false

def isZero : Binary64 → Bool
  | .finite _ significand _ => significand == 0
  | _ => false

/-- Numeric equality: the two zeros are equal and nothing equals a NaN. -/
def equals : Binary64 → Binary64 → Bool
  | .nan, _ => false
  | _, .nan => false
  | .infinite left, .infinite right => left == right
  | .finite leftSign left leftExponent, .finite rightSign right rightExponent =>
      (left == 0 && right == 0)
        || (leftSign == rightSign && left == right && leftExponent == rightExponent)
  | _, _ => false

def truncate? : Binary64 → Option Int
  | .finite negative significand exponent =>
      let (numerator, denominator) := ratio significand exponent
      some (signed negative (numerator / denominator))
  | _ => none

def whole? : Binary64 → Option Int
  | .finite negative significand exponent =>
      let (numerator, denominator) := ratio significand exponent
      if numerator % denominator == 0 then some (signed negative (numerator / denominator)) else none
  | _ => none

/-- Whether a number is strictly below another; a NaN is below nothing and above nothing. -/
def less : Binary64 → Binary64 → Bool
  | .nan, _ => false
  | _, .nan => false
  | .infinite left, .infinite right => left && !right
  | .infinite left, .finite .. => left
  | .finite .., .infinite right => !right
  | .finite leftSign left leftExponent, .finite rightSign right rightExponent =>
      let (leftNumerator, leftDenominator) := ratio left leftExponent
      let (rightNumerator, rightDenominator) := ratio right rightExponent
      signed leftSign leftNumerator * rightDenominator
        < signed rightSign rightNumerator * leftDenominator

end Binary64

end BrowserScript
