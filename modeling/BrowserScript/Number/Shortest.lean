import BrowserScript.Number.Binary64

/-!
# The shortest decimal of a number

A finite number is written with the fewest significant digits that read back as itself; among
decimals of that length the nearest one is taken, an exact tie going to the even digit. The search
tries the value's two neighbours on the grids of one, two, … significant digits.
-/

namespace BrowserScript

structure Decimal where
  digits : Nat
  exponent : Int
  deriving DecidableEq, Inhabited

namespace Decimal

/-- How many digits a natural number has; zero has one. -/
def length (value : Nat) : Nat := (Nat.toDigits 10 value).length

def dropZeros : Nat → Decimal → Decimal
  | 0, decimal => decimal
  | fuel + 1, decimal =>
      if decimal.digits % 10 == 0 && decimal.digits != 0 then
        dropZeros fuel ⟨decimal.digits / 10, decimal.exponent + 1⟩
      else decimal

def normalize (decimal : Decimal) : Decimal := dropZeros (length decimal.digits) decimal

def ratio (digits : Nat) (exponent : Int) : Nat × Nat :=
  if exponent < 0 then (digits, Nat.pow 10 (-exponent).toNat)
  else (digits * Nat.pow 10 exponent.toNat, 1)

end Decimal

namespace Binary64

/-- The reals that round to a number, as fractions over one denominator. -/
structure RoundingInterval where
  low : Nat
  value : Nat
  high : Nat
  denominator : Nat
  /-- Whether the ends round to the number too. -/
  closed : Bool

def roundingInterval (significand : Nat) (exponent : Int) : RoundingInterval :=
  let narrow := significand == leastNormal && leastExponent < exponent
  let (scale, denominator) := ratio 1 (exponent - 2)
  { low := (4 * significand - (if narrow then 1 else 2)) * scale
    value := 4 * significand * scale
    high := (4 * significand + 2) * scale
    denominator := denominator
    closed := significand % 2 == 0 }

namespace RoundingInterval

def has (interval : RoundingInterval) (decimal : Decimal) : Bool :=
  let (numerator, denominator) := Decimal.ratio decimal.digits decimal.exponent
  let point := numerator * interval.denominator
  if interval.closed then
    interval.low * denominator ≤ point && point ≤ interval.high * denominator
  else interval.low * denominator < point && point < interval.high * denominator

def magnitude (interval : RoundingInterval) : Int :=
  let estimate : Int :=
    (Decimal.length interval.value : Int) - Decimal.length interval.denominator
  let (numerator, denominator) := Decimal.ratio 1 estimate
  if interval.value * denominator < numerator * interval.denominator then estimate
  else estimate + 1

/-- The decimal of a number of digits that the interval contains, the nearer one of two. -/
def onGrid? (interval : RoundingInterval) (magnitude : Int) (count : Nat) : Option Decimal :=
  let exponent := magnitude - count
  let (unit, denominator) := Decimal.ratio 1 exponent
  let top := interval.value * denominator
  let bottom := interval.denominator * unit
  let below : Decimal := ⟨top / bottom, exponent⟩
  let above : Decimal := ⟨top / bottom + 1, exponent⟩
  match interval.has below, interval.has above with
  | true, true =>
      let rest := 2 * (top % bottom)
      if rest < bottom then some below
      else if bottom < rest then some above
      else if below.digits % 2 == 0 then some below else some above
  | true, false => some below
  | false, true => some above
  | false, false => none

def shortest (interval : RoundingInterval) : Decimal :=
  let magnitude := interval.magnitude
  let candidates := (List.range 17).map fun index => interval.onGrid? magnitude (index + 1)
  ((candidates.findSome? id).getD ⟨0, 0⟩).normalize

end RoundingInterval

end Binary64

end BrowserScript
