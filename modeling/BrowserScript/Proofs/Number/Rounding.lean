import BrowserScript.Number.Shortest
import BrowserScript.Proofs.Number.Whole
import Mathlib.Algebra.Order.Field.Power
import Mathlib.Algebra.Order.Field.Rat
import Mathlib.Tactic.FieldSimp
import Mathlib.Tactic.Linarith
import Mathlib.Tactic.NormNum
import Mathlib.Tactic.Positivity

/-!
# Rounding to the nearest number

The points that are rounded to a finite number lie within half a unit of its last place around it;
below the least significand of a power the units are half as large. The ends belong to the number
if its significand is even. Every quotient in this interval is rounded to the number. A decimal is
read as the quotient that it stands for is rounded.
-/

namespace BrowserScript

/-- A whole number times a power, as a fraction without negative exponents. -/
theorem fraction_div (base digits : Nat) (exponent : Int) :
    let fraction := if exponent < 0 then (digits, base ^ (-exponent).toNat)
      else (digits * base ^ exponent.toNat, 1)
    (fraction.1 : ℚ) / fraction.2 = digits * (base : ℚ) ^ exponent := by
  dsimp only
  split
  · obtain ⟨count, rfl⟩ : ∃ count : Nat, exponent = -(count : Int) := ⟨(-exponent).toNat, by omega⟩
    simp [zpow_neg, div_eq_mul_inv]
  · obtain ⟨count, rfl⟩ : ∃ count : Nat, exponent = count := ⟨exponent.toNat, by omega⟩
    simp

/-- The fraction of a decimal is its value. -/
theorem Decimal.ratio_div (digits : Nat) (exponent : Int) :
    ((ratio digits exponent).1 : ℚ) / (ratio digits exponent).2 = digits * 10 ^ exponent :=
  mod_cast fraction_div 10 digits exponent

theorem Decimal.ratio_pos (digits : Nat) (exponent : Int) : 0 < (ratio digits exponent).2 := by
  unfold ratio
  split
  · exact Nat.pow_pos (by decide)
  · exact Nat.one_pos

theorem Decimal.ratio_fst_pos {digits : Nat} (given : 0 < digits) (exponent : Int) :
    0 < (ratio digits exponent).1 := by
  unfold ratio
  split
  · exact given
  · exact Nat.mul_pos given (Nat.pow_pos (by decide))

namespace Binary64

variable {numerator denominator : Nat}

theorem two_zpow_pos (exponent : Int) : (0 : ℚ) < 2 ^ exponent := zpow_pos (by norm_num) exponent

theorem two_zpow_succ (exponent : Int) : (2 : ℚ) ^ (exponent + 1) = 2 * 2 ^ exponent := by
  rw [zpow_add_one₀ (by norm_num), mul_comm]

theorem two_zpow_le {smaller larger : Int} (ordered : smaller ≤ larger) :
    (2 : ℚ) ^ smaller ≤ 2 ^ larger := zpow_le_zpow_right₀ (by norm_num) ordered

/-- The fraction of a finite number is its magnitude. -/
theorem ratio_div (significand : Nat) (exponent : Int) :
    ((ratio significand exponent).1 : ℚ) / (ratio significand exponent).2 =
      significand * 2 ^ exponent :=
  mod_cast fraction_div 2 significand exponent

theorem scaleDown_pos (numerator : Nat) (positive : 0 < denominator) (exponent : Int) :
    0 < (scaleDown numerator denominator exponent).2 := by
  unfold scaleDown
  split
  · exact positive
  · exact Nat.mul_pos positive (Nat.pow_pos (by decide))

theorem scaleDown_div (numerator denominator : Nat) (exponent : Int) :
    ((scaleDown numerator denominator exponent).1 : ℚ) /
        (scaleDown numerator denominator exponent).2 =
      numerator / denominator / 2 ^ exponent := by
  unfold scaleDown
  split
  · rename_i negative
    obtain ⟨count, rfl⟩ : ∃ count : Nat, exponent = -(count : Int) := ⟨(-exponent).toNat, by omega⟩
    simp [zpow_neg, div_eq_mul_inv, mul_right_comm]
  · rename_i positive
    obtain ⟨count, rfl⟩ : ∃ count : Nat, exponent = count := ⟨exponent.toNat, by omega⟩
    simp [div_div]

/-! ## The power of a quotient -/

/-- The powers of two around a positive whole number. -/
theorem log2_bounds {number : Nat} (positive : 0 < number) :
    (2 : ℚ) ^ (number.log2 : Int) ≤ number ∧ (number : ℚ) < 2 ^ ((number.log2 : Int) + 1) := by
  have low := Nat.log2_self_le (Nat.ne_of_gt positive)
  have high : number < 2 ^ (number.log2 + 1) := Nat.lt_log2_self
  constructor
  · rw [zpow_natCast]
    exact_mod_cast low
  · have cast : (2 : ℚ) ^ ((number.log2 : Int) + 1) = 2 ^ (number.log2 + 1) :=
      mod_cast zpow_natCast (2 : ℚ) (number.log2 + 1)
    rw [cast]
    exact_mod_cast high

/-- A quotient lies between the powers that the bits of its parts give. -/
theorem quotient_bounds (above : 0 < numerator) (positive : 0 < denominator) :
    (2 : ℚ) ^ ((numerator.log2 : Int) - denominator.log2 - 1) < numerator / denominator ∧
      (numerator / denominator : ℚ) < 2 ^ ((numerator.log2 : Int) - denominator.log2 + 1) := by
  obtain ⟨lowTop, highTop⟩ := log2_bounds above
  obtain ⟨lowBottom, highBottom⟩ := log2_bounds positive
  have bottom : (0 : ℚ) < denominator := mod_cast positive
  constructor
  · rw [lt_div_iff₀ bottom]
    calc (2 : ℚ) ^ ((numerator.log2 : Int) - denominator.log2 - 1) * denominator
        < 2 ^ ((numerator.log2 : Int) - denominator.log2 - 1) * 2 ^ ((denominator.log2 : Int) + 1) :=
          mul_lt_mul_of_pos_left highBottom (two_zpow_pos _)
      _ = 2 ^ (numerator.log2 : Int) := by rw [← zpow_add₀ (by norm_num)]; congr 1; omega
      _ ≤ numerator := lowTop
  · rw [div_lt_iff₀ bottom]
    calc (numerator : ℚ) < 2 ^ ((numerator.log2 : Int) + 1) := highTop
      _ = 2 ^ ((numerator.log2 : Int) - denominator.log2 + 1) * 2 ^ (denominator.log2 : Int) := by
          rw [← zpow_add₀ (by norm_num)]; congr 1; omega
      _ ≤ 2 ^ ((numerator.log2 : Int) - denominator.log2 + 1) * denominator :=
          mul_le_mul_of_nonneg_left lowBottom (two_zpow_pos _).le

/-- At its power of two a quotient has a significand of 53 bits, or fewer at the least power. -/
theorem quotientExponent_spec (above : 0 < numerator) (positive : 0 < denominator) :
    leastExponent ≤ quotientExponent numerator denominator ∧
      (numerator / denominator : ℚ) < 2 ^ 53 * 2 ^ quotientExponent numerator denominator ∧
      (quotientExponent numerator denominator = leastExponent ∨
        2 ^ 52 * 2 ^ quotientExponent numerator denominator ≤ (numerator / denominator : ℚ)) := by
  obtain ⟨low, high⟩ := quotient_bounds above positive
  generalize estimated : (numerator.log2 : Int) - denominator.log2 - 53 = estimate
  have below : (numerator.log2 : Int) - denominator.log2 - 1 = estimate + 52 := by omega
  have beyond : (numerator.log2 : Int) - denominator.log2 + 1 = estimate + 1 + 53 := by omega
  have shift (exponent : Int) (count : Nat) :
      (2 : ℚ) ^ (exponent + count) = 2 ^ count * 2 ^ exponent := by
    rw [zpow_add₀ (by norm_num), zpow_natCast, mul_comm]
  rw [below] at low
  rw [beyond] at high
  -- The whole part of the scaled quotient tells which of the two powers it is.
  have whole : 2 * leastNormal ≤ (scaleDown numerator denominator estimate).1 /
        (scaleDown numerator denominator estimate).2 ↔
      2 ^ 53 * (2 : ℚ) ^ estimate ≤ numerator / denominator := by
    have bottom := scaleDown_pos numerator positive estimate
    have bottomRat : (0 : ℚ) < (scaleDown numerator denominator estimate).2 := mod_cast bottom
    rw [Nat.le_div_iff_mul_le bottom, two_mul_leastNormal, ← le_div_iff₀ (two_zpow_pos estimate),
      ← scaleDown_div, le_div_iff₀ bottomRat]
    exact_mod_cast Iff.rfl
  obtain ⟨exponent, chosen, lower, upper⟩ : ∃ exponent : Int,
      quotientExponent numerator denominator = max exponent leastExponent ∧
      2 ^ 52 * (2 : ℚ) ^ exponent ≤ numerator / denominator ∧
      (numerator / denominator : ℚ) < 2 ^ 53 * 2 ^ exponent := by
    unfold quotientExponent
    simp only [estimated]
    split
    · rename_i large
      refine ⟨estimate + 1, rfl, ?_, ?_⟩
      · have enough := whole.1 large
        rw [two_zpow_succ]
        linarith
      · exact_mod_cast shift (estimate + 1) 53 ▸ high
    · rename_i small
      refine ⟨estimate, rfl, ?_, lt_of_not_ge (mt whole.2 small)⟩
      exact_mod_cast (shift estimate 52 ▸ low).le
  rw [chosen]
  refine ⟨le_max_right _ _, ?_, ?_⟩
  · calc (numerator / denominator : ℚ) < 2 ^ 53 * 2 ^ exponent := upper
      _ ≤ 2 ^ 53 * 2 ^ max exponent leastExponent :=
        mul_le_mul_of_nonneg_left (two_zpow_le (le_max_left _ _)) (by norm_num)
  · rcases le_total leastExponent exponent with normal | tiny
    · rw [max_eq_left normal]
      exact .inr lower
    · exact .inl (max_eq_right tiny)

/-! ## Rounding a quotient -/

/-- A quotient within half a unit of a whole number is rounded to it; half a unit away it is, if the
whole number is even. -/
theorem roundQuotient_eq {nearest : Nat} (positive : 0 < denominator)
    (low : 2 * nearest * denominator ≤ 2 * numerator + denominator)
    (high : 2 * numerator ≤ (2 * nearest + 1) * denominator)
    (odd : nearest % 2 = 1 → 2 * nearest * denominator < 2 * numerator + denominator ∧
      2 * numerator < (2 * nearest + 1) * denominator) :
    roundQuotient numerator denominator = nearest := by
  have parts := Nat.div_add_mod numerator denominator
  have small := Nat.mod_lt numerator positive
  simp only [roundQuotient]
  generalize numerator / denominator = quotient at *
  generalize numerator % denominator = rest at *
  -- The whole part of the quotient is the nearest number or the one below it.
  have above : quotient ≤ nearest := by
    by_contra less
    have next : nearest + 1 ≤ quotient := by omega
    have scaled := Nat.mul_le_mul_left denominator next
    nlinarith
  have below : nearest ≤ quotient + 1 := by
    by_contra more
    have next : quotient + 2 ≤ nearest := by omega
    have scaled := Nat.mul_le_mul_left denominator next
    nlinarith
  obtain rfl | rfl : nearest = quotient ∨ nearest = quotient + 1 := by omega
  · have half : 2 * rest ≤ denominator := by nlinarith
    rcases Nat.lt_or_eq_of_le half with less | equal
    · rw [if_pos less]
    · rw [if_neg (by omega), if_neg (by omega)]
      by_cases even : nearest % 2 = 0
      · rw [if_pos (beq_iff_eq.2 even)]
      · have strict := (odd (by omega)).2
        exfalso
        nlinarith
  · have half : denominator ≤ 2 * rest := by nlinarith
    rw [if_neg (by omega)]
    rcases Nat.lt_or_eq_of_le half with less | equal
    · rw [if_pos less]
    · rw [if_neg (by omega)]
      by_cases even : quotient % 2 = 0
      · have strict := (odd (by omega)).1
        exfalso
        nlinarith
      · rw [if_neg (by simpa using even)]

/-- How far the points reach below a number that are rounded to it, in units of its last place. -/
def reachBelow (significand : Nat) (exponent : Int) : ℚ :=
  if significand = leastNormal ∧ leastExponent < exponent then 1 / 4 else 1 / 2

def RoundsTo (significand : Nat) (exponent : Int) (point : ℚ) : Prop :=
  (significand - reachBelow significand exponent) * 2 ^ exponent ≤ point ∧
    point ≤ (significand + 1 / 2) * 2 ^ exponent ∧
    (significand % 2 = 1 →
      (significand - reachBelow significand exponent) * 2 ^ exponent < point ∧
        point < (significand + 1 / 2) * 2 ^ exponent)

structure Canonical (significand : Nat) (exponent : Int) : Prop where
  significand_lt : significand < 2 * leastNormal
  least_le : leastExponent ≤ exponent
  le_greatest : exponent ≤ greatestExponent
  normal : leastNormal ≤ significand ∨ exponent = leastExponent

theorem cast_leastNormal : (leastNormal : ℚ) = 2 ^ 52 := by norm_num [leastNormal]

theorem reachBelow_le (significand : Nat) (exponent : Int) :
    reachBelow significand exponent ≤ 1 / 2 := by
  unfold reachBelow
  split <;> norm_num

/-- A bound of a quotient in units of a power, as a bound of the scaled quotient. -/
theorem mul_zpow_le_iff (numerator : Nat) (positive : 0 < denominator)
    (exponent : Int) (count : ℚ) :
    (count * 2 ^ exponent ≤ (numerator / denominator : ℚ) ↔
      count * (scaleDown numerator denominator exponent).2 ≤
        (scaleDown numerator denominator exponent).1) ∧
    ((numerator / denominator : ℚ) ≤ count * 2 ^ exponent ↔
      ((scaleDown numerator denominator exponent).1 : ℚ) ≤
        count * (scaleDown numerator denominator exponent).2) := by
  have bottom : (0 : ℚ) < (scaleDown numerator denominator exponent).2 :=
    mod_cast scaleDown_pos numerator positive exponent
  constructor
  · rw [← le_div_iff₀ (two_zpow_pos exponent), ← scaleDown_div, le_div_iff₀ bottom]
  · rw [← div_le_iff₀ (two_zpow_pos exponent), ← scaleDown_div, div_le_iff₀ bottom]

/-- A quotient within half a unit of a number of units is rounded to this number. -/
theorem roundQuotient_scaleDown {nearest : Nat} (positive : 0 < denominator) {exponent : Int}
    (low : (nearest - 1 / 2 : ℚ) * 2 ^ exponent ≤ numerator / denominator)
    (high : (numerator / denominator : ℚ) ≤ (nearest + 1 / 2) * 2 ^ exponent)
    (odd : nearest % 2 = 1 →
      (nearest - 1 / 2 : ℚ) * 2 ^ exponent < numerator / denominator ∧
        (numerator / denominator : ℚ) < (nearest + 1 / 2) * 2 ^ exponent) :
    roundQuotient (scaleDown numerator denominator exponent).1
      (scaleDown numerator denominator exponent).2 = nearest := by
  have bounds := mul_zpow_le_iff numerator positive exponent
  have bottom := scaleDown_pos numerator positive exponent
  generalize scaleDown numerator denominator exponent = fraction at *
  refine roundQuotient_eq bottom ?_ ?_ fun isOdd => ⟨?_, ?_⟩
  · have scaled := (bounds _).1.1 low
    exact_mod_cast (by linarith : (2 * nearest * fraction.2 : ℚ) ≤ 2 * fraction.1 + fraction.2)
  · have scaled := (bounds _).2.1 high
    exact_mod_cast (by linarith : (2 * fraction.1 : ℚ) ≤ (2 * nearest + 1) * fraction.2)
  · have scaled := lt_of_not_ge (mt (bounds _).2.2 (not_le_of_gt (odd isOdd).1))
    exact_mod_cast (by linarith : (2 * nearest * fraction.2 : ℚ) < 2 * fraction.1 + fraction.2)
  · have scaled := lt_of_not_ge (mt (bounds _).1.2 (not_le_of_gt (odd isOdd).2))
    exact_mod_cast (by linarith : (2 * fraction.1 : ℚ) < (2 * nearest + 1) * fraction.2)

theorem Canonical.succ_le {significand : Nat} {exponent : Int}
    (canonical : Canonical significand exponent) : (significand : ℚ) + 1 ≤ 2 ^ 53 := by
  have whole := canonical.significand_lt
  rw [two_mul_leastNormal] at whole
  exact_mod_cast whole

/-- The power of a quotient that is rounded to a number is the power of the number, or the one below
it if the quotient lies below the least significand of the power. -/
theorem quotientExponent_cases {significand : Nat} {exponent : Int}
    (canonical : Canonical significand exponent)
    (above : 0 < numerator) (positive : 0 < denominator)
    (rounds : RoundsTo significand exponent (numerator / denominator)) :
    quotientExponent numerator denominator = exponent ∨
      quotientExponent numerator denominator = exponent - 1 ∧ significand = leastNormal ∧
        leastExponent < exponent ∧ (numerator / denominator : ℚ) < 2 ^ 52 * 2 ^ exponent := by
  obtain ⟨least, upper, lower⟩ := quotientExponent_spec above positive
  generalize quotientExponent numerator denominator = power at *
  generalize (numerator / denominator : ℚ) = point at *
  obtain ⟨low, high, _⟩ := rounds
  have unit := two_zpow_pos exponent
  have bound := canonical.succ_le
  rcases lt_trichotomy power exponent with less | same | more
  · -- Below the power of the number there is room for the least significand alone.
    right
    have normal : leastNormal ≤ significand :=
      canonical.normal.resolve_right (by omega)
    have double : (2 : ℚ) ^ exponent = 2 * 2 ^ (exponent - 1) := by
      rw [← two_zpow_succ, Int.sub_add_cancel]
    have within : point < 2 ^ 52 * 2 ^ exponent := by
      have smaller := two_zpow_le (show power ≤ exponent - 1 by omega)
      rw [double]
      linarith
    have least : significand = leastNormal := by
      have reach := reachBelow_le significand exponent
      have few : (significand : ℚ) < 2 ^ 52 + 1 := by
        by_contra many
        nlinarith
      have whole : significand < 2 ^ 52 + 1 := by exact_mod_cast few
      have equal : leastNormal = 2 ^ 52 := by decide
      omega
    have narrow : reachBelow significand exponent = 1 / 4 := if_pos ⟨least, by omega⟩
    refine ⟨?_, least, by omega, within⟩
    by_contra other
    have smaller := two_zpow_le (show power ≤ exponent - 1 - 1 by omega)
    have quarter : (2 : ℚ) ^ (exponent - 1) = 2 * 2 ^ (exponent - 1 - 1) := by
      rw [← two_zpow_succ, Int.sub_add_cancel]
    rw [narrow, least, cast_leastNormal, double, quarter] at low
    have unit := two_zpow_pos (exponent - 1 - 1)
    nlinarith
  · exact .inl same
  · have reached := lower.resolve_left (by have := canonical.least_le; omega)
    have larger := two_zpow_le (show exponent + 1 ≤ power by omega)
    rw [two_zpow_succ] at larger
    exfalso
    nlinarith

/-- Every quotient among the points of a number is rounded to the number. -/
theorem ofQuotient_of_roundsTo {significand : Nat} {exponent : Int}
    (canonical : Canonical significand exponent)
    (above : 0 < numerator) (positive : 0 < denominator)
    (rounds : RoundsTo significand exponent (numerator / denominator)) (negative : Bool) :
    ofQuotient negative numerator denominator = .finite negative significand exponent := by
  have given : (numerator == 0) = false := beq_eq_false_iff_ne.2 (Nat.ne_of_gt above)
  have fits : ¬ greatestExponent < exponent := not_lt.2 canonical.le_greatest
  have reach := reachBelow_le significand exponent
  have unit := two_zpow_pos exponent
  obtain ⟨low, high, odd⟩ := rounds
  simp only [ofQuotient, given, Bool.false_eq_true, if_false]
  rcases quotientExponent_cases canonical above positive ⟨low, high, odd⟩ with
    same | ⟨lower, least, normal, within⟩
  · have rounded : roundQuotient (scaleDown numerator denominator exponent).1
        (scaleDown numerator denominator exponent).2 = significand :=
      roundQuotient_scaleDown positive (by nlinarith) high
        (fun isOdd => ⟨by nlinarith [(odd isOdd).1], (odd isOdd).2⟩)
    have small : (significand == 2 * leastNormal) = false :=
      beq_eq_false_iff_ne.2 (Nat.ne_of_lt canonical.significand_lt)
    rw [same, rounded]
    simp only [small, Bool.false_eq_true, if_false, if_neg fits]
  · -- The significand is rounded up to the next power of two.
    have narrow : reachBelow significand exponent = 1 / 4 := if_pos ⟨least, normal⟩
    have double : (2 : ℚ) ^ exponent = 2 * 2 ^ (exponent - 1) := by
      rw [← two_zpow_succ, Int.sub_add_cancel]
    have cast : ((2 * leastNormal : Nat) : ℚ) = 2 ^ 53 := by norm_num [leastNormal]
    rw [narrow, least, cast_leastNormal, double] at low
    rw [double] at within
    have rounded : roundQuotient (scaleDown numerator denominator (exponent - 1)).1
        (scaleDown numerator denominator (exponent - 1)).2 = 2 * leastNormal := by
      have half := two_zpow_pos (exponent - 1)
      refine roundQuotient_scaleDown positive ?_ ?_ fun isOdd => absurd isOdd (by decide)
      · rw [cast]
        linarith
      · rw [cast]
        linarith
    rw [lower, rounded]
    simp only [beq_self_eq_true, if_true, Int.sub_add_cancel, if_neg fits, least]

/-- A quotient beyond the largest numbers of the format is rounded to an infinity. -/
theorem ofQuotient_of_large (above : 0 < numerator) (positive : 0 < denominator)
    (large : 2 ^ 53 * 2 ^ greatestExponent ≤ (numerator / denominator : ℚ)) (negative : Bool) :
    ofQuotient negative numerator denominator = .infinite negative := by
  have given : (numerator == 0) = false := beq_eq_false_iff_ne.2 (Nat.ne_of_gt above)
  obtain ⟨_, upper, _⟩ := quotientExponent_spec above positive
  have beyond : greatestExponent < quotientExponent numerator denominator := by
    by_contra within
    have bound := two_zpow_le (not_lt.1 within)
    linarith
  simp only [ofQuotient, given, Bool.false_eq_true, if_false]
  refine if_pos ?_
  split
  · exact Int.lt_add_one_of_le beyond.le
  · exact beyond

/-- A quotient below half the least number of the format is rounded to a zero. -/
theorem ofQuotient_of_small (above : 0 < numerator) (positive : 0 < denominator)
    (small : 2 * (numerator / denominator : ℚ) < 2 ^ leastExponent) (negative : Bool) :
    ofQuotient negative numerator denominator = zero negative := by
  have given : (numerator == 0) = false := beq_eq_false_iff_ne.2 (Nat.ne_of_gt above)
  have unit := two_zpow_pos leastExponent
  have some : (0 : ℚ) ≤ numerator / denominator := by positivity
  have least : quotientExponent numerator denominator = leastExponent := by
    obtain ⟨bound, _, lower⟩ := quotientExponent_spec above positive
    refine lower.resolve_right fun reached => ?_
    have larger := two_zpow_le bound
    linarith
  have rounded : roundQuotient (scaleDown numerator denominator leastExponent).1
      (scaleDown numerator denominator leastExponent).2 = 0 := by
    refine roundQuotient_scaleDown positive ?_ ?_ fun isOdd => absurd isOdd (by decide)
    · rw [Nat.cast_zero]
      linarith
    · rw [Nat.cast_zero]
      linarith
  simp only [ofQuotient, given, Bool.false_eq_true, if_false, least, rounded]
  rfl

/-! ## Reading a decimal -/

/-- Three decimal digits take at most ten bits. -/
theorem ten_pow_le_two_pow (bits : Nat) : 10 ^ (bits * 3 / 10) ≤ 2 ^ bits := by
  refine (Nat.pow_le_pow_iff_left (show 10 ≠ 0 by decide)).1 ?_
  calc (10 ^ (bits * 3 / 10)) ^ 10 = 10 ^ (bits * 3 / 10 * 10) := (Nat.pow_mul ..).symm
    _ ≤ 10 ^ (3 * bits) := Nat.pow_le_pow_right (by decide) (by omega)
    _ = (10 ^ 3) ^ bits := Nat.pow_mul ..
    _ ≤ (2 ^ 10) ^ bits := Nat.pow_le_pow_left (by decide) bits
    _ = (2 ^ bits) ^ 10 := by rw [← Nat.pow_mul, ← Nat.pow_mul, Nat.mul_comm]

/-- Three bits never reach another decimal digit. -/
theorem two_pow_le_ten_pow (bits : Nat) : 2 ^ (bits + 1) ≤ 10 ^ (bits / 3 + 1) :=
  calc 2 ^ (bits + 1) ≤ 2 ^ (3 * (bits / 3 + 1)) := Nat.pow_le_pow_right (by decide) (by omega)
    _ = (2 ^ 3) ^ (bits / 3 + 1) := Nat.pow_mul ..
    _ ≤ 10 ^ (bits / 3 + 1) := Nat.pow_le_pow_left (by decide) _

theorem ten_zpow_le {smaller larger : Int} (ordered : smaller ≤ larger) :
    (10 : ℚ) ^ smaller ≤ 10 ^ larger := zpow_le_zpow_right₀ (by norm_num) ordered

theorem ten_zpow_pos (exponent : Int) : (0 : ℚ) < 10 ^ exponent := zpow_pos (by norm_num) exponent

/-- The bits of a number bound its decimal digits from both sides. -/
theorem ten_zpow_bounds {digits : Nat} (given : 0 < digits) :
    (10 : ℚ) ^ ((digits.log2 : Int) * 3 / 10) ≤ digits ∧
      (digits : ℚ) < 10 ^ ((digits.log2 : Int) / 3 + 1) := by
  constructor
  · have whole := Nat.le_trans (ten_pow_le_two_pow digits.log2)
      (Nat.log2_self_le (Nat.ne_of_gt given))
    have cast : (10 : ℚ) ^ ((digits.log2 : Int) * 3 / 10) = 10 ^ (digits.log2 * 3 / 10) :=
      mod_cast zpow_natCast (10 : ℚ) (digits.log2 * 3 / 10)
    rw [cast]
    exact_mod_cast whole
  · have whole := Nat.lt_of_lt_of_le Nat.lt_log2_self (two_pow_le_ten_pow digits.log2)
    have cast : (10 : ℚ) ^ ((digits.log2 : Int) / 3 + 1) = 10 ^ (digits.log2 / 3 + 1) :=
      mod_cast zpow_natCast (10 : ℚ) (digits.log2 / 3 + 1)
    rw [cast]
    exact_mod_cast whole

/-- The largest numbers of the format have 309 digits before the point. -/
theorem greatest_lt : (2 : ℚ) ^ 53 * 2 ^ greatestExponent < 10 ^ (321 : Int) := by
  have whole : 2 ^ 53 * 2 ^ 971 < 10 ^ 321 := by decide +kernel
  have cast : (2 : ℚ) ^ greatestExponent = 2 ^ 971 := zpow_natCast 2 971
  have power : (10 : ℚ) ^ (321 : Int) = 10 ^ 321 := zpow_natCast 10 321
  rw [cast, power]
  exact_mod_cast whole

/-- The smallest number of the format has 323 zeros behind the point. -/
theorem lt_least : 2 * (10 : ℚ) ^ (-341 : Int) < 2 ^ leastExponent := by
  have whole : 2 * 2 ^ 1074 < 10 ^ 341 := by decide +kernel
  have whole' : (2 : ℚ) * 2 ^ 1074 < 10 ^ 341 := mod_cast whole
  have cast : (2 : ℚ) ^ leastExponent = (2 ^ 1074)⁻¹ := by
    rw [← zpow_natCast, ← zpow_neg]
    rfl
  have power : (10 : ℚ) ^ (-341 : Int) = (10 ^ 341)⁻¹ := by
    rw [← zpow_natCast, ← zpow_neg]
    rfl
  rw [cast, power, ← div_eq_mul_inv, div_lt_iff₀ (by positivity), inv_mul_eq_div,
    lt_div_iff₀ (by positivity)]
  exact whole'

/-- What is decided without powers of ten is what rounding the quotient gives. -/
theorem ofDecimal_eq (negative : Bool) (digits : Nat) (power : Int) :
    ofDecimal negative digits power =
      ofQuotient negative (Decimal.ratio digits power).1 (Decimal.ratio digits power).2 := by
  rcases Nat.eq_zero_or_pos digits with rfl | given
  · have numerator : (Decimal.ratio 0 power).1 = 0 := by
      unfold Decimal.ratio
      split
      · rfl
      · exact Nat.zero_mul _
    rw [ofQuotient, numerator]
    rfl
  have positive := Decimal.ratio_pos digits power
  have fraction := Decimal.ratio_div digits power
  have numerator := Decimal.ratio_fst_pos given power
  obtain ⟨low, high⟩ := ten_zpow_bounds given
  have ten := ten_zpow_pos power
  unfold ofDecimal
  rw [if_neg (by simpa using Nat.ne_of_gt given)]
  split
  · rename_i large
    refine (ofQuotient_of_large numerator positive (greatest_lt.le.trans ?_) negative).symm
    calc (10 : ℚ) ^ (321 : Int) ≤ 10 ^ ((digits.log2 : Int) * 3 / 10 + power) :=
          ten_zpow_le (by omega)
      _ = 10 ^ ((digits.log2 : Int) * 3 / 10) * 10 ^ power := zpow_add₀ (by norm_num) _ _
      _ ≤ digits * 10 ^ power := mul_le_mul_of_nonneg_right low ten.le
      _ = _ := fraction.symm
  split
  · rename_i small
    refine (ofQuotient_of_small numerator positive (lt_of_le_of_lt ?_ lt_least) negative).symm
    refine mul_le_mul_of_nonneg_left ?_ (by norm_num)
    calc _ = (digits : ℚ) * 10 ^ power := fraction
      _ ≤ 10 ^ ((digits.log2 : Int) / 3 + 1) * 10 ^ power :=
          mul_le_mul_of_nonneg_right high.le ten.le
      _ = 10 ^ ((digits.log2 : Int) / 3 + 1 + power) := (zpow_add₀ (by norm_num) _ _).symm
      _ ≤ 10 ^ (-341 : Int) := ten_zpow_le (by omega)
  unfold Decimal.ratio
  split <;> rfl

/-- A whole number without an exponent is read as it is rounded. -/
theorem ofDecimal_whole (negative : Bool) (number : Nat) :
    ofDecimal negative number 0 = ofQuotient negative number 1 := by
  rw [ofDecimal_eq, Decimal.ratio, if_neg (by decide)]
  exact congrArg (ofQuotient negative · 1) (Nat.mul_one number)

/-- The points of a positive number are positive. -/
theorem RoundsTo.pos {significand : Nat} {exponent : Int} {point : ℚ}
    (rounds : RoundsTo significand exponent point) (above : 0 < significand) : 0 < point := by
  have reach := reachBelow_le significand exponent
  have one : (1 : ℚ) ≤ significand := mod_cast above
  have unit := two_zpow_pos exponent
  nlinarith [rounds.1]

/-- A decimal among the points of a number is read as the number. -/
theorem ofDecimal_of_roundsTo {significand : Nat} {exponent : Int}
    (canonical : Canonical significand exponent) (above : 0 < significand) {digits : Nat}
    {power : Int} (rounds : RoundsTo significand exponent (digits * 10 ^ power))
    (negative : Bool) :
    ofDecimal negative digits power = .finite negative significand exponent := by
  have given : 0 < digits := by
    refine Nat.pos_of_ne_zero ?_
    rintro rfl
    have point := rounds.pos above
    rw [Nat.cast_zero, zero_mul] at point
    exact lt_irrefl 0 point
  rw [ofDecimal_eq]
  exact ofQuotient_of_roundsTo canonical (Decimal.ratio_fst_pos given power)
    (Decimal.ratio_pos digits power) (Decimal.ratio_div digits power ▸ rounds) negative

end Binary64

end BrowserScript
