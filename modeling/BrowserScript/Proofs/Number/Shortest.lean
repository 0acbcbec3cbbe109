import BrowserScript.Number.Notation
import BrowserScript.Proofs.Number.Rounding
import BrowserScript.Proofs.Value.Reader
import Mathlib.Tactic.Ring

/-!
# The shortest decimal reads back

The shortest decimal of a number lies among the points that are rounded to the number: seventeen
digits are always enough, since their grid is finer than the distance to the neighbours of the
number. The text of the number spells a decimal of the same value, so it is read as the number.
-/

namespace BrowserScript

def Decimal.value (decimal : Decimal) : ℚ := decimal.digits * 10 ^ decimal.exponent

namespace Binary64

variable {significand : Nat} {exponent : Int}

/-! ## The interval of a number -/

namespace RoundingInterval

/-- An interval describes the points of a number: its middle is the number and its ends are those of
the points. -/
structure Describes (interval : RoundingInterval) (significand : Nat) (exponent : Int) : Prop where
  positive : 0 < interval.denominator
  low : (interval.low / interval.denominator : ℚ) =
    (significand - reachBelow significand exponent) * 2 ^ exponent
  value : (interval.value / interval.denominator : ℚ) = significand * 2 ^ exponent
  high : (interval.high / interval.denominator : ℚ) = (significand + 1 / 2) * 2 ^ exponent
  closed : interval.closed = decide (significand % 2 = 0)

theorem describes_roundingInterval (above : 0 < significand) (exponent : Int) :
    (roundingInterval significand exponent).Describes significand exponent := by
  have positive := Binary64.ratio_pos 1 (exponent - 2)
  have unit : ((Binary64.ratio 1 (exponent - 2)).1 : ℚ) / (Binary64.ratio 1 (exponent - 2)).2 =
      2 ^ exponent / 4 := by
    rw [ratio_div, Nat.cast_one, one_mul, zpow_sub₀ (by norm_num)]
    norm_num
  have scaled (count : Nat) :
      ((count * (Binary64.ratio 1 (exponent - 2)).1 : Nat) : ℚ) /
        (Binary64.ratio 1 (exponent - 2)).2 = count * (2 ^ exponent / 4) := by
    rw [Nat.cast_mul, mul_div_assoc, unit]
  refine ⟨positive, ?_, ?_, ?_, ?_⟩
  · refine (scaled _).trans ?_
    have enough : (if significand == leastNormal && leastExponent < exponent then 1 else 2) ≤
        4 * significand := by split <;> omega
    rw [Nat.cast_sub enough, reachBelow]
    by_cases narrow : significand = leastNormal ∧ leastExponent < exponent
    · rw [if_pos narrow, if_pos (by simpa using narrow)]
      push_cast
      ring
    · rw [if_neg narrow, if_neg (by simpa using narrow)]
      push_cast
      ring
  · refine (scaled _).trans ?_
    push_cast
    ring
  · refine (scaled _).trans ?_
    push_cast
    ring
  · rfl

variable {interval : RoundingInterval}

/-- A decimal lies in the interval of a number exactly if it is rounded to the number. -/
theorem Describes.has_iff (describes : interval.Describes significand exponent)
    (decimal : Decimal) :
    interval.has decimal = true ↔ RoundsTo significand exponent decimal.value := by
  have bottom : (0 : ℚ) < interval.denominator := mod_cast describes.positive
  have under : (0 : ℚ) < (Decimal.ratio decimal.digits decimal.exponent).2 :=
    mod_cast Decimal.ratio_pos decimal.digits decimal.exponent
  have point := Decimal.ratio_div decimal.digits decimal.exponent
  rw [RoundsTo, Decimal.value, ← describes.low, ← describes.high, ← point, has, describes.closed]
  simp only [div_le_div_iff₀ bottom under, div_le_div_iff₀ under bottom,
    div_lt_div_iff₀ bottom under, div_lt_div_iff₀ under bottom, ← Nat.cast_mul, Nat.cast_le,
    Nat.cast_lt]
  generalize (Decimal.ratio decimal.digits decimal.exponent).1 * interval.denominator = point
  by_cases even : significand % 2 = 0
  · rw [if_pos (decide_eq_true even), Bool.and_eq_true_iff, decide_eq_true_eq, decide_eq_true_eq]
    constructor
    · exact fun inside => ⟨inside.1, inside.2, fun odd => absurd odd (by omega)⟩
    · exact fun inside => ⟨inside.1, inside.2.1⟩
  · rw [if_neg (by simpa using even), Bool.and_eq_true_iff, decide_eq_true_eq, decide_eq_true_eq]
    constructor
    · exact fun inside => ⟨inside.1.le, inside.2.le, fun _ => inside⟩
    · exact fun inside => inside.2.2 (by omega)

/-! ## The grid of a number of digits -/

/-- The powers of ten around a positive whole number. -/
theorem length_bounds {number : Nat} (positive : 0 < number) :
    (10 : ℚ) ^ ((Decimal.length number : Int) - 1) ≤ number ∧
      (number : ℚ) < 10 ^ (Decimal.length number : Int) := by
  have nonempty : 0 < Decimal.length number := Nat.length_toDigits_pos
  have above : number < 10 ^ Decimal.length number :=
    (Nat.length_toDigits_le_iff (by decide) nonempty).1 le_rfl
  obtain ⟨fewer, more⟩ : ∃ fewer, Decimal.length number = fewer + 1 :=
    ⟨Decimal.length number - 1, by omega⟩
  have below : 10 ^ fewer ≤ number := by
    rcases Nat.eq_zero_or_pos fewer with rfl | several
    · exact positive
    · have short := mt (Nat.length_toDigits_le_iff (b := 10) (n := number) (by decide) several).2
      unfold Decimal.length at more
      omega
  constructor
  · rw [more, Nat.cast_add, Nat.cast_one, Int.add_sub_cancel, zpow_natCast]
    exact_mod_cast below
  · rw [zpow_natCast]
    exact_mod_cast above

/-- The magnitude is the least power of ten above the value. -/
theorem magnitude_spec (above : 0 < interval.value) (positive : 0 < interval.denominator) :
    (10 : ℚ) ^ (interval.magnitude - 1) ≤ interval.value / interval.denominator ∧
      (interval.value / interval.denominator : ℚ) < 10 ^ interval.magnitude := by
  obtain ⟨lowTop, highTop⟩ := length_bounds above
  obtain ⟨lowBottom, highBottom⟩ := length_bounds positive
  have bottom : (0 : ℚ) < interval.denominator := mod_cast positive
  generalize estimated : (Decimal.length interval.value : Int) -
    Decimal.length interval.denominator = estimate
  have low : (10 : ℚ) ^ (estimate - 1) ≤ interval.value / interval.denominator := by
    rw [le_div_iff₀ bottom]
    calc (10 : ℚ) ^ (estimate - 1) * interval.denominator
        ≤ 10 ^ (estimate - 1) * 10 ^ (Decimal.length interval.denominator : Int) :=
          mul_le_mul_of_nonneg_left highBottom.le (ten_zpow_pos _).le
      _ = 10 ^ ((Decimal.length interval.value : Int) - 1) := by
          rw [← zpow_add₀ (by norm_num)]; congr 1; omega
      _ ≤ interval.value := lowTop
  have high : (interval.value / interval.denominator : ℚ) < 10 ^ (estimate + 1) := by
    rw [div_lt_iff₀ bottom]
    calc (interval.value : ℚ) < 10 ^ (Decimal.length interval.value : Int) := highTop
      _ = 10 ^ (estimate + 1) * 10 ^ ((Decimal.length interval.denominator : Int) - 1) := by
          rw [← zpow_add₀ (by norm_num)]; congr 1; omega
      _ ≤ 10 ^ (estimate + 1) * interval.denominator :=
          mul_le_mul_of_nonneg_left lowBottom (ten_zpow_pos _).le
  have fraction := Decimal.ratio_div 1 estimate
  have under : (0 : ℚ) < (Decimal.ratio 1 estimate).2 := mod_cast Decimal.ratio_pos 1 estimate
  have less : interval.value * (Decimal.ratio 1 estimate).2 <
        (Decimal.ratio 1 estimate).1 * interval.denominator ↔
      (interval.value / interval.denominator : ℚ) < 10 ^ estimate := by
    rw [Nat.cast_one, one_mul] at fraction
    rw [← fraction, div_lt_div_iff₀ bottom under]
    exact_mod_cast Iff.rfl
  unfold magnitude
  simp only [estimated]
  split
  · rename_i smaller
    exact ⟨low, less.1 smaller⟩
  · rename_i larger
    rw [Int.add_sub_cancel]
    exact ⟨le_of_not_gt (mt less.2 larger), high⟩

def steps (interval : RoundingInterval) (power : Int) : Nat :=
  interval.value * (Decimal.ratio 1 power).2 / (interval.denominator * (Decimal.ratio 1 power).1)

/-- The value lies between two neighbours on a grid. -/
theorem steps_spec (positive : 0 < interval.denominator) (power : Int) :
    interval.steps power * (10 : ℚ) ^ power ≤ interval.value / interval.denominator ∧
      (interval.value / interval.denominator : ℚ) < (interval.steps power + 1) * 10 ^ power := by
  have bottom : (0 : ℚ) < interval.denominator := mod_cast positive
  have under : (0 : ℚ) < (Decimal.ratio 1 power).2 := mod_cast Decimal.ratio_pos 1 power
  have unit := Decimal.ratio_div 1 power
  rw [Nat.cast_one, one_mul] at unit
  have unitPositive : 0 < (Decimal.ratio 1 power).1 := by
    have rational : (0 : ℚ) < (Decimal.ratio 1 power).1 := by
      rw [div_eq_iff under.ne'] at unit
      rw [unit]
      exact mul_pos (ten_zpow_pos power) under
    exact_mod_cast rational
  have divisor : 0 < interval.denominator * (Decimal.ratio 1 power).1 :=
    Nat.mul_pos positive unitPositive
  have low := Nat.div_mul_le_self (interval.value * (Decimal.ratio 1 power).2)
    (interval.denominator * (Decimal.ratio 1 power).1)
  have high := Nat.lt_div_mul_add (a := interval.value * (Decimal.ratio 1 power).2) divisor
  rw [← unit, mul_div_assoc', mul_div_assoc', div_le_div_iff₀ under bottom,
    div_lt_div_iff₀ bottom under]
  unfold steps
  generalize interval.value * (Decimal.ratio 1 power).2 /
    (interval.denominator * (Decimal.ratio 1 power).1) = quotient at *
  constructor
  · have cast : (quotient * (interval.denominator * (Decimal.ratio 1 power).1) : ℚ) ≤
        interval.value * (Decimal.ratio 1 power).2 := mod_cast low
    linarith
  · have cast : (interval.value * (Decimal.ratio 1 power).2 : ℚ) <
        quotient * (interval.denominator * (Decimal.ratio 1 power).1) +
          interval.denominator * (Decimal.ratio 1 power).1 := mod_cast high
    linarith

/-- A neighbour of the value on the grid of a number of digits is taken if it is in the interval. -/
theorem onGrid?_cases (interval : RoundingInterval) (magnitude : Int) (count : Nat) :
    (∃ decimal, interval.onGrid? magnitude count = some decimal ∧ interval.has decimal = true ∧
      decimal.digits ≤ interval.steps (magnitude - count) + 1) ∨
    (interval.onGrid? magnitude count = none ∧
      interval.has ⟨interval.steps (magnitude - count), magnitude - count⟩ = false ∧
      interval.has ⟨interval.steps (magnitude - count) + 1, magnitude - count⟩ = false) := by
  unfold onGrid?
  dsimp only
  rw [← steps]
  cases below : interval.has ⟨interval.steps (magnitude - count), magnitude - count⟩ with
  | true =>
      cases above : interval.has ⟨interval.steps (magnitude - count) + 1, magnitude - count⟩ with
      | true =>
          dsimp only
          left
          split
          · exact ⟨_, rfl, below, Nat.le_succ _⟩
          · split
            · exact ⟨_, rfl, above, le_rfl⟩
            · split
              · exact ⟨_, rfl, below, Nat.le_succ _⟩
              · exact ⟨_, rfl, above, le_rfl⟩
      | false => exact .inl ⟨_, rfl, below, Nat.le_succ _⟩
  | false =>
      cases above : interval.has ⟨interval.steps (magnitude - count) + 1, magnitude - count⟩ with
      | true => exact .inl ⟨_, rfl, above, le_rfl⟩
      | false => exact .inr ⟨rfl, rfl, rfl⟩

/-- A number of digits below the magnitude has no more steps than it has numbers. -/
theorem steps_lt (above : 0 < interval.value) (positive : 0 < interval.denominator) (count : Nat) :
    interval.steps (interval.magnitude - count) < 10 ^ count := by
  have low := (steps_spec positive (interval.magnitude - count)).1
  have high := (magnitude_spec above positive).2
  have whole : (10 : ℚ) ^ interval.magnitude = 10 ^ count * 10 ^ (interval.magnitude - count) := by
    rw [← zpow_natCast, ← zpow_add₀ (by norm_num)]
    congr 1
    omega
  have unit := ten_zpow_pos (interval.magnitude - count)
  have rational : (interval.steps (interval.magnitude - count) : ℚ) < 10 ^ count := by
    rw [whole] at high
    exact lt_of_mul_lt_mul_right (low.trans_lt high) unit.le
  exact_mod_cast rational

/-! ## Seventeen digits -/

theorem roundsTo_of_between {point : ℚ}
    (low : (significand - reachBelow significand exponent) * 2 ^ exponent < point)
    (high : point < (significand + 1 / 2) * 2 ^ exponent) : RoundsTo significand exponent point :=
  ⟨low.le, high.le, fun _ => ⟨low, high⟩⟩

/-- The steps of the grid of seventeen digits are smaller than the interval. -/
theorem step_lt (canonical : Canonical significand exponent) {step : ℚ}
    (fine : step * 10 ^ 16 ≤ significand * 2 ^ exponent) :
    step < (reachBelow significand exponent + 1 / 2) * 2 ^ exponent := by
  have unit := two_zpow_pos exponent
  have bound := canonical.succ_le
  unfold reachBelow
  split
  · rename_i narrow
    rw [narrow.1, cast_leastNormal] at fine
    nlinarith
  · nlinarith

theorem Describes.value_pos (describes : interval.Describes significand exponent)
    (above : 0 < significand) : 0 < interval.value := by
  have bottom : (0 : ℚ) < interval.denominator := mod_cast describes.positive
  have middle := describes.value
  have number : (0 : ℚ) < significand := mod_cast above
  have rational : (0 : ℚ) < interval.value := by
    rw [div_eq_iff bottom.ne'] at middle
    rw [middle]
    exact mul_pos (mul_pos number (two_zpow_pos exponent)) bottom
  exact_mod_cast rational

/-- One of the neighbours with seventeen digits is in the interval. -/
theorem Describes.has_seventeen (describes : interval.Describes significand exponent)
    (canonical : Canonical significand exponent) (above : 0 < significand) :
    ∃ decimal, interval.onGrid? interval.magnitude 17 = some decimal := by
  rcases interval.onGrid?_cases interval.magnitude 17 with
    ⟨decimal, taken, _⟩ | ⟨_, notBelow, notAbove⟩
  · exact ⟨decimal, taken⟩
  · exfalso
    obtain ⟨low, high⟩ := steps_spec describes.positive (interval.magnitude - 17)
    have large := (magnitude_spec (describes.value_pos above) describes.positive).1
    rw [describes.value] at low high large
    have fine : (10 : ℚ) ^ (interval.magnitude - 17) * 10 ^ 16 ≤ significand * 2 ^ exponent := by
      have power : (10 : ℚ) ^ (interval.magnitude - 1) =
          10 ^ (interval.magnitude - 17) * 10 ^ 16 := by
        rw [← zpow_natCast, ← zpow_add₀ (by norm_num)]
        congr 1
        omega
      rwa [power] at large
    have small := step_lt canonical fine
    have unit := two_zpow_pos exponent
    have reach : 0 < reachBelow significand exponent := by
      unfold reachBelow
      split <;> norm_num
    rcases lt_or_ge ((significand - reachBelow significand exponent) * (2 : ℚ) ^ exponent)
        (interval.steps (interval.magnitude - 17) * 10 ^ (interval.magnitude - 17)) with
      near | far
    · refine Bool.eq_false_iff.1 notBelow ((describes.has_iff _).2 (roundsTo_of_between near ?_))
      unfold Decimal.value
      push_cast
      nlinarith
    · -- The neighbour below is too far, so the one above is less than a step from the low end.
      refine Bool.eq_false_iff.1 notAbove ((describes.has_iff _).2 (roundsTo_of_between ?_ ?_))
      · unfold Decimal.value
        push_cast
        nlinarith
      · unfold Decimal.value
        push_cast
        nlinarith

theorem dropZeros_spec (fuel : Nat) (decimal : Decimal) :
    (Decimal.dropZeros fuel decimal).value = decimal.value ∧
      (Decimal.dropZeros fuel decimal).digits ≤ decimal.digits := by
  induction fuel generalizing decimal with
  | zero => exact ⟨rfl, le_rfl⟩
  | succ fuel ih =>
      unfold Decimal.dropZeros
      split
      · rename_i zeros
        obtain ⟨same, fewer⟩ := ih ⟨decimal.digits / 10, decimal.exponent + 1⟩
        refine ⟨same.trans ?_, fewer.trans (Nat.div_le_self _ _)⟩
        have divides : 10 ∣ decimal.digits :=
          Nat.dvd_of_mod_eq_zero (beq_iff_eq.1 (Bool.and_eq_true_iff.1 zeros).1)
        obtain ⟨quotient, equal⟩ := divides
        unfold Decimal.value
        rw [equal, Nat.mul_div_cancel_left quotient (by decide), zpow_add_one₀ (by norm_num)]
        push_cast
        ring
      · exact ⟨rfl, le_rfl⟩

/-- The shortest decimal of a number is rounded to the number, and has at most seventeen digits. -/
theorem Describes.shortest_spec (describes : interval.Describes significand exponent)
    (canonical : Canonical significand exponent) (above : 0 < significand) :
    RoundsTo significand exponent interval.shortest.value ∧ interval.shortest.digits ≤ 10 ^ 17 := by
  unfold shortest
  dsimp only
  cases found : ((List.range 17).map fun index =>
      interval.onGrid? interval.magnitude (index + 1)).findSome? id with
  | none =>
      obtain ⟨decimal, taken⟩ := describes.has_seventeen canonical above
      have none := List.findSome?_eq_none_iff.1 found _
        (List.mem_map.2 ⟨16, List.mem_range.2 (by decide), rfl⟩)
      cases none.symm.trans taken
  | some decimal =>
      obtain ⟨candidate, listed, same⟩ := List.exists_of_findSome?_eq_some found
      obtain ⟨index, inRange, rfl⟩ := List.mem_map.1 listed
      have positive := describes.value_pos above
      rcases interval.onGrid?_cases interval.magnitude (index + 1) with
        ⟨other, taken, inside, few⟩ | ⟨none, _⟩
      · cases taken.symm.trans same
        obtain ⟨kept, fewer⟩ := dropZeros_spec (Decimal.length decimal.digits) decimal
        have steps := steps_lt positive describes.positive (index + 1)
        have short : 10 ^ (index + 1) ≤ 10 ^ 17 :=
          Nat.pow_le_pow_right (by decide) (List.mem_range.1 inRange)
        refine ⟨?_, ?_⟩
        · rw [Option.getD_some, Decimal.normalize, kept]
          exact (describes.has_iff decimal).1 inside
        · rw [Option.getD_some, Decimal.normalize]
          omega
      · cases none.symm.trans same

end RoundingInterval

end Binary64

/-! ## Reading the text of a decimal -/

namespace Numeral

theorem ofDigits_natText (number : Nat) : ofDigits (natText number) = number :=
  Nat.ofDigitChars_ten_toDigits

theorem ofDigits_append_zeros (digits : List Char) (count : Nat) :
    ofDigits (digits ++ List.replicate count '0') = ofDigits digits * 10 ^ count := by
  induction count with
  | zero => rw [List.replicate_zero, List.append_nil, Nat.pow_zero, Nat.mul_one]
  | succ count ih =>
      have zero : '0'.toNat - 48 = 0 := by decide
      rw [List.replicate_succ', ← List.append_assoc, ofDigits, List.foldl_append, ← ofDigits, ih,
        List.foldl_cons, List.foldl_nil, zero, Nat.pow_succ]
      ring

theorem ofDigits_zeros_append (count : Nat) (digits : List Char) :
    ofDigits (List.replicate count '0' ++ digits) = ofDigits digits := by
  induction count with
  | zero => rfl
  | succ count ih => exact ih

def Stops (rest : List Char) : Prop := ∀ c ∈ rest.head?, c.isDigit = false

theorem takeWhile_isDigit {digits rest : List Char} (all : digits.all Char.isDigit = true)
    (stops : Stops rest) :
    (digits ++ rest).takeWhile Char.isDigit = digits ∧
      (digits ++ rest).dropWhile Char.isDigit = rest := by
  have none : rest.takeWhile Char.isDigit = [] ∧ rest.dropWhile Char.isDigit = rest := by
    cases rest with
    | nil => exact ⟨rfl, rfl⟩
    | cons c rest =>
        rw [List.takeWhile_cons, List.dropWhile_cons, stops c rfl]
        exact ⟨rfl, rfl⟩
  rw [List.takeWhile_append_of_pos (List.all_eq_true.1 all),
    List.dropWhile_append_of_pos (List.all_eq_true.1 all), none.1, none.2, List.append_nil]
  exact ⟨rfl, rfl⟩

/-- A decimal with a point. -/
theorem readDecimal?_point {whole fraction rest : List Char} (given : whole ≠ [])
    (wholeDigits : whole.all Char.isDigit = true)
    (fractionDigits : fraction.all Char.isDigit = true) (stops : Stops rest) (negative : Bool) :
    readDecimal? negative (whole ++ '.' :: (fraction ++ rest)) =
      (readExponent? rest).map fun exponent =>
        Binary64.ofDecimal negative (ofDigits (whole ++ fraction))
          (exponent - fraction.length) := by
  have point : Stops ('.' :: (fraction ++ rest)) := by
    intro c found
    cases found
    rfl
  obtain ⟨before, after⟩ := takeWhile_isDigit wholeDigits point
  obtain ⟨behind, remaining⟩ := takeWhile_isDigit fractionDigits stops
  have nonempty : whole.isEmpty = false := List.isEmpty_eq_false_iff.2 given
  unfold readDecimal?
  simp only [before, after, behind, remaining, nonempty, Bool.false_and, Bool.false_eq_true, if_false]

/-- A decimal without a point. -/
theorem readDecimal?_whole {whole rest : List Char} (given : whole ≠ [])
    (wholeDigits : whole.all Char.isDigit = true) (stops : Stops rest)
    (noPoint : rest.head? ≠ some '.') (negative : Bool) :
    readDecimal? negative (whole ++ rest) =
      (readExponent? rest).map fun exponent =>
        Binary64.ofDecimal negative (ofDigits whole) exponent := by
  obtain ⟨before, after⟩ := takeWhile_isDigit wholeDigits stops
  have nonempty : whole.isEmpty = false := List.isEmpty_eq_false_iff.2 given
  unfold readDecimal?
  simp only [before, after]
  split
  · exact absurd rfl noPoint
  · simp [nonempty]

theorem readExponent?_exponentText (exponent : Int) :
    readExponent? ('e' :: Binary64.exponentText exponent) = some exponent := by
  obtain ⟨digits, same, all, nonempty, value⟩ : ∃ digits,
      Binary64.exponentText exponent = (if exponent < 0 then '-' else '+') :: digits ∧
      digits.all Char.isDigit = true ∧ digits.isEmpty = false ∧
      ofDigits digits = exponent.natAbs := by
    refine ⟨_, rfl, ?_⟩
    have all := Reader.all_isDigit_natText exponent.natAbs
    have value := ofDigits_natText exponent.natAbs
    split
    · exact ⟨by rw [List.all_cons, all]; rfl, rfl, value⟩
    · exact ⟨all, List.isEmpty_eq_false_iff.2 Nat.toDigits_ne_nil, value⟩
  have sign : splitSign ((if exponent < 0 then '-' else '+') :: digits) =
      (decide (exponent < 0), digits) := by
    split
    · rename_i below
      rw [decide_eq_true below]
      rfl
    · rename_i above
      rw [decide_eq_false above]
      rfl
  unfold readExponent?
  simp only [same, sign, all, nonempty, value, beq_self_eq_true, Bool.true_or, if_true,
    Bool.not_false, Bool.true_and]
  congr 1
  by_cases below : exponent < 0
  · rw [if_pos (decide_eq_true below)]
    omega
  · rw [if_neg (by simpa using below)]
    omega

def SpellsDecimal (text : List Char) (value : ℚ) : Prop :=
  ∃ digits : Nat, ∃ power : Int, digits * 10 ^ power = value ∧
    ∀ negative, readDecimal? negative text = some (Binary64.ofDecimal negative digits power)

theorem stops_nil : Stops [] := by
  intro c found
  cases found

/-- A decimal with a point and no exponent. -/
theorem spellsDecimal_point {whole fraction : List Char} {digits : Nat} (given : whole ≠ [])
    (wholeDigits : whole.all Char.isDigit = true)
    (fractionDigits : fraction.all Char.isDigit = true) (read : ofDigits (whole ++ fraction) = digits) :
    SpellsDecimal (whole ++ '.' :: fraction) (digits * 10 ^ (-(fraction.length : Int))) := by
  refine ⟨digits, -(fraction.length : Int), rfl, fun negative => ?_⟩
  have text := readDecimal?_point given wholeDigits fractionDigits stops_nil negative
  rw [List.append_nil] at text
  rw [text, read, readExponent?, Option.map_some, Int.zero_sub]

theorem all_isDigit_zeros (count : Nat) : (List.replicate count '0').all Char.isDigit = true :=
  List.all_eq_true.2 fun c member => by rw [List.eq_of_mem_replicate member]; rfl

section Forms

variable {digits : List Char} {number : Nat} (all : digits.all Char.isDigit = true)
  (value : ofDigits digits = number)
include all value

/-- Zeros between the point and the digits. -/
theorem spellsDecimal_small (count : Nat) :
    SpellsDecimal ('0' :: '.' :: List.replicate count '0' ++ digits)
      (number * 10 ^ (-((count + digits.length : Nat) : Int))) := by
  have fractionDigits : (List.replicate count '0' ++ digits).all Char.isDigit = true := by
    rw [List.all_append, all_isDigit_zeros, all]
    rfl
  have read : ofDigits (['0'] ++ (List.replicate count '0' ++ digits)) = number :=
    (ofDigits_zeros_append (count + 1) digits).trans value
  have spelled := spellsDecimal_point (List.cons_ne_nil _ _) rfl fractionDigits read
  rwa [List.length_append, List.length_replicate] at spelled

/-- The point among the digits. -/
theorem spellsDecimal_inside {count : Nat} (some : 0 < count) (within : count ≤ digits.length) :
    SpellsDecimal (digits.take count ++ '.' :: digits.drop count)
      (number * 10 ^ (-((digits.length - count : Nat) : Int))) := by
  rw [← List.take_append_drop count digits, List.all_append, Bool.and_eq_true] at all
  have given : digits.take count ≠ [] := by
    rw [← List.length_pos_iff, List.length_take]
    omega
  have read : ofDigits (digits.take count ++ digits.drop count) = number := by
    rw [List.take_append_drop]
    exact value
  have spelled := spellsDecimal_point given all.1 all.2 read
  rwa [List.length_drop] at spelled

/-- One digit before the point, and an exponent. -/
theorem spellsDecimal_scientific (given : digits ≠ []) (power : Int) :
    SpellsDecimal (digits.take 1 ++ (if (digits.drop 1).isEmpty then [] else '.' :: digits.drop 1)
        ++ 'e' :: Binary64.exponentText power)
      (number * 10 ^ (power - (digits.length - 1 : Nat))) := by
  have stops : Stops ('e' :: Binary64.exponentText power) := by
    intro c found
    cases found
    rfl
  have exponent := readExponent?_exponentText power
  match digits, given with
  | [digit], _ =>
      refine ⟨number, power - (0 : Nat), rfl, fun negative => ?_⟩
      have text := readDecimal?_whole (List.cons_ne_nil digit []) all stops
        (fun same => absurd (Option.some.inj same) (by decide)) negative
      rw [exponent, value] at text
      rw [Nat.cast_zero, Int.sub_zero]
      exact text
  | digit :: next :: others, _ =>
      obtain ⟨first, rest⟩ := Bool.and_eq_true_iff.1 all
      refine ⟨number, _, rfl, fun negative => ?_⟩
      have text := readDecimal?_point (List.cons_ne_nil digit [])
        (by rw [List.all_cons, first]; rfl) rest stops negative
      rw [exponent] at text
      refine text.trans ?_
      rw [Option.map_some, List.singleton_append, value]
      rfl

end Forms

/-- Zeros between the digits and the point. -/
theorem spellsDecimal_large {digits : List Char} {number : Nat} (given : digits ≠ [])
    (all : digits.all Char.isDigit = true) (value : ofDigits digits = number) (count : Nat) :
    SpellsDecimal (digits ++ List.replicate count '0' ++ ['.', '0'])
      (number * 10 ^ (count : Int)) := by
  have wholeDigits : (digits ++ List.replicate count '0').all Char.isDigit = true := by
    rw [List.all_append, all_isDigit_zeros, all]
    rfl
  have read : ofDigits (digits ++ List.replicate count '0' ++ ['0']) = number * 10 ^ (count + 1) := by
    rw [List.append_assoc, ← List.replicate_succ', ofDigits_append_zeros, value]
  have spelled :=
    spellsDecimal_point (List.append_ne_nil_of_left_ne_nil given _) wholeDigits rfl read
  have same : ((number * 10 ^ (count + 1) : Nat) : ℚ) * 10 ^ (-(['0'].length : Int)) =
      number * 10 ^ (count : Int) := by
    rw [zpow_natCast]
    push_cast
    rw [pow_succ]
    norm_num
    ring
  rwa [same] at spelled

theorem spellsDecimal_decimalText (decimal : Decimal) :
    SpellsDecimal (Binary64.decimalText decimal) decimal.value := by
  have all := Reader.all_isDigit_natText decimal.digits
  have value := ofDigits_natText decimal.digits
  have given : natText decimal.digits ≠ [] := Nat.toDigits_ne_nil
  have size : 0 < (natText decimal.digits).length := List.length_pos_iff.2 given
  unfold Binary64.decimalText Decimal.value
  dsimp only
  generalize natText decimal.digits = digits at *
  split
  · rename_i positional
    simp only [Bool.and_eq_true, decide_eq_true_eq] at positional
    split
    · rename_i small
      have spelled := spellsDecimal_small all value
        (-((digits.length : Int) + decimal.exponent)).toNat
      have power : -(((-((digits.length : Int) + decimal.exponent)).toNat + digits.length : Nat) :
          Int) = decimal.exponent := by omega
      rwa [power] at spelled
    · split
      · rename_i large
        obtain ⟨count, power⟩ : ∃ count : Nat, decimal.exponent = count :=
          ⟨decimal.exponent.toNat, by omega⟩
        have zeros : ((digits.length : Int) + count - digits.length).toNat = count := by omega
        rw [power, zeros]
        exact spellsDecimal_large given all value count
      · rename_i inside
        have spelled := spellsDecimal_inside all value
          (show 0 < ((digits.length : Int) + decimal.exponent).toNat by omega) (by omega)
        have power : -((digits.length - ((digits.length : Int) + decimal.exponent).toNat : Nat) :
            Int) = decimal.exponent := by omega
        rwa [power] at spelled
  · have spelled := spellsDecimal_scientific all value given
      ((digits.length : Int) + decimal.exponent - 1)
    have power : (digits.length : Int) + decimal.exponent - 1 - (digits.length - 1 : Nat) =
        decimal.exponent := by omega
    rwa [power] at spelled

end Numeral

namespace Binary64

def isCanonical : Binary64 → Bool
  | .finite _ significand exponent =>
      significand < 2 * leastNormal && leastExponent ≤ exponent && exponent ≤ greatestExponent
        && (leastNormal ≤ significand || exponent == leastExponent)
  | _ => true

theorem canonical_of_isCanonical {negative : Bool} {significand : Nat} {exponent : Int}
    (canonical : (finite negative significand exponent).isCanonical = true) :
    Canonical significand exponent := by
  simp only [isCanonical, Bool.and_eq_true, Bool.or_eq_true, decide_eq_true_eq, beq_iff_eq]
    at canonical
  exact ⟨canonical.1.1.1, canonical.1.1.2, canonical.1.2, canonical.2⟩

def magnitudeText (significand : Nat) (exponent : Int) : List Char :=
  if significand == 0 then "0.0".toList
  else decimalText (roundingInterval significand exponent).shortest

theorem text_finite (negative : Bool) (significand : Nat) (exponent : Int) :
    (finite negative significand exponent).text =
      if negative then '-' :: magnitudeText significand exponent
      else magnitudeText significand exponent := rfl

/-- The magnitude of a number is read back from its text. -/
theorem readDecimal?_magnitudeText {significand : Nat} {exponent : Int}
    (format : Canonical significand exponent) (sign : Bool) :
    Numeral.readDecimal? sign (magnitudeText significand exponent) =
      some (finite sign significand exponent) := by
  unfold magnitudeText
  by_cases zero : significand = 0
  · subst zero
    have least : exponent = leastExponent := format.normal.resolve_left (by decide)
    subst least
    rfl
  · have above := Nat.pos_of_ne_zero zero
    have describes := RoundingInterval.describes_roundingInterval above exponent
    have rounds := (describes.shortest_spec format above).1
    obtain ⟨digits, power, value, read⟩ := Numeral.spellsDecimal_decimalText
      (roundingInterval significand exponent).shortest
    rw [if_neg (by simpa using zero), read sign]
    rw [← value] at rounds
    exact congrArg some (ofDecimal_of_roundsTo format above rounds sign)

end Binary64

end BrowserScript
