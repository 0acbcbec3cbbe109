import Mathlib.Algebra.Group.Nat.Defs
import BrowserScript.Number.Binary64

/-!
# Whole numbers in the floating-point format

A whole number is rounded to 53 bits. It stays what it is exactly if its bits beyond the 53rd are
zeros and its power of two is not too large.
-/

namespace BrowserScript.Binary64

variable {gap number : Nat} (negative : Bool)

def Holds (number : Nat) : Prop :=
  ∃ significand exponent : Nat,
    significand < 2 * leastNormal ∧ exponent ≤ 971 ∧ number = significand * 2 ^ exponent

theorem two_mul_leastNormal : 2 * leastNormal = 2 ^ 53 := by decide

/-! ## Whole and zero -/

theorem ratio_pos (significand : Nat) (exponent : Int) : 0 < (ratio significand exponent).2 := by
  unfold ratio
  split
  · exact Nat.pow_pos (by decide)
  · exact Nat.one_pos

theorem ratio_eq_zero (significand : Nat) (exponent : Int) :
    (ratio significand exponent).1 = 0 ↔ significand = 0 := by
  have positive : Nat.pow 2 exponent.toNat ≠ 0 := Nat.ne_of_gt (Nat.pow_pos (by decide))
  unfold ratio
  split
  · exact Iff.rfl
  · exact Nat.mul_eq_zero.trans (or_iff_left positive)

theorem signed_eq_zero (significand : Nat) : signed negative significand = 0 ↔ significand = 0 := by
  unfold signed
  split <;> omega

theorem natAbs_signed (significand : Nat) : (signed negative significand).natAbs = significand := by
  unfold signed
  split <;> omega

/-- An integer is its magnitude with its sign. -/
theorem signed_natAbs (whole : Int) : signed (whole < 0) whole.natAbs = whole := by
  unfold signed
  split
  · rename_i below
    have below := of_decide_eq_true below
    omega
  · rename_i above
    have above := of_decide_eq_false (Bool.eq_false_iff.2 above)
    omega

/-- A whole number is zero as a number exactly if it is zero as an integer. -/
theorem isZero_of_whole? {number : Binary64} {whole : Int}
    (found : number.whole? = some whole) : number.isZero = (whole == 0) := by
  cases number with
  | nan => cases found
  | infinite negative => cases found
  | finite negative significand exponent =>
      simp only [whole?] at found
      split at found
      · rename_i unrounded
        obtain rfl := Option.some.inj found
        have divides : (ratio significand exponent).2 ∣ (ratio significand exponent).1 :=
          Nat.dvd_of_mod_eq_zero (by simpa using unrounded)
        obtain ⟨quotient, equal⟩ := divides
        have positive : 0 < (ratio significand exponent).2 := ratio_pos significand exponent
        rw [equal, Nat.mul_div_cancel_left quotient positive]
        have zero : significand = 0 ↔ quotient = 0 := by
          rw [← ratio_eq_zero significand exponent, equal, Nat.mul_eq_zero]
          exact or_iff_right (Nat.ne_of_gt positive)
        rw [isZero, Bool.eq_iff_iff, beq_iff_eq, beq_iff_eq, signed_eq_zero, zero]
      · cases found

/-- A whole number is its own integer part. -/
theorem truncate?_of_whole? {number : Binary64} {whole : Int}
    (found : number.whole? = some whole) : number.truncate? = some whole := by
  cases number with
  | nan => cases found
  | infinite negative => cases found
  | finite negative significand exponent =>
      simp only [whole?] at found
      split at found
      · exact found
      · cases found

/-! ## Rounding a whole number -/

theorem roundQuotient_bounds (numerator denominator : Nat) :
    numerator / denominator ≤ roundQuotient numerator denominator ∧
      roundQuotient numerator denominator ≤ numerator / denominator + 1 := by
  simp only [roundQuotient]
  split
  · omega
  · split
    · omega
    · split <;> omega

/-- A quotient without remainder is not rounded. -/
theorem roundQuotient_mul (quotient : Nat) {denominator : Nat} (positive : 0 < denominator) :
    roundQuotient (quotient * denominator) denominator = quotient := by
  simp only [roundQuotient, Nat.mul_mod_left, Nat.mul_zero]
  rw [if_pos positive, Nat.mul_div_cancel quotient positive]

theorem scaleDown_neg (number shift : Nat) :
    scaleDown number 1 (-(shift : Int)) = (number * 2 ^ shift, 1) := by
  unfold scaleDown
  split
  · rw [Int.neg_neg, Int.toNat_natCast]
    rfl
  · obtain rfl : shift = 0 := by omega
    simp

theorem scaleDown_natCast (number shift : Nat) :
    scaleDown number 1 (shift : Int) = (number, 2 ^ shift) := by
  unfold scaleDown
  rw [if_neg (by omega), Int.toNat_natCast, Nat.one_mul]
  rfl

/-- The power of two at which a whole number has 53 bits. -/
theorem quotientExponent_one (positive : 0 < number) :
    quotientExponent number 1 = (number.log2 : Int) - 52 := by
  have low := Nat.log2_self_le (Nat.ne_of_gt positive)
  have enough : 2 * leastNormal ≤
      (scaleDown number 1 ((number.log2 : Int) - 53)).1 /
        (scaleDown number 1 ((number.log2 : Int) - 53)).2 := by
    rcases Nat.le_total number.log2 53 with few | many
    · obtain ⟨gap, more⟩ := Nat.exists_eq_add_of_le few
      rw [show (number.log2 : Int) - 53 = -(gap : Int) by omega, scaleDown_neg, Nat.div_one,
        two_mul_leastNormal, more, Nat.pow_add]
      exact Nat.mul_le_mul_right _ low
    · obtain ⟨gap, more⟩ := Nat.exists_eq_add_of_le many
      rw [show (number.log2 : Int) - 53 = (gap : Int) by omega, scaleDown_natCast,
        two_mul_leastNormal, Nat.le_div_iff_mul_le (Nat.pow_pos (by decide)), ← Nat.pow_add,
        ← more]
      exact low
  have one : (Nat.log2 1 : Int) = 0 := by decide
  simp only [quotientExponent, one, Int.sub_zero]
  rw [if_pos enough]
  unfold leastExponent
  omega

/-- A significand of up to 54 bits with its power of two, the 54th bit being taken up by the
power. -/
def normalized (negative : Bool) (significand : Nat) (exponent : Int) : Binary64 :=
  if significand = 2 * leastNormal then
    if greatestExponent < exponent + 1 then .infinite negative
    else .finite negative leastNormal (exponent + 1)
  else
    if greatestExponent < exponent then .infinite negative
    else .finite negative significand exponent

theorem ofQuotient_one (positive : 0 < number) (negative : Bool) :
    ofQuotient negative number 1 =
      normalized negative
        (roundQuotient (scaleDown number 1 ((number.log2 : Int) - 52)).1
          (scaleDown number 1 ((number.log2 : Int) - 52)).2)
        ((number.log2 : Int) - 52) := by
  unfold ofQuotient normalized
  rw [if_neg (by simpa using Nat.ne_of_gt positive), quotientExponent_one positive]
  simp only [beq_iff_eq]
  split <;> rfl

/-- A whole number of at most 53 bits is not rounded. -/
theorem ofQuotient_few (positive : 0 < number) (few : number.log2 + gap = 52) (negative : Bool) :
    ofQuotient negative number 1 = .finite negative (number * 2 ^ gap) (-(gap : Int)) := by
  have bound : number * 2 ^ gap < 2 * leastNormal := by
    calc number * 2 ^ gap < 2 ^ (number.log2 + 1) * 2 ^ gap :=
          Nat.mul_lt_mul_of_pos_right Nat.lt_log2_self (Nat.pow_pos (by decide))
      _ = 2 ^ 53 := by rw [← Nat.pow_add, show number.log2 + 1 + gap = 53 by omega]
  have rounded : roundQuotient (number * 2 ^ gap) 1 = number * 2 ^ gap := by
    have unrounded := roundQuotient_mul (number * 2 ^ gap) Nat.one_pos
    rwa [Nat.mul_one] at unrounded
  rw [ofQuotient_one positive, show (number.log2 : Int) - 52 = -(gap : Int) by omega,
    scaleDown_neg, rounded, normalized, if_neg (Nat.ne_of_lt bound), if_neg]
  unfold greatestExponent
  omega

/-- A whole number of more than 53 bits is rounded at the last of them. -/
theorem ofQuotient_many (positive : 0 < number) (many : number.log2 = 52 + gap) (negative : Bool) :
    ofQuotient negative number 1 = normalized negative (roundQuotient number (2 ^ gap)) gap := by
  rw [ofQuotient_one positive, show (number.log2 : Int) - 52 = (gap : Int) by omega,
    scaleDown_natCast]

/-! ## Integer parts of whole numbers -/

theorem truncate?_natCast (significand shift : Nat) :
    (finite negative significand (shift : Int)).truncate? =
      some (signed negative (significand * 2 ^ shift)) := by
  simp only [truncate?, ratio]
  rw [if_neg (by omega), Int.toNat_natCast, Nat.div_one]
  rfl

theorem truncate?_neg (number shift : Nat) :
    (finite negative (number * 2 ^ shift) (-(shift : Int))).truncate? =
      some (signed negative number) := by
  cases shift with
  | zero => simpa using truncate?_natCast negative number 0
  | succ shift =>
      simp only [truncate?, ratio]
      rw [if_pos (by omega), Int.neg_neg, Int.toNat_natCast]
      have quotient : number * 2 ^ (shift + 1) / 2 ^ (shift + 1) = number :=
        Nat.mul_div_cancel number (Nat.pow_pos (by decide))
      exact congrArg (fun magnitude => some (signed negative magnitude)) quotient

/-- The integer part of what a whole number of more than 53 bits is rounded to. -/
theorem truncate?_normalized {negative : Bool} {significand : Nat}
    (bound : significand ≤ 2 * leastNormal)
    (found : (normalized negative significand gap).truncate? = some (signed negative number)) :
    Holds number := by
  have same {left right : Nat} (equal : signed negative left = signed negative right) :
      right = left := by
    rw [← natAbs_signed negative right, ← equal, natAbs_signed]
  unfold normalized greatestExponent at found
  split at found
  · split at found
    · cases found
    · rename_i fits
      rw [show (gap : Int) + 1 = ((gap + 1 : Nat) : Int) by omega, truncate?_natCast] at found
      exact ⟨leastNormal, gap + 1, by decide, by omega, same (Option.some.inj found)⟩
  · split at found
    · cases found
    · rename_i other fits
      rw [truncate?_natCast] at found
      exact ⟨significand, gap, by omega, by omega, same (Option.some.inj found)⟩

/-- A whole number that the format holds is its power of two times a significand. -/
theorem Holds.dvd (holds : Holds number)
    (many : number.log2 = 52 + gap) : gap ≤ 971 ∧ 2 ^ gap ∣ number := by
  obtain ⟨significand, exponent, bound, small, rfl⟩ := holds
  have positive : significand * 2 ^ exponent ≠ 0 := by
    intro zero
    rw [zero] at many
    have none : Nat.log2 0 = 0 := by decide
    omega
  have below : (significand * 2 ^ exponent).log2 < 53 + exponent := by
    rw [two_mul_leastNormal] at bound
    rw [Nat.log2_lt positive, Nat.pow_add]
    exact Nat.mul_lt_mul_of_pos_right bound (Nat.pow_pos (by decide))
  have less : gap ≤ exponent := by omega
  exact ⟨by omega, Nat.dvd_trans (Nat.pow_dvd_pow 2 less) (Nat.dvd_mul_left _ _)⟩

/-- Rounding keeps exactly the whole numbers that the format holds. -/
theorem truncate?_ofQuotient (number : Nat) :
    (ofQuotient negative number 1).truncate? = some (signed negative number) ↔ Holds number := by
  rcases Nat.eq_zero_or_pos number with rfl | positive
  · refine iff_of_true ?_ ⟨0, 0, by decide, by decide, rfl⟩
    have zero (shift : Nat) :
        (finite negative 0 (-(shift : Int))).truncate? = some (signed negative 0) := by
      have scaled := truncate?_neg negative 0 shift
      rwa [Nat.zero_mul] at scaled
    exact zero 1074
  · rcases Nat.le_total number.log2 52 with few | many
    · obtain ⟨gap, total⟩ := Nat.exists_eq_add_of_le few
      have bound : number < 2 * leastNormal :=
        Nat.lt_of_lt_of_le Nat.lt_log2_self
          (Nat.pow_le_pow_right (by decide) (Nat.add_le_add_right few 1))
      refine iff_of_true ?_ ⟨number, 0, bound, by decide, (Nat.mul_one number).symm⟩
      rw [ofQuotient_few positive total.symm, truncate?_neg]
    · obtain ⟨gap, total⟩ := Nat.exists_eq_add_of_le many
      have quotient : number / 2 ^ gap < 2 * leastNormal := by
        rw [Nat.div_lt_iff_lt_mul (Nat.pow_pos (by decide))]
        calc number < 2 ^ (number.log2 + 1) := Nat.lt_log2_self
          _ = 2 ^ 53 * 2 ^ gap := by rw [← Nat.pow_add, show number.log2 + 1 = 53 + gap by omega]
      rw [ofQuotient_many positive total]
      constructor
      · have rounded := (roundQuotient_bounds number (2 ^ gap)).2
        exact truncate?_normalized (by omega)
      · intro holds
        obtain ⟨small, divides⟩ := holds.dvd total
        obtain ⟨significand, rfl⟩ := divides
        have above : 0 < 2 ^ gap := Nat.pow_pos (by decide)
        rw [Nat.mul_div_cancel_left significand above] at quotient
        rw [Nat.mul_comm, roundQuotient_mul significand above, normalized,
          if_neg (Nat.ne_of_lt quotient), if_neg, truncate?_natCast]
        unfold greatestExponent
        omega

theorem truncate?_ofInt (whole : Int) :
    (ofInt whole).truncate? = some whole ↔ Holds whole.natAbs := by
  have unrounded := truncate?_ofQuotient (whole < 0) whole.natAbs
  rwa [signed_natAbs] at unrounded

end BrowserScript.Binary64
