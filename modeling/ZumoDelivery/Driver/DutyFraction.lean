import Mathlib.Tactic.FieldSimp
import Mathlib.Tactic.Linarith
import ZumoDelivery.Driver.MotorDuty

set_option autoImplicit false

namespace ZumoDelivery

open FloatArith

/-- The share of the period in which the inverted output is on. -/
def onTime (top compare : UInt16) : ℚ := ((top.toNat : ℚ) - compare.toNat) / top.toNat

def percentage (duty : Int16) : ℕ := min duty.toInt.natAbs 100

/-- The registers of a wheel after a duty has been passed to it. -/
structure DutyLaw (duty : Int16) (top compare : UInt16) (backward : Bool) : Prop where
  inside : compare ≤ top
  direction : backward = true ↔ duty < 0
  atLeast : (percentage duty : ℚ) / 100 ≤ onTime top compare
  /-- By less than one count of the timer. -/
  below : onTime top compare < percentage duty / 100 + 1 / top.toNat

/-- A share that is rounded up to whole counts leaves the rest rounded down. -/
theorem share_iff {top compare percent : ℕ} (positive : 0 < top) (most : percent ≤ 100) :
    ((percent : ℚ) / 100 ≤ ((top : ℚ) - compare) / top ∧
        ((top : ℚ) - compare) / top < percent / 100 + 1 / top) ↔
      compare = (100 - percent) * top / 100 := by
  have period : 0 < (top : ℚ) := Nat.cast_pos.mpr positive
  have atLeast : (percent : ℚ) / 100 ≤ ((top : ℚ) - compare) / top ↔
      percent * top + 100 * compare ≤ 100 * top := by
    rw [le_div_iff₀ period, ← Nat.cast_le (α := ℚ)]
    push_cast
    constructor <;> intro bound <;> linarith
  have below : ((top : ℚ) - compare) / top < percent / 100 + 1 / top ↔
      100 * top < percent * top + 100 * compare + 100 := by
    have whole : ((percent : ℚ) / 100 + 1 / top) * top = percent * top / 100 + 1 := by
      field_simp
    rw [div_lt_iff₀ period, whole, ← Nat.cast_lt (α := ℚ)]
    push_cast
    constructor <;> intro bound <;> linarith
  have share : percent * top ≤ 100 * top := Nat.mul_le_mul_right top most
  rw [atLeast, below, Nat.sub_mul]
  omega

/-- The law leaves one compare value. -/
theorem dutyLaw_iff {duty : Int16} {top compare : UInt16} {backward : Bool}
    (positive : 0 < top.toNat) :
    DutyLaw duty top compare backward ↔
      (backward = true ↔ duty < 0) ∧
        compare.toNat = (100 - percentage duty) * top.toNat / 100 := by
  have most : percentage duty ≤ 100 := Nat.min_le_right _ _
  rw [← share_iff positive most]
  constructor
  · intro law
    exact ⟨law.direction, law.atLeast, law.below⟩
  · rintro ⟨direction, share⟩
    refine ⟨?_, direction, share.1, share.2⟩
    rw [share_iff positive most] at share
    rw [UInt16.le_iff_toNat_le, share]
    apply Nat.div_le_of_le_mul
    exact Nat.mul_le_mul_right _ (Nat.sub_le 100 _)

theorem toNat_compare_of_ne {duty : Int16} (top : UInt16) (above : duty ≠ -32768) :
    (motorPwmCompare ℚ (magnitude duty) top).toNat =
      (100 - percentage duty) * top.toNat / 100 := by
  have limited : (100 - min (magnitude duty).toInt 100).toNat = 100 - percentage duty := by
    rw [toInt_magnitude above, percentage]
    omega
  have bound : (100 - percentage duty) * top.toNat ≤ 100 * top.toNat :=
    Nat.mul_le_mul_right _ (Nat.sub_le 100 _)
  have wide := top.toNat_lt
  rw [toNat_motorPwmCompare, limited]
  omega

/-- The least duty keeps its sign, passes the limit and is scaled as it is. -/
theorem toNat_compare_least (top : UInt16) :
    (motorPwmCompare ℚ (magnitude (-32768)) top).toNat = 32868 * top.toNat / 100 % 2 ^ 16 := by
  rw [toNat_motorPwmCompare]
  rfl

/-- One TOP makes the overflow come out at 0. -/
theorem wraps_to_zero_iff {top : ℕ} (positive : 0 < top) (wide : top < 2 ^ 16) :
    32868 * top / 100 % 2 ^ 16 = 0 ↔ top = 42271 := by
  constructor
  · intro wraps
    obtain ⟨turns, rest, product, small⟩ :
        ∃ turns rest, 8217 * top = 1638400 * turns + rest ∧ rest < 25 := by
      exists 32868 * top / 100 / 65536
      exists 8217 * top - 1638400 * (32868 * top / 100 / 65536)
      omega
    -- 474153 is the inverse of 8217 modulo 1638400.
    have inverted : top = 474153 * rest % 1638400 := by omega
    have few : ∀ rest < 25, 474153 * rest % 1638400 < 2 ^ 16 →
        474153 * rest % 1638400 = 0 ∨ 474153 * rest % 1638400 = 42271 := by
      decide
    rcases few rest small (inverted ▸ wide) with zero | one
    · omega
    · exact inverted.trans one
  · rintro rfl
    decide

theorem dutyLaw_compare_iff (duty : Int16) {top : UInt16} (positive : 0 < top.toNat) :
    DutyLaw duty top (motorPwmCompare ℚ (magnitude duty) top) (decide (duty < 0)) ↔
      duty ≠ -32768 ∨ top = 42271 := by
  rw [dutyLaw_iff positive, decide_eq_true_eq]
  by_cases least : duty = -32768
  · subst least
    have full : percentage (-32768) = 100 := rfl
    have same : top = 42271 ↔ top.toNat = 42271 := UInt16.toNat_inj.symm
    rw [toNat_compare_least, full, Nat.sub_self, Nat.zero_mul, Nat.zero_div,
      wraps_to_zero_iff positive top.toNat_lt, same]
    simp
  · simp [toNat_compare_of_ne top least, least]

/-- The negation of the least duty overflows and passes the limit. Every other duty is kept. -/
theorem motor_pwm_law_iff (duty : Int16) (pwm : MotorPwm) (range : 100 ≤ pwm.icr1) :
    (DutyLaw duty pwm.icr1 (motorPwmLeft ℚ duty pwm).ocr1b
          (motorPwmLeft ℚ duty pwm).backwardLeft ↔
        duty ≠ -32768 ∨ pwm.icr1 = 42271) ∧
      (DutyLaw duty pwm.icr1 (motorPwmRight ℚ duty pwm).ocr1a
          (motorPwmRight ℚ duty pwm).backwardRight ↔
        duty ≠ -32768 ∨ pwm.icr1 = 42271) := by
  have positive : 0 < pwm.icr1.toNat := by
    rw [UInt16.le_iff_toNat_le, show (100 : UInt16).toNat = 100 from rfl] at range
    omega
  rw [ocr1b_motorPwmLeft, ocr1a_motorPwmRight, backwardLeft_motorPwmLeft,
    backwardRight_motorPwmRight]
  exact ⟨dutyLaw_compare_iff duty positive, dutyLaw_compare_iff duty positive⟩

/-- The motors with a TOP beyond the range of an `int16_t`. -/
def slowMotors : MotorPwm := setMaxMotorPwm 40000 (motorPwmInit 400 motorPwmReset)

theorem motor_pwm_law_iff_slow :
    (DutyLaw 10 40000 (motorPwmLeft ℚ 10 slowMotors).ocr1b
          (motorPwmLeft ℚ 10 slowMotors).backwardLeft ↔
        (10 : Int16) ≠ -32768 ∨ (40000 : UInt16) = 42271) ∧
      (DutyLaw 10 40000 (motorPwmRight ℚ 10 slowMotors).ocr1a
          (motorPwmRight ℚ 10 slowMotors).backwardRight ↔
        (10 : Int16) ≠ -32768 ∨ (40000 : UInt16) = 42271) :=
  motor_pwm_law_iff 10 slowMotors (by decide)

/-- Full speed backward stands still. -/
theorem not_motor_pwm_law :
    ¬ ∀ (duty : Int16) (pwm : MotorPwm), 100 ≤ pwm.icr1 →
      DutyLaw duty pwm.icr1 (motorPwmLeft ℚ duty pwm).ocr1b
          (motorPwmLeft ℚ duty pwm).backwardLeft ∧
        DutyLaw duty pwm.icr1 (motorPwmRight ℚ duty pwm).ocr1a
          (motorPwmRight ℚ duty pwm).backwardRight := by
  intro every
  have law := (every (-32768) (motorPwmInit 400 motorPwmReset) (by decide)).1
  exact absurd law.atLeast (by decide +kernel)

end ZumoDelivery
