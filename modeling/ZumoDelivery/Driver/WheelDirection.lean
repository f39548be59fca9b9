import Mathlib.Tactic.Linarith
import ZumoDelivery.Driver.MotorDuty

set_option autoImplicit false

namespace ZumoDelivery

open FloatArith

/-- The conversion rounds toward zero. -/
theorem trunc_neg_iff (value : ℚ) : trunc value < 0 ↔ value ≤ -1 := by
  change (if value < 0 then ⌈value⌉ else ⌊value⌋) < 0 ↔ value ≤ -1
  split
  · have ceil : ⌈value⌉ ≤ -1 ↔ value ≤ (-1 : ℤ) := Int.ceil_le
    push_cast at ceil
    rw [← ceil]
    omega
  · rename_i forward
    have floor : 0 ≤ ⌊value⌋ := Int.floor_nonneg.mpr (not_lt.mp forward)
    constructor
    · intro backward
      omega
    · intro below
      linarith

theorem lt_trunc {value : ℚ} {n : ℤ} (above : (n : ℚ) < value) (negative : n < 0) :
    n < trunc value := by
  change n < if value < 0 then ⌈value⌉ else ⌊value⌋
  split
  · exact Int.lt_ceil.mpr above
  · rename_i forward
    have floor : 0 ≤ ⌊value⌋ := Int.floor_nonneg.mpr (not_lt.mp forward)
    omega

/-- The duty for a velocity, before it is narrowed to an `int`. -/
def wideDuty (slope velocity : ℚ) : ℤ := trunc ((velocity - 0.0133) / slope)

def DutyFits (slope velocity : ℚ) : Prop :=
  -2 ^ 15 ≤ wideDuty slope velocity ∧ wideDuty slope velocity < 2 ^ 15

instance (slope velocity : ℚ) : Decidable (DutyFits slope velocity) :=
  inferInstanceAs (Decidable (_ ∧ _))

theorem wideDuty_neg_iff {slope : ℚ} (up : 0 < slope) (velocity : ℚ) :
    wideDuty slope velocity < 0 ↔ velocity ≤ 0.0133 - slope := by
  rw [wideDuty, trunc_neg_iff, div_le_iff₀ up]
  constructor
  · intro below
    linarith
  · intro slow
    linarith

/-- A wheel that is not to go backward gets a small negative duty at worst. -/
theorem neg_five_lt_wideDuty {slope velocity : ℚ} (steep : 0.0133 < slope * 5)
    (forward : 0 ≤ velocity) : -5 < wideDuty slope velocity := by
  have up : 0 < slope := by linarith
  apply lt_trunc
  · push_cast
    rw [lt_div_iff₀ up]
    linarith
  · decide

/-- The output is on for some part of the period. At TOP the inverted output stays off. -/
def MotorPwm.leftDriven (pwm : MotorPwm) : Prop := pwm.ocr1b ≠ pwm.icr1

def MotorPwm.rightDriven (pwm : MotorPwm) : Prop := pwm.ocr1a ≠ pwm.icr1

instance (pwm : MotorPwm) : Decidable pwm.leftDriven := inferInstanceAs (Decidable (_ ≠ _))

instance (pwm : MotorPwm) : Decidable pwm.rightDriven := inferInstanceAs (Decidable (_ ≠ _))

theorem compareOf_ne_top {duty : Int16} (nonzero : duty.toInt ≠ 0) (above : duty ≠ -32768) :
    compareOf duty ≠ 400 := by
  have top : ((400 : UInt16).toNat : ℤ) = 400 := rfl
  intro off
  have count := motorPwmCompare_eq (magnitude duty) (magnitude_nonneg above)
  rw [← compareOf_eq, off, top, toInt_magnitude above] at count
  omega

/-- A wheel is driven in the direction of its target, if at all. -/
structure DirectionLaw (target : ℚ) (backward : Bool) (driven : Prop) : Prop where
  noReverse : 0 ≤ target → ¬ (backward = true ∧ driven)
  noForward : target ≤ 0 → ¬ (backward = false ∧ driven)
  stands : target = 0 → ¬ driven

/-- The offset of the conversion turns slow wheels around. -/
theorem directionLaw_iff {slope target : ℚ} (steep : 0.0133 < slope * 5)
    (shallow : slope ≤ 0.0133) (fits : DutyFits slope target) :
    DirectionLaw target (decide (Int16.ofInt (wideDuty slope target) < 0))
        (compareOf (Int16.ofInt (wideDuty slope target)) ≠ 400) ↔
      target < 0 ∨ 0.0133 - slope < target := by
  have up : 0 < slope := by linarith
  have narrowed : (Int16.ofInt (wideDuty slope target)).toInt = wideDuty slope target :=
    Int16.toInt_ofInt_of_le fits.1 fits.2
  have turned : Int16.ofInt (wideDuty slope target) < 0 ↔ target ≤ 0.0133 - slope := by
    rw [Int16.lt_iff_toInt_lt, narrowed, ← wideDuty_neg_iff up]
    exact Iff.rfl
  constructor
  · intro law
    by_contra! slow
    have small := neg_five_lt_wideDuty steep slow.1
    have negative := (wideDuty_neg_iff up target).mpr slow.2
    apply law.noReverse slow.1
    refine ⟨decide_eq_true (turned.mpr slow.2), compareOf_ne_top (by omega) ?_⟩
    intro least
    rw [least, show (-32768 : Int16).toInt = -32768 from rfl] at narrowed
    omega
  · rintro (negative | fast)
    · have backward : decide (Int16.ofInt (wideDuty slope target) < 0) = true :=
        decide_eq_true (turned.mpr (by linarith))
      rw [backward]
      refine ⟨?_, ?_, ?_⟩
      · intro forward
        linarith
      · rintro - ⟨forward, -⟩
        cases forward
      · intro still
        linarith
    · have forward : decide (Int16.ofInt (wideDuty slope target) < 0) = false :=
        decide_eq_false (fun backward => not_lt.mpr (turned.mp backward) fast)
      rw [forward]
      refine ⟨?_, ?_, ?_⟩
      · rintro - ⟨backward, -⟩
        cases backward
      · intro negative
        linarith
      · intro still
        linarith

end ZumoDelivery
