import Mathlib.Data.List.Induction
import Mathlib.Tactic.Ring
import ZumoDelivery.Driver.MotorPwm

set_option autoImplicit false

namespace ZumoDelivery

open FloatArith

theorem trunc_natCast_div (n d : ℕ) : trunc ((n : ℚ) / d) = (n / d : ℕ) := by
  have forward : ¬ (n : ℚ) / d < 0 := not_lt.mpr (by positivity)
  change (if (n : ℚ) / d < 0 then ⌈(n : ℚ) / d⌉ else ⌊(n : ℚ) / d⌋) = _
  rw [if_neg forward, Rat.floor_natCast_div_natCast, Int.natCast_div]

/-- The conversion to `int16_t` and the register keep the low 16 bits. -/
theorem toNat_toUInt16_ofInt (n : ℕ) : (Int16.ofInt n).toUInt16.toNat = n % 2 ^ 16 := by
  change (BitVec.ofInt 16 n).toNat = n % 2 ^ 16
  rw [BitVec.ofInt_natCast, BitVec.toNat_ofNat]

/-- The compare value for any duty and any TOP, from a product that may not fit. -/
theorem toNat_motorPwmCompare (duty : Int16) (top : UInt16) :
    (motorPwmCompare ℚ duty top).toNat =
      (100 - min duty.toInt 100).toNat * top.toNat / 100 % 2 ^ 16 := by
  have hundred : (100 : Int16).toInt = 100 := rfl
  have limited : (if duty > 100 then 100 else duty).toInt = min duty.toInt 100 := by
    split
    · rename_i beyond
      rw [gt_iff_lt, Int16.lt_iff_toInt_lt, hundred] at beyond
      rw [hundred]
      omega
    · rename_i inside
      rw [gt_iff_lt, Int16.lt_iff_toInt_lt, hundred] at inside
      omega
  rw [motorPwmCompare, limited]
  have off : min duty.toInt 100 = 100 - ((100 - min duty.toInt 100).toNat : ℤ) := by omega
  generalize (100 - min duty.toInt 100).toNat = n at *
  have count : (ofInt (min duty.toInt 100) * lit (-0.01) + lit 1) * ofInt (top.toNat : ℤ) =
      ((n * top.toNat : ℕ) : ℚ) / (100 : ℕ) := by
    rw [off]
    change (((100 - n : ℤ) : ℚ) * (-0.01) + 1) * ((top.toNat : ℤ) : ℚ) = _
    push_cast
    ring
  rw [count, trunc_natCast_div, toNat_toUInt16_ofInt]

/-- From 0 on a duty is turned into a compare value without rounding. -/
theorem motorPwmCompare_eq (duty : Int16) (forward : 0 ≤ duty) :
    ((motorPwmCompare ℚ duty 400).toNat : ℤ) = 400 - 4 * min duty.toInt 100 := by
  have top : (400 : UInt16).toNat = 400 := rfl
  have start : 0 ≤ duty.toInt := Int16.le_iff_toInt_le.mp forward
  rw [toNat_motorPwmCompare, top]
  omega

/-- The formula of the report turns the compare value back. -/
theorem getMotorPwm_motorPwmCompare (duty : Int16) (forward : 0 ≤ duty) :
    (getMotorPwm ℚ (motorPwmCompare ℚ duty 400) 400).toInt = min duty.toInt 100 := by
  have start : 0 ≤ duty.toInt := Int16.le_iff_toInt_le.mp forward
  have small : 0 ≤ min duty.toInt 100 ∧ min duty.toInt 100 ≤ 100 := by omega
  rw [getMotorPwm, motorPwmCompare_eq duty forward]
  generalize min duty.toInt 100 = n at *
  have percent : lit (-100) * (ofInt (400 - 4 * n) / ofInt ((400 : UInt16).toNat : ℤ)) +
      lit 100 = (n : ℚ) := by
    change (-100 : ℚ) * (((400 - 4 * n : ℤ) : ℚ) / ((400 : ℤ) : ℚ)) + 100 = n
    push_cast
    ring
  rw [percent, trunc_intCast]
  exact Int16.toInt_ofInt_of_le (by omega) (by omega)

/-- What is left of a duty once its sign is in the direction pin. -/
def magnitude (duty : Int16) : Int16 := if duty < 0 then duty * -1 else duty

theorem toInt_mul_neg_one {duty : Int16} (above : duty ≠ -32768) :
    (duty * -1).toInt = -duty.toInt := by
  have least : duty.toInt ≠ -32768 := fun same => above (Int16.toInt_inj.mp same)
  have lower := duty.le_toInt
  have upper := duty.toInt_lt
  rw [Int16.toInt_mul, show (-1 : Int16).toInt = -1 from rfl, Int.mul_neg, Int.mul_one]
  exact Int.bmod_eq_of_le (by omega) (by omega)

theorem toInt_magnitude {duty : Int16} (above : duty ≠ -32768) :
    (magnitude duty).toInt = duty.toInt.natAbs := by
  have zero : (0 : Int16).toInt = 0 := rfl
  unfold magnitude
  split
  · rename_i backward
    rw [Int16.lt_iff_toInt_lt, zero] at backward
    rw [toInt_mul_neg_one above]
    omega
  · rename_i forward
    rw [Int16.lt_iff_toInt_lt, zero] at forward
    omega

theorem magnitude_nonneg {duty : Int16} (above : duty ≠ -32768) : 0 ≤ magnitude duty := by
  rw [Int16.le_iff_toInt_le, toInt_magnitude above]
  exact Int.natCast_nonneg _

theorem ocr1b_motorPwmLeft (duty : Int16) (pwm : MotorPwm) :
    (motorPwmLeft ℚ duty pwm).ocr1b = motorPwmCompare ℚ (magnitude duty) pwm.icr1 := by
  unfold motorPwmLeft magnitude
  split <;> rfl

theorem ocr1a_motorPwmRight (duty : Int16) (pwm : MotorPwm) :
    (motorPwmRight ℚ duty pwm).ocr1a = motorPwmCompare ℚ (magnitude duty) pwm.icr1 := by
  unfold motorPwmRight magnitude
  split <;> rfl

inductive MotorCall where
  | left (duty : Int16)
  | right (duty : Int16)
  | enable (on : Bool)
  /-- Other drivers write to other pins of PORTB. -/
  | portB (value : UInt8)
deriving DecidableEq

def MotorCall.run (pwm : MotorPwm) : MotorCall → MotorPwm
  | .left duty => motorPwmLeft ℚ duty pwm
  | .right duty => motorPwmRight ℚ duty pwm
  | .enable on => motorPwmEnable on pwm
  | .portB value => { pwm with portB := value }

def motorRun (calls : List MotorCall) : MotorPwm :=
  calls.foldl MotorCall.run (motorPwmInit 400 motorPwmReset)

def MotorCall.leftDuty : MotorCall → Option Int16
  | .left duty => some duty
  | _ => none

def MotorCall.rightDuty : MotorCall → Option Int16
  | .right duty => some duty
  | _ => none

def lastDuty (duty? : MotorCall → Option Int16) (calls : List MotorCall) : Option Int16 :=
  (calls.filterMap duty?).getLast?

theorem lastDuty_append (duty? : MotorCall → Option Int16) (calls : List MotorCall)
    (call : MotorCall) :
    lastDuty duty? (calls ++ [call]) = (duty? call).or (lastDuty duty? calls) := by
  rw [lastDuty, List.filterMap_append, List.filterMap_cons, List.filterMap_nil]
  cases duty? call with
  | none => simp [lastDuty]
  | some duty => simp

/-- The compare value for a duty. The sign is left to the direction pin. -/
def compareOf (duty : Int16) : UInt16 :=
  motorPwmCompare ℚ (if duty < 0 then duty * -1 else duty) 400

theorem compareOf_eq (duty : Int16) : compareOf duty = motorPwmCompare ℚ (magnitude duty) 400 :=
  rfl

theorem motorPwmLeft_eq (duty : Int16) (pwm : MotorPwm) (top : pwm.icr1 = 400) :
    (motorPwmLeft ℚ duty pwm).icr1 = 400 ∧ (motorPwmLeft ℚ duty pwm).ocr1b = compareOf duty ∧
      (motorPwmLeft ℚ duty pwm).ocr1a = pwm.ocr1a := by
  refine ⟨?_, ?_, ocr1a_motorPwmLeft ℚ duty pwm⟩
  · rw [icr1_motorPwmLeft, top]
  · rw [ocr1b_motorPwmLeft, top, compareOf_eq]

theorem motorPwmRight_eq (duty : Int16) (pwm : MotorPwm) (top : pwm.icr1 = 400) :
    (motorPwmRight ℚ duty pwm).icr1 = 400 ∧ (motorPwmRight ℚ duty pwm).ocr1a = compareOf duty ∧
      (motorPwmRight ℚ duty pwm).ocr1b = pwm.ocr1b := by
  refine ⟨?_, ?_, ocr1b_motorPwmRight ℚ duty pwm⟩
  · rw [icr1_motorPwmRight, top]
  · rw [ocr1a_motorPwmRight, top, compareOf_eq]

structure MotorSet (calls : List MotorCall) (pwm : MotorPwm) : Prop where
  top : pwm.icr1 = 400
  left : ∀ duty, lastDuty MotorCall.leftDuty calls = some duty → pwm.ocr1b = compareOf duty
  right : ∀ duty, lastDuty MotorCall.rightDuty calls = some duty → pwm.ocr1a = compareOf duty

theorem MotorSet.of_other {calls : List MotorCall} {pwm after : MotorPwm} {call : MotorCall}
    (set : MotorSet calls pwm) (top : after.icr1 = pwm.icr1) (left : after.ocr1b = pwm.ocr1b)
    (right : after.ocr1a = pwm.ocr1a) (neither : call.leftDuty = none ∧ call.rightDuty = none) :
    MotorSet (calls ++ [call]) after := by
  refine ⟨top.trans set.top, ?_, ?_⟩
  · intro duty here
    rw [lastDuty_append, neither.1, Option.none_or] at here
    rw [left, set.left duty here]
  · intro duty here
    rw [lastDuty_append, neither.2, Option.none_or] at here
    rw [right, set.right duty here]

theorem motorSet_motorRun (calls : List MotorCall) : MotorSet calls (motorRun calls) := by
  induction calls using List.reverseRecOn with
  | nil =>
      refine ⟨rfl, ?_, ?_⟩
      all_goals
        intro duty never
        cases never
  | append_singleton calls call ih =>
      have step : motorRun (calls ++ [call]) = call.run (motorRun calls) := by
        rw [motorRun, List.foldl_append]
        rfl
      rw [step]
      cases call with
      | left duty =>
          obtain ⟨top, set, other⟩ := motorPwmLeft_eq duty (motorRun calls) ih.top
          refine ⟨top, ?_, ?_⟩
          · intro last here
            rw [lastDuty_append] at here
            cases here
            exact set
          · intro last here
            rw [lastDuty_append] at here
            exact other.trans (ih.right last here)
      | right duty =>
          obtain ⟨top, set, other⟩ := motorPwmRight_eq duty (motorRun calls) ih.top
          refine ⟨top, ?_, ?_⟩
          · intro last here
            rw [lastDuty_append] at here
            exact other.trans (ih.left last here)
          · intro last here
            rw [lastDuty_append] at here
            cases here
            exact set
      | enable on => cases on <;> exact ih.of_other rfl rfl rfl ⟨rfl, rfl⟩
      | portB value => exact ih.of_other rfl rfl rfl ⟨rfl, rfl⟩

/-- A duty as it is to be reported. -/
def limitedDuty (duty : Int16) : ℤ := max (-100) (min duty.toInt 100)

theorem getMotorPwm_compareOf_iff (duty : Int16) :
    (getMotorPwm ℚ (compareOf duty) 400).toInt = limitedDuty duty ↔ 0 ≤ duty := by
  have zero : (0 : Int16).toInt = 0 := rfl
  by_cases least : duty = -32768
  · subst least
    decide +kernel
  · rw [compareOf_eq, getMotorPwm_motorPwmCompare _ (magnitude_nonneg least),
      toInt_magnitude least, limitedDuty, Int16.le_iff_toInt_le, zero]
    omega

end ZumoDelivery
