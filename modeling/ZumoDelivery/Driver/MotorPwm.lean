import ZumoDelivery.Driver.FloatArith

set_option autoImplicit false

namespace ZumoDelivery

open FloatArith

structure MotorPwm where
  tccr1a : UInt8
  tccr1b : UInt8
  icr1 : UInt16
  ocr1a : UInt16
  ocr1b : UInt16
  portB : UInt8
deriving DecidableEq

def motorPwmReset : MotorPwm := ⟨0, 0, 0, 0, 0, 0⟩

def motorPwmInit (maxPwm : UInt16) (pwm : MotorPwm) : MotorPwm :=
  let tccr1a := (pwm.tccr1a &&& 0b11111110) ||| 0b00000010
  { pwm with tccr1b := 0x11, tccr1a := tccr1a &&& 0b00001111, icr1 := maxPwm }

def motorPwmEnable (enable : Bool) (pwm : MotorPwm) : MotorPwm :=
  if enable = true then { pwm with tccr1a := pwm.tccr1a ||| 0b11110000 }
  else { pwm with tccr1a := pwm.tccr1a &&& 0b00001111 }

def isMotorPwmEnabled (pwm : MotorPwm) : Bool :=
  pwm.tccr1a &&& 0b10000000 ≠ 0 && pwm.tccr1a &&& 0b01000000 ≠ 0

/-- The COM1 bits of TCCR1A are clear: neither motor output is driven. -/
def MotorPwm.Disabled (pwm : MotorPwm) : Prop := pwm.tccr1a &&& 0b11110000 = 0

instance (pwm : MotorPwm) : Decidable pwm.Disabled :=
  inferInstanceAs (Decidable (_ = _))

/-- The direction pins, high for backward. -/
def MotorPwm.backwardLeft (pwm : MotorPwm) : Bool := pwm.portB &&& 0b00000100 ≠ 0

def MotorPwm.backwardRight (pwm : MotorPwm) : Bool := pwm.portB &&& 0b00000010 ≠ 0

section Duty

variable (F : Type) [FloatArith F]

/-- `(int16_t)((((float)pwm * -0.01) + 1) * ICR1)`, after the clamp at 100. -/
def motorPwmCompare (duty : Int16) (icr1 : UInt16) : UInt16 :=
  let duty := if duty > 100 then 100 else duty
  let count : F := (ofInt duty.toInt * lit (-0.01) + lit 1) * ofInt icr1.toNat
  (Int16.ofInt (trunc count)).toUInt16

def motorPwmLeft (duty : Int16) (pwm : MotorPwm) : MotorPwm :=
  if duty < 0 then
    { pwm with portB := pwm.portB ||| 0b00000100, ocr1b := motorPwmCompare F (duty * -1) pwm.icr1 }
  else
    { pwm with portB := pwm.portB &&& 0b11111011, ocr1b := motorPwmCompare F duty pwm.icr1 }

def motorPwmRight (duty : Int16) (pwm : MotorPwm) : MotorPwm :=
  if duty < 0 then
    { pwm with portB := pwm.portB ||| 0b00000010, ocr1a := motorPwmCompare F (duty * -1) pwm.icr1 }
  else
    { pwm with portB := pwm.portB &&& 0b11111101, ocr1a := motorPwmCompare F duty pwm.icr1 }

def getMotorPwm (ocr icr1 : UInt16) : Int16 :=
  Int16.ofInt (trunc (lit (-100) * (ofInt ocr.toNat / ofInt icr1.toNat) + lit 100 : F))

def getMotorPwmLeft (pwm : MotorPwm) : Int16 := getMotorPwm F pwm.ocr1b pwm.icr1

def getMotorPwmRight (pwm : MotorPwm) : Int16 := getMotorPwm F pwm.ocr1a pwm.icr1

end Duty

/-- It does not touch the compare registers, nor the count that its comment says it clears. -/
def setMaxMotorPwm (maxPwm : UInt16) (pwm : MotorPwm) : MotorPwm := { pwm with icr1 := maxPwm }

section Velocity

variable {F : Type} [FloatArith F]

def dutyCycleToVelocityLeft (dutyCycle : Int16) : F :=
  ofInt dutyCycle.toInt * lit 0.0033 + lit 0.0133

def dutyCycleToVelocityRight (dutyCycle : Int16) : F :=
  ofInt dutyCycle.toInt * lit 0.0034 + lit 0.0133

def velocityToDutyCycleLeft (velocity : F) : Int16 :=
  Int16.ofInt (trunc ((velocity - lit 0.0133) / lit 0.0033))

def velocityToDutyCycleRight (velocity : F) : Int16 :=
  Int16.ofInt (trunc ((velocity - lit 0.0133) / lit 0.0034))

def ecountToDistance (encoderCount : Int16) : F :=
  ofInt encoderCount.toInt * lit 2 * lit 3.14159 * lit 0.0195 / (lit 12 * lit 75.81)

end Velocity

@[simp] theorem disabled_motorPwmEnable_false (pwm : MotorPwm) :
    (motorPwmEnable false pwm).Disabled := by
  simp only [motorPwmEnable, Bool.false_eq_true, ↓reduceIte, MotorPwm.Disabled,
    UInt8.and_assoc]
  exact UInt8.and_zero

@[simp] theorem not_disabled_motorPwmEnable_true (pwm : MotorPwm) :
    ¬ (motorPwmEnable true pwm).Disabled := by
  intro disabled
  have absorbed : ∀ bits : BitVec 8, (bits ||| 0b11110000) &&& 0b11110000 = 0b11110000 := by
    decide
  have same := (congrArg UInt8.toBitVec disabled).symm.trans (absorbed pwm.tccr1a.toBitVec)
  exact absurd same (by decide)

@[simp] theorem motorPwmLeft_tccr1a (F : Type) [FloatArith F] (duty : Int16) (pwm : MotorPwm) :
    (motorPwmLeft F duty pwm).tccr1a = pwm.tccr1a := by
  unfold motorPwmLeft
  split <;> rfl

@[simp] theorem motorPwmRight_tccr1a (F : Type) [FloatArith F] (duty : Int16) (pwm : MotorPwm) :
    (motorPwmRight F duty pwm).tccr1a = pwm.tccr1a := by
  unfold motorPwmRight
  split <;> rfl

@[simp] theorem icr1_motorPwmLeft (F : Type) [FloatArith F] (duty : Int16) (pwm : MotorPwm) :
    (motorPwmLeft F duty pwm).icr1 = pwm.icr1 := by
  unfold motorPwmLeft
  split <;> rfl

@[simp] theorem icr1_motorPwmRight (F : Type) [FloatArith F] (duty : Int16) (pwm : MotorPwm) :
    (motorPwmRight F duty pwm).icr1 = pwm.icr1 := by
  unfold motorPwmRight
  split <;> rfl

theorem ocr1a_motorPwmLeft (F : Type) [FloatArith F] (duty : Int16) (pwm : MotorPwm) :
    (motorPwmLeft F duty pwm).ocr1a = pwm.ocr1a := by
  unfold motorPwmLeft
  split <;> rfl

theorem ocr1b_motorPwmRight (F : Type) [FloatArith F] (duty : Int16) (pwm : MotorPwm) :
    (motorPwmRight F duty pwm).ocr1b = pwm.ocr1b := by
  unfold motorPwmRight
  split <;> rfl

@[simp] theorem icr1_motorPwmEnable (on : Bool) (pwm : MotorPwm) :
    (motorPwmEnable on pwm).icr1 = pwm.icr1 := by
  cases on <;> rfl

theorem pin_of_set (port pin : UInt8) : (port ||| pin) &&& pin = pin := by
  apply UInt8.toBitVec_inj.mp
  apply BitVec.eq_of_getElem_eq
  intro i inside
  rw [UInt8.toBitVec_and, UInt8.toBitVec_or, BitVec.getElem_and, BitVec.getElem_or]
  cases port.toBitVec[i] <;> simp

theorem pin_of_other_set (port : UInt8) {other pin : UInt8} (apart : other &&& pin = 0) :
    (port ||| other) &&& pin = port &&& pin := by
  apply UInt8.toBitVec_inj.mp
  rw [UInt8.toBitVec_and, UInt8.toBitVec_or, BitVec.and_or_distrib_right, ← UInt8.toBitVec_and,
    ← UInt8.toBitVec_and, apart]
  exact BitVec.or_zero

/-- A pin behind a mask that clears it, or another one. -/
theorem pin_of_mask (port : UInt8) {mask pin kept : UInt8} (masked : mask &&& pin = kept) :
    port &&& mask &&& pin = port &&& kept := by
  rw [UInt8.and_assoc, masked]

theorem backwardLeft_motorPwmLeft (F : Type) [FloatArith F] (duty : Int16) (pwm : MotorPwm) :
    (motorPwmLeft F duty pwm).backwardLeft = decide (duty < 0) := by
  rw [motorPwmLeft, MotorPwm.backwardLeft]
  split
  · rename_i backward
    rw [pin_of_set, decide_eq_true backward]
    rfl
  · rename_i forward
    rw [pin_of_mask pwm.portB (show (0b11111011 : UInt8) &&& 0b00000100 = 0 by decide),
      UInt8.and_zero, decide_eq_false forward]
    rfl

theorem backwardRight_motorPwmRight (F : Type) [FloatArith F] (duty : Int16) (pwm : MotorPwm) :
    (motorPwmRight F duty pwm).backwardRight = decide (duty < 0) := by
  rw [motorPwmRight, MotorPwm.backwardRight]
  split
  · rename_i backward
    rw [pin_of_set, decide_eq_true backward]
    rfl
  · rename_i forward
    rw [pin_of_mask pwm.portB (show (0b11111101 : UInt8) &&& 0b00000010 = 0 by decide),
      UInt8.and_zero, decide_eq_false forward]
    rfl

theorem backwardLeft_motorPwmRight (F : Type) [FloatArith F] (duty : Int16) (pwm : MotorPwm) :
    (motorPwmRight F duty pwm).backwardLeft = pwm.backwardLeft := by
  rw [motorPwmRight, MotorPwm.backwardLeft, MotorPwm.backwardLeft]
  split
  · rw [pin_of_other_set pwm.portB (show (0b00000010 : UInt8) &&& 0b00000100 = 0 by decide)]
  · rw [pin_of_mask pwm.portB (show (0b11111101 : UInt8) &&& 0b00000100 = 0b00000100 by decide)]

end ZumoDelivery
