import ZumoDelivery.Driver.DutyFraction
import ZumoDelivery.Application.Motors

set_option autoImplicit false

namespace ZumoDelivery

open FloatArith

section Passed

variable {F : Type} [FloatArith F]

/-- 'p' and 'P'. -/
def DriveCommand.isPwm : DriveCommand F → Bool
  | .pwm => true
  | .pwmTimed _ => true
  | _ => false

/-- An accepted 'p' or 'P' passes both numbers of its payload on, whatever they are. -/
theorem motors_of_pwm (env : Env) (s : State F) {message : Dispatch} {motor : DriveCommand F}
    (ran : (messageHandlingTask env s).2 = some message)
    (accepts : acceptedBy (batteryVoltage s.batteryFilter) message = some motor)
    (pwm : motor.isPwm = true) :
    (messageHandlingTask env s).1.motors =
      driveMotors (F := F) (intAt message.payload 0) (intAt message.payload 2) s.motors := by
  rw [motors_messageHandlingTask, ran, Option.elim_some, accepts, Option.elim_some]
  cases motor with
  | pwm => rfl
  | pwmTimed => rfl
  | _ => cases pwm

end Passed

section Exact

theorem ocr1b_driveMotors (left right : Int16) (pwm : MotorPwm) :
    (driveMotors (F := ℚ) left right pwm).ocr1b = motorPwmCompare ℚ (magnitude left) pwm.icr1 :=
  (ocr1b_motorPwmRight ℚ right _).trans (ocr1b_motorPwmLeft left pwm)

theorem ocr1a_driveMotors (left right : Int16) (pwm : MotorPwm) :
    (driveMotors (F := ℚ) left right pwm).ocr1a =
      motorPwmCompare ℚ (magnitude right) pwm.icr1 := by
  rw [← icr1_motorPwmLeft ℚ left pwm]
  exact ocr1a_motorPwmRight right _

/-- At any time of a run a host gets what it asks for, the least duty apart. -/
theorem pwm_command_law_iff (env : Env) (time : ℕ) (message : Dispatch) (motor : DriveCommand ℚ)
    (task : stageAt time = some .messageHandling)
    (ran : (messageHandlingTask env (deviceTrace (F := ℚ) env time)).2 = some message)
    (accepts : acceptedBy (batteryVoltage (deviceTrace (F := ℚ) env time).batteryFilter) message =
      some motor)
    (pwm : motor.isPwm = true) :
    (DutyLaw (intAt message.payload 0) 400 (deviceTrace (F := ℚ) env (time + 1)).motors.ocr1b
          (deviceTrace (F := ℚ) env (time + 1)).motors.backwardLeft ↔
        intAt message.payload 0 ≠ -32768) ∧
      (DutyLaw (intAt message.payload 2) 400 (deviceTrace (F := ℚ) env (time + 1)).motors.ocr1a
          (deviceTrace (F := ℚ) env (time + 1)).motors.backwardRight ↔
        intAt message.payload 2 ≠ -32768) := by
  have top : (deviceTrace (F := ℚ) env time).motors.icr1 = 400 := top_deviceTrace env time
  have other : (400 : UInt16) ≠ 42271 := by decide
  have passed : (deviceTrace (F := ℚ) env (time + 1)).motors =
      driveMotors (F := ℚ) (intAt message.payload 0) (intAt message.payload 2)
        (deviceTrace (F := ℚ) env time).motors := by
    rw [deviceTrace_succ task]
    exact motors_of_pwm env _ ran accepts pwm
  rw [passed, ocr1b_driveMotors, ocr1a_driveMotors, backwardLeft_driveMotors,
    backwardRight_driveMotors, top, dutyLaw_compare_iff _ (by decide),
    dutyLaw_compare_iff _ (by decide)]
  simp only [other, or_false, and_self]

end Exact

end ZumoDelivery
