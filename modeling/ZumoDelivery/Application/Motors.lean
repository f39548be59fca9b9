import ZumoDelivery.Application.DriveRun

set_option autoImplicit false

namespace ZumoDelivery

variable {F : Type} [FloatArith F]

theorem backwardLeft_driveMotors (left right : Int16) (pwm : MotorPwm) :
    (driveMotors (F := ℚ) left right pwm).backwardLeft = decide (left < 0) :=
  (backwardLeft_motorPwmRight ℚ right _).trans (backwardLeft_motorPwmLeft ℚ left pwm)

theorem backwardRight_driveMotors (left right : Int16) (pwm : MotorPwm) :
    (driveMotors (F := ℚ) left right pwm).backwardRight = decide (right < 0) :=
  backwardRight_motorPwmRight ℚ right _

def DriveCommand.motors (payload : List UInt8) (pwm : MotorPwm) : DriveCommand F → MotorPwm
  | .pwm => driveMotors (F := F) (intAt payload 0) (intAt payload 2) pwm
  | .pwmTimed _ => driveMotors (F := F) (intAt payload 0) (intAt payload 2) pwm
  | .stop => motorPwmRight F 0 (motorPwmLeft F 0 (motorPwmEnable false pwm))
  | _ => pwm

theorem CaseStep.motors {env : Env} {s after : State F} {message : Dispatch}
    (step : CaseStep env s message after) :
    after.motors = (acceptedBy (batteryVoltage s.batteryFilter) message).elim s.motors
      (DriveCommand.motors message.payload s.motors) := by
  cases step with
  | replied _ _ quiet | gripper _ _ _ _ quiet =>
      rw [quiet]
      rfl
  | asked request _ _ _ quiet =>
      rw [quiet]
      cases request <;> rfl
  | pwm _ accepts | pwmTimed _ _ accepts | stop _ accepts | distance _ _ _ accepts
  | distanceTimed _ _ _ _ accepts | velocity _ _ _ accepts | velocityTimed _ _ _ _ accepts
  | avoidance _ _ accepts =>
      rw [accepts]
      rfl

theorem motors_messageHandlingTask (env : Env) (s : State F) :
    (messageHandlingTask env s).1.motors =
      (messageHandlingTask env s).2.elim s.motors fun message =>
        (acceptedBy (batteryVoltage s.batteryFilter) message).elim s.motors
          (DriveCommand.motors message.payload s.motors) := by
  apply task_rule env s fun t ran => t.motors = ran.elim s.motors fun message =>
    (acceptedBy (batteryVoltage s.batteryFilter) message).elim s.motors
      (DriveCommand.motors message.payload s.motors)
  · exact fun _ => rfl
  · intro command char
    rw [Option.elim_some, acceptedBy_of_other char (by decide)]
    rfl
  · exact fun _ _ _ step => step.motors

theorem motors_of_quiet {env : Env} {s : State F} (quiet : accepted env s = none) :
    (messageHandlingTask env s).1.motors = s.motors := by
  rw [motors_messageHandlingTask]
  rw [accepted] at quiet
  cases ran : (messageHandlingTask env s).2 with
  | none => rfl
  | some message =>
      rw [ran, Option.bind_some] at quiet
      rw [Option.elim_some, quiet, Option.elim_none]

theorem motors_of_accepted {env : Env} {s : State F} {motor : DriveCommand F}
    (accepts : accepted env s = some motor) :
    ∃ message, (messageHandlingTask env s).2 = some message ∧
      (messageHandlingTask env s).1.motors = motor.motors message.payload s.motors := by
  obtain ⟨message, ran, same⟩ := Option.bind_eq_some_iff.mp accepts
  refine ⟨message, ran, ?_⟩
  rw [motors_messageHandlingTask, ran, Option.elim_some, same, Option.elim_some]

theorem top_motorsOff (pwm : MotorPwm) : (motorsOff (F := F) pwm).icr1 = pwm.icr1 := by
  simp [motorsOff]

theorem top_driveMotors (left right : Int16) (pwm : MotorPwm) :
    (driveMotors (F := F) left right pwm).icr1 = pwm.icr1 := by
  simp [driveMotors]

theorem DriveCommand.top (motor : DriveCommand F) (payload : List UInt8) (pwm : MotorPwm) :
    (motor.motors payload pwm).icr1 = pwm.icr1 := by
  cases motor with
  | pwm => exact top_driveMotors _ _ pwm
  | pwmTimed => exact top_driveMotors _ _ pwm
  | stop => simp [DriveCommand.motors]
  | _ => rfl

theorem top_run (env : Env) (stage : Stage) (s : State F) : (stage.run env s).top = s.top := by
  by_cases task : stage = .messageHandling
  · subst task
    change (messageHandlingTask env s).1.motors.icr1 = s.motors.icr1
    cases accepts : accepted env s with
    | none => rw [motors_of_quiet accepts]
    | some motor =>
        obtain ⟨message, -, same⟩ := motors_of_accepted accepts
        rw [same, motor.top]
  apply run_rule env stage s (fun t => t.top = s.top) task
  · exact fun _ _ _ => rfl
  · intro after _ execution
    cases execution with
    | timedPwm | distDone | motorStop => exact top_motorsOff _
    | distStep | velStep => exact top_driveMotors _ _ _
    | oaDecided _ _ _ decision => cases decision <;> rfl
    | _ => rfl

theorem top_deviceTrace (env : Env) (time : ℕ) : (deviceTrace (F := F) env time).top = 400 := by
  induction time with
  | zero => rfl
  | succ time ih =>
      obtain ⟨stage, here⟩ := stageAt_isSome time
      rw [deviceTrace_succ here, top_run, ih]

end ZumoDelivery
