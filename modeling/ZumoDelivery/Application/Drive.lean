import ZumoDelivery.Application.LoopSteps

set_option autoImplicit false

namespace ZumoDelivery

variable {F : Type} [FloatArith F]

open FloatArith

/-- The part of the state that decides whether the motors are driven. -/
@[ext] structure Drive (F : Type) where
  avoid : MsgFlag F
  dist : MsgFlag F
  vel : MsgFlag F
  stop : MsgFlag F
  timed : MsgFlag F
  oaState : OaDsm
  /-- Some COM1 bit of TCCR1A is set. -/
  enabled : Bool

def State.drive (s : State F) : Drive F where
  avoid := s.flags.mfObjAvoidance
  dist := s.flags.mfMotorDistControl
  vel := s.flags.mfMotorVelControl
  stop := s.flags.mfMotorStop
  timed := s.flags.mfTimedPwm
  oaState := s.avoidance.oaState
  enabled := !decide s.motors.Disabled

/-- The wheel controllers, and what the distance handler keeps between executions. -/
@[ext] structure Journey (F : Type) where
  firstTime : Bool
  ticksLOld : F
  ticksROld : F
  ctrLeftMotor : Controller F
  ctrRightMotor : Controller F

def State.journey (s : State F) : Journey F where
  firstTime := s.locals.firstTime
  ticksLOld := s.locals.ticksLOld
  ticksROld := s.locals.ticksROld
  ctrLeftMotor := s.ctrLeftMotor
  ctrRightMotor := s.ctrRightMotor

/-- The part of the state that is left to the motor commands and the drive handlers. -/
structure Motion (F : Type) where
  drive : Drive F
  journey : Journey F

def State.motion (s : State F) : Motion F := ⟨s.drive, s.journey⟩

omit [FloatArith F] in
theorem State.enabled_eq_false_iff (s : State F) :
    s.drive.enabled = false ↔ s.motors.Disabled := by
  simp only [drive, Bool.not_eq_false', decide_eq_true_eq]

namespace Drive

def reset (d : Drive F) : Drive F :=
  { d with
    avoid.active := false
    dist.active := false
    vel.active := false
    stop.active := false
    timed.active := false }

/-- What accepting a motor command does, at time `now` and with the update period of
the left controller. -/
def accept (now : Time) (period : F) (d : Drive F) : DriveCommand F → Drive F
  | .pwm =>
      { d with
        dist.active := false
        vel.active := false
        stop.active := false
        timed.active := false
        enabled := true }
  | .pwmTimed duration =>
      { d with
        dist.active := false
        vel.active := false
        stop.active := false
        timed := ⟨true, duration * lit 1000, now⟩
        enabled := true }
  | .stop => { d.reset with enabled := false }
  | .distance => { d.reset with dist.active := true, dist.duration := period }
  | .distanceTimed duration =>
      { d.reset with
        dist.active := true
        dist.duration := period
        stop := ⟨true, duration * lit 1000, now⟩ }
  | .velocity => { d.reset with vel.active := true, vel.duration := period }
  | .velocityTimed duration =>
      { d.reset with
        vel.active := true
        vel.duration := period
        stop := ⟨true, duration * lit 1000, now⟩ }
  | .avoidance duration =>
      { d.reset with
        oaState := .init
        avoid.active := true
        avoid.duration := duration * lit 1000 }

/-- `Message_Handling_Init`, which names neither `mf_motor_vel_control` nor
`mf_obj_avoidance` and does not touch the PWM. -/
def restart (d : Drive F) : Drive F :=
  { d with timed := msgFlagInit, dist := msgFlagInit, stop := msgFlagInit }

end Drive

/-- The drive after a call in which `command` was accepted, or no motor command was. -/
def State.driveAfter (env : Env) (s : State F) (command : Option (DriveCommand F)) : Drive F :=
  command.elim s.drive (s.drive.accept (getTime env s).1 s.ctrLeftMotor.updatePeriod)

omit [FloatArith F] in
theorem State.enabled_of_motors {s : State F} (pwm : MotorPwm)
    (motors : s.motors = motorPwmEnable true pwm) : s.drive.enabled = true := by
  rw [← Bool.not_eq_false, State.enabled_eq_false_iff, motors]
  exact not_disabled_motorPwmEnable_true pwm

omit [FloatArith F] in
theorem State.disabled_of_motors {s : State F} (pwm : MotorPwm)
    (tccr1a : s.motors.tccr1a = (motorPwmEnable false pwm).tccr1a) :
    s.drive.enabled = false := by
  rw [State.enabled_eq_false_iff, MotorPwm.Disabled, tccr1a]
  exact disabled_motorPwmEnable_false pwm

theorem CaseStep.drive {env : Env} {s after : State F} {message : Dispatch}
    (step : CaseStep env s message after) : after.drive =
      s.driveAfter env (acceptedBy (batteryVoltage s.batteryFilter) message) := by
  cases step with
  | replied _ _ quiet =>
      rw [quiet]
      rfl
  | asked request _ _ _ quiet =>
      rw [quiet]
      cases request <;> rfl
  | gripper _ _ _ _ quiet =>
      rw [quiet]
      rfl
  | pwm _ accepts =>
      rw [accepts]
      exact Drive.ext rfl rfl rfl rfl rfl rfl (State.enabled_of_motors _ rfl)
  | pwmTimed _ _ accepts =>
      rw [accepts]
      exact Drive.ext rfl rfl rfl rfl rfl rfl (State.enabled_of_motors _ rfl)
  | stop _ accepts =>
      rw [accepts]
      refine Drive.ext rfl rfl rfl rfl rfl rfl (State.disabled_of_motors s.motors ?_)
      -- The duties are set after the outputs are disabled.
      exact (motorPwmRight_tccr1a F 0 _).trans (motorPwmLeft_tccr1a F 0 _)
  | distance _ _ _ accepts | distanceTimed _ _ _ _ accepts | velocity _ _ _ accepts
  | velocityTimed _ _ _ _ accepts | avoidance _ _ accepts =>
      rw [accepts]
      rfl

end ZumoDelivery
