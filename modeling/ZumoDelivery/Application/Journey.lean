import ZumoDelivery.Application.DriveRun

set_option autoImplicit false

namespace ZumoDelivery

variable {F : Type} [FloatArith F]

open FloatArith

/-- Only a motor command, a drive handler or the end of a timed drive changes the journey. -/
theorem journey_run (env : Env) (stage : Stage) (s : State F) (other : stage ≠ .distControl)
    (quiet : stage = .messageHandling → accepted env s = none)
    (going : stage = .motorStop → s.flags.mfMotorStop.due env s = false)
    (vel : stage = .velControl → s.drive.vel.active = false)
    (avoid : s.drive.avoid.active = false) :
    (stage.run env s).journey = s.journey := by
  by_cases task : stage = .messageHandling
  · subst task
    exact congrArg Motion.journey (motion_messageHandlingTask env s (quiet rfl))
  apply run_rule env stage s (fun t => t.journey = s.journey) task
  · exact fun _ _ _ => rfl
  · intro after due execution
    cases execution with
    | distBaseline | distDone | distStep => contradiction
    | velBaseline | velStep => cases due.symm.trans (MsgFlag.not_due_of_inactive env _ s (vel rfl))
    | motorStop => cases due.symm.trans (going rfl)
    | oaLeft | oaRight | oaDecided =>
        cases due.symm.trans (MsgFlag.not_due_of_inactive env _ s avoid)
    | _ => rfl

def Journey.travel (j : Journey F) (encoders : Encoders) : Journey F where
  firstTime := j.firstTime
  ticksLOld := ofInt encoders.leftCounts.toInt
  ticksROld := ofInt encoders.rightCounts.toInt
  ctrLeftMotor := controllerSetTargetPosition j.ctrLeftMotor
    (j.ctrLeftMotor.targetPos - measured j.ticksLOld encoders.leftCounts)
  ctrRightMotor := controllerSetTargetPosition j.ctrRightMotor
    (j.ctrRightMotor.targetPos - measured j.ticksROld encoders.rightCounts)

inductive DistOutcome (s after : State F) : Prop
  | baseline (first : s.locals.firstTime = true)
      (journey : after.journey = { s.journey with
        firstTime := false
        ticksLOld := ofInt after.encoders.leftCounts.toInt
        ticksROld := ofInt after.encoders.rightCounts.toInt })
      (drive : after.drive = s.drive)
  | done (running : s.locals.firstTime = false) (arrived : doneMoving s after = true)
      (active : after.flags.mfMotorDistControl.active = false)
      (motors : after.motors = motorsOff (F := F) s.motors)
  | travel (running : s.locals.firstTime = false) (short : doneMoving s after = false)
      (journey : after.journey = s.journey.travel after.encoders)
      (active : after.flags.mfMotorDistControl.active = true)
      (motors : after.motors = driveMotors (F := F)
        (signedDuty after.ctrLeftMotor.targetPos
          (velocityToDutyCycleLeft s.ctrLeftMotor.targetVel))
        (signedDuty after.ctrRightMotor.targetPos
          (velocityToDutyCycleRight s.ctrRightMotor.targetVel)) s.motors)

theorem distOutcome (env : Env) (s : State F)
    (due : s.flags.mfMotorDistControl.due env s = true) :
    DistOutcome s (distControlHandler env s) := by
  have active : s.flags.mfMotorDistControl.active = true := MsgFlag.active_of_due due
  have execution := Execution.distControlHandler due
  generalize distControlHandler env s = after at execution ⊢
  cases execution with
  | distBaseline first => exact .baseline first rfl rfl
  | distDone running arrived => exact .done running arrived rfl rfl
  | distStep running encoders counted short left right restLeft restRight =>
      subst restLeft restRight
      exact .travel running short rfl active rfl

end ZumoDelivery
