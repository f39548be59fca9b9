import ZumoDelivery.Application.Drive

set_option autoImplicit false

namespace ZumoDelivery

variable {F : Type} [FloatArith F]

open FloatArith

namespace Drive

/-- All that a statement of the loop other than the message task and the restart can
do to the drive. -/
inductive Move (d : Drive F) : Drive F → Prop where
  | idle : Move d d
  | pwmExpired (active : d.timed.active = true) :
      Move d { d with timed.active := false, enabled := false }
  | distanceStep (active : d.dist.active = true) (now : Time) :
      Move d { d with dist.lastTriggerTime := now, enabled := true }
  | distanceDone (active : d.dist.active = true) :
      Move d { d with dist.active := false, enabled := false }
  | velocityStep (active : d.vel.active = true) (now : Time) :
      Move d { d with vel.lastTriggerTime := now, enabled := true }
  | stopExpired (active : d.stop.active = true) :
      Move d { d with
        stop.active := false
        dist.active := false
        vel.active := false
        timed.active := false
        enabled := false }
  | avoidanceStart (active : d.avoid.active = true) (waiting : d.oaState = .init)
      (next : OaDsm) (chosen : next ≠ .init) (period : F) (now : Time) :
      Move d { d with
        oaState := next
        vel.active := true
        vel.duration := period
        avoid.lastTriggerTime := now }
  | avoidanceStep (active : d.avoid.active = true) (started : d.oaState ≠ .init)
      (next : OaDsm) (chosen : next ≠ .init) (now : Time) :
      Move d { d with oaState := next, avoid.lastTriggerTime := now }

omit [FloatArith F] in
theorem Move.of_eq {d after result : Drive F} (move : d.Move after) (same : result = after) :
    d.Move result :=
  same ▸ move

end Drive

theorem drive_messageHandlingTask (env : Env) (s : State F) :
    (messageHandlingTask env s).1.drive = s.driveAfter env (accepted env s) := by
  apply task_rule env s (fun t ran => t.drive =
    s.driveAfter env (ran.bind (acceptedBy (batteryVoltage s.batteryFilter))))
  · exact fun _ => rfl
  · -- '~' only sets the restart flag.
    intro command char
    rw [Option.bind_some, acceptedBy_of_other char (by decide)]
    rfl
  · exact fun _ _ _ step => step.drive

theorem motion_messageHandlingTask (env : Env) (s : State F) (quiet : accepted env s = none) :
    (messageHandlingTask env s).1.motion = s.motion :=
  task_of_quiet quiet (fun t => t.motion = s.motion) (fun _ => rfl) rfl
    (fun request _ _ => by cases request <;> rfl) fun _ _ => rfl

theorem drive_restartHandler (env : Env) (s : State F) :
    (restartHandler env s).drive =
      if s.flags.mfRestart.due env s then s.drive.restart else s.drive :=
  whenDue_view State.drive s rfl

/-- `ICR1`, which is set once. -/
def State.top (s : State F) : UInt16 := s.motors.icr1

theorem tccr1a_motorsOff (pwm : MotorPwm) :
    (motorsOff (F := F) pwm).tccr1a = (motorPwmEnable false pwm).tccr1a := by
  have same : (motorPwmRight F 0 (motorPwmLeft F 0 pwm)).tccr1a = pwm.tccr1a :=
    (motorPwmRight_tccr1a F 0 _).trans (motorPwmLeft_tccr1a F 0 _)
  simp only [motorsOff, motorPwmEnable, Bool.false_eq_true, ↓reduceIte, same]

theorem disabled_motorsOff {s : State F} (pwm : MotorPwm)
    (motors : s.motors = motorsOff (F := F) pwm) : s.drive.enabled = false :=
  State.disabled_of_motors pwm (by rw [motors, tccr1a_motorsOff])

theorem drive_timedPwmHandler (env : Env) (s : State F) :
    (timedPwmHandler env s).drive =
      if s.flags.mfTimedPwm.due env s then
        { s.drive with timed.active := false, enabled := false }
      else s.drive := by
  rw [timedPwmHandler, whenDue_view State.drive s rfl]
  split
  · exact Drive.ext rfl rfl rfl rfl rfl rfl (disabled_motorsOff s.motors rfl)
  · rfl

theorem drive_motorStopHandler (env : Env) (s : State F) :
    (motorStopHandler env s).drive =
      if s.flags.mfMotorStop.due env s then
        { s.drive with
          stop.active := false
          dist.active := false
          vel.active := false
          timed.active := false
          enabled := false }
      else s.drive := by
  rw [motorStopHandler, whenDue_view State.drive s rfl]
  split
  · exact Drive.ext rfl rfl rfl rfl rfl rfl (disabled_motorsOff s.motors rfl)
  · rfl

theorem Execution.move {env : Env} {s after : State F} {stage : Stage}
    (execution : Execution env s stage after) (due : stage.due env s = true)
    (notRestart : stage ≠ .restart) : s.drive.Move after.drive := by
  cases execution with
  | restart => contradiction
  | timedPwm =>
      have active : s.drive.timed.active = true := MsgFlag.active_of_due due
      refine (Drive.Move.pwmExpired active).of_eq ?_
      exact Drive.ext rfl rfl rfl rfl rfl rfl (disabled_motorsOff s.motors rfl)
  | distDone =>
      have active : s.drive.dist.active = true := MsgFlag.active_of_due due
      refine (Drive.Move.distanceDone active).of_eq ?_
      exact Drive.ext rfl rfl rfl rfl rfl rfl (disabled_motorsOff s.motors rfl)
  | distStep =>
      have active : s.drive.dist.active = true := MsgFlag.active_of_due due
      refine (Drive.Move.distanceStep active (clockAt env (s.looks + 4))).of_eq ?_
      exact Drive.ext rfl rfl rfl rfl rfl rfl (State.enabled_of_motors _ rfl)
  | velStep =>
      have active : s.drive.vel.active = true := MsgFlag.active_of_due due
      refine (Drive.Move.velocityStep active (clockAt env (s.looks + 4))).of_eq ?_
      exact Drive.ext rfl rfl rfl rfl rfl rfl (State.enabled_of_motors _ rfl)
  | motorStop =>
      have active : s.drive.stop.active = true := MsgFlag.active_of_due due
      refine (Drive.Move.stopExpired active).of_eq ?_
      exact Drive.ext rfl rfl rfl rfl rfl rfl (disabled_motorsOff s.motors rfl)
  | oaDecided _ decided _ decision =>
      have active : s.drive.avoid.active = true := MsgFlag.active_of_due due
      cases decision with
      | start next chosen _ waiting => exact .avoidanceStart active waiting next chosen _ _
      | steer next chosen _ _ started => exact .avoidanceStep active started next chosen _
      | keep next chosen _ started => exact .avoidanceStep active started next chosen _
  | _ => exact .idle

/-- One statement either dispatches a message, restarts, or makes a move. -/
theorem move_run (env : Env) (stage : Stage) (s : State F) (notTask : stage ≠ .messageHandling)
    (notRestart : stage ≠ .restart) : s.drive.Move (stage.run env s).drive :=
  run_rule env stage s (fun t => s.drive.Move t.drive) notTask (fun _ _ _ => .idle)
    fun _ due execution => execution.move due notRestart

end ZumoDelivery
