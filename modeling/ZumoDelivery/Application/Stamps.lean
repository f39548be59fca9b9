import ZumoDelivery.Application.Intake
import ZumoDelivery.Application.Journey

set_option autoImplicit false

namespace ZumoDelivery

variable {F : Type} [FloatArith F]

open FloatArith

/-- The statements of the loop that renew the trigger time of their flag. -/
inductive PacedTask where
  | batteryTask
  | sendTime
  | timeFloatSend
  | loopTimer
  | sendEncoder
  | sendBattery
  | lowBattery
  | sysData
  | distControl
  | velControl
  | irProximity
  | objAvoidance
deriving DecidableEq

def PacedTask.stage : PacedTask → Stage
  | .batteryTask => .batteryTask
  | .sendTime => .sendTime
  | .timeFloatSend => .timeFloatSend
  | .loopTimer => .loopTimer
  | .sendEncoder => .sendEncoder
  | .sendBattery => .sendBattery
  | .lowBattery => .lowBattery
  | .sysData => .sysData
  | .distControl => .distControl
  | .velControl => .velControl
  | .irProximity => .irProximity
  | .objAvoidance => .objAvoidance

def PacedTask.flag : PacedTask → Flags F → MsgFlag F
  | .batteryTask => Flags.mfBatteryTask
  | .sendTime => Flags.mfSendTime
  | .timeFloatSend => Flags.mfTimeFloatSend
  | .loopTimer => Flags.mfLoopTimer
  | .sendEncoder => Flags.mfSendEncoder
  | .sendBattery => Flags.mfSendBattery
  | .lowBattery => Flags.mfLowBattery
  | .sysData => Flags.mfSysData
  | .distControl => Flags.mfMotorDistControl
  | .velControl => Flags.mfMotorVelControl
  | .irProximity => Flags.mfIrProximity
  | .objAvoidance => Flags.mfObjAvoidance

/-- `Message_Handling_Init` sets the trigger time to 0. -/
def PacedTask.initialised : PacedTask → Bool
  | .batteryTask => false
  | .velControl => false
  | .objAvoidance => false
  | _ => true

/-- Whether an execution sends a periodic report, moves a motor, or decides, and not only
prepares for that or ends the task. -/
def PacedTask.acts (s after : State F) : PacedTask → Bool
  | .batteryTask => true
  | .sendTime => !lt s.flags.mfSendTime.duration (lit 0)
  | .timeFloatSend => s.locals.floatSend.trip && usbOutMsgLength s.usb = 0 &&
      !lt s.flags.mfTimeFloatSend.duration (lit 0)
  | .loopTimer => s.locals.loopTime.trip && !lt s.flags.mfLoopTimer.duration (lit 0)
  | .sendEncoder => !le s.flags.mfSendEncoder.duration (lit 0)
  | .sendBattery => !le s.flags.mfSendBattery.duration (lit 0)
  | .lowBattery => true
  | .sysData => !le s.flags.mfSysData.duration (lit 0)
  | .distControl => !s.locals.firstTime && !doneMoving s after
  | .velControl => !s.locals.firstTime
  | .irProximity => !s.locals.proxyFirst && !le s.flags.mfIrProximity.duration (lit 0)
  | .objAvoidance => s.avoidance.readState = .runDsm

structure Stamps where
  batteryTask : Time
  sendTime : Time
  timeFloatSend : Time
  loopTimer : Time
  sendEncoder : Time
  sendBattery : Time
  lowBattery : Time
  sysData : Time
  distControl : Time
  velControl : Time
  irProximity : Time
  objAvoidance : Time
deriving DecidableEq

namespace PacedTask

def stamp : PacedTask → Stamps → Time
  | .batteryTask => Stamps.batteryTask
  | .sendTime => Stamps.sendTime
  | .timeFloatSend => Stamps.timeFloatSend
  | .loopTimer => Stamps.loopTimer
  | .sendEncoder => Stamps.sendEncoder
  | .sendBattery => Stamps.sendBattery
  | .lowBattery => Stamps.lowBattery
  | .sysData => Stamps.sysData
  | .distControl => Stamps.distControl
  | .velControl => Stamps.velControl
  | .irProximity => Stamps.irProximity
  | .objAvoidance => Stamps.objAvoidance

def renew (time : Time) (stamps : Stamps) : PacedTask → Stamps
  | .batteryTask => { stamps with batteryTask := time }
  | .sendTime => { stamps with sendTime := time }
  | .timeFloatSend => { stamps with timeFloatSend := time }
  | .loopTimer => { stamps with loopTimer := time }
  | .sendEncoder => { stamps with sendEncoder := time }
  | .sendBattery => { stamps with sendBattery := time }
  | .lowBattery => { stamps with lowBattery := time }
  | .sysData => { stamps with sysData := time }
  | .distControl => { stamps with distControl := time }
  | .velControl => { stamps with velControl := time }
  | .irProximity => { stamps with irProximity := time }
  | .objAvoidance => { stamps with objAvoidance := time }

theorem stamp_renew_self (task : PacedTask) (time : Time) (stamps : Stamps) :
    task.stamp (task.renew time stamps) = time := by
  cases task <;> rfl

theorem stamp_renew_of_ne {task other : PacedTask} (differ : other ≠ task) (time : Time)
    (stamps : Stamps) : other.stamp (task.renew time stamps) = other.stamp stamps := by
  cases task <;> cases other <;> first | rfl | contradiction

end PacedTask

def State.stamps (s : State F) : Stamps where
  batteryTask := s.flags.mfBatteryTask.lastTriggerTime
  sendTime := s.flags.mfSendTime.lastTriggerTime
  timeFloatSend := s.flags.mfTimeFloatSend.lastTriggerTime
  loopTimer := s.flags.mfLoopTimer.lastTriggerTime
  sendEncoder := s.flags.mfSendEncoder.lastTriggerTime
  sendBattery := s.flags.mfSendBattery.lastTriggerTime
  lowBattery := s.flags.mfLowBattery.lastTriggerTime
  sysData := s.flags.mfSysData.lastTriggerTime
  distControl := s.flags.mfMotorDistControl.lastTriggerTime
  velControl := s.flags.mfMotorVelControl.lastTriggerTime
  irProximity := s.flags.mfIrProximity.lastTriggerTime
  objAvoidance := s.flags.mfObjAvoidance.lastTriggerTime

omit [FloatArith F] in
theorem stamp_stamps (task : PacedTask) (s : State F) :
    task.stamp s.stamps = (task.flag s.flags).lastTriggerTime := by
  cases task <;> rfl

def lastReading (env : Env) (after : State F) : Time :=
  timeOfCounts (UInt32.ofNat (env.millis (after.looks - 1))) (env.tcnt0 (after.looks - 1))

/-- The trigger times after an execution of a handler. -/
def renewed (env : Env) (task : PacedTask) (s after : State F) : Stamps :=
  if task.acts s after then task.renew (lastReading env after) s.stamps else s.stamps

theorem renewed_of_acts {env : Env} {task : PacedTask} {s after : State F}
    (acts : task.acts s after = true) :
    renewed env task s after = task.renew (lastReading env after) s.stamps :=
  if_pos acts

theorem renewed_of_idle {env : Env} {task : PacedTask} {s after : State F}
    (idle : task.acts s after = false) : renewed env task s after = s.stamps :=
  if_neg (Bool.eq_false_iff.mp idle)

theorem stamp_renewed_of_ne {env : Env} {task other : PacedTask} {s after : State F}
    (differ : other ≠ task) : other.stamp (renewed env task s after) = other.stamp s.stamps := by
  unfold renewed
  split
  · exact PacedTask.stamp_renew_of_ne differ _ _
  · rfl

theorem CaseStep.stamps {env : Env} {s after : State F} {message : Dispatch}
    (step : CaseStep env s message after) : after.stamps = s.stamps := by
  cases step with
  | asked request => cases request <;> rfl
  | _ => rfl

def Stage.task : Stage → Option PacedTask
  | .batteryTask => some .batteryTask
  | .sendTime => some .sendTime
  | .timeFloatSend => some .timeFloatSend
  | .loopTimer => some .loopTimer
  | .sendEncoder => some .sendEncoder
  | .sendBattery => some .sendBattery
  | .lowBattery => some .lowBattery
  | .sysData => some .sysData
  | .distControl => some .distControl
  | .velControl => some .velControl
  | .irProximity => some .irProximity
  | .objAvoidance => some .objAvoidance
  | _ => none

theorem task_eq_some_iff (stage : Stage) (task : PacedTask) :
    stage.task = some task ↔ stage = task.stage := by
  cases stage <;> cases task <;> decide

theorem stage_injective : Function.Injective PacedTask.stage := by
  intro task other same
  cases task <;> cases other <;> first | rfl | cases same

/-- A handler of the loop renews its own trigger time when it acts. -/
theorem Execution.stamps {env : Env} {s after : State F} {stage : Stage}
    (execution : Execution env s stage after) {task : PacedTask} (own : stage.task = some task) :
    after.stamps = renewed env task s after := by
  cases execution with
  | restart | timedPwm | motorStop => cases own
  | batteryLow | batteryFine | lowBattery =>
      cases own
      rfl
  | timeOnce idle | floatBegun idle | floatWaiting _ idle | floatOnce _ _ idle | loopBegun idle
  | loopOnce _ idle | encoderOnce idle | batteryOnce idle | systemOnce idle | distBaseline idle
  | velBaseline idle | irLeft idle | irOnce _ idle | oaLeft idle
  | oaRight idle =>
      cases own
      rw [renewed_of_idle (by simp [PacedTask.acts, idle])]
      rfl
  | timeAgain periodic | encoderAgain periodic | batteryAgain periodic | systemAgain periodic
  | velStep periodic =>
      cases own
      rw [renewed_of_acts (by simp [PacedTask.acts, periodic])]
      rfl
  | loopAgain ready periodic | irAgain ready periodic =>
      cases own
      rw [renewed_of_acts (by simp [PacedTask.acts, ready, periodic])]
      rfl
  | floatAgain busy sent periodic =>
      cases own
      rw [renewed_of_acts (by simp [PacedTask.acts, busy, sent, periodic])]
      rfl
  | distDone running arrived =>
      cases own
      have idle : PacedTask.distControl.acts s
          { s with encoders := countedAt env (s.looks + 1) s.encoders } = false := by
        simp [PacedTask.acts, arrived]
      rw [renewed_of_idle]
      · rfl
      · exact idle
  | distStep running encoders counted short =>
      cases own
      have acts : PacedTask.distControl.acts s { s with encoders } = true := by
        simp [PacedTask.acts, running, short]
      rw [renewed_of_acts]
      · rfl
      · exact acts
  | oaDecided phase _ _ decision =>
      cases own
      rw [renewed_of_acts (by simp [PacedTask.acts, phase])]
      cases decision <;> rfl

omit [FloatArith F] in
theorem task_stage (task : PacedTask) : task.stage.task = some task := by
  cases task <;> rfl

theorem due_stage (env : Env) (s : State F) (task : PacedTask) :
    task.stage.due env s = (task.flag s.flags).due env s := by
  cases task <;> rfl

theorem stamps_run_task (env : Env) (s : State F) (task : PacedTask) :
    (task.stage.run env s).stamps =
      if (task.flag s.flags).due env s then renewed env task s (task.stage.run env s)
      else s.stamps := by
  have own := task_stage task
  rw [← due_stage]
  generalize task.stage = stage at own ⊢
  have step := loopStep env stage s
  generalize stage.run env s = after at step ⊢
  cases step with
  | upkeep => cases own
  | task => cases own
  | waiting stage idle =>
      rw [idle, if_neg Bool.false_ne_true]
      rfl
  | executed stage due after execution =>
      rw [due, if_pos rfl]
      exact execution.stamps own

theorem stamps_restartHandler (env : Env) (s : State F) (task : PacedTask) :
    task.stamp (restartHandler env s).stamps =
      if s.flags.mfRestart.due env s && task.initialised then ⟨0, 0⟩ else task.stamp s.stamps := by
  have view : task.stamp (restartHandler env s).stamps = _ :=
    whenDue_view (fun s : State F => task.stamp s.stamps) s rfl
  rw [view]
  cases s.flags.mfRestart.due env s <;> cases task <;> rfl

theorem stamps_run_other (env : Env) (stage : Stage) (s : State F) (other : stage.task = none)
    (notRestart : stage ≠ .restart) : (stage.run env s).stamps = s.stamps := by
  by_cases task : stage = .messageHandling
  · subst task
    apply task_rule env s (fun t _ => t.stamps = s.stamps)
    · exact fun _ => rfl
    · exact fun _ _ => rfl
    · exact fun _ _ _ step => step.stamps
  apply run_rule env stage s (fun t => t.stamps = s.stamps) task
  · exact fun _ _ _ => rfl
  · intro after _ execution
    cases execution with
    | restart => contradiction
    | timedPwm | motorStop => rfl
    | _ => cases other

theorem looks_lt_of_due (env : Env) (s : State F) (task : PacedTask)
    (due : (task.flag s.flags).due env s = true) : s.looks < (task.stage.run env s).looks := by
  have own := task_stage task
  rw [← due_stage] at due
  generalize task.stage = stage at own due ⊢
  have step := loopStep env stage s
  generalize stage.run env s = after at step ⊢
  cases step with
  | upkeep => cases own
  | task => cases own
  | waiting stage idle => cases due.symm.trans idle
  | executed stage _ after execution => exact execution.looks

end ZumoDelivery
