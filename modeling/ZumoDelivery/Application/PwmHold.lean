import ZumoDelivery.Application.Outputs
import ZumoDelivery.Application.PwmCommand
import ZumoDelivery.Application.StopCommand
import ZumoDelivery.Application.TimedDrive

set_option autoImplicit false

namespace ZumoDelivery

open FloatArith

section quiet

variable {F : Type} [FloatArith F]

/-- The lights of the proximity sensor, at most, change the registers. -/
def SameOutputs (pwm after : MotorPwm) : Prop :=
  after = pwm ∨ after = { pwm with portB := pwm.portB &&& 0b01111111 }

/-- Only the drive handlers switch the motors, each when its flag is due. -/
theorem sameOutputs_run (env : Env) (stage : Stage) (s : State F)
    (notTask : stage ≠ .messageHandling) (dist : s.drive.dist.active = false)
    (vel : stage = .velControl → s.flags.mfMotorVelControl.due env s = true →
      s.locals.firstTime = true)
    (stop : stage = .motorStop → s.flags.mfMotorStop.due env s = false)
    (timed : s.flags.mfTimedPwm.due env s = false) :
    SameOutputs s.motors (stage.run env s).motors := by
  apply run_rule env stage s (fun t => SameOutputs s.motors t.motors) notTask
  · exact fun _ _ _ => Or.inl rfl
  · intro after due execution
    cases execution with
    | timedPwm => cases due.symm.trans timed
    | distBaseline | distDone | distStep =>
        cases due.symm.trans (MsgFlag.not_due_of_inactive env _ s dist)
    -- Past its baseline step the velocity handler drives the motors.
    | velStep running => cases running.symm.trans (vel rfl due)
    | motorStop => cases due.symm.trans (stop rfl)
    | irLeft | irOnce | irAgain | oaLeft | oaRight => exact Or.inr rfl
    | oaDecided _ _ _ decision => cases decision <;> exact Or.inl rfl
    | _ => exact Or.inl rfl

end quiet

/-- No drive mode is active but 'P', which waits for its deadline. -/
structure Drive.Waiting (start : UInt32) (duration : Option ℚ) (d : Drive ℚ) : Prop where
  avoid : d.avoid.active = false
  dist : d.dist.active = false
  vel : d.vel.active = false
  stop : d.stop.active = false
  timed : d.timed.active = true → ∃ seconds ∈ duration, d.timed.Armed start (seconds * 1000)

namespace Drive.Waiting

variable {start : UInt32} {duration : Option ℚ} {d after : Drive ℚ}

theorem move (waiting : d.Waiting start duration) (step : d.Move after) :
    after.Waiting start duration := by
  cases step with
  | idle => exact waiting
  | pwmExpired active =>
      exact ⟨waiting.avoid, waiting.dist, waiting.vel, waiting.stop, (nomatch ·)⟩
  | distanceStep active now => cases waiting.dist.symm.trans active
  | distanceDone active => cases waiting.dist.symm.trans active
  | velocityStep active now => cases waiting.vel.symm.trans active
  | stopExpired active => cases waiting.stop.symm.trans active
  | avoidanceStart active waits next chosen period now => cases waiting.avoid.symm.trans active
  | avoidanceStep active started next chosen now => cases waiting.avoid.symm.trans active

theorem restart (waiting : d.Waiting start duration) : d.restart.Waiting start duration :=
  ⟨waiting.avoid, rfl, waiting.vel, rfl, (nomatch ·)⟩

end Drive.Waiting

theorem waiting_accept (now : Time) (period : ℚ) (d : Drive ℚ) (command : DriveCommand ℚ)
    (pwm : command.isPwm = true) (settled : d.avoid.active = false) :
    (d.accept now period command).Waiting now.millisec command.duration := by
  cases command with
  | pwm => exact ⟨settled, rfl, rfl, rfl, (nomatch ·)⟩
  | pwmTimed duration => exact ⟨settled, rfl, rfl, rfl, fun _ => ⟨duration, rfl, rfl, rfl, rfl⟩⟩
  | _ => cases pwm

theorem not_due_of_armed (env : Env) (start : ℕ) (limit : ℚ) (flag : MsgFlag ℚ) (s : State ℚ)
    (armed : flag.Armed (UInt32.ofNat start) limit)
    (early : (env.millis s.looks : ℚ) < start + limit) (ordered : start ≤ env.millis s.looks) :
    flag.due env s = false := by
  rw [← Bool.not_eq_true]
  intro due
  have passed := ((flag.due_iff env s).mp due).2
  rw [armed.duration, armed.trigger, le_iff] at passed
  have elapsed : (UInt32.ofNat (env.millis s.looks) - UInt32.ofNat start).toNat ≤
      env.millis s.looks - start := by
    rw [UInt32.toNat_sub, UInt32.toNat_ofNat', UInt32.toNat_ofNat']
    omega
  have counted : ((UInt32.ofNat (env.millis s.looks) - UInt32.ofNat start).toNat : ℚ) ≤
      env.millis s.looks - start := by
    rw [← Nat.cast_sub ordered]
    exact_mod_cast elapsed
  change limit ≤ (((UInt32.ofNat (env.millis s.looks) - UInt32.ofNat start).toNat : ℤ) : ℚ)
    at passed
  rw [Int.cast_natCast] at passed
  linarith

structure MotorPwm.Runs (pwm : MotorPwm) (left right : Int16) : Prop where
  enabled : isMotorPwmEnabled pwm = true
  leftCompare : pwm.ocr1b = compareOf left
  rightCompare : pwm.ocr1a = compareOf right
  leftBackward : pwm.backwardLeft = decide (left < 0)
  rightBackward : pwm.backwardRight = decide (right < 0)

theorem runs_driveMotors (left right : Int16) {pwm : MotorPwm} (configured : pwm.Configured) :
    (driveMotors (F := ℚ) left right pwm).Runs left right where
  enabled := by
    have after := configured.step (.drive left right)
    rcases after.mode with mode | mode
    · have driven : (driveMotors (F := ℚ) left right pwm).tccr1a &&& 0b11110000 ≠ 0 :=
        not_disabled_motorPwmEnable_true _
      rw [mode] at driven
      exact absurd rfl driven
    · rw [isMotorPwmEnabled, mode]
      decide
  leftCompare := by
    rw [ocr1b_driveMotors, configured.top]
    rfl
  rightCompare := by
    rw [ocr1a_driveMotors, configured.top]
    rfl
  leftBackward := backwardLeft_driveMotors left right pwm
  rightBackward := backwardRight_driveMotors left right pwm

theorem MotorPwm.Runs.same {pwm after : MotorPwm} {left right : Int16} (runs : pwm.Runs left right)
    (same : SameOutputs pwm after) : after.Runs left right := by
  rcases same with rfl | rfl
  · exact runs
  · have leftPin : ∀ port : BitVec 8,
        (port &&& 0b01111111) &&& 0b00000100 = port &&& 0b00000100 := by decide
    have rightPin : ∀ port : BitVec 8,
        (port &&& 0b01111111) &&& 0b00000010 = port &&& 0b00000010 := by decide
    have leftSame : (pwm.portB &&& 0b01111111) &&& 0b00000100 = pwm.portB &&& 0b00000100 :=
      UInt8.toBitVec_inj.mp (leftPin pwm.portB.toBitVec)
    have rightSame : (pwm.portB &&& 0b01111111) &&& 0b00000010 = pwm.portB &&& 0b00000010 :=
      UInt8.toBitVec_inj.mp (rightPin pwm.portB.toBitVec)
    refine ⟨runs.enabled, runs.leftCompare, runs.rightCompare, ?_, ?_⟩
    · rw [← runs.leftBackward, MotorPwm.backwardLeft, leftSame]
      rfl
    · rw [← runs.rightBackward, MotorPwm.backwardRight, rightSame]
      rfl

/-- From a 'p' or 'P' on, nothing else is active before the next motor command. -/
theorem waiting_since (env : Env) (start last : ℕ) (command : DriveCommand ℚ)
    (accepts : acceptedAt ℚ env start = some command) (pwm : command.isPwm = true)
    (settled : (deviceTrace (F := ℚ) env start).flags.mfObjAvoidance.active = false)
    (later : start < last)
    (undisturbed : ∀ time, start < time → time < last → acceptedAt ℚ env time = none) :
    (deviceTrace (F := ℚ) env last).drive.Waiting (UInt32.ofNat (millisAt env start))
      command.duration := by
  apply drive_since env _ (start + 1) last later
  · cases driveStep (F := ℚ) env start with
    | move quiet step => cases accepts.symm.trans quiet
    | restart quiet restarts same => cases accepts.symm.trans quiet
    | command other accepted same =>
        cases accepts.symm.trans accepted
        rw [same]
        have now : (getTime env (deviceTrace (F := ℚ) env start)).1.millisec =
          UInt32.ofNat (millisAt env start) := rfl
        rw [← now]
        exact waiting_accept _ _ _ command pwm settled
  · intro d after waiting step
    exact waiting.move step
  · intro time lower upper restartsAt waiting
    exact waiting.restart
  · intro time lower upper other now period accepted waiting
    cases (undisturbed time lower upper).symm.trans accepted

/-- An accepted 'p' or 'P' that does not find obstacle avoidance active drives both wheels
with its duties until the next motor command or, for 'P', its deadline, whatever else is
received, restarts included. -/
theorem pwm_holds (env : Env) (clock : Monotone env.millis) (start last : ℕ) (message : Dispatch)
    (command : DriveCommand ℚ)
    (ran : (messageHandlingTask env (deviceTrace (F := ℚ) env start)).2 = some message)
    (accepts : acceptedAt ℚ env start = some command) (pwm : command.isPwm = true)
    (settled : (deviceTrace (F := ℚ) env start).flags.mfObjAvoidance.active = false)
    (later : start < last)
    (undisturbed : ∀ time, start < time → time < last → acceptedAt ℚ env time = none)
    (early : ∀ duration ∈ command.duration,
      (millisAt env last : ℚ) < millisAt env start + 1000 * duration) :
    (deviceTrace (F := ℚ) env last).motors.Runs (intAt message.payload 0)
      (intAt message.payload 2) := by
  have task := stage_of_acceptedAt accepts
  induction last, later using Nat.le_induction with
  | base =>
      have accepted := accepts
      rw [acceptedAt_of_stage task, ZumoDelivery.accepted, ran, Option.bind_some] at accepted
      have driven := motors_of_pwm env _ ran accepted pwm
      rw [deviceTrace_succ task]
      change (messageHandlingTask env _).1.motors.Runs _ _
      rw [driven]
      exact runs_driveMotors _ _ (configured_deviceTrace env start)
  | succ last later ih =>
      have within : start < last := later
      have sooner : (millisAt env last : ℚ) ≤ millisAt env (last + 1) := by
        exact_mod_cast millisAt_mono clock (Nat.le_succ last)
      have runs := ih (fun time lower upper => undisturbed time lower (Nat.lt_succ_of_lt upper))
        fun duration member => sooner.trans_lt (early duration member)
      obtain ⟨stage, here⟩ := stageAt_isSome last
      have quiet := undisturbed last within (Nat.lt_succ_self last)
      have waiting := waiting_since env start last command accepts pwm settled within
        fun time lower upper => undisturbed time lower (Nat.lt_succ_of_lt upper)
      rw [deviceTrace_succ here]
      by_cases stageTask : stage = .messageHandling
      · subst stageTask
        rw [acceptedAt_of_stage here] at quiet
        change (messageHandlingTask env _).1.motors.Runs _ _
        rw [motors_of_quiet quiet]
        exact runs
      · refine runs.same (sameOutputs_run env stage _ stageTask waiting.dist
          (fun _ due => ?_) (fun _ => MsgFlag.not_due_of_inactive env _ _ waiting.stop) ?_)
        · cases (MsgFlag.not_due_of_inactive env _ _ waiting.vel).symm.trans due
        cases active : (deviceTrace (F := ℚ) env last).drive.timed.active with
        | false => exact MsgFlag.not_due_of_inactive env _ _ active
        | true =>
            obtain ⟨seconds, member, armed⟩ := waiting.timed active
            have before := early seconds member
            refine not_due_of_armed env (millisAt env start) _ _ _ armed ?_
              (millisAt_mono clock (Nat.le_of_lt within))
            change (millisAt env last : ℚ) < _
            linarith

set_option maxRecDepth 20000 in
/-- Half duty is held in the iteration that accepts it. -/
theorem pwm_holds_bench :
    (deviceTrace (F := ℚ) (Env.bench halfSpeedOneSecond jumpingClock) 152).motors.Runs 50 50 := by
  have undisturbed : ∀ time < 152, 137 < time →
      acceptedAt ℚ (Env.bench halfSpeedOneSecond jumpingClock) time = none := by
    decide +kernel
  refine pwm_holds (Env.bench halfSpeedOneSecond jumpingClock) jumpingClock_mono 137 152
    ⟨80, [50, 0, 50, 0, 0, 0, 0x80, 0x3F]⟩ (.pwmTimed 1) (by decide +kernel) (by decide +kernel)
    rfl (by decide +kernel) (by decide) ?_ ?_
  · intro time lower upper
    exact undisturbed time upper lower
  · intro duration member
    cases member
    decide +kernel

end ZumoDelivery
