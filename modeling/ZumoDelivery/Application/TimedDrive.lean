import ZumoDelivery.Driver.Timing
import ZumoDelivery.Application.Intake
import ZumoDelivery.Application.DriveModes

set_option autoImplicit false

namespace ZumoDelivery

section Phases

variable {F : Type} [FloatArith F]

open FloatArith

def DriveCommand.duration : DriveCommand F → Option F
  | .pwmTimed duration => some duration
  | .distanceTimed duration => some duration
  | .velocityTimed duration => some duration
  | _ => none

/-- The flag waits for `limit` milliseconds to pass since `start`. -/
structure MsgFlag.Armed (flag : MsgFlag F) (start : UInt32) (limit : F) : Prop where
  active : flag.active = true
  duration : flag.duration = limit
  trigger : flag.lastTriggerTime.millisec = start

/-- Obstacle avoidance, if active, has made its first decision. -/
def Drive.AvoidanceSettled (d : Drive F) : Prop :=
  d.avoid.active = true → d.oaState ≠ .init

/-- 'P' is running: `mf_timed_pwm` alone can end it. -/
structure Drive.PwmRunning (start : UInt32) (limit : F) (d : Drive F) : Prop where
  armed : d.timed.Armed start limit
  dist : d.dist.active = false
  vel : d.vel.active = false
  stop : d.stop.active = false
  settled : d.AvoidanceSettled

/-- 'D' or 'V' is running: `mf_motor_stop` ends it. -/
structure Drive.MotionRunning (start : UInt32) (limit : F) (d : Drive F) : Prop where
  armed : d.stop.Armed start limit
  avoid : d.avoid.active = false
  timed : d.timed.active = false

structure Drive.Ended (d : Drive F) : Prop where
  dist : d.dist.active = false
  vel : d.vel.active = false
  stop : d.stop.active = false
  timed : d.timed.active = false
  settled : d.AvoidanceSettled
  disabled : d.enabled = false

namespace Drive

omit [FloatArith F] in
theorem Ended.move {d after : Drive F} (ended : d.Ended) (step : d.Move after) :
    after.Ended := by
  cases step with
  | idle => exact ended
  | pwmExpired active => cases ended.timed.symm.trans active
  | distanceStep active now => cases ended.dist.symm.trans active
  | distanceDone active => cases ended.dist.symm.trans active
  | velocityStep active now => cases ended.vel.symm.trans active
  | stopExpired active => cases ended.stop.symm.trans active
  | avoidanceStart active waiting next chosen period now =>
      exact absurd waiting (ended.settled active)
  | avoidanceStep active started next chosen now =>
      exact ⟨ended.dist, ended.vel, ended.stop, ended.timed, fun _ => chosen, ended.disabled⟩

omit [FloatArith F] in
theorem PwmRunning.move {start : UInt32} {limit : F} {d after : Drive F}
    (running : d.PwmRunning start limit) (step : d.Move after) :
    after.PwmRunning start limit ∨ after.Ended := by
  cases step with
  | idle => exact Or.inl running
  | pwmExpired active =>
      exact Or.inr ⟨running.dist, running.vel, running.stop, rfl, running.settled, rfl⟩
  | distanceStep active now => cases running.dist.symm.trans active
  | distanceDone active => cases running.dist.symm.trans active
  | velocityStep active now => cases running.vel.symm.trans active
  | stopExpired active => cases running.stop.symm.trans active
  | avoidanceStart active waiting next chosen period now =>
      exact absurd waiting (running.settled active)
  | avoidanceStep active started next chosen now =>
      exact Or.inl ⟨running.armed, running.dist, running.vel, running.stop, fun _ => chosen⟩

omit [FloatArith F] in
theorem MotionRunning.move {start : UInt32} {limit : F} {d after : Drive F}
    (running : d.MotionRunning start limit) (step : d.Move after) :
    after.MotionRunning start limit ∨ after.Ended := by
  have unavoided : d.AvoidanceSettled := by
    intro active
    cases running.avoid.symm.trans active
  cases step with
  | idle => exact Or.inl running
  | pwmExpired active => cases running.timed.symm.trans active
  | distanceStep active now => exact Or.inl ⟨running.armed, running.avoid, running.timed⟩
  | distanceDone active => exact Or.inl ⟨running.armed, running.avoid, running.timed⟩
  | velocityStep active now => exact Or.inl ⟨running.armed, running.avoid, running.timed⟩
  | stopExpired active => exact Or.inr ⟨rfl, rfl, rfl, rfl, unavoided, rfl⟩
  | avoidanceStart active waiting next chosen period now =>
      cases running.avoid.symm.trans active
  | avoidanceStep active started next chosen now => cases running.avoid.symm.trans active

/-- The phases of a timed drive: running under one of its two flags, or over. -/
def Timed (start : UInt32) (limit : F) (d : Drive F) : Prop :=
  d.PwmRunning start limit ∨ d.MotionRunning start limit ∨ d.Ended

omit [FloatArith F] in
theorem Timed.move {start : UInt32} {limit : F} {d after : Drive F}
    (timed : d.Timed start limit) (step : d.Move after) : after.Timed start limit := by
  rcases timed with pwm | motion | ended
  · rcases pwm.move step with pwm | ended
    · exact Or.inl pwm
    · exact Or.inr (Or.inr ended)
  · exact Or.inr (motion.move step)
  · exact Or.inr (Or.inr (ended.move step))

/-- A restart that finds the outputs off and velocity control inactive ends the drive. -/
theorem Timed.restart {start : UInt32} {limit : F} {d : Drive F} (timed : d.Timed start limit)
    (disabled : d.enabled = false) (vel : d.vel.active = false) :
    d.restart.Timed start limit := by
  have settled : d.AvoidanceSettled := by
    rcases timed with pwm | motion | ended
    · exact pwm.settled
    · intro active
      cases motion.avoid.symm.trans active
    · exact ended.settled
  exact Or.inr (Or.inr ⟨rfl, vel, rfl, rfl, settled, disabled⟩)

theorem ended_accept_stop (now : Time) (period : F) (d : Drive F) :
    (d.accept now period .stop).Ended :=
  ⟨rfl, rfl, rfl, rfl, (nomatch ·), rfl⟩

/-- A timed motor command starts its drive, if 'P' finds obstacle avoidance settled. -/
theorem timed_accept (now : Time) (period duration : F) (d : Drive F)
    (command : DriveCommand F) (timed : command.duration = some duration)
    (settled : command.keepsAvoidance = true → d.AvoidanceSettled) :
    (d.accept now period command).Timed now.millisec (duration * lit 1000) := by
  cases command with
  | pwmTimed length =>
      cases timed
      exact Or.inl ⟨⟨rfl, rfl, rfl⟩, rfl, rfl, rfl, settled rfl⟩
  | distanceTimed length =>
      cases timed
      exact Or.inr (Or.inl ⟨⟨rfl, rfl, rfl⟩, rfl, rfl⟩)
  | velocityTimed length =>
      cases timed
      exact Or.inr (Or.inl ⟨⟨rfl, rfl, rfl⟩, rfl, rfl⟩)
  | _ => cases timed

end Drive

end Phases

open FloatArith

def millisAt (env : Env) (time : ℕ) : ℕ := env.millis (deviceTrace (F := ℚ) env time).looks

theorem millisAt_mono {env : Env} (clock : Monotone env.millis) {first last : ℕ}
    (ordered : first ≤ last) : millisAt env first ≤ millisAt env last :=
  clock (looks_deviceTrace_mono env ordered)

theorem due_of_armed (env : Env) (start : ℕ) (limit : ℚ) (flag : MsgFlag ℚ) (s : State ℚ)
    (armed : flag.Armed (UInt32.ofNat start) limit)
    (passed : start + limit ≤ env.millis s.looks) (ordered : start ≤ env.millis s.looks)
    (range : env.millis s.looks < start + 2 ^ 32) : flag.due env s = true := by
  rw [MsgFlag.due_iff]
  refine ⟨armed.active, ?_⟩
  rw [armed.duration, armed.trigger, toNat_ofNat_sub start _ ordered range, le_iff]
  change limit ≤ (((env.millis s.looks - start : ℕ) : ℤ) : ℚ)
  push_cast [Nat.cast_sub ordered]
  linarith

/-- The phases hold from the acceptance of a timed command on. -/
theorem timed_since (env : Env) (start last : ℕ) (command : DriveCommand ℚ) (duration : ℚ)
    (accepts : acceptedAt ℚ env start = some command)
    (timed : command.duration = some duration) (later : start < last)
    (undriven : ∀ time, start < time → time < last →
      ∀ command ∈ acceptedAt ℚ env time, command.drives = false)
    (settled : command.keepsAvoidance = true →
      (deviceTrace (F := ℚ) env start).drive.AvoidanceSettled)
    (restarts : ∀ time, start < time → time < last → RestartsAt ℚ env time →
      (deviceTrace (F := ℚ) env time).motors.Disabled ∧
        (deviceTrace (F := ℚ) env time).flags.mfMotorVelControl.active = false) :
    (deviceTrace (F := ℚ) env last).drive.Timed (UInt32.ofNat (millisAt env start))
      (duration * 1000) := by
  apply drive_since env _ (start + 1) last later
  · cases driveStep (F := ℚ) env start with
    | move quiet step => cases accepts.symm.trans quiet
    | restart quiet restarts same => cases accepts.symm.trans quiet
    | command other accepted same =>
        cases accepts.symm.trans accepted
        rw [same]
        have now : (getTime env (deviceTrace (F := ℚ) env start)).1.millisec =
          UInt32.ofNat (millisAt env start) := rfl
        rw [← now]
        exact Drive.timed_accept _ _ duration _ command timed settled
  · intro d after running step
    exact running.move step
  · intro time lower upper restartsAt running
    obtain ⟨disabled, vel⟩ := restarts time lower upper restartsAt
    exact running.restart ((State.enabled_eq_false_iff _).mpr disabled) vel
  · intro time lower upper command now period accepted running
    have kind := undriven time lower upper command accepted
    cases command with
    | stop => exact Or.inr (Or.inr (Drive.ended_accept_stop now period _))
    | _ => cases kind

theorem moves_of_offset (env : Env) (n offset : ℕ) (inside : offset < 17)
    (beyond : 2 < offset) :
    (deviceTrace (F := ℚ) env (17 * n + offset)).drive.Move
      (deviceTrace (F := ℚ) env (17 * n + offset + 1)).drive := by
  have here : stageAt (17 * n + offset) = some loopBody[offset] :=
    stageAt_iteration n offset inside
  have after : ∀ offset, (inside : offset < loopBody.length) → 2 < offset →
      loopBody[offset] ≠ .messageHandling ∧ loopBody[offset] ≠ .restart := by
    decide
  obtain ⟨notTask, notRestart⟩ := after offset inside beyond
  rw [deviceTrace_succ here]
  exact move_run env _ _ notTask notRestart

theorem rest_of_moves (env : Env) (invariant : Drive ℚ → Prop) (n first last : ℕ)
    (moved : ∀ d after : Drive ℚ, invariant d → d.Move after → invariant after)
    (beyond : 2 < first) (ordered : first ≤ last) (upper : last ≤ 17)
    (initial : invariant (deviceTrace env (17 * n + first)).drive) :
    invariant (deviceTrace env (17 * n + last)).drive := by
  induction ordered with
  | refl => exact initial
  | @step last ordered ih =>
      have above : first ≤ last := ordered
      exact moved _ _ (ih (by omega)) (moves_of_offset env n last (by omega) (by omega))

theorem due_of_passed (env : Env) (clock : Monotone env.millis) (start n : ℕ) (limit : ℚ)
    (ordered : start ≤ millisAt env (17 * n))
    (passed : start + limit ≤ millisAt env (17 * n))
    (range : millisAt env (17 * (n + 1)) < start + 2 ^ 32) (offset : ℕ) (inside : offset ≤ 17)
    (flag : MsgFlag ℚ) (armed : flag.Armed (UInt32.ofNat start) limit) :
    flag.due env (deviceTrace (F := ℚ) env (17 * n + offset)) = true := by
  have first : millisAt env (17 * n) ≤ millisAt env (17 * n + offset) :=
    millisAt_mono clock (Nat.le_add_right _ _)
  have last : millisAt env (17 * n + offset) ≤ millisAt env (17 * (n + 1)) :=
    millisAt_mono clock (by omega)
  have cast : (millisAt env (17 * n) : ℚ) ≤ millisAt env (17 * n + offset) := by
    exact_mod_cast first
  exact due_of_armed env start limit flag _ armed (passed.trans cast) (ordered.trans first)
    (last.trans_lt range)

theorem ended_of_passed (env : Env) (clock : Monotone env.millis) (start n : ℕ) (limit : ℚ)
    (ordered : start ≤ millisAt env (17 * n))
    (passed : start + limit ≤ millisAt env (17 * n))
    (range : millisAt env (17 * (n + 1)) < start + 2 ^ 32)
    (running : (deviceTrace (F := ℚ) env (17 * n + 3)).drive.Timed (UInt32.ofNat start) limit) :
    (deviceTrace (F := ℚ) env (17 * (n + 1))).drive.Ended := by
  have due := due_of_passed env clock start n limit ordered passed range
  have before := rest_of_moves env (Drive.Timed (UInt32.ofNat start) limit) n 3 10
    (fun _ _ timed => timed.move) (by decide) (by decide) (by decide) running
  -- `mf_timed_pwm` is handled first.
  have pwmOver : (deviceTrace (F := ℚ) env (17 * n + 11)).drive.MotionRunning
      (UInt32.ofNat start) limit ∨ (deviceTrace (F := ℚ) env (17 * n + 11)).drive.Ended := by
    have step := moves_of_offset env n 10 (by decide) (by decide)
    rcases before with pwm | motion | ended
    · right
      have here : stageAt (17 * n + 10) = some .timedPwm := stageAt_iteration n 10 (by decide)
      have same : (deviceTrace (F := ℚ) env (17 * n + 11)).drive = _ :=
        (congrArg State.drive (deviceTrace_succ here)).trans (drive_timedPwmHandler env _)
      have expires : (deviceTrace (F := ℚ) env (17 * n + 10)).flags.mfTimedPwm.due env _ = true :=
        due 10 (by decide) _ pwm.armed
      rw [same, if_pos expires]
      exact ⟨pwm.dist, pwm.vel, pwm.stop, rfl, pwm.settled, rfl⟩
    · exact motion.move step
    · exact Or.inr (ended.move step)
  have between := rest_of_moves env
    (fun d => d.MotionRunning (UInt32.ofNat start) limit ∨ d.Ended) n 11 14
    (fun _ _ phase step => phase.elim (fun motion => motion.move step)
      fun ended => Or.inr (ended.move step))
    (by decide) (by decide) (by decide) pwmOver
  have finished : (deviceTrace (F := ℚ) env (17 * n + 15)).drive.Ended := by
    rcases between with motion | ended
    · have here : stageAt (17 * n + 14) = some .motorStop := stageAt_iteration n 14 (by decide)
      have same : (deviceTrace (F := ℚ) env (17 * n + 15)).drive = _ :=
        (congrArg State.drive (deviceTrace_succ here)).trans (drive_motorStopHandler env _)
      have expires : (deviceTrace (F := ℚ) env (17 * n + 14)).flags.mfMotorStop.due env _ = true :=
        due 14 (by decide) _ motion.armed
      rw [same, if_pos expires]
      refine ⟨rfl, rfl, rfl, rfl, ?_, rfl⟩
      intro active
      cases motion.avoid.symm.trans active
    · exact ended.move (moves_of_offset env n 14 (by decide) (by decide))
  exact rest_of_moves env Drive.Ended n 15 17 (fun _ _ ended => ended.move) (by decide)
    (by decide) (by decide) finished

/-- A timed drive has ended at the end of every iteration that starts after its
deadline, unless 'P' found obstacle avoidance before its first decision, or a restart
found the outputs enabled or velocity control active. -/
theorem disabled_after_deadline (env : Env) (clock : Monotone env.millis) (start n : ℕ)
    (command : DriveCommand ℚ) (duration : ℚ)
    (accepts : acceptedAt ℚ env start = some command)
    (timed : command.duration = some duration) (positive : 0 < duration)
    (deadline : millisAt env start + 1000 * duration ≤ millisAt env (17 * n))
    (range : millisAt env (17 * (n + 1)) < millisAt env start + 2 ^ 32)
    (undriven : ∀ time, start < time → time < 17 * (n + 1) →
      ∀ command ∈ acceptedAt ℚ env time, command.drives = false)
    (settled : command.keepsAvoidance = true →
      (deviceTrace (F := ℚ) env start).flags.mfObjAvoidance.active = true →
      (deviceTrace (F := ℚ) env start).avoidance.oaState ≠ .init)
    (restarts : ∀ time, start < time → time < 17 * (n + 1) → RestartsAt ℚ env time →
      (deviceTrace (F := ℚ) env time).motors.Disabled ∧
        (deviceTrace (F := ℚ) env time).flags.mfMotorVelControl.active = false) :
    (deviceTrace (F := ℚ) env (17 * (n + 1))).motors.Disabled := by
  have elapsed : millisAt env start < millisAt env (17 * n) := by
    have cast : (millisAt env start : ℚ) < millisAt env (17 * n) := by linarith
    exact_mod_cast cast
  have later : start < 17 * n := by
    by_contra early
    have backwards := millisAt_mono clock (Nat.le_of_not_lt early)
    omega
  have running := timed_since env start (17 * n + 3) command duration accepts timed (by omega)
    (fun time lower upper => undriven time lower (by omega)) settled
    (fun time lower upper => restarts time lower (by omega))
  rw [← State.enabled_eq_false_iff]
  refine (ended_of_passed env clock (millisAt env start) n (duration * 1000) (by omega) ?_ range
    running).disabled
  rw [mul_comm]
  exact deadline

/-- The clock of a bench test that jumps two seconds ahead. -/
def jumpingClock (looks : ℕ) : ℕ := if looks < 24 then 0 else 2000

theorem jumpingClock_mono : Monotone jumpingClock := by
  intro first last ordered
  unfold jumpingClock
  split <;> split <;> omega

/-- 'P' for one second at half duty. -/
def halfSpeedOneSecond : List UInt8 := [80, 50, 0, 50, 0, 0, 0, 0x80, 0x3F]

set_option maxRecDepth 20000 in
theorem disabled_after_deadline_bench :
    (deviceTrace (F := ℚ) (Env.bench halfSpeedOneSecond jumpingClock)
      (17 * 11)).motors.Disabled := by
  have undriven : ∀ time < 187, 137 < time →
      ∀ command ∈ acceptedAt ℚ (Env.bench halfSpeedOneSecond jumpingClock) time,
        command.drives = false := by
    decide +kernel
  have unrestarted : ∀ time < 187,
      ¬ RestartsAt ℚ (Env.bench halfSpeedOneSecond jumpingClock) time := by
    decide +kernel
  refine disabled_after_deadline _ jumpingClock_mono 137 10 (.pwmTimed 1) 1 (by decide +kernel)
    rfl (by norm_num) (by decide +kernel) (by decide +kernel) ?_ ?_ ?_
  · intro time lower upper
    exact undriven time upper lower
  · intro keeps
    decide +kernel
  · intro time lower upper restarts
    exact absurd restarts (unrestarted time upper)

set_option maxRecDepth 20000 in
/-- A restart during 'P' clears the flag that would have ended it. -/
theorem not_disabled_after_deadline :
    ¬ ∀ (env : Env) (start n : ℕ) (command : DriveCommand ℚ) (duration : ℚ),
      Monotone env.millis → acceptedAt ℚ env start = some command →
      command.duration = some duration → 0 < duration →
      millisAt env start + 1000 * duration ≤ millisAt env (17 * n) →
      millisAt env (17 * (n + 1)) < millisAt env start + 2 ^ 32 →
      (∀ time, start < time → time < 17 * (n + 1) →
        ∀ command ∈ acceptedAt ℚ env time, command.drives = false) →
      (deviceTrace (F := ℚ) env (17 * (n + 1))).motors.Disabled := by
  intro ends
  have undriven : ∀ time < 187, 137 < time →
      ∀ command ∈ acceptedAt ℚ (Env.bench (halfSpeedOneSecond ++ [126]) jumpingClock) time,
        command.drives = false := by
    decide +kernel
  have disabled := ends (Env.bench (halfSpeedOneSecond ++ [126]) jumpingClock) 137 10
    (.pwmTimed 1) 1 jumpingClock_mono (by decide +kernel) rfl (by norm_num)
    (by decide +kernel) (by decide +kernel) fun time lower upper => undriven time upper lower
  exact absurd disabled (by decide +kernel)

end ZumoDelivery
