import ZumoDelivery.Application.AvoidanceDrive
import ZumoDelivery.Application.DistanceRun
import ZumoDelivery.Application.VelocityRun

set_option autoImplicit false

namespace ZumoDelivery

open DifferentialDrive (Wheels)

section mode

variable {F : Type} [FloatArith F]

/-- Velocity control drives the motors, or `mf_motor_stop` has switched them off. -/
structure Drive.Cruising (d : Drive F) : Prop where
  steady : d.Steady
  timed : d.timed.active = false
  ended : d.vel.active = false → d.stop.active = false ∧ d.enabled = false

omit [FloatArith F] in
theorem Drive.Cruising.move {d after : Drive F} (cruising : d.Cruising) (step : d.Move after) :
    after.Cruising := by
  refine ⟨cruising.steady.move step, ?_, ?_⟩
  · cases step with
    | pwmExpired active => rfl
    | stopExpired active => rfl
    | _ => exact cruising.timed
  · intro inactive
    cases step with
    | idle => exact cruising.ended inactive
    | pwmExpired active => cases cruising.timed.symm.trans active
    | distanceStep active now => cases cruising.steady.dist.symm.trans active
    | distanceDone active => cases cruising.steady.dist.symm.trans active
    | velocityStep active now => cases inactive.symm.trans active
    | stopExpired active => exact ⟨rfl, rfl⟩
    | avoidanceStart active waits next chosen period now =>
        cases cruising.steady.avoid.symm.trans active
    | avoidanceStep active started next chosen now =>
        cases cruising.steady.avoid.symm.trans active

theorem Drive.Cruising.restart {d : Drive F} (cruising : d.Cruising) : d.restart.Cruising :=
  ⟨⟨rfl, cruising.steady.avoid⟩, rfl, fun inactive => ⟨rfl, (cruising.ended inactive).2⟩⟩

theorem cruising_accept (now : Time) (period : F) (d : Drive F) (command : DriveCommand F)
    (velocity : command.isVelocity = true) : (d.accept now period command).Cruising := by
  cases command with
  | velocity => exact ⟨⟨rfl, rfl⟩, rfl, fun inactive => Bool.noConfusion inactive⟩
  | velocityTimed duration => exact ⟨⟨rfl, rfl⟩, rfl, fun inactive => Bool.noConfusion inactive⟩
  | _ => cases velocity

/-- An accepted 'v' or 'V' leaves the motors to its handler. -/
theorem motors_of_velocity {env : Env} {s : State F} {command : DriveCommand F}
    (accepts : accepted env s = some command) (velocity : command.isVelocity = true) :
    (messageHandlingTask env s).1.motors = s.motors := by
  obtain ⟨message, -, same⟩ := motors_of_accepted accepts
  rw [same]
  cases command with
  | velocity => rfl
  | velocityTimed => rfl
  | _ => cases velocity

theorem vel_active_run (env : Env) (stage : Stage) (s : State F)
    (notTask : stage ≠ .messageHandling) (notStop : stage ≠ .motorStop)
    (avoid : s.drive.avoid.active = false) :
    (stage.run env s).drive.vel.active = s.drive.vel.active := by
  apply run_rule env stage s (fun t => t.drive.vel.active = s.drive.vel.active) notTask
  · exact fun _ _ _ => rfl
  · intro after due execution
    cases execution with
    | motorStop => exact absurd rfl notStop
    | oaLeft | oaRight | oaDecided =>
        cases due.symm.trans (MsgFlag.not_due_of_inactive env _ s avoid)
    | _ => rfl

end mode

section run

variable {env : Env}

/-- A velocity command leaves the mode, its targets and the motors as they were. -/
structure CruisesAt (env : Env) (targets : Wheels ℚ) (time : ℕ) : Prop where
  cruising : (deviceTrace (F := ℚ) env time).drive.Cruising
  held : SteadyAt env targets time

theorem cruisesAt_of_accepts {start : ℕ} {velocity angular : ℚ}
    (task : stageAt start = some .messageHandling)
    (asked : Accepts ['v', 'V'] (deviceTrace env start) velocity angular) :
    CruisesAt env (velocityTargets velocity angular).speeds (start + 1) := by
  obtain ⟨-, command, accepts, velocities⟩ := velocity_of_accepts env _ velocity angular asked
  refine ⟨?_, steadyAt_of_accepts task asked⟩
  have driven := drive_messageHandlingTask env (deviceTrace (F := ℚ) env start)
  rw [accepts] at driven
  rw [deviceTrace_succ task]
  change (messageHandlingTask env _).1.drive.Cruising
  rw [driven]
  exact cruising_accept _ _ _ command velocities

theorem cruisesAt_since {targets : Wheels ℚ} {start last : ℕ} (ordered : start ≤ last)
    (initial : CruisesAt env targets start)
    (quiet : ∀ time, start ≤ time → time < last → acceptedAt ℚ env time = none) :
    CruisesAt env targets last := by
  refine ⟨?_, steadyAt_since ordered initial.held quiet⟩
  apply drive_since env _ start last ordered initial.cruising
  · intro d after cruising step
    exact cruising.move step
  · intro time lower upper restartsAt cruising
    exact cruising.restart
  · intro time lower upper other now period accepted cruising
    cases (quiet time lower upper).symm.trans accepted

/-- While velocity control stays active only its expiry ends it. -/
theorem vel_active_succ_iff {targets : Wheels ℚ} {time : ℕ} (cruises : CruisesAt env targets time)
    (quiet : acceptedAt ℚ env time = none) :
    (deviceTrace (F := ℚ) env (time + 1)).drive.vel.active = true ↔
      (deviceTrace (F := ℚ) env time).drive.vel.active = true ∧ ¬ StopExpiresAt ℚ env time := by
  obtain ⟨stage, here⟩ := stageAt_isSome time
  by_cases stopping : stage = .motorStop
  · subst stopping
    have driven := drive_motorStopHandler env (deviceTrace (F := ℚ) env time)
    change (Stage.motorStop.run env _).drive = _ at driven
    rw [deviceTrace_succ here, driven]
    by_cases due : (deviceTrace (F := ℚ) env time).flags.mfMotorStop.due env
        (deviceTrace env time) = true
    · rw [if_pos due]
      exact iff_of_false Bool.false_ne_true fun both => both.2 ⟨here, due⟩
    · rw [if_neg due]
      exact (and_iff_left fun expires : StopExpiresAt ℚ env time => due expires.2).symm
  · have running : ¬ StopExpiresAt ℚ env time := fun expires =>
      stopping (Option.some.inj (here.symm.trans expires.1))
    rw [and_iff_left running]
    by_cases task : stage = .messageHandling
    · subst task
      have driven := drive_messageHandlingTask env (deviceTrace (F := ℚ) env time)
      rw [acceptedAt_of_stage here] at quiet
      rw [quiet] at driven
      rw [deviceTrace_succ here]
      change (messageHandlingTask env _).1.drive.vel.active = true ↔ _
      rw [driven]
      exact Iff.rfl
    · rw [deviceTrace_succ here,
        vel_active_run env stage _ task stopping cruises.cruising.steady.avoid]

theorem sameOutputs_of_cruises {targets : Wheels ℚ} {time : ℕ}
    (cruises : CruisesAt env targets time) (quiet : acceptedAt ℚ env time = none)
    (running : ¬ StopExpiresAt ℚ env time) (idle : ¬ VelDrivesAt env time) :
    SameOutputs (deviceTrace (F := ℚ) env time).motors
      (deviceTrace (F := ℚ) env (time + 1)).motors := by
  obtain ⟨stage, here⟩ := stageAt_isSome time
  rw [deviceTrace_succ here]
  by_cases task : stage = .messageHandling
  · subst task
    rw [acceptedAt_of_stage here] at quiet
    exact Or.inl (motors_of_quiet quiet)
  · apply sameOutputs_run env stage _ task cruises.cruising.steady.dist
    · rintro rfl due
      by_contra past
      exact idle ⟨⟨here, due⟩, Bool.eq_false_of_not_eq_true past⟩
    · rintro rfl
      exact Bool.eq_false_of_not_eq_true fun due => running ⟨here, due⟩
    · exact MsgFlag.not_due_of_inactive env _ _ cruises.cruising.timed

/-- What a velocity command with these targets makes the device do up to a later time. -/
structure VelocityDrives (env : Env) (targets : Wheels ℚ) (start last : ℕ) : Prop where
  /-- Velocity control stays active up to the expiry of `mf_motor_stop`. -/
  active : (deviceTrace (F := ℚ) env last).drive.vel.active = true ↔
    ∀ time, start < time → time < last → ¬ StopExpiresAt ℚ env time
  /-- Up to its first driving execution the motors do what they did before. -/
  waits : (deviceTrace (F := ℚ) env last).drive.vel.active = true →
    (∀ time, start < time → time < last → ¬ VelDrivesAt env time) →
    SameOutputs (deviceTrace (F := ℚ) env start).motors (deviceTrace (F := ℚ) env last).motors
  /-- From then on they have the duties of the targets. -/
  runs : (deviceTrace (F := ℚ) env last).drive.vel.active = true →
    (∃ time, start < time ∧ time < last ∧ VelDrivesAt env time) →
    (deviceTrace (F := ℚ) env last).motors.Runs (velocityToDutyCycleLeft targets.left)
      (velocityToDutyCycleRight targets.right)
  /-- After the expiry the outputs are off. -/
  ended : (deviceTrace (F := ℚ) env last).drive.vel.active = false →
    (deviceTrace (F := ℚ) env last).motors.Disabled

theorem VelocityDrives.initial {start : ℕ} {velocity angular : ℚ}
    (task : stageAt start = some .messageHandling)
    (asked : Accepts ['v', 'V'] (deviceTrace env start) velocity angular) :
    VelocityDrives env (velocityTargets velocity angular).speeds start (start + 1) := by
  obtain ⟨-, command, accepts, velocities⟩ := velocity_of_accepts env _ velocity angular asked
  have driven := drive_messageHandlingTask env (deviceTrace (F := ℚ) env start)
  have active : (deviceTrace (F := ℚ) env (start + 1)).drive.vel.active = true := by
    rw [accepts] at driven
    rw [deviceTrace_succ task]
    change (messageHandlingTask env _).1.drive.vel.active = true
    rw [driven]
    cases command with
    | velocity => rfl
    | velocityTimed duration => rfl
    | _ => cases velocities
  refine ⟨iff_of_true active ?_, ?_, ?_, ?_⟩
  · intro time lower upper
    omega
  · intro _ _
    rw [deviceTrace_succ task]
    exact Or.inl (motors_of_velocity accepts velocities)
  · rintro - ⟨time, lower, upper, -⟩
    omega
  · intro inactive
    cases active.symm.trans inactive

theorem VelocityDrives.succ {targets : Wheels ℚ} {start last : ℕ} (later : start < last)
    (cruises : CruisesAt env targets last) (after : CruisesAt env targets (last + 1))
    (quiet : acceptedAt ℚ env last = none) (drives : VelocityDrives env targets start last) :
    VelocityDrives env targets start (last + 1) := by
  have next := vel_active_succ_iff cruises quiet
  refine ⟨?_, ?_, ?_, ?_⟩
  · rw [next, drives.active]
    constructor
    · rintro ⟨before, now⟩ time lower upper
      rcases Nat.lt_succ_iff_lt_or_eq.mp upper with earlier | rfl
      · exact before time lower earlier
      · exact now
    · intro all
      exact ⟨fun time lower upper => all time lower (Nat.lt_succ_of_lt upper),
        all last later (Nat.lt_succ_self last)⟩
  · intro active idle
    obtain ⟨before, running⟩ := next.mp active
    refine (drives.waits before fun time lower upper =>
      idle time lower (Nat.lt_succ_of_lt upper)).trans ?_
    exact sameOutputs_of_cruises cruises quiet running (idle last later (Nat.lt_succ_self last))
  · rintro active ⟨time, lower, upper, driving⟩
    obtain ⟨before, running⟩ := next.mp active
    by_cases now : VelDrivesAt env last
    · have runs := runs_of_velDrivesAt now
      have held := cruises.held.held before
      have left : (deviceTrace (F := ℚ) env last).ctrLeftMotor.targetVel = targets.left :=
        congrArg Wheels.left held
      have right : (deviceTrace (F := ℚ) env last).ctrRightMotor.targetVel = targets.right :=
        congrArg Wheels.right held
      rw [left, right] at runs
      exact runs
    · have earlier : time < last := by
        refine Nat.lt_of_le_of_ne (Nat.lt_succ_iff.mp upper) ?_
        rintro rfl
        exact now driving
      exact (drives.runs before ⟨time, lower, earlier, driving⟩).same
        (sameOutputs_of_cruises cruises quiet running now)
  · intro inactive
    exact (State.enabled_eq_false_iff _).mp (after.cruising.ended inactive).2

/-- From an accepted 'v' or 'V' up to the next accepted motor command the motors have, from the
first driving execution on, the duties of its two targets, until the deadline of 'V' switches
them off. -/
theorem velocity_drives (env : Env) (start last : ℕ) (velocity angular : ℚ)
    (task : stageAt start = some .messageHandling)
    (asked : Accepts ['v', 'V'] (deviceTrace env start) velocity angular) (later : start < last)
    (undisturbed : ∀ time, start < time → time < last → acceptedAt ℚ env time = none) :
    VelocityDrives env (velocityTargets velocity angular).speeds start last := by
  have accepted := cruisesAt_of_accepts task asked
  induction last, later using Nat.le_induction with
  | base => exact .initial task asked
  | succ last later ih =>
      have cruises (time : ℕ) (lower : start < time) (upper : time ≤ last + 1) :=
        cruisesAt_since lower accepted fun earlier first second =>
          undisturbed earlier first (Nat.lt_of_lt_of_le second upper)
      exact .succ later (cruises last later (Nat.le_succ last))
        (cruises (last + 1) (Nat.lt_succ_of_lt later) (Nat.le_refl _))
        (undisturbed last later (Nat.lt_succ_self last))
        (ih fun time lower upper => undisturbed time lower (Nat.lt_succ_of_lt upper))

/-- A bench test that asks for half a metre per second for half a second. -/
def Env.halfSecond : Env :=
  Env.bench [86, 0, 0, 0, 63, 0, 0, 0, 0, 0, 0, 0, 63] (10 * ·)

set_option maxRecDepth 20000 in
/-- By then the drive has come and gone. -/
theorem velocity_drives_bench :
    VelocityDrives Env.halfSecond (velocityTargets 0.5 0).speeds 205 310 := by
  have asked : Accepts ['v', 'V'] (deviceTrace (F := ℚ) Env.halfSecond 205) 0.5 0 :=
    ⟨86, [0, 0, 0, 63, 0, 0, 0, 0, 0, 0, 0, 63], by decide +kernel⟩
  have undisturbed : ∀ time < 310, 205 < time → acceptedAt ℚ Env.halfSecond time = none := by
    decide +kernel
  exact velocity_drives Env.halfSecond 205 310 0.5 0 (by decide) asked (by decide)
    fun time lower upper => undisturbed time upper lower

end run

end ZumoDelivery
