import ZumoDelivery.Application.Journey
import ZumoDelivery.Application.Steering

set_option autoImplicit false

namespace ZumoDelivery

open DifferentialDrive (Wheels)

section Held

variable {F : Type} [FloatArith F]

structure Drive.Steady (d : Drive F) : Prop where
  dist : d.dist.active = false
  avoid : d.avoid.active = false

omit [FloatArith F] in
theorem Drive.Steady.move {d after : Drive F} (steady : d.Steady) (step : d.Move after) :
    after.Steady := by
  cases step with
  | distanceStep active now => cases steady.dist.symm.trans active
  | distanceDone active => exact ⟨rfl, steady.avoid⟩
  | stopExpired active => exact ⟨rfl, steady.avoid⟩
  | avoidanceStart active waiting next chosen period now => cases steady.avoid.symm.trans active
  | _ => exact ⟨steady.dist, steady.avoid⟩

omit [FloatArith F] in
/-- Only obstacle avoidance starts velocity control without a command. -/
theorem Drive.Steady.vel_active {d after : Drive F} (steady : d.Steady) (step : d.Move after)
    (active : after.vel.active = true) : d.vel.active = true := by
  cases step with
  | stopExpired stopping => cases active
  | avoidanceStart avoiding waiting next chosen period now =>
      cases steady.avoid.symm.trans avoiding
  | _ => exact active

omit [FloatArith F] in
theorem targetVelocities_of_journey {s t : State F} (same : s.journey = t.journey) :
    s.targetVelocities = t.targetVelocities :=
  congrArg (fun j : Journey F => Wheels.mk j.ctrLeftMotor.targetVel j.ctrRightMotor.targetVel) same

/-- Unless it ends velocity control, a statement that accepts no command keeps the targets. -/
theorem targetVelocities_run (env : Env) (stage : Stage) (s : State F)
    (quiet : stage = .messageHandling → accepted env s = none) (steady : s.drive.Steady)
    (going : (stage.run env s).drive.vel.active = true) :
    (stage.run env s).targetVelocities = s.targetVelocities := by
  by_cases task : stage = .messageHandling
  · subst task
    exact targetVelocities_of_journey
      (congrArg Motion.journey (motion_messageHandlingTask env s (quiet rfl)))
  revert going
  apply run_rule env stage s (fun t => t.drive.vel.active = true →
    t.targetVelocities = s.targetVelocities) task
  · exact fun _ _ _ _ => rfl
  · intro after due execution going
    cases execution with
    | distBaseline | distDone | distStep =>
        cases due.symm.trans (MsgFlag.not_due_of_inactive env _ s steady.dist)
    | motorStop => cases going
    | oaLeft | oaRight | oaDecided =>
        cases due.symm.trans (MsgFlag.not_due_of_inactive env _ s steady.avoid)
    | _ => rfl

end Held

def VelExecutesAt (F : Type) [FloatArith F] (env : Env) (time : ℕ) : Prop :=
  stageAt time = some .velControl ∧
    (deviceTrace (F := F) env time).flags.mfMotorVelControl.due env (deviceTrace env time) = true

instance (F : Type) [FloatArith F] (env : Env) (time : ℕ) : Decidable (VelExecutesAt F env time) :=
  inferInstanceAs (Decidable (_ ∧ _))

/-- Velocity control has these targets, as long as it is active. -/
structure SteadyAt (env : Env) (targets : Wheels ℚ) (time : ℕ) : Prop where
  steady : (deviceTrace (F := ℚ) env time).drive.Steady
  held : (deviceTrace (F := ℚ) env time).drive.vel.active = true →
    (deviceTrace (F := ℚ) env time).targetVelocities = targets

variable {env : Env}

theorem steadyAt_of_accepts {start : ℕ} {velocity angular : ℚ}
    (task : stageAt start = some .messageHandling)
    (asked : Accepts ['v', 'V'] (deviceTrace env start) velocity angular) :
    SteadyAt env (velocityTargets velocity angular).speeds (start + 1) := by
  have next : deviceTrace (F := ℚ) env (start + 1) = (messageHandlingTask env _).1 :=
    deviceTrace_succ task
  have targets := targetVelocities_of_accepts env _ velocity angular asked
  obtain ⟨-, command, accepts, steers⟩ := velocity_of_accepts env _ velocity angular asked
  have driven := drive_messageHandlingTask env (deviceTrace (F := ℚ) env start)
  rw [accepts] at driven
  constructor
  · rw [next, driven]
    cases command with
    | velocity => exact ⟨rfl, rfl⟩
    | velocityTimed duration => exact ⟨rfl, rfl⟩
    | _ => cases steers
  · intro active
    rw [next, targets]

theorem steadyAt_step {targets : Wheels ℚ} {time : ℕ} (quiet : acceptedAt ℚ env time = none)
    (before : SteadyAt env targets time) : SteadyAt env targets (time + 1) := by
  obtain ⟨stage, here⟩ := stageAt_isSome time
  have kept := targetVelocities_run env stage (deviceTrace (F := ℚ) env time)
    (by rintro rfl; exact (acceptedAt_of_stage here).symm.trans quiet) before.steady
  rw [← deviceTrace_succ here] at kept
  cases driveStep (F := ℚ) env time with
  | move quiet step =>
      refine ⟨before.steady.move step, ?_⟩
      intro active
      exact (kept active).trans (before.held (before.steady.vel_active step active))
  | restart quiet restarts same =>
      rw [same] at kept
      refine ⟨?_, ?_⟩
      · rw [same]
        exact ⟨rfl, before.steady.avoid⟩
      · intro active
        rw [same] at active
        exact (kept active).trans (before.held active)
  | command command accepts same => cases quiet.symm.trans accepts

theorem steadyAt_since {targets : Wheels ℚ} {start last : ℕ} (ordered : start ≤ last)
    (initial : SteadyAt env targets start)
    (quiet : ∀ time, start ≤ time → time < last → acceptedAt ℚ env time = none) :
    SteadyAt env targets last := by
  induction ordered with
  | refl => exact initial
  | @step last ordered ih =>
      apply steadyAt_step (quiet last ordered (Nat.lt_succ_self last))
      exact ih fun time lower upper => quiet time lower (Nat.lt_succ_of_lt upper)

end ZumoDelivery
