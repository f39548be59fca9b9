import ZumoDelivery.Application.DriveRun

set_option autoImplicit false

namespace ZumoDelivery

variable {F : Type} [FloatArith F]

inductive DriveFlag where
  | objAvoidance
  | motorDistControl
  | motorVelControl
  | motorStop
  | timedPwm
deriving DecidableEq

def Drive.active (d : Drive F) : DriveFlag → Bool
  | .objAvoidance => d.avoid.active
  | .motorDistControl => d.dist.active
  | .motorVelControl => d.vel.active
  | .motorStop => d.stop.active
  | .timedPwm => d.timed.active

def DriveCommand.flags : DriveCommand F → List DriveFlag
  | .pwm => []
  | .pwmTimed _ => [.timedPwm]
  | .stop => []
  | .distance => [.motorDistControl]
  | .distanceTimed _ => [.motorDistControl, .motorStop]
  | .velocity => [.motorVelControl]
  | .velocityTimed _ => [.motorVelControl, .motorStop]
  | .avoidance _ => [.objAvoidance, .motorVelControl]

/-- The flags of the mode in force: none before the first motor command. -/
def modeFlags (mode : Option (DriveCommand F)) : List DriveFlag :=
  mode.elim [] DriveCommand.flags

/-- Every active flag belongs to the mode. -/
def Drive.Within (d : Drive F) (mode : Option (DriveCommand F)) : Prop :=
  ∀ flag, d.active flag = true → flag ∈ modeFlags mode

/-- 'p' and 'P', whose cases do not name `mf_obj_avoidance`. -/
def DriveCommand.keepsAvoidance : DriveCommand F → Bool
  | .pwm => true
  | .pwmTimed _ => true
  | _ => false

omit [FloatArith F] in
theorem DriveCommand.objAvoidance_notMem {command : DriveCommand F}
    (keeps : command.keepsAvoidance = true) : .objAvoidance ∉ command.flags := by
  cases command with
  | pwm => exact List.not_mem_nil
  | pwmTimed duration => simp only [flags, List.mem_singleton, reduceCtorEq, not_false_eq_true]
  | _ => cases keeps

namespace Drive.Within

omit [FloatArith F] in
theorem of_fewer {d after : Drive F} {mode : Option (DriveCommand F)} (within : d.Within mode)
    (fewer : ∀ flag, after.active flag = true → d.active flag = true) : after.Within mode :=
  fun flag active => within flag (fewer flag active)

omit [FloatArith F] in
theorem mode_of_avoid {d : Drive F} {mode : Option (DriveCommand F)} (within : d.Within mode)
    (active : d.avoid.active = true) : ∃ duration, mode = some (.avoidance duration) := by
  have member := within .objAvoidance active
  cases mode with
  | none => cases member
  | some command =>
      cases command with
      | avoidance duration => exact ⟨duration, rfl⟩
      | _ => simp [modeFlags, DriveCommand.flags] at member

omit [FloatArith F] in
theorem move {d after : Drive F} {mode : Option (DriveCommand F)} (within : d.Within mode)
    (step : d.Move after) : after.Within mode := by
  cases step with
  | idle => exact within
  | avoidanceStart active waiting next chosen period now =>
      -- Velocity control belongs to the mode that obstacle avoidance belongs to.
      obtain ⟨duration, rfl⟩ := within.mode_of_avoid active
      intro flag on
      cases flag with
      | motorVelControl => exact List.mem_cons_of_mem _ List.mem_cons_self
      | objAvoidance => exact within .objAvoidance on
      | motorDistControl => exact within .motorDistControl on
      | motorStop => exact within .motorStop on
      | timedPwm => exact within .timedPwm on
  | _ =>
      apply within.of_fewer
      intro flag on
      cases flag <;> first | exact on | cases on

theorem restart {d : Drive F} {mode : Option (DriveCommand F)} (within : d.Within mode) :
    d.restart.Within mode := by
  apply within.of_fewer
  intro flag on
  cases flag <;> first | exact on | cases on

/-- Accepting a motor command leaves the flags of its own mode, unless obstacle
avoidance is active and the command is 'p' or 'P'. -/
theorem accept (now : Time) (period : F) (d : Drive F) (command : DriveCommand F)
    (clear : command.keepsAvoidance = true → d.avoid.active = false) :
    (d.accept now period command).Within (some command) := by
  intro flag on
  by_cases avoids : flag = .objAvoidance
  · subst avoids
    cases command with
    | pwm => cases (clear rfl).symm.trans on
    | pwmTimed duration => cases (clear rfl).symm.trans on
    | avoidance duration => exact List.mem_cons_self
    | _ => cases on
  · cases command <;> cases flag <;> first
      | contradiction
      | cases on
        done
      | exact List.mem_cons_self
      | exact List.mem_cons_of_mem _ List.mem_cons_self

end Drive.Within

theorem within_lastAccepted (env : Env) (last : ℕ)
    (clear : ∀ time < last, ∀ command ∈ acceptedAt F env time, command.keepsAvoidance = true →
      (deviceTrace (F := F) env time).flags.mfObjAvoidance.active = false) :
    (deviceTrace (F := F) env last).drive.Within (lastAccepted F env last) := by
  induction last with
  | zero =>
      intro flag on
      cases flag <;> cases on
  | succ last ih =>
      have before := ih fun time upper => clear time (Nat.lt_succ_of_lt upper)
      rw [lastAccepted]
      cases driveStep (F := F) env last with
      | move quiet step =>
          rw [quiet, Option.none_or]
          exact before.move step
      | restart quiet restarts same =>
          rw [quiet, Option.none_or, same]
          exact before.restart
      | command command accepts same =>
          rw [accepts, Option.some_or, same]
          exact Drive.Within.accept _ _ _ command
            (clear last (Nat.lt_succ_self last) command accepts)

theorem mod_of_stageAt {time : ℕ} (here : stageAt time = some .messageHandling) :
    time % 17 = 1 := by
  have position : ∀ r < 17, loopBody[r]? = some .messageHandling → r = 1 := by decide
  exact position _ (Nat.mod_lt _ (by decide)) here

theorem stage_of_acceptedAt {env : Env} {time : ℕ} {command : DriveCommand F}
    (accepts : acceptedAt F env time = some command) :
    stageAt time = some .messageHandling := by
  by_cases here : stageAt time = some .messageHandling
  · exact here
  · rw [acceptedAt_of_other here] at accepts
    cases accepts

omit [FloatArith F] in
theorem Drive.Move.avoid_active {d after : Drive F} (step : d.Move after) :
    after.avoid.active = d.avoid.active := by
  cases step <;> rfl

/-- Up to the end of its iteration an accepted command is the last one, and nothing
ends obstacle avoidance. -/
theorem rest_of_iteration (env : Env) (n time : ℕ) (command : DriveCommand F)
    (lower : 17 * n + 2 ≤ time) (upper : time ≤ 17 * (n + 1))
    (accepts : acceptedAt F env (17 * n + 1) = some command) :
    lastAccepted F env time = some command ∧
      (deviceTrace (F := F) env time).drive.avoid.active =
        (deviceTrace (F := F) env (17 * n + 2)).drive.avoid.active := by
  induction lower with
  | refl =>
      rw [lastAccepted, accepts, Option.some_or]
      exact ⟨rfl, rfl⟩
  | @step time lower ih =>
      obtain ⟨last, avoid⟩ := ih (by omega)
      have quiet : acceptedAt F env time = none := by
        apply acceptedAt_of_other
        intro here
        have position := mod_of_stageAt here
        have above : 17 * n + 2 ≤ time := lower
        omega
      rw [lastAccepted, quiet, Option.none_or, ← avoid]
      refine ⟨last, ?_⟩
      cases driveStep (F := F) env time with
      | move quiet step => exact step.avoid_active
      | restart quiet restarts same =>
          rw [same]
          rfl
      | command command accepts same => cases quiet.symm.trans accepts

/-- At the end of every iteration the active drive flags belong to the last motor
command, exactly if 'p' and 'P' never find obstacle avoidance active. -/
theorem within_mode_iff (env : Env) :
    (∀ n, (deviceTrace (F := F) env (17 * (n + 1))).drive.Within
      (lastAccepted F env (17 * (n + 1)))) ↔
    ∀ time, ∀ command ∈ acceptedAt F env time, command.keepsAvoidance = true →
      (deviceTrace (F := F) env time).flags.mfObjAvoidance.active = false := by
  constructor
  · intro within time command accepts keeps
    have position := mod_of_stageAt (stage_of_acceptedAt accepts)
    obtain ⟨n, rfl⟩ : ∃ n, time = 17 * n + 1 := ⟨time / 17, by omega⟩
    obtain ⟨last, avoid⟩ :=
      rest_of_iteration env n (17 * (n + 1)) command (by omega) (Nat.le_refl _) accepts
    have allowed := within n
    rw [last] at allowed
    by_contra on
    have active : (deviceTrace (F := F) env (17 * n + 1)).drive.avoid.active = true :=
      Bool.eq_true_of_not_eq_false on
    have still : (deviceTrace (F := F) env (17 * n + 2)).drive.avoid.active = true := by
      cases driveStep (F := F) env (17 * n + 1) with
      | move quiet step => cases accepts.symm.trans quiet
      | restart quiet restarts same => cases accepts.symm.trans quiet
      | command other accepted same =>
          cases accepts.symm.trans accepted
          rw [same]
          cases command <;> first | exact active | cases keeps
    exact DriveCommand.objAvoidance_notMem keeps (allowed .objAvoidance (avoid.trans still))
  · intro clear n
    exact within_lastAccepted env _ fun time _ => clear time

set_option maxRecDepth 20000 in
/-- 'p' after 'O' leaves obstacle avoidance active. -/
theorem not_within_mode :
    ¬ ∀ (env : Env) (n : ℕ), (deviceTrace (F := ℚ) env (17 * (n + 1))).drive.Within
      (lastAccepted ℚ env (17 * (n + 1))) := by
  intro within
  have member := within (Env.bench [79, 0, 0, 0x80, 0x3F, 112, 50, 0, 50, 0] fun _ => 0) 9
    .objAvoidance (by decide +kernel)
  exact absurd member (by decide +kernel)

end ZumoDelivery
