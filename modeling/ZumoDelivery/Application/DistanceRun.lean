import Mathlib.Tactic.IntervalCases
import ZumoDelivery.Application.DistanceStep

set_option autoImplicit false

namespace ZumoDelivery

open DifferentialDrive (Wheels)
open Odometer (Reached Tracker)

section Events

variable (F : Type) [FloatArith F] (env : Env)

def DistExecutesAt (time : ℕ) : Prop :=
  stageAt time = some .distControl ∧
    (deviceTrace (F := F) env time).flags.mfMotorDistControl.due env (deviceTrace env time) = true

/-- The duration of a 'D' or 'V' command ends at a time. -/
def StopExpiresAt (time : ℕ) : Prop :=
  stageAt time = some .motorStop ∧
    (deviceTrace (F := F) env time).flags.mfMotorStop.due env (deviceTrace env time) = true

instance (time : ℕ) : Decidable (DistExecutesAt F env time) := inferInstanceAs (Decidable (_ ∧ _))

instance (time : ℕ) : Decidable (StopExpiresAt F env time) := inferInstanceAs (Decidable (_ ∧ _))

def Undisturbed (start last : ℕ) : Prop :=
  ∀ time, start < time → time < last →
    acceptedAt F env time = none ∧ ¬ RestartsAt F env time ∧ ¬ StopExpiresAt F env time

def Unexecuted (start last : ℕ) : Prop :=
  ∀ time, start < time → time < last → ¬ DistExecutesAt F env time

end Events

section Command

variable (env : Env)

def countsAt (time : ℕ) : Wheels ℤ := (deviceTrace (F := ℚ) env (time + 1)).counts

/-- The differences between the readings of neighbouring executions, and between the
first one and all others, fit. -/
def CountsFit (first last : ℕ) : Prop :=
  ∀ earlier later, first ≤ earlier → earlier < later → later ≤ last →
    DistExecutesAt ℚ env earlier → DistExecutesAt ℚ env later →
    (earlier = first ∨ Unexecuted ℚ env earlier later) →
    FitsInt16 (countsAt env earlier) (countsAt env later)

/-- The first execution after `start` records the baseline. -/
structure Baseline (first : ℕ) (target : Wheels ℚ) : Prop where
  ticksLOld : (deviceTrace (F := ℚ) env (first + 1)).locals.ticksLOld = (countsAt env first).left
  ticksROld : (deviceTrace (F := ℚ) env (first + 1)).locals.ticksROld = (countsAt env first).right
  target : (deviceTrace (F := ℚ) env (first + 1)).targetPositions = target
  active : (deviceTrace (F := ℚ) env (first + 1)).flags.mfMotorDistControl.active = true

/-- The distance command accepted at `start` is carried out until it is disturbed. -/
structure CarriedOut (start : ℕ) (target : Wheels ℚ) : Prop where
  baseline : ∀ first, start < first → Undisturbed ℚ env start first →
    Unexecuted ℚ env start first → DistExecutesAt ℚ env first → Baseline env first target
  outcome : ∀ first time, start < first → Unexecuted ℚ env start first →
    DistExecutesAt ℚ env first → first < time → Undisturbed ℚ env start time →
    DistExecutesAt ℚ env time → CountsFit env first time →
    (∀ earlier, first < earlier → earlier < time → DistExecutesAt ℚ env earlier →
      ¬ TargetReached target (displacement (countsAt env first) (countsAt env earlier))) ∧
    DistanceOutcome target (displacement (countsAt env first) (countsAt env time))
      (deviceTrace env (time + 1))

end Command

section Runs

/-- Neither velocity control nor obstacle avoidance is active. -/
structure Drive.Alone (d : Drive ℚ) : Prop where
  vel : d.vel.active = false
  avoid : d.avoid.active = false

theorem Drive.Alone.move {d after : Drive ℚ} (alone : d.Alone) (step : d.Move after) :
    after.Alone := by
  cases step with
  | stopExpired active => exact ⟨rfl, alone.avoid⟩
  | avoidanceStart active waiting next chosen period now => cases alone.avoid.symm.trans active
  | _ => exact ⟨alone.vel, alone.avoid⟩

theorem Drive.Move.dist_inactive {d after : Drive ℚ} (step : d.Move after)
    (inactive : d.dist.active = false) : after.dist.active = false := by
  cases step with
  | distanceDone active => rfl
  | stopExpired active => rfl
  | _ => exact inactive

variable {env : Env}

theorem Undisturbed.mono {start last time : ℕ} (undisturbed : Undisturbed ℚ env start last)
    (upper : time ≤ last) : Undisturbed ℚ env start time :=
  fun between lower below => undisturbed between lower (Nat.lt_of_lt_of_le below upper)

/-- A distance command ends velocity control and obstacle avoidance. -/
theorem alone_since {start last : ℕ} {command : DriveCommand ℚ}
    (accepts : acceptedAt ℚ env start = some command)
    (distance : command.isDistance = true) (later : start < last)
    (undisturbed : Undisturbed ℚ env start last) :
    (deviceTrace (F := ℚ) env last).drive.Alone := by
  apply drive_since env Drive.Alone (start + 1) last later
  · cases driveStep (F := ℚ) env start with
    | move quiet step => cases accepts.symm.trans quiet
    | restart quiet restarts same => cases accepts.symm.trans quiet
    | command other accepted same =>
        cases accepts.symm.trans accepted
        rw [same]
        cases command with
        | distance => exact ⟨rfl, rfl⟩
        | distanceTimed duration => exact ⟨rfl, rfl⟩
        | _ => cases distance
  · exact fun d after alone step => alone.move step
  · intro time lower upper restarts alone
    exact absurd restarts (undisturbed time lower upper).2.1
  · intro time lower upper other now period accepted alone
    cases (undisturbed time lower upper).1.symm.trans accepted

theorem journey_step {time : ℕ} (quiet : acceptedAt ℚ env time = none)
    (going : ¬ StopExpiresAt ℚ env time) (waiting : ¬ DistExecutesAt ℚ env time)
    (alone : (deviceTrace (F := ℚ) env time).drive.Alone) :
    (deviceTrace (F := ℚ) env (time + 1)).journey = (deviceTrace env time).journey := by
  obtain ⟨stage, here⟩ := stageAt_isSome time
  rw [deviceTrace_succ here]
  by_cases dist : stage = .distControl
  · subst dist
    have idle : Stage.distControl.due env (deviceTrace (F := ℚ) env time) = false :=
      Bool.eq_false_of_not_eq_true fun due => waiting ⟨here, due⟩
    obtain ⟨looks, -, -, same⟩ := run_of_waiting idle
    rw [same]
    rfl
  · refine journey_run env stage _ dist ?_ ?_ (fun _ => alone.vel) alone.avoid
    · rintro rfl
      exact (acceptedAt_of_stage here).symm.trans quiet
    · rintro rfl
      exact Bool.eq_false_of_not_eq_true fun due => going ⟨here, due⟩

theorem dist_inactive_step {time : ℕ} (quiet : acceptedAt ℚ env time = none)
    (inactive : (deviceTrace (F := ℚ) env time).drive.dist.active = false) :
    (deviceTrace (F := ℚ) env (time + 1)).drive.dist.active = false := by
  cases driveStep (F := ℚ) env time with
  | move quiet step => exact step.dist_inactive inactive
  | restart quiet restarts same =>
      rw [same]
      rfl
  | command command accepts same => cases quiet.symm.trans accepts

/-- A distance command after its first execution: on the way, or over. -/
inductive DistancePhase (env : Env) (targets : Targets ℚ) (first time : ℕ) : Prop
  | underway (latest : ℕ) (lower : first ≤ latest) (upper : latest < time)
      (executed : DistExecutesAt ℚ env latest) (since : Unexecuted ℚ env latest time)
      (journey : (deviceTrace (F := ℚ) env time).journey.OnTheWay (countsAt env first)
        (countsAt env latest) targets)
      (short : ∀ earlier, first < earlier → earlier < time → DistExecutesAt ℚ env earlier →
        ¬ TargetReached targets.distances
          (displacement (countsAt env first) (countsAt env earlier)))
  | finished (inactive : (deviceTrace (F := ℚ) env time).drive.dist.active = false)

theorem distOutcome_of_executes {time : ℕ} (executes : DistExecutesAt ℚ env time) :
    DistOutcome (deviceTrace (F := ℚ) env time) (deviceTrace env (time + 1)) := by
  rw [deviceTrace_succ executes.1]
  exact distOutcome env _ executes.2

theorem baseline_of_fresh {first : ℕ} {targets : Targets ℚ} {asked : Journey ℚ}
    (executes : DistExecutesAt ℚ env first) (fresh : asked.firstTime = true)
    (same : (deviceTrace (F := ℚ) env first).journey = asked.ask targets) :
    Baseline env first targets.distances ∧
      (deviceTrace (F := ℚ) env (first + 1)).journey.OnTheWay (countsAt env first)
        (countsAt env first) targets := by
  have firstTime : (deviceTrace (F := ℚ) env first).locals.firstTime = true :=
    (congrArg Journey.firstTime same).trans fresh
  cases distOutcome_of_executes executes with
  | baseline unmeasured journey drive =>
      rw [same] at journey
      have active : (deviceTrace (F := ℚ) env first).drive.dist.active = true :=
        MsgFlag.active_of_due executes.2
      rw [← drive] at active
      constructor
      · exact {
          ticksLOld := congrArg Journey.ticksLOld journey
          ticksROld := congrArg Journey.ticksROld journey
          target := congrArg
            (fun j : Journey ℚ => Wheels.mk j.ctrLeftMotor.targetPos j.ctrRightMotor.targetPos)
            journey
          active }
      · rw [journey]
        exact ⟨rfl, rfl, rfl, Tracker.Follows.start _ _, Tracker.Follows.start _ _, rfl, rfl⟩
  | done running arrived active motors => cases running.symm.trans firstTime
  | travel running short journey active motors => cases running.symm.trans firstTime

theorem distance_step_of_underway {first latest time : ℕ} {targets : Targets ℚ}
    (lower : first ≤ latest) (upper : latest < time) (measured : DistExecutesAt ℚ env first)
    (executed : DistExecutesAt ℚ env latest) (since : Unexecuted ℚ env latest time)
    (journey : (deviceTrace (F := ℚ) env time).journey.OnTheWay (countsAt env first)
      (countsAt env latest) targets)
    (executes : DistExecutesAt ℚ env time) (fit : CountsFit env first time)
    (forward : targets.Forward) :
    DistanceOutcome targets.distances (displacement (countsAt env first) (countsAt env time))
        (deviceTrace env (time + 1)) ∧
      (¬ TargetReached targets.distances (displacement (countsAt env first) (countsAt env time)) →
        (deviceTrace (F := ℚ) env (time + 1)).journey.OnTheWay (countsAt env first)
          (countsAt env time) targets) := by
  have piece : FitsInt16 (countsAt env latest) (countsAt env time) :=
    fit latest time lower upper (Nat.le_refl time) executed executes (Or.inr since)
  have whole : FitsInt16 (countsAt env first) (countsAt env time) :=
    fit first time (Nat.le_refl first) (Nat.lt_of_le_of_lt lower upper) (Nat.le_refl time)
      measured executes (Or.inl rfl)
  exact distance_step journey piece whole forward (distOutcome_of_executes executes)

theorem distancePhase_step {first time : ℕ} {targets : Targets ℚ}
    (phase : DistancePhase env targets first time) (quiet : acceptedAt ℚ env time = none)
    (going : ¬ StopExpiresAt ℚ env time) (alone : (deviceTrace (F := ℚ) env time).drive.Alone)
    (measured : DistExecutesAt ℚ env first) (fit : CountsFit env first time)
    (forward : targets.Forward) : DistancePhase env targets first (time + 1) := by
  cases phase with
  | finished inactive => exact .finished (dist_inactive_step quiet inactive)
  | underway latest lower upper executed since journey short =>
      by_cases executes : DistExecutesAt ℚ env time
      · obtain ⟨outcome, next⟩ := distance_step_of_underway lower upper measured executed since
          journey executes fit forward
        by_cases there :
            TargetReached targets.distances (displacement (countsAt env first) (countsAt env time))
        · exact .finished (outcome.arrived there).1
        · refine .underway time (by omega) (Nat.lt_succ_self time) executes ?_ (next there) ?_
          · intro between above below
            omega
          · intro earlier after before ran
            rcases Nat.lt_succ_iff_lt_or_eq.mp before with before | rfl
            · exact short earlier after before ran
            · exact there
      · refine .underway latest lower (Nat.lt_succ_of_lt upper) executed ?_ ?_ ?_
        · intro between above below
          rcases Nat.lt_succ_iff_lt_or_eq.mp below with below | rfl
          · exact since between above below
          · exact executes
        · rw [journey_step quiet going executes alone]
          exact journey
        · intro earlier after before ran
          rcases Nat.lt_succ_iff_lt_or_eq.mp before with before | rfl
          · exact short earlier after before ran
          · exact absurd ran executes

theorem CountsFit.mono {first last time : ℕ} (fit : CountsFit env first last)
    (upper : time ≤ last) : CountsFit env first time :=
  fun earlier later lower ordered below =>
    fit earlier later lower ordered (Nat.le_trans below upper)

theorem journey_waiting {start first : ℕ} {command : DriveCommand ℚ}
    (accepts : acceptedAt ℚ env start = some command)
    (distance : command.isDistance = true) (later : start < first)
    (undisturbed : Undisturbed ℚ env start first) (unexecuted : Unexecuted ℚ env start first) :
    (deviceTrace (F := ℚ) env first).journey = (deviceTrace env (start + 1)).journey := by
  induction later with
  | refl => rfl
  | @step time lower ih =>
      have earlier := undisturbed.mono (Nat.le_succ time)
      obtain ⟨quiet, -, going⟩ := undisturbed time lower (Nat.lt_succ_self time)
      have alone := alone_since accepts distance lower earlier
      rw [journey_step quiet going (unexecuted time lower (Nat.lt_succ_self time)) alone]
      exact ih earlier fun between above below =>
        unexecuted between above (Nat.lt_succ_of_lt below)

/-- From the first execution on the command is on the way, or over. -/
theorem distancePhase_since {start first last : ℕ} {command : DriveCommand ℚ}
    {targets : Targets ℚ} (accepts : acceptedAt ℚ env start = some command)
    (distance : command.isDistance = true) (after : start < first)
    (executes : DistExecutesAt ℚ env first)
    (forward : targets.Forward)
    (journey : (deviceTrace (F := ℚ) env (first + 1)).journey.OnTheWay (countsAt env first)
      (countsAt env first) targets)
    (later : first < last) (undisturbed : Undisturbed ℚ env start last)
    (fit : CountsFit env first last) : DistancePhase env targets first last := by
  induction later with
  | refl =>
      refine .underway first (Nat.le_refl first) (Nat.lt_succ_self first) executes ?_ journey ?_
      · intro between above below
        omega
      · intro earlier above below
        omega
  | @step time lower ih =>
      have earlier := undisturbed.mono (Nat.le_succ time)
      have fits := fit.mono (Nat.le_succ time)
      have passed : start < time := Nat.lt_of_lt_of_le after (Nat.le_of_lt lower)
      obtain ⟨quiet, -, going⟩ := undisturbed time passed (Nat.lt_succ_self time)
      have alone := alone_since accepts distance passed earlier
      exact distancePhase_step (ih earlier fits) quiet going alone executes fits forward

theorem asked_of_accepts {start : ℕ} {linear angular : ℚ}
    (here : stageAt start = some .messageHandling)
    (asked : Accepts ['d', 'D'] (deviceTrace env start) linear angular) :
    ∃ command, acceptedAt ℚ env start = some command ∧
      command.isDistance = true ∧
      (deviceTrace (F := ℚ) env (start + 1)).journey =
        (deviceTrace (F := ℚ) env start).journey.ask (distanceTargets linear angular) := by
  obtain ⟨asks, command, accepts, distance⟩ := distance_of_accepts env _ linear angular asked
  have next : deviceTrace (F := ℚ) env (start + 1) =
      (messageHandlingTask env (deviceTrace env start)).1 := deviceTrace_succ here
  rw [← acceptedAt_of_stage here] at accepts
  rw [← next] at asks
  exact ⟨command, accepts, distance, asks⟩

/-- A distance command that finds `first_time` set, and whose speeds do not overflow a
duty, is carried out, in every run. -/
theorem carriedOut_of_firstTime (env : Env) (start : ℕ) (linear angular : ℚ)
    (here : stageAt start = some .messageHandling)
    (asked : Accepts ['d', 'D'] (deviceTrace env start) linear angular)
    (fresh : (deviceTrace (F := ℚ) env start).locals.firstTime = true)
    (fit : (distanceTargets linear angular).DutiesFit) :
    CarriedOut env start (distanceTargets linear angular).distances := by
  obtain ⟨command, accepts, distance, asks⟩ := asked_of_accepts here asked
  constructor
  · intro first after undisturbed unexecuted executes
    have waited := journey_waiting accepts distance after undisturbed unexecuted
    exact (baseline_of_fresh executes fresh (waited.trans asks)).1
  · intro first time after unexecuted measured later undisturbed executes fits
    have waited := journey_waiting accepts distance after
      (undisturbed.mono (Nat.le_of_lt later)) unexecuted
    have journey := (baseline_of_fresh measured fresh (waited.trans asks)).2
    cases distancePhase_since accepts distance after measured (forward_of_fit fit) journey later
        undisturbed fits with
    | underway latest lower upper executed since going short =>
        exact ⟨short, (distance_step_of_underway lower upper measured executed since going
          executes fits (forward_of_fit fit)).1⟩
    | finished inactive =>
        cases inactive.symm.trans (MsgFlag.active_of_due executes.2)

/-- A command that finds `first_time` cleared is measured from the ticks of an earlier
one, and misses its targets unless the wheels are still where those ticks put them. -/
theorem not_carriedOut_of_stale (env : Env) (start first : ℕ) (linear angular : ℚ)
    (here : stageAt start = some .messageHandling)
    (asked : Accepts ['d', 'D'] (deviceTrace env start) linear angular)
    (stale : (deviceTrace (F := ℚ) env start).locals.firstTime = false)
    (after : start < first) (undisturbed : Undisturbed ℚ env start first)
    (unexecuted : Unexecuted ℚ env start first) (executes : DistExecutesAt ℚ env first)
    (moved : measured (deviceTrace (F := ℚ) env start).locals.ticksLOld
      (deviceTrace (F := ℚ) env (first + 1)).encoders.leftCounts ≠ 0) :
    ¬ CarriedOut env start (distanceTargets linear angular).distances := by
  intro carried
  have baseline := carried.baseline first after undisturbed unexecuted executes
  obtain ⟨command, accepts, distance, asks⟩ := asked_of_accepts here asked
  have journey := (journey_waiting accepts distance after undisturbed unexecuted).trans asks
  have firstTime : (deviceTrace (F := ℚ) env first).locals.firstTime = false :=
    (congrArg Journey.firstTime journey).trans stale
  cases distOutcome_of_executes executes with
  | baseline unmeasured same drive => cases firstTime.symm.trans unmeasured
  | done running arrived active motors => cases active.symm.trans baseline.active
  | travel running short travelled active motors =>
      rw [journey] at travelled
      have rest : (distanceTargets linear angular).distanceLeft -
          measured (deviceTrace (F := ℚ) env start).locals.ticksLOld
            (deviceTrace (F := ℚ) env (first + 1)).encoders.leftCounts =
          (distanceTargets linear angular).distanceLeft :=
        (congrArg (fun j : Journey ℚ => j.ctrLeftMotor.targetPos) travelled).symm.trans
          (congrArg Wheels.left baseline.target)
      exact moved (sub_eq_self.mp rest)

/-- A bench test that asks for one metre straight on over and over, and whose wheels
turn by ten counts at every look. -/
def Env.metres : Env :=
  { Env.bench [100, 0, 0, 0x80, 0x3F, 0, 0, 0, 0] fun look => 10 * look with
    leftSteps := fun _ => 10
    rightSteps := fun _ => 10 }

/-- The first metre. -/
theorem carriedOut_of_firstTime_metre :
    CarriedOut Env.metres 137 (distanceTargets 1 0).distances := by
  have asked : Accepts ['d', 'D'] (deviceTrace (F := ℚ) Env.metres 137) 1 0 :=
    ⟨100, [0, 0, 0x80, 0x3F, 0, 0, 0, 0], by decide +kernel⟩
  have fit : (distanceTargets (1 : ℚ) 0).DutiesFit := by
    rw [Targets.DutiesFit]
    decide +kernel
  exact carriedOut_of_firstTime _ 137 1 0 (by decide) asked (by decide +kernel) fit

/-- The second metre starts on the ticks of the first. -/
theorem not_carriedOut :
    ¬ ∀ (env : Env) (start : ℕ) (linear angular : ℚ), stageAt start = some .messageHandling →
      Accepts ['d', 'D'] (deviceTrace env start) linear angular →
      CarriedOut env start (distanceTargets linear angular).distances := by
  intro every
  have asked : Accepts ['d', 'D'] (deviceTrace (F := ℚ) Env.metres 307) 1 0 :=
    ⟨100, [0, 0, 0x80, 0x3F, 0, 0, 0, 0], by decide +kernel⟩
  have undisturbed : Undisturbed ℚ Env.metres 307 318 := by
    intro time lower upper
    interval_cases time
    all_goals decide +kernel
  have unexecuted : Unexecuted ℚ Env.metres 307 318 := by
    intro time lower upper
    interval_cases time
    all_goals decide +kernel
  have baseline := (every Env.metres 307 1 0 (by decide) asked).baseline 318 (by omega)
    undisturbed unexecuted (by decide +kernel)
  have target := congrArg Wheels.left baseline.target
  exact absurd target (by decide +kernel)

end Runs

end ZumoDelivery
