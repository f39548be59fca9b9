import ZumoDelivery.Lib.Odometer
import ZumoDelivery.Application.Journey
import ZumoDelivery.Application.Motors
import ZumoDelivery.Application.Steering

set_option autoImplicit false

namespace ZumoDelivery

open DifferentialDrive (Wheels)
open Odometer (Reached Tracker)

def State.counts {F : Type} (s : State F) : Wheels ℤ :=
  ⟨s.encoders.leftCounts.toInt, s.encoders.rightCounts.toInt⟩

def displacement (before after : Wheels ℤ) : Wheels ℚ :=
  ⟨ecountToDistance (Int16.ofInt (after.left - before.left)),
    ecountToDistance (Int16.ofInt (after.right - before.right))⟩

def TargetReached (target moved : Wheels ℚ) : Prop :=
  Reached target.left moved.left ∨ Reached target.right moved.right

def FitsInt16 (before after : Wheels ℤ) : Prop :=
  (-2 ^ 15 ≤ after.left - before.left ∧ after.left - before.left < 2 ^ 15) ∧
    -2 ^ 15 ≤ after.right - before.right ∧ after.right - before.right < 2 ^ 15

/-- What an execution leaves behind on the way, once the wheels have moved that far. -/
structure Underway (target moved : Wheels ℚ) (after : State ℚ) : Prop where
  active : after.flags.mfMotorDistControl.active = true
  enabled : ¬ after.motors.Disabled
  rest : after.targetPositions = ⟨target.left - moved.left, target.right - moved.right⟩
  left : after.motors.backwardLeft = true ↔ ¬ 0 < target.left
  right : after.motors.backwardRight = true ↔ ¬ 0 < target.right

/-- An execution stops the motors exactly if a wheel has arrived. -/
structure DistanceOutcome (target moved : Wheels ℚ) (after : State ℚ) : Prop where
  arrived : TargetReached target moved →
    after.flags.mfMotorDistControl.active = false ∧ after.motors.Disabled
  underway : ¬ TargetReached target moved → Underway target moved after

section Exact

open FloatArith

/-- The way of a wheel at a count. -/
def way (counts : ℚ) : ℚ := counts * 2 * 3.14159 * 0.0195 / (12 * 75.81)

theorem ecountToDistance_of_fits {before after : ℤ} (low : -2 ^ 15 ≤ after - before)
    (high : after - before < 2 ^ 15) :
    ecountToDistance (Int16.ofInt (after - before)) = way after - way before := by
  rw [ecountToDistance, Int16.toInt_ofInt_of_le low high]
  change ((after - before : ℤ) : ℚ) * 2 * 3.14159 * 0.0195 / (12 * 75.81) = _
  rw [way, way]
  push_cast
  ring

theorem measured_of_fits {before : ℤ} {counts : Int32} (low : -2 ^ 15 ≤ counts.toInt - before)
    (high : counts.toInt - before < 2 ^ 15) :
    measured (before : ℚ) counts = way counts.toInt - way before := by
  have exact_difference : ((counts.toInt : ℚ) - before) = ((counts.toInt - before : ℤ) : ℚ) := by
    push_cast
    rfl
  rw [measured, ← ecountToDistance_of_fits low high]
  change ecountToDistance (Int16.ofInt (trunc ((counts.toInt : ℚ) - before))) = _
  rw [exact_difference, trunc_intCast]

theorem reached_iff (target moved : ℚ) : reached target moved = true ↔ Reached target moved := by
  rw [reached, Reached]
  by_cases ahead : 0 < target
  · rw [if_pos ((lt_iff (lit 0) target).mpr ahead), if_pos ahead, le_iff]
  · rw [if_neg (by rwa [lt_iff, lit_eq]), if_neg ahead, le_iff]

/-- A positive duty is turned around exactly if the target is not ahead. -/
theorem signedDuty_neg_iff {duty : Int16} (forward : 0 < duty) (targetPos : ℚ) :
    signedDuty targetPos duty < 0 ↔ ¬ 0 < targetPos := by
  have positive : 0 < duty.toInt := Int16.lt_iff_toInt_lt.mp forward
  have range : duty.toInt < 2 ^ 15 := duty.toInt_lt
  by_cases ahead : 0 < targetPos
  · rw [signedDuty, if_pos ((lt_iff (lit 0) targetPos).mpr ahead)]
    refine iff_of_false ?_ (not_not.mpr ahead)
    rw [Int16.lt_iff_toInt_lt]
    change ¬ duty.toInt < 0
    omega
  · rw [signedDuty, if_neg (by rwa [lt_iff, lit_eq])]
    refine iff_of_true ?_ ahead
    rw [Int16.lt_iff_toInt_lt, Int16.toInt_mul]
    change (-1 * duty.toInt).bmod (2 ^ 16) < 0
    rw [Int.bmod_eq_of_le (by omega) (by omega)]
    omega

theorem duty_pos {velocity offset slope : ℚ} (up : 0 < slope) (slow : slope ≤ velocity - offset)
    (fast : velocity < offset + slope * 2 ^ 15) :
    0 < Int16.ofInt (trunc ((velocity - offset) / slope)) := by
  have low : 1 ≤ (velocity - offset) / slope := (one_le_div₀ up).mpr slow
  have high : (velocity - offset) / slope < 2 ^ 15 := by
    rw [div_lt_iff₀ up]
    linarith
  have floor : trunc ((velocity - offset) / slope) = ⌊(velocity - offset) / slope⌋ :=
    if_neg (by linarith)
  have atLeast : 1 ≤ ⌊(velocity - offset) / slope⌋ := Int.le_floor.mpr (by exact_mod_cast low)
  have atMost : ⌊(velocity - offset) / slope⌋ < 2 ^ 15 :=
    Int.floor_lt.mpr (by exact_mod_cast high)
  rw [floor, Int16.lt_iff_toInt_lt, Int16.toInt_ofInt_of_le (by omega) (by omega)]
  exact atLeast

/-- The outer wheel of an arc is faster than the inner one. -/
theorem outer_speed_ge {linear angular : ℚ} (far : 0.04 ≤ linear) (turning : 0 < angular) :
    0.1 ≤ angular * (linear / angular + wheelBase) / (linear / lit 0.1) := by
  have positive : 0 < linear := by linarith
  have wide := wheelBase_pos
  have time : 0 < linear / (0.1 : ℚ) := by positivity
  rw [lit_eq, le_div_iff₀ time, mul_add, mul_div_cancel₀ linear turning.ne']
  have added : 0 < angular * wheelBase := mul_pos turning wide
  have inner : 0.1 * (linear / (0.1 : ℚ)) = linear := by ring
  linarith

/-- No distance command asks for a speed below the slowest duty. -/
theorem speeds_distanceTargets (linear angular : ℚ) :
    0.05 ≤ (distanceTargets linear angular).velocities.left ∧
      0.05 ≤ (distanceTargets linear angular).velocities.right := by
  rw [distanceTargets]
  split
  · change (0.05 : ℚ) ≤ (75 : ℤ) * 0.0033 + 0.0133 ∧ (0.05 : ℚ) ≤ (75 : ℤ) * 0.0034 + 0.0133
    norm_num
  simp only [abs_of_corrected]
  split
  · split
    all_goals
      change (0.05 : ℚ) ≤ (25 : ℤ) * 0.0033 + 0.0133 ∧ (0.05 : ℚ) ≤ (25 : ℤ) * 0.0034 + 0.0133
      norm_num
  · rename_i curved short
    rw [lt_iff, not_lt] at short
    split
    · rename_i left
      rw [lt_iff] at left
      have outer := outer_speed_ge short left
      exact ⟨by norm_num, by linarith⟩
    · rename_i right
      rw [lt_iff, not_lt, lit_eq] at right
      rw [isStraight, Bool.and_eq_true, lt_iff, lt_iff, not_and_or, not_lt, not_lt, lit_eq,
        lit_eq] at curved
      have negative : angular < 0 := by
        rcases curved with above | below
        · linarith
        · linarith
      have outer := outer_speed_ge short (show 0 < angular * lit (-1) by rw [lit_eq]; linarith)
      exact ⟨by linarith, by norm_num⟩

/-- The speeds asked for are not too fast for the `int16_t` duties. -/
def Targets.DutiesFit (targets : Targets ℚ) : Prop :=
  targets.velocities.left < 0.0133 + 0.0033 * 2 ^ 15 ∧
    targets.velocities.right < 0.0133 + 0.0034 * 2 ^ 15

/-- The duties of the speeds asked for turn both wheels forward. -/
def Targets.Forward (targets : Targets ℚ) : Prop :=
  0 < velocityToDutyCycleLeft targets.velocities.left ∧
    0 < velocityToDutyCycleRight targets.velocities.right

theorem forward_of_fit {linear angular : ℚ} (fit : (distanceTargets linear angular).DutiesFit) :
    (distanceTargets linear angular).Forward := by
  obtain ⟨left, right⟩ := speeds_distanceTargets linear angular
  constructor
  · exact duty_pos (by norm_num) (by rw [lit_eq, lit_eq]; linarith) fit.1
  · exact duty_pos (by norm_num) (by rw [lit_eq, lit_eq]; linarith) fit.2

/-- The journey is on the way from the counts `base` to the targets, and was last
measured at the counts `latest`. -/
structure Journey.OnTheWay (j : Journey ℚ) (base latest : Wheels ℤ) (targets : Targets ℚ) :
    Prop where
  running : j.firstTime = false
  ticksLOld : j.ticksLOld = latest.left
  ticksROld : j.ticksROld = latest.right
  left : (Tracker.mk j.ctrLeftMotor.targetPos (way latest.left)).Follows (way base.left)
    targets.distanceLeft
  right : (Tracker.mk j.ctrRightMotor.targetPos (way latest.right)).Follows (way base.right)
    targets.distanceRight
  speedLeft : j.ctrLeftMotor.targetVel = targets.velocities.left
  speedRight : j.ctrRightMotor.targetVel = targets.velocities.right

section Execution

variable {base latest : Wheels ℤ} {targets : Targets ℚ} {s after : State ℚ}

/-- The handler measures the pieces, and so finds out whether the whole way is done. -/
theorem doneMoving_iff (going : s.journey.OnTheWay base latest targets)
    (piece : FitsInt16 latest after.counts) (whole : FitsInt16 base after.counts) :
    doneMoving s after = true ↔
      TargetReached targets.distances (displacement base after.counts) := by
  have left : s.locals.ticksLOld = latest.left := going.ticksLOld
  have right : s.locals.ticksROld = latest.right := going.ticksROld
  rw [doneMoving, Bool.or_eq_true, reached_iff, reached_iff, left, right,
    measured_of_fits piece.1.1 piece.1.2, measured_of_fits piece.2.1 piece.2.2, TargetReached,
    displacement, ecountToDistance_of_fits whole.1.1 whole.1.2,
    ecountToDistance_of_fits whole.2.1 whole.2.2]
  exact or_congr (going.left.reached_iff _) (going.right.reached_iff _)

/-- A piece that is not the last one leaves the journey on its way. -/
theorem Journey.OnTheWay.travel (going : s.journey.OnTheWay base latest targets)
    (piece : FitsInt16 latest after.counts) (whole : FitsInt16 base after.counts)
    (short : ¬ TargetReached targets.distances (displacement base after.counts)) :
    (s.journey.travel after.encoders).OnTheWay base after.counts targets := by
  rw [TargetReached, displacement, ecountToDistance_of_fits whole.1.1 whole.1.2,
    ecountToDistance_of_fits whole.2.1 whole.2.2, not_or] at short
  have left : measured s.journey.ticksLOld after.encoders.leftCounts =
      way after.counts.left - way latest.left := by
    rw [going.ticksLOld]
    exact measured_of_fits piece.1.1 piece.1.2
  have right : measured s.journey.ticksROld after.encoders.rightCounts =
      way after.counts.right - way latest.right := by
    rw [going.ticksROld]
    exact measured_of_fits piece.2.1 piece.2.2
  refine ⟨going.running, rfl, rfl, ?_, ?_, going.speedLeft, going.speedRight⟩
  · rw [Journey.travel, left]
    exact going.left.advance short.1
  · rw [Journey.travel, right]
    exact going.right.advance short.2

theorem underway_of_travel (going : s.journey.OnTheWay base latest targets)
    (piece : FitsInt16 latest after.counts) (whole : FitsInt16 base after.counts)
    (forward : targets.Forward)
    (short : ¬ TargetReached targets.distances (displacement base after.counts))
    (journey : after.journey = s.journey.travel after.encoders)
    (active : after.flags.mfMotorDistControl.active = true)
    (motors : after.motors = driveMotors (F := ℚ)
      (signedDuty after.ctrLeftMotor.targetPos
        (velocityToDutyCycleLeft s.ctrLeftMotor.targetVel))
      (signedDuty after.ctrRightMotor.targetPos
        (velocityToDutyCycleRight s.ctrRightMotor.targetVel)) s.motors) :
    Underway targets.distances (displacement base after.counts) after := by
  have next : after.journey.OnTheWay base after.counts targets := by
    rw [journey]
    exact going.travel piece whole short
  have speedLeft : s.ctrLeftMotor.targetVel = targets.velocities.left := going.speedLeft
  have speedRight : s.ctrRightMotor.targetVel = targets.velocities.right := going.speedRight
  rw [speedLeft, speedRight] at motors
  refine ⟨active, ?_, ?_, ?_, ?_⟩
  · rw [motors]
    exact not_disabled_motorPwmEnable_true _
  · rw [displacement, ecountToDistance_of_fits whole.1.1 whole.1.2,
      ecountToDistance_of_fits whole.2.1 whole.2.2]
    exact congrArg₂ Wheels.mk next.left.remaining next.right.remaining
  · rw [motors, backwardLeft_driveMotors, decide_eq_true_eq, signedDuty_neg_iff forward.1]
    exact not_congr next.left.ahead
  · rw [motors, backwardRight_driveMotors, decide_eq_true_eq, signedDuty_neg_iff forward.2]
    exact not_congr next.right.ahead

theorem distance_step (going : s.journey.OnTheWay base latest targets)
    (piece : FitsInt16 latest after.counts) (whole : FitsInt16 base after.counts)
    (forward : targets.Forward) (step : DistOutcome s after) :
    DistanceOutcome targets.distances (displacement base after.counts) after ∧
      (¬ TargetReached targets.distances (displacement base after.counts) →
        after.journey.OnTheWay base after.counts targets) := by
  have done := doneMoving_iff going piece whole
  cases step with
  | baseline first journey drive => cases going.running.symm.trans first
  | done running arrived active motors =>
      have there := done.mp arrived
      have off : after.motors.Disabled := by
        rw [motors]
        exact disabled_motorPwmEnable_false _
      exact ⟨⟨fun _ => ⟨active, off⟩, fun short => absurd there short⟩,
        fun short => absurd there short⟩
  | travel running waiting journey active motors =>
      have short : ¬ TargetReached targets.distances (displacement base after.counts) := by
        rw [← done, waiting]
        exact Bool.false_ne_true
      have next : after.journey.OnTheWay base after.counts targets := by
        rw [journey]
        exact going.travel piece whole short
      exact ⟨⟨fun there => absurd there short, fun _ =>
        underway_of_travel going piece whole forward short journey active motors⟩, fun _ => next⟩

end Execution

end Exact

end ZumoDelivery
