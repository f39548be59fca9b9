import Mathlib.Tactic.IntervalCases
import ZumoDelivery.Driver.WheelDirection
import ZumoDelivery.Application.Motors
import ZumoDelivery.Application.VelocityRun

set_option autoImplicit false

namespace ZumoDelivery

theorem leftDriven_driveMotors (left right : Int16) (pwm : MotorPwm) (top : pwm.icr1 = 400) :
    (driveMotors (F := ℚ) left right pwm).leftDriven ↔ compareOf left ≠ 400 := by
  obtain ⟨kept, set, -⟩ := motorPwmLeft_eq left pwm top
  obtain ⟨-, -, other⟩ := motorPwmRight_eq right (motorPwmLeft ℚ left pwm) kept
  rw [MotorPwm.leftDriven, top_driveMotors, top, ← set, ← other]
  exact Iff.rfl

theorem rightDriven_driveMotors (left right : Int16) (pwm : MotorPwm) (top : pwm.icr1 = 400) :
    (driveMotors (F := ℚ) left right pwm).rightDriven ↔ compareOf right ≠ 400 := by
  have kept := (motorPwmLeft_eq left pwm top).1
  obtain ⟨-, set, -⟩ := motorPwmRight_eq right (motorPwmLeft ℚ left pwm) kept
  rw [MotorPwm.rightDriven, top_driveMotors, top, ← set]
  exact Iff.rfl

theorem motors_velControlHandler (env : Env) (s : State ℚ)
    (due : s.flags.mfMotorVelControl.due env s = true) (measured : s.locals.firstTime = false) :
    (velControlHandler env s).motors = driveMotors (F := ℚ)
      (Int16.ofInt (wideDuty 0.0033 s.targetVelocities.left))
      (Int16.ofInt (wideDuty 0.0034 s.targetVelocities.right)) s.motors := by
  have execution := Execution.velControlHandler due
  generalize velControlHandler env s = after at execution ⊢
  cases execution with
  | velBaseline first => cases measured.symm.trans first
  | velStep => rfl

/-- The direction of each wheel goes with its target. -/
def State.LeftDirected (s : State ℚ) (target : ℚ) : Prop :=
  DirectionLaw target s.motors.backwardLeft s.motors.leftDriven

def State.RightDirected (s : State ℚ) (target : ℚ) : Prop :=
  DirectionLaw target s.motors.backwardRight s.motors.rightDriven

/-- An execution after the baseline drives each wheel in its direction exactly outside of a
band of slow targets. -/
theorem directed_velControlHandler (env : Env) (s : State ℚ)
    (due : s.flags.mfMotorVelControl.due env s = true) (measured : s.locals.firstTime = false)
    (top : s.top = 400) :
    (DutyFits 0.0033 s.targetVelocities.left →
        ((velControlHandler env s).LeftDirected s.targetVelocities.left ↔
          s.targetVelocities.left < 0 ∨ 0.01 < s.targetVelocities.left)) ∧
      (DutyFits 0.0034 s.targetVelocities.right →
        ((velControlHandler env s).RightDirected s.targetVelocities.right ↔
          s.targetVelocities.right < 0 ∨ 0.0099 < s.targetVelocities.right)) := by
  rw [State.LeftDirected, State.RightDirected, motors_velControlHandler env s due measured,
    backwardLeft_driveMotors, backwardRight_driveMotors, leftDriven_driveMotors _ _ _ top,
    rightDriven_driveMotors _ _ _ top]
  constructor
  · intro fits
    rw [directionLaw_iff (by norm_num) (by norm_num) fits]
    norm_num
  · intro fits
    rw [directionLaw_iff (by norm_num) (by norm_num) fits]
    norm_num

/-- The targets of a velocity command decide the directions until the next command. -/
theorem velocity_direction_iff (env : Env) (start time : ℕ) (velocity angular : ℚ)
    (task : stageAt start = some .messageHandling)
    (asked : Accepts ['v', 'V'] (deviceTrace env start) velocity angular) (later : start < time)
    (kept : ∀ between, start < between → between < time → acceptedAt ℚ env between = none)
    (executes : VelExecutesAt ℚ env time)
    (measured : (deviceTrace (F := ℚ) env time).locals.firstTime = false) :
    (DutyFits 0.0033 (velocityTargets velocity angular).speeds.left →
        ((deviceTrace env (time + 1)).LeftDirected (velocityTargets velocity angular).speeds.left ↔
          (velocityTargets velocity angular).speeds.left < 0 ∨
            0.01 < (velocityTargets velocity angular).speeds.left)) ∧
      (DutyFits 0.0034 (velocityTargets velocity angular).speeds.right →
        ((deviceTrace env (time + 1)).RightDirected
            (velocityTargets velocity angular).speeds.right ↔
          (velocityTargets velocity angular).speeds.right < 0 ∨
            0.0099 < (velocityTargets velocity angular).speeds.right)) := by
  obtain ⟨here, due⟩ := executes
  have held := (steadyAt_since later (steadyAt_of_accepts task asked) kept).held
  rw [← held (MsgFlag.active_of_due due), deviceTrace_succ here]
  exact directed_velControlHandler env _ due measured (top_deviceTrace env time)

/-- A bench test that asks for a velocity straight on over and over. -/
def Env.speeds (velocity : List UInt8) : Env :=
  Env.bench (118 :: velocity ++ [0, 0, 0, 0]) fun look => 10 * look

/-- Half a metre per second. -/
theorem velocity_direction_iff_half :
    ((deviceTrace (Env.speeds [0, 0, 0, 63]) 167).LeftDirected
          (velocityTargets 0.5 0).speeds.left ↔
        (velocityTargets (0.5 : ℚ) 0).speeds.left < 0 ∨
          0.01 < (velocityTargets (0.5 : ℚ) 0).speeds.left) ∧
      ((deviceTrace (Env.speeds [0, 0, 0, 63]) 167).RightDirected
          (velocityTargets 0.5 0).speeds.right ↔
        (velocityTargets (0.5 : ℚ) 0).speeds.right < 0 ∨
          0.0099 < (velocityTargets (0.5 : ℚ) 0).speeds.right) := by
  have asked : Accepts ['v', 'V'] (deviceTrace (F := ℚ) (Env.speeds [0, 0, 0, 63]) 137) 0.5 0 :=
    ⟨118, [0, 0, 0, 63, 0, 0, 0, 0], by decide +kernel⟩
  have kept : ∀ between, 137 < between → between < 166 →
      acceptedAt ℚ (Env.speeds [0, 0, 0, 63]) between = none := by
    intro between lower upper
    interval_cases between
    all_goals decide +kernel
  obtain ⟨left, right⟩ := velocity_direction_iff _ 137 166 0.5 0 (by decide) asked (by omega) kept
    (by decide +kernel) (by decide +kernel)
  exact ⟨left (by decide +kernel), right (by decide +kernel)⟩

/-- A command to stand still drives both wheels backward. -/
theorem not_velocity_direction :
    ¬ ∀ (env : Env) (start time : ℕ) (velocity angular : ℚ),
      stageAt start = some .messageHandling →
      Accepts ['v', 'V'] (deviceTrace env start) velocity angular → start < time →
      (∀ between, start < between → between < time → acceptedAt ℚ env between = none) →
      VelExecutesAt ℚ env time → (deviceTrace (F := ℚ) env time).locals.firstTime = false →
      DutyFits 0.0033 (velocityTargets velocity angular).speeds.left →
      DutyFits 0.0034 (velocityTargets velocity angular).speeds.right →
      (deviceTrace env (time + 1)).LeftDirected (velocityTargets velocity angular).speeds.left ∧
        (deviceTrace env (time + 1)).RightDirected
          (velocityTargets velocity angular).speeds.right := by
  intro directed
  have asked : Accepts ['v', 'V'] (deviceTrace (F := ℚ) (Env.speeds [0, 0, 0, 0]) 137) 0 0 :=
    ⟨118, [0, 0, 0, 0, 0, 0, 0, 0], by decide +kernel⟩
  have kept : ∀ between, 137 < between → between < 166 →
      acceptedAt ℚ (Env.speeds [0, 0, 0, 0]) between = none := by
    intro between lower upper
    interval_cases between
    all_goals decide +kernel
  have law := (directed _ 137 166 0 0 (by decide) asked (by omega) kept (by decide +kernel)
    (by decide +kernel) (by decide +kernel) (by decide +kernel)).1
  exact law.noReverse (by decide +kernel) (by decide +kernel)

end ZumoDelivery
