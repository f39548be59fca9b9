import ZumoDelivery.Application.Sensors
import ZumoDelivery.Application.StopCommand
import ZumoDelivery.Application.TimedDrive

set_option autoImplicit false

namespace ZumoDelivery

open Latest FloatArith

def checkedVoltage (env : Env) (time : ℕ) : ℚ :=
  (latest (sampleAt env) time).getD (batteryVoltage (deviceTrace (F := ℚ) env 0).batteryFilter)

/-- Every command that drives has passed the battery check. -/
theorem good_of_acceptedBy {volts : ℚ} {message : Dispatch} {command : DriveCommand ℚ}
    (accepts : acceptedBy volts message = some command) (drives : command.drives = true) :
    4.75 ≤ volts := by
  have checked {accepted : Option (DriveCommand ℚ)}
      (accepts : (if le (lit 4.75) volts = true then accepted else none) = some command) :
      4.75 ≤ volts := by
    by_cases good : le (lit 4.75) volts = true
    · exact (le_iff _ _).mp good
    · rw [if_neg good] at accepts
      cases accepts
  unfold acceptedBy at accepts
  dsimp only at accepts
  split at accepts
  all_goals first
    | exact checked accepts
    | (cases accepts; cases drives)
    | cases accepts

theorem good_of_acceptedAt {env : Env} {time : ℕ} {command : DriveCommand ℚ}
    (accepts : acceptedAt ℚ env time = some command) (drives : command.drives = true) :
    4.75 ≤ checkedVoltage env time := by
  rw [acceptedAt] at accepts
  split at accepts
  · obtain ⟨message, -, accepted⟩ := Option.bind_eq_some_iff.mp accepts
    rw [checkedVoltage, ← voltage_deviceTrace]
    exact good_of_acceptedBy accepted drives
  · cases accepts

/-- Unless the last motor command drives, nothing moves. -/
theorem stopped_of_latest (env : Env) (time : ℕ)
    (idle : ∀ command ∈ latest (acceptedAt ℚ env) time, command.drives = false) :
    (deviceTrace (F := ℚ) env time).drive.Stopped := by
  induction time with
  | zero =>
      refine ⟨rfl, rfl, rfl, rfl, rfl, (State.enabled_eq_false_iff _).mpr ?_⟩
      change (motorPwmInit 0x190 (deviceReset (F := ℚ)).motors).Disabled
      decide +kernel
  | succ time ih =>
      rw [latest] at idle
      cases driveStep (F := ℚ) env time with
      | move quiet step =>
          rw [quiet, Option.none_or] at idle
          exact (ih idle).move step
      | restart quiet restarts same =>
          rw [quiet, Option.none_or] at idle
          rw [same]
          exact (ih idle).restart
      | command command accepts same =>
          rw [accepts, Option.some_or] at idle
          have stops := idle command rfl
          rw [same]
          cases command with
          | stop => exact Drive.Stopped.accept_stop _ _ _
          | _ => cases stops

/-- The motors are driven only on behalf of the last accepted motor command, one that drives and
that found the latest sample of the battery good. -/
theorem driven_by_command (env : Env) (time : ℕ)
    (driven : ¬ (deviceTrace (F := ℚ) env time).motors.Disabled) :
    ∃ start < time, ∃ command, acceptedAt ℚ env start = some command ∧ command.drives = true ∧
      4.75 ≤ checkedVoltage env start ∧
      ∀ later, start < later → later < time → acceptedAt ℚ env later = none := by
  have commanded : ∃ command ∈ latest (acceptedAt ℚ env) time, command.drives = true := by
    by_contra idle
    have stopped := stopped_of_latest env time fun command last =>
      Bool.eq_false_of_not_eq_true fun drives => idle ⟨command, last, drives⟩
    exact driven ((State.enabled_eq_false_iff _).mp stopped.disabled)
  obtain ⟨command, last, drives⟩ := commanded
  obtain ⟨start, before, accepts, rest⟩ := latest_eq_some_iff.mp last
  exact ⟨start, before, command, accepts, drives, good_of_acceptedAt accepts drives, rest⟩

set_option maxRecDepth 20000 in
/-- Half duty has been asked for. -/
theorem driven_by_command_bench :
    ∃ start < 152, ∃ command,
      acceptedAt ℚ (Env.bench halfSpeedOneSecond jumpingClock) start = some command ∧
      command.drives = true ∧
      4.75 ≤ checkedVoltage (Env.bench halfSpeedOneSecond jumpingClock) start ∧
      ∀ later, start < later → later < 152 →
        acceptedAt ℚ (Env.bench halfSpeedOneSecond jumpingClock) later = none :=
  driven_by_command (Env.bench halfSpeedOneSecond jumpingClock) 152 (by decide +kernel)

end ZumoDelivery
