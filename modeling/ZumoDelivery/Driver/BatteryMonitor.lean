import Mathlib.Tactic.NormNum
import ZumoDelivery.Driver.FilterHistory

set_option autoImplicit false

namespace ZumoDelivery

open DifferenceEquation (History push)

/-- The monitor after `calls` runs of its task, the ADC always reading the same. -/
def batteryAfter {F : Type} [FloatArith F] (filt : FilterData F) (adc : UInt16) :
    ℕ → FilterData F
  | 0 => batteryMonitorInit filt adc
  | calls + 1 => (batteryVoltageTask (batteryAfter filt adc calls) adc).2

theorem represents_batteryMonitorInit {F : Type} [FloatArith F] (filt : FilterData F)
    (adc : UInt16) :
    (batteryMonitorInit filt adc).Represents batteryACoeff batteryBCoeff 3
      (.const (batteryVoltageOneshot adc)) := by
  obtain ⟨after, called, held⟩ := represents_filterSetTo
    (represents_filterInit filt batteryACoeff batteryBCoeff 2 (by decide)) (by decide)
    (batteryVoltageOneshot adc)
  rw [batteryMonitorInit, called]
  exact held

section Exact

theorem batteryACoeff_zero : (batteryACoeff 0 : ℚ) = 1 := rfl

/-- The numerator sums to 0.00377876, the denominator to 0.0038. -/
theorem battery_coeffs_differ :
    ∑ i ∈ Finset.range 3, (batteryBCoeff i : ℚ) - ∑ i ∈ Finset.range 3, (batteryACoeff i : ℚ) =
      -2124 / 10 ^ 8 := by
  rw [Finset.sum_range_succ, Finset.sum_range_succ, Finset.sum_range_one,
    Finset.sum_range_succ, Finset.sum_range_succ, Finset.sum_range_one]
  change (9.4469e-4 + 18.8938e-4 + 9.4469e-4 - (1 + -1.9112 + 0.9150) : ℚ) = _
  norm_num

theorem batteryVoltageOneshot_eq_zero_iff (adc : UInt16) :
    (batteryVoltageOneshot adc : ℚ) = 0 ↔ adc = 0 := by
  change ((adc.toNat : ℤ) : ℚ) * 0.004887585533 = 0 ↔ adc = 0
  rw [mul_eq_zero, or_iff_left (by norm_num), Int.cast_eq_zero, Int.natCast_eq_zero,
    ← UInt16.toNat_inj]
  rfl

theorem represents_batteryAfter_zero (filt : FilterData ℚ) (calls : ℕ) :
    (batteryAfter filt 0 calls).Represents batteryACoeff batteryBCoeff 3 (.const 0) := by
  have silent : (batteryVoltageOneshot 0 : ℚ) = 0 :=
    (batteryVoltageOneshot_eq_zero_iff 0).mpr rfl
  induction calls with
  | zero =>
      rw [← silent]
      exact represents_batteryMonitorInit filt 0
  | succ calls ih =>
      have zero : DifferenceEquation.output (batteryACoeff : ℕ → ℚ) batteryBCoeff 2
          (.const 0) 0 = 0 := by
        rw [DifferenceEquation.output_const_iff 2 (by rw [batteryACoeff_zero]; norm_num)]
        exact zero_mul _
      have next := (filterValue_eq ih (by decide) 0).2
      rw [zero] at next
      simp only [History.const, DifferenceEquation.push_const] at next
      rw [batteryAfter, batteryVoltageTask, silent]
      exact next

/-- The filter passes no constant voltage but zero. -/
theorem battery_constant_iff (filt : FilterData ℚ) (adc : UInt16) :
    (∀ calls, batteryVoltage (batteryAfter filt adc calls) = batteryVoltageOneshot adc) ↔
      adc = 0 := by
  constructor
  · intro constant
    have started := represents_batteryMonitorInit filt adc
    have once := constant 1
    have next := filterLastOutput_eq
      (filterValue_eq started (by decide) (batteryVoltageOneshot adc)).2
    change batteryVoltage (batteryAfter filt adc 1) = DifferenceEquation.output _ _ _ _ _ at next
    rw [next, DifferenceEquation.output_const_iff 2 (by rw [batteryACoeff_zero]; norm_num),
      battery_coeffs_differ, mul_eq_zero, or_iff_left (by norm_num)] at once
    exact (batteryVoltageOneshot_eq_zero_iff adc).mp once
  · intro zero calls
    subst zero
    rw [(batteryVoltageOneshot_eq_zero_iff 0).mpr rfl]
    exact filterLastOutput_eq (represents_batteryAfter_zero filt calls)

/-- A steady full reading of 1023 is reported lower after one run of the task. -/
theorem battery_not_constant :
    ¬ ∀ (filt : FilterData ℚ) (adc : UInt16) (calls : ℕ),
      batteryVoltage (batteryAfter filt adc calls) = batteryVoltageOneshot adc := by
  intro constant
  have once := constant filterStatic 1023 1
  revert once
  decide +kernel

end Exact

end ZumoDelivery
