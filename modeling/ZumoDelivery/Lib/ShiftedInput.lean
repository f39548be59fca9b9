import Mathlib.Tactic.Ring
import ZumoDelivery.Lib.DifferenceEquation

set_option autoImplicit false

/- Difference equations seen from another zero. -/
namespace DifferenceEquation

variable {K : Type} [Field K]

def History.shift (history : History K) (amount : K) : History K :=
  ⟨fun i => history.inputs i + amount, fun i => history.outputs i + amount⟩

def Op.shift (amount : K) : Op K → Op K
  | .value input => .value (input + amount)
  | .setTo level => .setTo (level + amount)
  | .shiftBy step => .shiftBy step

theorem push_add (value amount : K) (values : ℕ → K) :
    push (value + amount) (fun i => values i + amount) = fun i => push value values i + amount := by
  funext i
  cases i <;> rfl

theorem History.shift_push (history : History K) (input output amount : K) :
    History.mk (push (input + amount) (history.shift amount).inputs)
        (push (output + amount) (history.shift amount).outputs) =
      (History.mk (push input history.inputs) (push output history.outputs)).shift amount := by
  simp only [shift, push_add]

theorem History.shift_shift (history : History K) (first second : K) :
    (history.shift first).shift second = (history.shift second).shift first := by
  simp only [shift, add_right_comm]

variable {a b : ℕ → K} {order : ℕ}

/-- A shift goes through up to the difference of the coefficient sums. -/
theorem output_shift (leading : a 0 ≠ 0) (history : History K) (input amount : K) :
    a 0 * (output a b order (history.shift amount) (input + amount) -
        (output a b order history input + amount)) =
      amount * (∑ i ∈ Finset.range (order + 1), b i - ∑ i ∈ Finset.range (order + 1), a i) := by
  have moved : push (input + amount) (history.shift amount).inputs =
      fun i => push input history.inputs i + amount := push_add input amount history.inputs
  rw [mul_sub, mul_add, output, output, mul_div_cancel₀ _ leading, mul_div_cancel₀ _ leading,
    moved, Finset.sum_range_succ' a]
  simp only [History.shift, mul_add, Finset.sum_add_distrib, ← Finset.sum_mul]
  ring

/-- A filter commutes with a shift exactly when its coefficients have equal sums. -/
theorem output_shift_iff (leading : a 0 ≠ 0) (history : History K) (input amount : K) :
    output a b order (history.shift amount) (input + amount) =
        output a b order history input + amount ↔
      amount * (∑ i ∈ Finset.range (order + 1), b i - ∑ i ∈ Finset.range (order + 1), a i) = 0 := by
  rw [← output_shift leading history input amount, mul_eq_zero, or_iff_right leading, sub_eq_zero]

end DifferenceEquation
