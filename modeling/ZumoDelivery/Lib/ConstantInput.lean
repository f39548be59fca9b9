import ZumoDelivery.Lib.DifferenceEquation
import ZumoDelivery.Lib.SecondOrder

set_option autoImplicit false

/- Difference equations whose input stays the same. -/
namespace DifferenceEquation

variable {K : Type} [Field K] (a b : ℕ → K) (order : ℕ)

/-- The past after more runs with one input. -/
def hold (input : K) (history : History K) : ℕ → History K
  | 0 => history
  | runs + 1 =>
      let before := hold input history runs
      ⟨push input before.inputs, push (output a b order before input) before.outputs⟩

variable {a b order}

theorem inputs_hold (input : K) (history : History K) {runs i : ℕ} (recent : i < runs) :
    (hold a b order input history runs).inputs i = input := by
  induction runs generalizing i with
  | zero => exact absurd recent (Nat.not_lt_zero i)
  | succ runs ih =>
      cases i with
      | zero => rfl
      | succ i => exact ih (Nat.lt_of_succ_lt_succ recent)

/-- Around its level a filter responds to a constant input as to silence. -/
theorem output_sub_level (leading : a 0 ≠ 0) {history : History K} {input level : K}
    (balanced : level * ∑ i ∈ Finset.range (order + 1), a i =
      input * ∑ i ∈ Finset.range (order + 1), b i)
    (flat : ∀ i < order, history.inputs i = input) :
    a 0 * (output a b order history input - level) =
      -∑ i ∈ Finset.range order, a (i + 1) * (history.outputs i - level) := by
  have fed : ∑ i ∈ Finset.range (order + 1), b i * push input history.inputs i =
      level * ∑ i ∈ Finset.range (order + 1), a i := by
    rw [balanced, Finset.mul_sum]
    apply Finset.sum_congr rfl
    intro i member
    have recent : push input history.inputs i = input := by
      cases i with
      | zero => rfl
      | succ i => exact flat i (Nat.lt_of_succ_lt_succ (Finset.mem_range.mp member))
    rw [recent, mul_comm]
  rw [output, fed, mul_sub, mul_div_cancel₀ _ leading, Finset.sum_range_succ' a]
  simp only [mul_sub, Finset.sum_sub_distrib, ← Finset.sum_mul]
  ring

/-- Past its first runs the distance of a second-order filter to its level follows its poles. -/
theorem follows_hold (leading : a 0 ≠ 0) {input level : K} (history : History K)
    (balanced : level * ∑ i ∈ Finset.range 3, a i = input * ∑ i ∈ Finset.range 3, b i) :
    SecondOrder.Follows (-(a 1 / a 0)) (a 2 / a 0)
      fun n => (hold a b 2 input history (n + 1)).outputs 0 - level := by
  intro n
  have flat : ∀ i < 2, (hold a b 2 input history (n + 2)).inputs i = input := by
    intro i below
    exact inputs_hold input history (by omega)
  have next := output_sub_level leading balanced flat
  rw [Finset.sum_range_succ, Finset.sum_range_one] at next
  have older : (hold a b 2 input history (n + 2)).outputs 1 =
      (hold a b 2 input history (n + 1)).outputs 0 := rfl
  rw [older] at next
  change output a b 2 (hold a b 2 input history (n + 2)) input - level =
    -(a 1 / a 0) * ((hold a b 2 input history (n + 2)).outputs 0 - level) -
      a 2 / a 0 * ((hold a b 2 input history (n + 1)).outputs 0 - level)
  field_simp
  linear_combination next

end DifferenceEquation
