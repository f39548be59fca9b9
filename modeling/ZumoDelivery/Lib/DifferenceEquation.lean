import Mathlib.Algebra.BigOperators.Intervals
import Mathlib.Algebra.BigOperators.Ring.Finset
import Mathlib.Algebra.Field.Basic
import Mathlib.Tactic.LinearCombination

set_option autoImplicit false

/- Digital filters given by a difference equation, as they act on the whole past. -/
namespace DifferenceEquation

variable {K : Type}

/-- The past inputs and outputs, newest first. -/
structure History (K : Type) where
  inputs : ℕ → K
  outputs : ℕ → K

def push (value : K) (values : ℕ → K) : ℕ → K
  | 0 => value
  | i + 1 => values i

inductive Op (K : Type) where
  | value (input : K)
  | setTo (amount : K)
  | shiftBy (amount : K)

theorem push_const (value : K) : push value (fun _ => value) = fun _ => value := by
  funext i
  cases i <;> rfl

def History.const (value : K) : History K := ⟨fun _ => value, fun _ => value⟩

variable [Field K]

def History.zero : History K := .const 0

/-- The difference equation holds of the newest output. -/
def Solves (a b : ℕ → K) (order : ℕ) (history : History K) : Prop :=
  a 0 * history.outputs 0 = ∑ i ∈ Finset.Icc 0 order, b i * history.inputs i -
    ∑ i ∈ Finset.Icc 1 order, a i * history.outputs i

inductive Step (a b : ℕ → K) (order : ℕ) (history : History K) :
    Op K → Option K → History K → Prop where
  | value (input output : K)
      (solves : Solves a b order ⟨push input history.inputs, push output history.outputs⟩) :
      Step a b order history (.value input) (some output)
        ⟨push input history.inputs, push output history.outputs⟩
  | setTo (amount : K) :
      Step a b order history (.setTo amount) none (.const amount)
  | shiftBy (amount : K) :
      Step a b order history (.shiftBy amount) none
        ⟨fun i => history.inputs i + amount, fun i => history.outputs i + amount⟩

/-- The output that solves the equation, in terms of the past before it. -/
def output (a b : ℕ → K) (order : ℕ) (history : History K) (input : K) : K :=
  (∑ i ∈ Finset.range (order + 1), b i * push input history.inputs i -
    ∑ i ∈ Finset.range order, a (i + 1) * history.outputs i) / a 0

theorem solves_output {a b : ℕ → K} (order : ℕ) (leading : a 0 ≠ 0) (history : History K)
    (input : K) :
    Solves a b order
      ⟨push input history.inputs, push (output a b order history input) history.outputs⟩ := by
  have numerator : ∑ i ∈ Finset.Icc 0 order, b i * push input history.inputs i =
      ∑ i ∈ Finset.range (order + 1), b i * push input history.inputs i := by
    rw [Nat.range_succ_eq_Icc_zero]
  have denominator : ∑ i ∈ Finset.Icc 1 order,
        a i * push (output a b order history input) history.outputs i =
      ∑ i ∈ Finset.range order, a (i + 1) * history.outputs i := by
    rw [← Finset.Ico_add_one_right_eq_Icc, Finset.sum_Ico_eq_sum_range, Nat.add_sub_cancel]
    apply Finset.sum_congr rfl
    intro i _
    rw [Nat.add_comm 1 i]
    rfl
  rw [Solves, numerator, denominator]
  exact mul_div_cancel₀ _ leading

/-- A constant signal passes unchanged exactly when the coefficients have equal sums. -/
theorem output_const_iff {a b : ℕ → K} (order : ℕ) (leading : a 0 ≠ 0) (value : K) :
    output a b order (.const value) value = value ↔
      value * (∑ i ∈ Finset.range (order + 1), b i - ∑ i ∈ Finset.range (order + 1), a i) = 0 := by
  rw [output, div_eq_iff leading, Finset.sum_range_succ' a]
  simp only [History.const, push_const, ← Finset.sum_mul]
  constructor
  · intro equal
    linear_combination equal
  · intro equal
    linear_combination equal

/-- Two accumulators over one loop, the second fed only in its first passes. -/
theorem foldl_sums (top bottom : ℕ → K) (limit passes : ℕ) :
    (List.range passes).foldl
        (fun sums i => (sums.1 + top i, if i < limit then sums.2 + bottom i else sums.2))
        ((0, 0) : K × K) =
      (∑ i ∈ Finset.range passes, top i, ∑ i ∈ Finset.range (min limit passes), bottom i) := by
  induction passes with
  | zero => simp
  | succ passes ih =>
      rw [List.range_succ, List.foldl_append, ih, Finset.sum_range_succ]
      by_cases fed : passes < limit
      · simp [fed, show min limit passes = passes by omega, Finset.sum_range_succ]
      · simp [fed, show min limit (passes + 1) = limit by omega,
          show min limit passes = limit by omega]

end DifferenceEquation
