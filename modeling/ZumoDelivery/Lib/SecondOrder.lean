import Mathlib.Algebra.Order.Archimedean.Basic
import Mathlib.Tactic.Linarith
import Mathlib.Tactic.Positivity
import Mathlib.Tactic.Ring

set_option autoImplicit false

/- Sequences in which every term is a fixed combination of the two before it. -/
namespace SecondOrder

variable {K : Type} [Field K]

def Follows (p q : K) (x : ℕ → K) : Prop := ∀ n, x (n + 2) = p * x (n + 1) - q * x n

/-- A quadratic form of two neighbours that every step multiplies by `q`. -/
def energy (p q newer older : K) : K := newer ^ 2 - p * newer * older + q * older ^ 2

variable {p q : K} {x : ℕ → K}

theorem energy_step (newer older : K) :
    energy p q (p * newer - q * older) newer = q * energy p q newer older := by
  unfold energy
  ring

theorem Follows.energy_eq (follows : Follows p q x) (n : ℕ) :
    energy p q (x (n + 1)) (x n) = q ^ n * energy p q (x 1) (x 0) := by
  induction n with
  | zero => rw [pow_zero, one_mul]
  | succ n ih => rw [follows n, energy_step, ih, pow_succ' q n, mul_assoc]

variable [LinearOrder K] [IsStrictOrderedRing K]

/-- Completing the square bounds the older term. -/
theorem mul_sq_le_energy (newer older : K) :
    (q - p ^ 2 / 4) * older ^ 2 ≤ energy p q newer older := by
  have completed : energy p q newer older =
      (newer - p / 2 * older) ^ 2 + (q - p ^ 2 / 4) * older ^ 2 := by
    unfold energy
    ring
  rw [completed]
  exact le_add_of_nonneg_left (sq_nonneg _)

theorem Follows.sq_le (follows : Follows p q x) (n : ℕ) :
    (q - p ^ 2 / 4) * x n ^ 2 ≤ q ^ n * energy p q (x 1) (x 0) := by
  rw [← follows.energy_eq n]
  exact mul_sq_le_energy (x (n + 1)) (x n)

/-- With a conjugate pair of poles inside the unit circle the sequence tends to 0. -/
theorem Follows.settles [Archimedean K] (follows : Follows p q x) (oscillates : p ^ 2 < 4 * q)
    (stable : q < 1) {ε : K} (positive : 0 < ε) :
    ∃ start, ∀ n, start ≤ n → |x n| < ε := by
  have margin : 0 < q - p ^ 2 / 4 := by linarith
  have nonneg : 0 ≤ q := by linarith [sq_nonneg p]
  have initial : 0 ≤ energy p q (x 1) (x 0) :=
    le_trans (mul_nonneg margin.le (sq_nonneg _)) (mul_sq_le_energy (x 1) (x 0))
  have room : 0 < energy p q (x 1) (x 0) + 1 := by linarith
  have target : 0 < (q - p ^ 2 / 4) * ε ^ 2 / (energy p q (x 1) (x 0) + 1) := by positivity
  obtain ⟨start, small⟩ := exists_pow_lt_of_lt_one target stable
  refine ⟨start, fun n later => ?_⟩
  have decayed : q ^ n ≤ q ^ start := pow_le_pow_of_le_one nonneg stable.le later
  have below : q ^ n * energy p q (x 1) (x 0) < (q - p ^ 2 / 4) * ε ^ 2 :=
    calc q ^ n * energy p q (x 1) (x 0) ≤ q ^ n * (energy p q (x 1) (x 0) + 1) :=
          mul_le_mul_of_nonneg_left (by linarith) (pow_nonneg nonneg n)
      _ ≤ q ^ start * (energy p q (x 1) (x 0) + 1) :=
          mul_le_mul_of_nonneg_right decayed room.le
      _ < (q - p ^ 2 / 4) * ε ^ 2 := (lt_div_iff₀ room).mp small
  have squares : x n ^ 2 < ε ^ 2 :=
    lt_of_mul_lt_mul_left (lt_of_le_of_lt (follows.sq_le n) below) margin.le
  exact abs_lt_of_sq_lt_sq squares positive.le

end SecondOrder
