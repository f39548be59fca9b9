import Mathlib.Data.Nat.Find
import Mathlib.Tactic.Common

set_option autoImplicit false

/- A measurement in two phases. A round that is due begins one if none is armed, and
ends the armed one if it is ready for the second phase. -/
namespace TwoPhase

variable (due ready armed : ℕ → Prop)

structure Rounds : Prop where
  idle : ¬ armed 0
  step : ∀ n, armed (n + 1) ↔ due n ∧ ¬ armed n ∨ armed n ∧ ¬ (due n ∧ ready n)

structure Begins (n : ℕ) : Prop where
  due : due n
  idle : ¬ armed n

structure Ends (n : ℕ) : Prop where
  due : due n
  ready : ready n
  armed : armed n

/-- A measurement that was begun in one round is still armed in another. -/
structure Pending (m n : ℕ) : Prop where
  begins : Begins due armed m
  ordered : m < n
  armed : ∀ i, m < i → i ≤ n → armed i

/-- The first round after another that is ready. -/
structure FirstReady (m n : ℕ) : Prop where
  ordered : m < n
  reached : ready n
  before : ∀ i, m < i → i < n → ¬ ready i

variable {due ready armed}

theorem exists_pending (rounds : Rounds due ready armed) {n : ℕ} (busy : armed n) :
    ∃ m, Pending due armed m n := by
  induction n with
  | zero => exact absurd busy rounds.idle
  | succ n ih =>
      rcases (rounds.step n).mp busy with ⟨begun, idle⟩ | ⟨earlier, -⟩
      · refine ⟨n, ⟨begun, idle⟩, Nat.lt_succ_self n, ?_⟩
        intro i lower upper
        rwa [show i = n + 1 by omega]
      · obtain ⟨m, pending⟩ := ih earlier
        refine ⟨m, pending.begins, Nat.lt_succ_of_lt pending.ordered, ?_⟩
        intro i lower upper
        rcases Nat.lt_or_eq_of_le upper with inside | last
        · exact pending.armed i lower (Nat.le_of_lt_succ inside)
        · rwa [last]

theorem Begins.pending (rounds : Rounds due ready armed) {m n : ℕ}
    (begins : Begins due armed m) (ordered : m < n)
    (waits : ∀ i, m < i → i < n → ¬ (due i ∧ ready i)) : Pending due armed m n := by
  refine ⟨begins, ordered, ?_⟩
  intro i lower upper
  induction lower with
  | refl => exact (rounds.step m).mpr (Or.inl ⟨begins.due, begins.idle⟩)
  | @step i lower ih =>
      have earlier := ih (Nat.le_of_succ_le upper)
      exact (rounds.step i).mpr (Or.inr ⟨earlier, waits i lower upper⟩)

theorem Pending.unique {l m n : ℕ} (first : Pending due armed l n)
    (second : Pending due armed m n) : l = m := by
  rcases Nat.lt_trichotomy l m with before | same | behind
  · exact absurd (first.armed m before (Nat.le_of_lt second.ordered)) second.begins.idle
  · exact same
  · exact absurd (second.armed l behind (Nat.le_of_lt first.ordered)) first.begins.idle

theorem FirstReady.unique {m k n : ℕ} (first : FirstReady ready m k)
    (second : FirstReady ready m n) : k = n := by
  rcases Nat.lt_trichotomy k n with before | same | behind
  · exact absurd first.reached (second.before k first.ordered before)
  · exact same
  · exact absurd second.reached (first.before n second.ordered behind)

theorem exists_firstReady (ready : ℕ → Prop) {m n : ℕ} (ordered : m < n) (here : ready n) :
    ∃ k ≤ n, FirstReady ready m k := by
  classical
  have some : ∃ k, m < k ∧ ready k := ⟨n, ordered, here⟩
  refine ⟨Nat.find some, Nat.find_min' some ⟨ordered, here⟩, (Nat.find_spec some).1,
    (Nat.find_spec some).2, ?_⟩
  intro i lower below ready
  exact Nat.find_min some below ⟨lower, ready⟩

/-- The end of a measurement that was ended as soon as it could be, with nothing in the
meantime that would have called for a new one. -/
structure Prompt (due ready armed renewed : ℕ → Prop) (m n : ℕ) : Prop where
  pending : Pending due armed m n
  first : FirstReady ready m n
  fresh : ∀ i, m < i → i ≤ n → ¬ renewed i

/-- All measurements that end are prompt exactly if the first ready round of each one is
due and comes before anything new, or the measurement is never ended. -/
theorem prompt_iff (rounds : Rounds due ready armed) (renewed : ℕ → Prop) :
    (∀ n, Ends due ready armed n → ∃ m, Prompt due ready armed renewed m n) ↔
      ∀ m n, Begins due armed m → FirstReady ready m n →
        (due n ∧ ∀ i, m < i → i ≤ n → ¬ renewed i) ∨ ∀ i, m < i → ¬ (due i ∧ ready i) := by
  constructor
  · intro prompt m n begins first
    by_cases never : ∀ i, m < i → ¬ (due i ∧ ready i)
    · exact Or.inr never
    · left
      push Not at never
      obtain ⟨i, later, ends⟩ := never
      obtain ⟨k, -, last⟩ := exists_firstReady (fun i => due i ∧ ready i) later ends
      have pending := begins.pending rounds last.ordered last.before
      obtain ⟨l, early⟩ := prompt k ⟨last.reached.1, last.reached.2, pending.armed k last.ordered
        (Nat.le_refl k)⟩
      have same := early.pending.unique pending
      subst same
      have here := early.first.unique first
      subst here
      exact ⟨last.reached.1, early.fresh⟩
  · intro onTime n ends
    obtain ⟨m, pending⟩ := exists_pending rounds ends.armed
    obtain ⟨k, upper, first⟩ := exists_firstReady ready pending.ordered ends.ready
    rcases onTime m k pending.begins first with ⟨due, fresh⟩ | never
    · rcases Nat.lt_or_eq_of_le upper with before | last
      · -- The measurement would have ended there.
        rcases (rounds.step k).mp (pending.armed (k + 1) (Nat.lt_succ_of_lt first.ordered) before)
          with ⟨-, idle⟩ | ⟨-, going⟩
        · exact absurd (pending.armed k first.ordered upper) idle
        · exact absurd ⟨due, first.reached⟩ going
      · subst last
        exact ⟨m, pending, first, fresh⟩
    · exact absurd ⟨ends.due, ends.ready⟩ (never n pending.ordered)

end TwoPhase
