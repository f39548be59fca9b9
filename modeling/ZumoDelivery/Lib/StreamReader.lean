import Mathlib.Data.Nat.Notation
import Mathlib.Tactic.Common

set_option autoImplicit false

/- A reader polls a stream whose bytes arrive at any pace. A step that is taken with
some input waiting is taken in the same way with more of it. -/

structure StreamReader (σ α : Type) where
  /-- One step and the input it leaves, or `none` while there is nothing to do. -/
  step : σ → List α → Option (σ × List α)
  /-- A bound on the steps to come. -/
  measure : σ → List α → ℕ
  extend : ∀ state input next rest more, step state input = some (next, rest) →
    step state (input ++ more) = some (next, rest ++ more)
  decreases : ∀ state input next rest, step state input = some (next, rest) →
    measure next rest < measure state input

namespace StreamReader

variable {σ α : Type} (reader : StreamReader σ α)

def pass (now : σ × List α) : σ × List α := (reader.step now.1 now.2).getD now

def passes : ℕ → σ × List α → σ × List α
  | 0, now => now
  | n + 1, now => passes n (reader.pass now)

/-- Polls between which the given pieces of the stream arrive. -/
def run (arrivals : List (List α)) (now : σ × List α) : σ × List α :=
  arrivals.foldl (fun now arrived => reader.pass (now.1, now.2 ++ arrived)) now

/-- Where polling ends if nothing more arrives. -/
def settle (now : σ × List α) : σ × List α := reader.passes (reader.measure now.1 now.2) now

/-- Some steps lead from one place to another. -/
inductive Reaches : σ × List α → σ × List α → Prop where
  | refl (now : σ × List α) : Reaches now now
  | step {now next last : σ × List α} (step : reader.step now.1 now.2 = some next)
      (rest : Reaches next last) : Reaches now last

variable {reader}

theorem pass_of_step {now next : σ × List α} (step : reader.step now.1 now.2 = some next) :
    reader.pass now = next := by
  rw [pass, step]
  rfl

theorem pass_of_none {now : σ × List α} (idle : reader.step now.1 now.2 = none) :
    reader.pass now = now := by
  rw [pass, idle]
  rfl

theorem passes_of_none {now : σ × List α} (idle : reader.step now.1 now.2 = none) (n : ℕ) :
    reader.passes n now = now := by
  induction n with
  | zero => rfl
  | succ n ih => rw [passes, pass_of_none idle, ih]

theorem passes_eq_settle (n : ℕ) (now : σ × List α) (enough : reader.measure now.1 now.2 ≤ n) :
    reader.passes n now = reader.settle now := by
  suffices same : ∀ first second : ℕ, ∀ now : σ × List α, reader.measure now.1 now.2 ≤ first →
      reader.measure now.1 now.2 ≤ second → reader.passes first now = reader.passes second now from
    same n _ now enough (Nat.le_refl _)
  intro first
  induction first with
  | zero =>
      intro second now none _
      cases found : reader.step now.1 now.2 with
      | none => rw [passes_of_none found, passes_of_none found]
      | some next =>
          have less := reader.decreases _ _ _ _ found
          omega
  | succ first ih =>
      intro second now long longer
      cases found : reader.step now.1 now.2 with
      | none => rw [passes_of_none found, passes_of_none found]
      | some next =>
          have less := reader.decreases _ _ _ _ found
          cases second with
          | zero => omega
          | succ second =>
              rw [passes, passes, pass_of_step found]
              exact ih second next (by omega) (by omega)

theorem settle_of_none {now : σ × List α} (idle : reader.step now.1 now.2 = none) :
    reader.settle now = now :=
  passes_of_none idle _

theorem settle_of_step {now next : σ × List α} (step : reader.step now.1 now.2 = some next) :
    reader.settle now = reader.settle next := by
  have less := reader.decreases _ _ _ _ step
  obtain ⟨fuel, enough⟩ : ∃ fuel, reader.measure now.1 now.2 = fuel + 1 :=
    ⟨reader.measure now.1 now.2 - 1, by omega⟩
  rw [settle, enough, passes, pass_of_step step]
  exact passes_eq_settle fuel next (by omega)

/-- States whose steps agree end up related, and leave the same input. -/
theorem settle_related {related : σ → σ → Prop}
    (follows : ∀ first second input next, related first second →
      reader.step first input = some next →
      ∃ state, reader.step second input = some (state, next.2) ∧ related next.1 state)
    (sleeps : ∀ first second input, related first second →
      reader.step first input = none → reader.step second input = none)
    (first second : σ) (input : List α) (start : related first second) :
    related (reader.settle (first, input)).1 (reader.settle (second, input)).1 ∧
      (reader.settle (first, input)).2 = (reader.settle (second, input)).2 := by
  suffices all : ∀ (n : ℕ) (first second : σ) (input : List α), reader.measure first input ≤ n →
      related first second →
      related (reader.settle (first, input)).1 (reader.settle (second, input)).1 ∧
        (reader.settle (first, input)).2 = (reader.settle (second, input)).2 from
    all _ first second input (Nat.le_refl _) start
  intro n
  induction n with
  | zero =>
      intro first second input none related
      cases found : reader.step first input with
      | none =>
          rw [settle_of_none found, settle_of_none (sleeps _ _ _ related found)]
          exact ⟨related, rfl⟩
      | some next =>
          have less := reader.decreases _ _ _ _ found
          omega
  | succ n ih =>
      intro first second input bound related
      cases found : reader.step first input with
      | none =>
          rw [settle_of_none found, settle_of_none (sleeps _ _ _ related found)]
          exact ⟨related, rfl⟩
      | some next =>
          have less := reader.decreases _ _ _ _ found
          obtain ⟨state, moved, still⟩ := follows _ _ _ _ related found
          have one : reader.settle (first, input) = reader.settle next := settle_of_step found
          have other : reader.settle (second, input) = reader.settle (state, next.2) :=
            settle_of_step moved
          rw [one, other]
          exact ih next.1 state next.2 (by omega) still

namespace Reaches

variable {first second third : σ × List α}

theorem single (step : reader.step first.1 first.2 = some second) :
    reader.Reaches first second :=
  .step step (.refl second)

theorem trans (start : reader.Reaches first second) (rest : reader.Reaches second third) :
    reader.Reaches first third := by
  induction start with
  | refl now => exact rest
  | step step _ ih => exact .step step (ih rest)

theorem settle (start : reader.Reaches first second) :
    reader.settle first = reader.settle second := by
  induction start with
  | refl now => rfl
  | step step _ ih => rw [settle_of_step step, ih]

theorem measure_le (start : reader.Reaches first second) :
    reader.measure second.1 second.2 ≤ reader.measure first.1 first.2 := by
  induction start with
  | refl now => exact Nat.le_refl _
  | step step _ ih => exact Nat.le_trans ih (Nat.le_of_lt (reader.decreases _ _ _ _ step))

/-- More input behind the waiting input changes nothing. -/
theorem extend (start : reader.Reaches first second) (more : List α) :
    reader.Reaches (first.1, first.2 ++ more) (second.1, second.2 ++ more) := by
  induction start with
  | refl now => exact .refl _
  | step step _ ih => exact .step (reader.extend _ _ _ _ more step) ih

end Reaches

theorem reaches_run (arrivals : List (List α)) (now : σ × List α) :
    reader.Reaches (now.1, now.2 ++ arrivals.flatten) (reader.run arrivals now) := by
  induction arrivals generalizing now with
  | nil =>
      rw [List.flatten_nil, List.append_nil]
      exact .refl _
  | cons arrived arrivals ih =>
      rw [List.flatten_cons, ← List.append_assoc]
      cases found : reader.step now.1 (now.2 ++ arrived) with
      | none =>
          have stay : reader.pass (now.1, now.2 ++ arrived) = (now.1, now.2 ++ arrived) :=
            pass_of_none found
          have rest := ih (now.1, now.2 ++ arrived)
          rw [run, List.foldl_cons, stay]
          exact rest
      | some next =>
          have moved : reader.pass (now.1, now.2 ++ arrived) = next := pass_of_step found
          rw [run, List.foldl_cons, moved]
          exact .step (reader.extend _ _ _ _ arrivals.flatten found) (ih next)

theorem run_replicate (n : ℕ) (now : σ × List α) :
    reader.run (List.replicate n []) now = reader.passes n now := by
  induction n generalizing now with
  | zero => rfl
  | succ n ih =>
      rw [List.replicate_succ, run, List.foldl_cons, List.append_nil]
      exact ih _

/-- Whatever the pace of arrival, the reader ends where it would end with the whole
stream waiting from the start. -/
theorem run_eq_settle (arrivals : List (List α)) (state : σ) (n : ℕ)
    (enough : reader.measure state arrivals.flatten ≤ n) :
    reader.run (arrivals ++ List.replicate n []) (state, []) =
      reader.settle (state, arrivals.flatten) := by
  have start : reader.Reaches (state, arrivals.flatten) (reader.run arrivals (state, [])) :=
    reaches_run arrivals (state, [])
  rw [start.settle, ← passes_eq_settle n _ (Nat.le_trans start.measure_le enough),
    ← run_replicate, run, List.foldl_append]
  rfl

end StreamReader
