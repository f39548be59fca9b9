import Mathlib.Tactic.Common

set_option autoImplicit false

/- What happened last before a time, and what is left to it. -/
namespace Latest

variable {α : Type}

def latest (event : ℕ → Option α) : ℕ → Option α
  | 0 => none
  | time + 1 => (event time).or (latest event time)

variable {event : ℕ → Option α}

theorem eq_latest (view : ℕ → α) (step : ∀ time, view (time + 1) = (event time).getD (view time))
    (time : ℕ) : view time = (latest event time).getD (view 0) := by
  induction time with
  | zero => rfl
  | succ time ih =>
      rw [step, latest, ih]
      cases event time with
      | none => rfl
      | some value => rfl

theorem latest_eq_some_iff {last : ℕ} {value : α} :
    latest event last = some value ↔ ∃ time < last, event time = some value ∧
      ∀ later, time < later → later < last → event later = none := by
  induction last with
  | zero => simp [latest]
  | succ last ih =>
      rw [latest, Option.or_eq_some_iff, ih]
      constructor
      · rintro (now | ⟨quiet, time, before, found, rest⟩)
        · exact ⟨last, Nat.lt_succ_self last, now, fun later lower upper => by omega⟩
        · refine ⟨time, Nat.lt_succ_of_lt before, found, ?_⟩
          intro later lower upper
          rcases Nat.lt_succ_iff_lt_or_eq.mp upper with earlier | rfl
          · exact rest later lower earlier
          · exact quiet
      · rintro ⟨time, before, found, rest⟩
        rcases Nat.lt_succ_iff_lt_or_eq.mp before with earlier | rfl
        · exact Or.inr ⟨rest last earlier (Nat.lt_succ_self last), time, earlier, found,
            fun later lower upper => rest later lower (Nat.lt_succ_of_lt upper)⟩
        · exact Or.inl found

/-- What holds of every event holds of the last one. -/
theorem of_latest {holds : α → Prop} (each : ∀ time, ∀ value ∈ event time, holds value)
    {last : ℕ} : ∀ value ∈ latest event last, holds value := by
  intro value found
  obtain ⟨time, -, here, -⟩ := latest_eq_some_iff.mp found
  exact each time value here

end Latest
