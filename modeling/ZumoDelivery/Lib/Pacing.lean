import Mathlib.Algebra.Order.Ring.Nat
import Mathlib.Algebra.Order.Ring.Cast
import Mathlib.Order.Interval.Finset.Nat
import Mathlib.Tactic.Linarith

set_option autoImplicit false

/- A task that may act once its period has passed since a stamp, which it renews when it
acts. Something else may reset the stamp. -/
namespace Pacing

variable {K : Type} [CommRing K] [LinearOrder K] [IsStrictOrderedRing K]

/-- `clock` is what the clock shows at each step. -/
structure Paced (clock : ℕ → ℕ) (acts resets : ℕ → Prop) (period : ℕ → K) (stamp : ℕ → ℕ) :
    Prop where
  mono : Monotone clock
  due : ∀ t, acts t → period t ≤ (clock t - stamp t : ℕ)
  renewed : ∀ t, acts t → clock t ≤ stamp (t + 1)
  kept : ∀ t, ¬ acts t → ¬ resets t → stamp (t + 1) = stamp t

variable {clock : ℕ → ℕ} {acts resets : ℕ → Prop} {period : ℕ → K} {stamp : ℕ → ℕ}

namespace Paced

omit [IsStrictOrderedRing K] in
theorem le_stamp (paced : Paced clock acts resets period stamp) {m n : ℕ} (action : acts m)
    (ordered : m < n) (quiet : ∀ t, m < t → t < n → ¬ resets t) : clock m ≤ stamp n := by
  induction ordered with
  | refl => exact paced.renewed m action
  | @step n ordered ih =>
      by_cases again : acts n
      · have forward : clock m ≤ clock n := paced.mono (Nat.le_of_lt ordered)
        exact forward.trans (paced.renewed n again)
      · rw [paced.kept n again (quiet n ordered (Nat.lt_succ_self n))]
        exact ih fun t lower upper => quiet t lower (Nat.lt_succ_of_lt upper)

/-- Two actions with no reset in between are a period apart, the one in force at the later. -/
theorem spaced (paced : Paced clock acts resets period stamp) {m n : ℕ} (first : acts m)
    (second : acts n) (ordered : m < n) (quiet : ∀ t, m < t → t < n → ¬ resets t) :
    (clock m : K) + period n ≤ clock n := by
  have stamped := paced.le_stamp first ordered quiet
  have forward : clock m ≤ clock n := paced.mono (Nat.le_of_lt ordered)
  have waited : ((clock n - stamp n : ℕ) : K) ≤ (clock n - clock m : ℕ) :=
    Nat.cast_le.mpr (Nat.sub_le_sub_left stamped _)
  have due := (paced.due n second).trans waited
  rw [Nat.cast_sub forward] at due
  linarith

/-- The latest of some actions comes at least all of their periods but one after the first. -/
theorem exists_latest [DecidablePred acts] (paced : Paced clock acts resets period stamp)
    {first last : ℕ} {least : K} (ordered : first ≤ last)
    (slow : ∀ t, first ≤ t → t < last → acts t → least ≤ period t)
    (quiet : ∀ t, first ≤ t → t < last → ¬ resets t) :
    {t ∈ Finset.Ico first last | acts t}.card = 0 ∨
      ∃ m, first ≤ m ∧ m < last ∧ acts m ∧
        (clock first : K) + ({t ∈ Finset.Ico first last | acts t}.card - 1) * least ≤
          clock m := by
  induction ordered with
  | refl => simp
  | @step last ordered ih =>
      have earlier := ih (fun t lower upper => slow t lower (Nat.lt_succ_of_lt upper))
        (fun t lower upper => quiet t lower (Nat.lt_succ_of_lt upper))
      rw [Nat.Ico_succ_right_eq_insert_Ico ordered, Finset.filter_insert]
      by_cases here : acts last
      · have fresh : last ∉ {t ∈ Finset.Ico first last | acts t} := by simp
        rw [if_pos here, Finset.card_insert_of_notMem fresh]
        right
        refine ⟨last, ordered, Nat.lt_succ_self last, here, ?_⟩
        rcases earlier with none | ⟨m, lower, upper, action, reached⟩
        · have forward : (clock first : K) ≤ clock last := Nat.cast_le.mpr (paced.mono ordered)
          rw [none]
          simpa using forward
        · have apart := paced.spaced action here upper fun t before after =>
            quiet t (Nat.le_of_lt (Nat.lt_of_le_of_lt lower before)) (Nat.lt_succ_of_lt after)
          have period := slow last ordered (Nat.lt_succ_self last) here
          push_cast
          linarith
      · rw [if_neg here]
        rcases earlier with none | ⟨m, lower, upper, action, reached⟩
        · exact Or.inl none
        · exact Or.inr ⟨m, lower, Nat.lt_succ_of_lt upper, action, reached⟩

/-- In a stretch of time there are no more actions than periods, and one. -/
theorem card_le [DecidablePred acts] (paced : Paced clock acts resets period stamp)
    {first last : ℕ} {least : K} (ordered : first ≤ last) (positive : 0 ≤ least)
    (slow : ∀ t, first ≤ t → t < last → acts t → least ≤ period t)
    (quiet : ∀ t, first ≤ t → t < last → ¬ resets t) :
    ({t ∈ Finset.Ico first last | acts t}.card : K) * least ≤
      (clock last - clock first : ℕ) + least := by
  have forward : clock first ≤ clock last := paced.mono ordered
  rw [Nat.cast_sub forward]
  rcases paced.exists_latest ordered slow quiet with none | ⟨m, lower, upper, -, reached⟩
  · have passed : (clock first : K) ≤ clock last := Nat.cast_le.mpr forward
    rw [none]
    push_cast
    linarith
  · have before : (clock m : K) ≤ clock last :=
      Nat.cast_le.mpr (paced.mono (Nat.le_of_lt upper))
    linarith

end Paced

end Pacing
