import Mathlib.Data.List.Induction
import Mathlib.Data.Nat.Notation
import Mathlib.Tactic.Common

set_option autoImplicit false

/- A vehicle that turns away from obstacles. Once the way is clear it keeps the turn for a
number of further decisions before it drives straight on. -/
namespace HeldTurn

variable {τ : Type}

inductive Course (τ : Type) where
  | undecided
  | straight
  | turning (turn : τ)
  /-- The number of decisions for which the turn has been kept. -/
  | holding (turn : τ) (held : ℕ)

/-- The turn that a course follows. -/
def Course.turn : Course τ → Option τ
  | .undecided => none
  | .straight => none
  | .turning turn => some turn
  | .holding turn _ => some turn

/-- One decision. `escape` is the turn away from the obstacle, if there is one. -/
def Course.step (hold : ℕ) (escape : Option τ) : Course τ → Course τ
  | .undecided =>
      match escape with
      | none => .straight
      | some turn => .turning turn
  | .straight =>
      match escape with
      | none => .straight
      | some turn => .turning turn
  | .turning turn =>
      match escape with
      | none => .holding turn 0
      | some _ => .turning turn
  | .holding turn held => if held + 1 < hold then .holding turn (held + 1) else .straight

/-- The course before a decision of a run. -/
def course (hold : ℕ) (escape : ℕ → Option τ) : ℕ → Course τ
  | 0 => .undecided
  | k + 1 => (course hold escape k).step hold (escape k)

variable {hold : ℕ} {escape : ℕ → Option τ} {turn other : τ} {j k : ℕ}

theorem course_succ (k : ℕ) :
    course hold escape (k + 1) = (course hold escape k).step hold (escape k) := rfl

theorem step_ne_undecided (c : Course τ) (away : Option τ) : c.step hold away ≠ .undecided := by
  cases c with
  | undecided => cases away <;> simp [Course.step]
  | straight => cases away <;> simp [Course.step]
  | turning turn => cases away <;> simp [Course.step]
  | holding turn held =>
      rw [Course.step]
      split <;> simp

theorem of_step_eq_holding {c : Course τ} {away : Option τ} {held : ℕ}
    (holding : c.step hold away = .holding turn held) :
    (c = .turning turn ∧ away = none ∧ held = 0) ∨
      ∃ earlier, c = .holding turn earlier ∧ held = earlier + 1 ∧ held < hold := by
  cases c with
  | undecided => cases away <;> simp [Course.step] at holding
  | straight => cases away <;> simp [Course.step] at holding
  | turning turn =>
      cases away with
      | none =>
          cases holding
          exact Or.inl ⟨rfl, rfl, rfl⟩
      | some _ => simp [Course.step] at holding
  | holding turn earlier =>
      rw [Course.step] at holding
      split at holding
      · rename_i room
        cases holding
        exact Or.inr ⟨earlier, rfl, rfl, room⟩
      · simp at holding

theorem held_lt (positive : 0 < hold) {held : ℕ}
    (holding : course hold escape k = .holding turn held) : held < hold := by
  cases k with
  | zero => simp [course] at holding
  | succ k =>
      rcases of_step_eq_holding holding with ⟨-, -, rfl⟩ | ⟨earlier, -, -, room⟩
      · exact positive
      · exact room

/-- Off a turn, an obstacle begins the turn away from it. -/
theorem turning_of_escape (free : (course hold escape k).turn = none)
    (away : escape k = some turn) : course hold escape (k + 1) = .turning turn := by
  rw [course_succ, away]
  cases here : course hold escape k with
  | undecided => rfl
  | straight => rfl
  | turning other =>
      rw [here] at free
      cases free
  | holding other held =>
      rw [here] at free
      cases free

theorem straight_of_free (free : (course hold escape k).turn = none) (clear : escape k = none) :
    course hold escape (k + 1) = .straight := by
  rw [course_succ, clear]
  cases here : course hold escape k with
  | undecided => rfl
  | straight => rfl
  | turning other =>
      rw [here] at free
      cases free
  | holding other held =>
      rw [here] at free
      cases free

theorem turning_of_blocked (turning : course hold escape k = .turning turn)
    (blocked : escape k ≠ none) : course hold escape (k + 1) = .turning turn := by
  obtain ⟨away, blocked⟩ := Option.ne_none_iff_exists'.mp blocked
  rw [course_succ, turning, blocked, Course.step]

/-- From the first clear reading on, the turn is kept whatever is seen. -/
theorem holding_of_clear (turning : course hold escape k = .turning turn)
    (clear : escape k = none) {held : ℕ} (inside : held < hold) :
    course hold escape (k + 1 + held) = .holding turn held := by
  induction held with
  | zero => rw [Nat.add_zero, course_succ, turning, clear, Course.step]
  | succ held ih => rw [← Nat.add_assoc, course_succ, ih (by omega), Course.step, if_pos inside]

theorem straight_of_clear (positive : 0 < hold) (turning : course hold escape k = .turning turn)
    (clear : escape k = none) : course hold escape (k + 1 + hold) = .straight := by
  obtain ⟨held, rfl⟩ := Nat.exists_eq_succ_of_ne_zero (Nat.ne_of_gt positive)
  have last := holding_of_clear turning clear (Nat.lt_succ_self held)
  rw [Nat.add_succ, course_succ, last, Course.step, if_neg (Nat.lt_irrefl _)]

/-- A turn that is held was begun by turning, and held in every decision since. -/
theorem exists_turning {held : ℕ} (holding : course hold escape k = .holding turn held) :
    ∃ j, j + 1 + held = k ∧ course hold escape j = .turning turn ∧
      ∀ i ≤ held, course hold escape (j + 1 + i) = .holding turn i := by
  induction k generalizing held with
  | zero => simp [course] at holding
  | succ k ih =>
      rcases of_step_eq_holding holding with ⟨turning, -, rfl⟩ | ⟨earlier, before, rfl, -⟩
      · refine ⟨k, rfl, turning, ?_⟩
        intro i upper
        rw [Nat.le_zero.mp upper]
        exact holding
      · obtain ⟨j, last, turning, during⟩ := ih before
        refine ⟨j, by omega, turning, ?_⟩
        intro i upper
        rcases Nat.lt_or_eq_of_le upper with inside | rfl
        · exact during i (Nat.le_of_lt_succ inside)
        · rw [show j + 1 + (earlier + 1) = k + 1 by omega]
          exact holding

theorem step_of_turn {c : Course τ} (along : c.turn = some turn) (away : Option τ) :
    (c.step hold away).turn = some turn ∨ c.step hold away = .straight := by
  cases c with
  | undecided => cases along
  | straight => cases along
  | turning turn => cases away <;> exact Or.inl along
  | holding turn held =>
      rw [Course.step]
      split
      · exact Or.inl along
      · exact Or.inr rfl

theorem turn_or_straight (along : (course hold escape j).turn = some turn) (ordered : j ≤ k) :
    (course hold escape k).turn = some turn ∨
      ∃ i, j < i ∧ i ≤ k ∧ course hold escape i = .straight := by
  induction ordered with
  | refl => exact Or.inl along
  | @step k ordered ih =>
      rcases ih with still | ⟨i, lower, upper, straight⟩
      · rcases @step_of_turn _ hold _ _ still (escape k) with still | straight
        · exact Or.inl still
        · exact Or.inr ⟨k + 1, Nat.lt_succ_of_le ordered, Nat.le_refl _, straight⟩
      · exact Or.inr ⟨i, lower, Nat.le_succ_of_le upper, straight⟩

theorem straight_between (first : (course hold escape j).turn = some turn)
    (second : (course hold escape k).turn = some other) (differ : turn ≠ other)
    (ordered : j ≤ k) : ∃ i, j < i ∧ i < k ∧ course hold escape i = .straight := by
  rcases turn_or_straight first ordered with still | ⟨i, lower, upper, straight⟩
  · rw [second] at still
    exact absurd (Option.some.inj still).symm differ
  · refine ⟨i, lower, Nat.lt_of_le_of_ne upper ?_, straight⟩
    rintro rfl
    rw [straight] at second
    cases second

/-- The course after a list of decisions. -/
def courseAfter (hold : ℕ) (escapes : List (Option τ)) : Course τ :=
  escapes.foldl (fun c away => c.step hold away) .undecided

theorem courseAfter_append (escapes : List (Option τ)) (away : Option τ) :
    courseAfter hold (escapes ++ [away]) = (courseAfter hold escapes).step hold away := by
  rw [courseAfter, List.foldl_append]
  rfl

theorem held_lt_of_courseAfter (positive : 0 < hold) {escapes : List (Option τ)} {held : ℕ}
    (holding : courseAfter hold escapes = .holding turn held) : held < hold := by
  induction escapes using List.reverseRecOn with
  | nil => cases holding
  | append_singleton escapes away ih =>
      rw [courseAfter_append] at holding
      rcases of_step_eq_holding holding with ⟨-, -, rfl⟩ | ⟨-, -, -, inside⟩
      · exact positive
      · exact inside

theorem courseAfter_eq_undecided_iff (escapes : List (Option τ)) :
    courseAfter hold escapes = .undecided ↔ escapes = [] := by
  induction escapes using List.reverseRecOn with
  | nil => exact iff_of_true rfl rfl
  | append_singleton escapes away ih =>
      rw [courseAfter_append]
      exact iff_of_false (step_ne_undecided _ away) (by simp)

end HeldTurn
