import ZumoDelivery.Application.Avoiding
import ZumoDelivery.Application.MainLoop

set_option autoImplicit false

namespace ZumoDelivery

open HeldTurn (Course)

def courseState : Course Side → OaDsm
  | .undecided => .init
  | .straight => .driveStraight
  | .turning side => turnState side
  | .holding _ _ => .holding

theorem courseState_eq_turnState_iff (c : Course Side) (side : Side) :
    courseState c = turnState side ↔ c = .turning side := by
  cases c with
  | undecided => cases side <;> simp [courseState, turnState]
  | straight => cases side <;> simp [courseState, turnState]
  | turning other => cases side <;> cases other <;> simp [courseState, turnState]
  | holding other held => cases side <;> simp [courseState, turnState]

theorem courseState_eq_driveStraight_iff (c : Course Side) :
    courseState c = .driveStraight ↔ c = .straight := by
  cases c with
  | undecided => simp [courseState]
  | straight => simp [courseState]
  | turning other => cases other <;> simp [courseState, turnState]
  | holding other held => simp [courseState]

theorem turn_eq_none_iff (c : Course Side) :
    c.turn = none ↔ courseState c = .init ∨ courseState c = .driveStraight := by
  cases c with
  | undecided => simp [courseState, Course.turn]
  | straight => simp [courseState, Course.turn]
  | turning other => cases other <;> simp [courseState, Course.turn, turnState]
  | holding other held => simp [courseState, Course.turn]

theorem courseState_eq_holding_iff (c : Course Side) :
    courseState c = .holding ↔ ∃ side held, c = .holding side held := by
  cases c with
  | undecided => simp [courseState]
  | straight => simp [courseState]
  | turning other => cases other <;> simp [courseState, turnState]
  | holding other held => simp [courseState]

section Runs

variable {F : Type} [FloatArith F]

theorem Follows.oaState_eq {c : Course Side} {v : AvoidanceView F} (follows : Follows c v) :
    v.avoidance.oaState = courseState c := by
  cases c <;> exact follows.1

theorem Follows.alpha_eq {c : Course Side} {v : AvoidanceView F} (follows : Follows c v)
    (other : v.avoidance.oaState ≠ .holding) : v.avoidance.alpha = 0 := by
  cases c with
  | undecided => exact follows.2
  | straight => exact follows.2.1
  | turning side => exact follows.2.1
  | holding side held => exact absurd follows.1 other

theorem Follows.velocities_eq {c : Course Side} {v : AvoidanceView F} (follows : Follows c v)
    {side : Side} (along : c.turn = some side) : v.velocities = turnVelocities side := by
  cases c with
  | undecided => cases along
  | straight => cases along
  | turning other =>
      cases along
      exact follows.2.2
  | holding other held =>
      cases along
      exact follows.2.2

/-- The pairs of target velocities. -/
inductive OaPair where
  | straight
  | turn (side : Side)
deriving DecidableEq

def OaPair.velocities : OaPair → WheelVelocities F
  | .straight => oaStraight
  | .turn side => turnVelocities side

/-- The state is HOLDING since the turn to a side. -/
def HeldFrom (s : ℕ → State F) (side : Side) (n : ℕ) : Prop :=
  ∃ m < n, (s m).avoidance.oaState = turnState side ∧
    ∀ i, m < i → i ≤ n → (s i).avoidance.oaState = .holding

/-- The states that go with a pair. -/
def InPair (s : ℕ → State F) (n : ℕ) : OaPair → Prop
  | .straight => (s n).avoidance.oaState = .driveStraight
  | .turn side => (s n).avoidance.oaState = turnState side ∨ HeldFrom s side n

/-- What the avoidance logic does in a run. Before call `3 * k` the decisions up to `k` have
been made. -/
structure AvoidsObstacles (env : ℕ → Env) (s : ℕ → State F) : Prop where
  decides : ∀ n, (s n).avoidance.readState = .runDsm ↔ n % 3 = 2
  /-- The larger of the readings of the two calls before a decision. -/
  count : ∀ k, (irCounts (s (3 * k + 2)).proximity).count.toNat =
    max (sensed (env (3 * k)) (s (3 * k))).toNat (sensed (env (3 * k + 1)) (s (3 * k + 1))).toNat
  side : ∀ k, (irCounts (s (3 * k + 2)).proximity).side = .left ↔
    sensed (env (3 * k + 1)) (s (3 * k + 1)) ≤ sensed (env (3 * k)) (s (3 * k))
  /-- The calls that read change no state. -/
  reads : ∀ n, n % 3 ≠ 2 → (s (n + 1)).avoidance.oaState = (s n).avoidance.oaState
  /-- On no turn, a decision begins the one away from the side of its reading. -/
  turns : ∀ k,
    (s (3 * k)).avoidance.oaState = .init ∨ (s (3 * k)).avoidance.oaState = .driveStraight →
    (irCounts (s (3 * k + 2)).proximity).count ≠ 0 →
    ((irCounts (s (3 * k + 2)).proximity).side = .left →
        (s (3 * (k + 1))).avoidance.oaState = .turnRight) ∧
      ((irCounts (s (3 * k + 2)).proximity).side = .right →
        (s (3 * (k + 1))).avoidance.oaState = .turnLeft)
  straight : ∀ k,
    (s (3 * k)).avoidance.oaState = .init ∨ (s (3 * k)).avoidance.oaState = .driveStraight →
    (irCounts (s (3 * k + 2)).proximity).count = 0 →
    (s (3 * (k + 1))).avoidance.oaState = .driveStraight
  alpha : ∀ n, (s n).avoidance.alpha ≠ 0 → (s n).avoidance.oaState = .holding
  alpha_lt : ∀ n, (s n).avoidance.alpha < 4
  pair : ∀ n, 3 ≤ n → ∃ pair, InPair s n pair
  velocities : ∀ n pair, InPair s n pair → (s n).avoiding.velocities = pair.velocities
  /-- With an arithmetic that tells the pairs apart. -/
  exactly : Function.Injective (OaPair.velocities (F := F)) → ∀ n, 3 ≤ n → ∀ pair,
    (s n).avoiding.velocities = pair.velocities ↔ InPair s n pair
  blocked : ∀ k side, (s (3 * k)).avoidance.oaState = turnState side →
    (irCounts (s (3 * k + 2)).proximity).count ≠ 0 →
    (s (3 * (k + 1))).avoidance.oaState = turnState side
  /-- Four decisions are made in HOLDING. -/
  cleared : ∀ k side, (s (3 * k)).avoidance.oaState = turnState side →
    (irCounts (s (3 * k + 2)).proximity).count = 0 →
    (∀ i < 4, (s (3 * (k + 1 + i))).avoidance.oaState = .holding) ∧
      (s (3 * (k + 1 + 4))).avoidance.oaState = .driveStraight
  between : ∀ m n, m ≤ n → ∀ side other, side ≠ other →
    (s m).avoidance.oaState = turnState side → (s n).avoidance.oaState = turnState other →
    ∃ i, m < i ∧ i < n ∧ (s i).avoidance.oaState = .driveStraight

variable {env : ℕ → Env} {s : ℕ → State F}

theorem oaState_eq (run : OaRun env s) (n : ℕ) :
    (s n).avoidance.oaState = courseState (oaCourse env s (n / 3)) :=
  (follows_course run n).oaState_eq

theorem oaState_mul_three (run : OaRun env s) (k : ℕ) :
    (s (3 * k)).avoidance.oaState = courseState (oaCourse env s k) := by
  rw [oaState_eq run, Nat.mul_div_cancel_left k (by decide)]

theorem alpha_lt_of_run (run : OaRun env s) (n : ℕ) : (s n).avoidance.alpha < 4 := by
  have follows := follows_course run n
  by_cases holding : (s n).avoidance.oaState = .holding
  · rw [oaState_eq run] at holding
    obtain ⟨side, held, here⟩ := (courseState_eq_holding_iff _).mp holding
    rw [here] at follows
    have count : (s n).avoidance.alpha.toNat = held := follows.2.1
    have short := HeldTurn.held_lt (by decide) here
    rw [UInt16.lt_iff_toNat_lt, count]
    exact short
  · have zero : (s n).avoidance.alpha = 0 := follows.alpha_eq holding
    rw [zero]
    decide

theorem heldFrom_of_holding (run : OaRun env s) (n : ℕ) (side : Side) (held : ℕ)
    (holding : oaCourse env s (n / 3) = .holding side held) : HeldFrom s side n := by
  obtain ⟨j, last, turning, during⟩ := HeldTurn.exists_turning holding
  refine ⟨3 * j + 2, by omega, ?_, ?_⟩
  · rw [oaState_eq run, show (3 * j + 2) / 3 = j by omega]
    exact (courseState_eq_turnState_iff _ side).mpr turning
  · intro i lower upper
    rw [oaState_eq run]
    refine (courseState_eq_holding_iff _).mpr ⟨side, i / 3 - (j + 1), ?_⟩
    have here := during (i / 3 - (j + 1)) (by omega)
    rwa [show j + 1 + (i / 3 - (j + 1)) = i / 3 by omega] at here

theorem turn_of_heldFrom (run : OaRun env s) (n : ℕ) (side : Side) (held : HeldFrom s side n) :
    (oaCourse env s (n / 3)).turn = some side := by
  obtain ⟨m, before, turning, during⟩ := held
  rw [oaState_eq run] at turning
  have along : (oaCourse env s (m / 3)).turn = some side := by
    rw [(courseState_eq_turnState_iff _ side).mp turning]
    rfl
  rcases HeldTurn.turn_or_straight along (Nat.div_le_div_right (Nat.le_of_lt before)) with
    still | ⟨i, lower, upper, straight⟩
  · exact still
  · have inside := during (3 * i) (by omega) (by omega)
    have outside : courseState (oaCourse env s i) = .driveStraight :=
      (courseState_eq_driveStraight_iff _).mpr straight
    rw [oaState_mul_three run, outside] at inside
    cases inside

theorem velocities_of_inPair (run : OaRun env s) (n : ℕ) (pair : OaPair)
    (here : InPair s n pair) : (s n).avoiding.velocities = pair.velocities := by
  have follows := follows_course run n
  cases pair with
  | straight =>
      have straight : (s n).avoidance.oaState = .driveStraight := here
      rw [oaState_eq run] at straight
      rw [(courseState_eq_driveStraight_iff _).mp straight] at follows
      exact follows.2.2
  | turn side =>
      rcases here with turning | held
      · rw [oaState_eq run] at turning
        apply follows.velocities_eq
        rw [(courseState_eq_turnState_iff _ side).mp turning]
        rfl
      · exact follows.velocities_eq (turn_of_heldFrom run n side held)

theorem exists_inPair (run : OaRun env s) (n : ℕ) (decided : 3 ≤ n) :
    ∃ pair, InPair s n pair := by
  cases here : oaCourse env s (n / 3) with
  | undecided =>
      obtain ⟨k, later⟩ := Nat.exists_eq_succ_of_ne_zero (show n / 3 ≠ 0 by omega)
      rw [later] at here
      exact absurd here (HeldTurn.step_ne_undecided _ _)
  | straight =>
      refine ⟨.straight, ?_⟩
      change (s n).avoidance.oaState = _
      rw [oaState_eq run, here]
      rfl
  | turning side =>
      refine ⟨.turn side, Or.inl ?_⟩
      rw [oaState_eq run, here]
      rfl
  | holding side held => exact ⟨.turn side, Or.inr (heldFrom_of_holding run n side held here)⟩

theorem turning_of_reading (run : OaRun env s) (k : ℕ)
    (free : (s (3 * k)).avoidance.oaState = .init ∨ (s (3 * k)).avoidance.oaState = .driveStraight)
    {side : Side} (away : escape (irCounts (s (3 * k + 2)).proximity) = some side) :
    (s (3 * (k + 1))).avoidance.oaState = turnState side := by
  rw [oaState_mul_three run, ← turn_eq_none_iff] at free
  rw [(rounding run k).reading] at away
  rw [oaState_mul_three run, courseState_eq_turnState_iff]
  exact HeldTurn.turning_of_escape free away

theorem avoids_obstacles (run : OaRun env s) : AvoidsObstacles env s where
  decides := readState_iff run
  count k := by
    rw [(rounding run k).reading, decisionReading, irCounts]
    split
    · rename_i larger
      exact (max_eq_left (UInt16.le_iff_toNat_le.mp larger)).symm
    · rename_i smaller
      rw [ge_iff_le, UInt16.le_iff_toNat_le, Nat.not_le] at smaller
      exact (max_eq_right (Nat.le_of_lt smaller)).symm
  side k := by
    rw [(rounding run k).reading, decisionReading, irCounts]
    split
    · rename_i larger
      exact iff_of_true rfl larger
    · rename_i smaller
      exact iff_of_false (show ¬ Side.right = .left by decide) smaller
  reads n other := by
    rw [oaState_eq run, oaState_eq run, show (n + 1) / 3 = n / 3 by omega]
  turns k free blocked := by
    constructor
    · intro left
      have away : escape (irCounts (s (3 * k + 2)).proximity) = some .right := by
        simp only [escape, if_neg blocked, left]
      exact turning_of_reading run k free away
    · intro right
      have away : escape (irCounts (s (3 * k + 2)).proximity) = some .left := by
        simp only [escape, if_neg blocked, right]
      exact turning_of_reading run k free away
  straight k free clear := by
    rw [oaState_mul_three run, ← turn_eq_none_iff] at free
    rw [(rounding run k).reading, ← escape_eq_none_iff] at clear
    rw [oaState_mul_three run, courseState_eq_driveStraight_iff]
    exact HeldTurn.straight_of_free free clear
  alpha n moving := by
    by_contra other
    exact moving ((follows_course run n).alpha_eq other)
  alpha_lt := alpha_lt_of_run run
  pair := exists_inPair run
  velocities := velocities_of_inPair run
  exactly distinct n decided pair := by
    constructor
    · intro same
      obtain ⟨taken, here⟩ := exists_inPair run n decided
      rw [velocities_of_inPair run n taken here] at same
      rwa [← distinct same]
    · exact velocities_of_inPair run n pair
  blocked k side turning blocked := by
    rw [oaState_mul_three run, courseState_eq_turnState_iff] at turning ⊢
    apply HeldTurn.turning_of_blocked turning
    rwa [ne_eq, escape_eq_none_iff, ← (rounding run k).reading]
  cleared k side turning clear := by
    rw [oaState_mul_three run, courseState_eq_turnState_iff] at turning
    rw [(rounding run k).reading, ← escape_eq_none_iff] at clear
    constructor
    · intro i inside
      rw [oaState_mul_three run, courseState_eq_holding_iff]
      exact ⟨side, i, HeldTurn.holding_of_clear turning clear inside⟩
    · rw [oaState_mul_three run, courseState_eq_driveStraight_iff]
      exact HeldTurn.straight_of_clear (by decide) turning clear
  between m n ordered side other differ first second := by
    rw [oaState_eq run, courseState_eq_turnState_iff] at first second
    obtain ⟨i, lower, upper, straight⟩ := HeldTurn.straight_between
      (congrArg Course.turn first) (congrArg Course.turn second) differ
      (Nat.div_le_div_right ordered)
    refine ⟨3 * i, by omega, by omega, ?_⟩
    rw [oaState_mul_three run, courseState_eq_driveStraight_iff]
    exact straight

def oaCalls (env : ℕ → Env) (start : State F) : ℕ → State F
  | 0 => start
  | n + 1 => (runOaTask (env n) (oaCalls env start n)).2

theorem oaRun_oaCalls (env : ℕ → Env) (start : State F)
    (initial : start.avoidance = initObstacleAvoidance) : OaRun env (oaCalls env start) :=
  ⟨initial, fun _ => rfl⟩

end Runs

/-- One wheel of each turn has the velocity 0.07, and no other has. -/
theorem velocities_injective : Function.Injective (OaPair.velocities (F := ℚ)) := by
  apply Function.LeftInverse.injective (g := fun v : WheelVelocities ℚ =>
    if v.left = 0.07 then OaPair.turn .left
    else if v.right = 0.07 then OaPair.turn .right
    else OaPair.straight)
  intro pair
  rcases pair with _ | (_ | _)
  · decide +kernel
  · decide +kernel
  · decide +kernel

/-- Decision 0 sees something on the left, decision 2 and decision 6 on the right. -/
def Env.obstacles : Env := { Env.bench [] id with irHit := fun look => look ∈ [2, 12, 27] }

/-- The calls of a robot that has just been switched on before these obstacles. -/
def obstacleCourse : ℕ → State ℚ :=
  oaCalls (fun _ => Env.obstacles) (mainInit (F := ℚ) Env.obstacles)

/-- The turn to the right is held though decision 2 sees an obstacle, and a turn to the left
follows the straight course. -/
theorem avoids_obstacles_course :
    AvoidsObstacles (fun _ => Env.obstacles) obstacleCourse ∧
      (∀ n, 3 ≤ n → ∀ pair : OaPair,
        (obstacleCourse n).avoiding.velocities = pair.velocities ↔ InPair obstacleCourse n pair) ∧
      (List.range 8).map (fun k => (obstacleCourse (3 * k)).avoidance.oaState) =
        [.init, .turnRight, .holding, .holding, .holding, .holding, .driveStraight, .turnLeft] := by
  have avoids : AvoidsObstacles (fun _ => Env.obstacles) obstacleCourse :=
    avoids_obstacles (oaRun_oaCalls _ _ rfl)
  exact ⟨avoids, avoids.exactly velocities_injective, by decide +kernel⟩

end ZumoDelivery
