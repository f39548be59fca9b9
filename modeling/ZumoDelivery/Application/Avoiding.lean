import ZumoDelivery.Lib.HeldTurn
import ZumoDelivery.Application.ObstacleAvoidance

set_option autoImplicit false

namespace ZumoDelivery

open FloatArith
open HeldTurn (Course)

/-- The state that turns to a side. -/
def turnState : Side → OaDsm
  | .left => .turnLeft
  | .right => .turnRight

section Decision

variable {F : Type} [FloatArith F]

def turnVelocities : Side → WheelVelocities F
  | .left => oaTurnLeft
  | .right => oaTurnRight

/-- What the decisions read and write. -/
structure AvoidanceView (F : Type) where
  avoidance : Avoidance
  proximity : Proximity
  velocities : WheelVelocities F

omit [FloatArith F] in
def State.avoiding (s : State F) : AvoidanceView F :=
  ⟨s.avoidance, s.proximity, ⟨s.ctrLeftMotor.targetVel, s.ctrRightMotor.targetVel⟩⟩

def escape (ir : ProximityReturn) : Option Side :=
  if ir.count = 0 then none
  else match ir.side with
    | .left => some .right
    | .right => some .left

/-- A state of the avoidance logic and its targets that follow a course. -/
def Follows : Course Side → AvoidanceView F → Prop
  | .undecided, v => v.avoidance.oaState = .init ∧ v.avoidance.alpha = 0
  | .straight, v =>
      v.avoidance.oaState = .driveStraight ∧ v.avoidance.alpha = 0 ∧ v.velocities = oaStraight
  | .turning side, v =>
      v.avoidance.oaState = turnState side ∧ v.avoidance.alpha = 0 ∧
        v.velocities = turnVelocities side
  | .holding side held, v =>
      v.avoidance.oaState = .holding ∧ v.avoidance.alpha.toNat = held ∧
        v.velocities = turnVelocities side

theorem oaTurn_eq (ir : ProximityReturn) (side : Side) (away : escape ir = some side) :
    oaTurn (F := F) ir = (turnVelocities side, turnState side) := by
  unfold escape at away
  split at away
  · cases away
  · split at away
    · rename_i here
      cases away
      simp only [oaTurn, here, turnVelocities, turnState]
    · rename_i here
      cases away
      simp only [oaTurn, here, turnVelocities, turnState]

theorem escape_eq_none_iff (ir : ProximityReturn) : escape ir = none ↔ ir.count = 0 := by
  unfold escape
  split
  · rename_i clear
    simp only [clear]
  · rename_i blocked
    simp only [blocked, iff_false]
    split <;> simp

theorem count_ne_zero_of_escape {ir : ProximityReturn} {side : Side}
    (away : escape ir = some side) : ir.count ≠ 0 := by
  intro clear
  rw [(escape_eq_none_iff ir).mpr clear] at away
  cases away

/-- A decision takes the course that the abstract machine takes. -/
theorem follows_runStateMachine (ir : ProximityReturn) (s : State F) (c : Course Side)
    (short : ∀ side held, c = .holding side held → held < 4) (follows : Follows c s.avoiding) :
    Follows (c.step 4 (escape ir)) (runStateMachine ir s).avoiding := by
  cases c with
  | undecided =>
      obtain ⟨oaState, alpha⟩ := follows
      have here : s.avoidance.oaState = .init := oaState
      cases away : escape ir with
      | none =>
          have clear := (escape_eq_none_iff ir).mp away
          simp only [runStateMachine, here, clear, ↓reduceIte]
          exact ⟨rfl, alpha, rfl⟩
      | some side =>
          have blocked := count_ne_zero_of_escape away
          simp only [runStateMachine, here, blocked, ↓reduceIte, oaTurn_eq ir side away]
          exact ⟨rfl, alpha, rfl⟩
  | straight =>
      obtain ⟨oaState, alpha, velocities⟩ := follows
      have here : s.avoidance.oaState = .driveStraight := oaState
      cases away : escape ir with
      | none =>
          have clear : ¬ ir.count > 0 := by
            rw [(escape_eq_none_iff ir).mp away]
            decide
          simp only [runStateMachine, here, clear, ↓reduceIte]
          exact ⟨oaState, alpha, velocities⟩
      | some side =>
          have blocked : ir.count > 0 := UInt16.pos_iff_ne_zero.mpr (count_ne_zero_of_escape away)
          simp only [runStateMachine, here, blocked, ↓reduceIte, oaTurn_eq ir side away]
          exact ⟨rfl, alpha, rfl⟩
  | turning side =>
      obtain ⟨oaState, alpha, velocities⟩ := follows
      have turns : runStateMachine ir s =
          if ir.count = 0 then { s with avoidance.oaState := .holding } else s := by
        have here : s.avoidance.oaState = turnState side := oaState
        cases side <;> simp only [runStateMachine, here, turnState]
      rw [turns]
      cases away : escape ir with
      | none =>
          rw [if_pos ((escape_eq_none_iff ir).mp away)]
          exact ⟨rfl, congrArg UInt16.toNat alpha, velocities⟩
      | some other =>
          rw [if_neg (count_ne_zero_of_escape away)]
          exact ⟨oaState, alpha, velocities⟩
  | holding side held =>
      obtain ⟨oaState, alpha, velocities⟩ := follows
      have here : s.avoidance.oaState = .holding := oaState
      have count : s.avoidance.alpha.toNat = held := alpha
      have room := short side held rfl
      have next : (s.avoidance.alpha + 1).toNat = held + 1 := by
        rw [UInt16.toNat_add, count]
        change (held + 1) % 65536 = held + 1
        omega
      have last : s.avoidance.alpha + 1 ≥ 4 ↔ ¬ held + 1 < 4 := by
        rw [ge_iff_le, UInt16.le_iff_toNat_le, next, Nat.not_lt]
        rfl
      simp only [runStateMachine, here, last]
      rw [Course.step]
      by_cases more : held + 1 < 4
      · rw [if_pos more, if_neg (not_not.mpr more)]
        exact ⟨rfl, next, velocities⟩
      · rw [if_neg more, if_pos more]
        exact ⟨rfl, rfl, rfl⟩

end Decision

section Runs

variable {F : Type} [FloatArith F]

/-- The number of brightness levels at which a call of `Run_OA_Task` has a hit. -/
def sensed (env : Env) (s : State F) : UInt16 :=
  UInt16.ofNat ([env.irHit s.looks, env.irHit (s.looks + 1)].count true)

structure OaRun (env : ℕ → Env) (s : ℕ → State F) : Prop where
  start : (s 0).avoidance = initObstacleAvoidance
  call : ∀ n, (s (n + 1)).avoiding = (runOaTask (env n) (s n)).2.avoiding

variable {env : ℕ → Env} {s : ℕ → State F}

def decisionReading (env : ℕ → Env) (s : ℕ → State F) (k : ℕ) : ProximityReturn :=
  irCounts ⟨sensed (env (3 * k)) (s (3 * k)), sensed (env (3 * k + 1)) (s (3 * k + 1))⟩

/-- The course before decision `k`. -/
def oaCourse (env : ℕ → Env) (s : ℕ → State F) : ℕ → Course Side :=
  HeldTurn.course 4 fun k => escape (decisionReading env s k)

/-- The three calls that make one decision. -/
structure Rounding (env : ℕ → Env) (s : ℕ → State F) (k : ℕ) : Prop where
  readL : (s (3 * k)).avoidance.readState = .readL
  left : Follows (oaCourse env s k) (s (3 * k)).avoiding
  readR : (s (3 * k + 1)).avoidance.readState = .readR
  right : Follows (oaCourse env s k) (s (3 * k + 1)).avoiding
  runDsm : (s (3 * k + 2)).avoidance.readState = .runDsm
  decision : Follows (oaCourse env s k) (s (3 * k + 2)).avoiding
  reading : irCounts (s (3 * k + 2)).proximity = decisionReading env s k

/-- Only the decision itself changes what a course is about. -/
theorem Follows.of_readState {c : Course Side} {v : AvoidanceView F} (follows : Follows c v)
    (readState : OaReadState) (proximity : Proximity) :
    Follows c ⟨{ v.avoidance with readState }, proximity, v.velocities⟩ := by
  cases c <;> exact follows

theorem OaRun.readLeft (run : OaRun env s) {n : ℕ} (here : (s n).avoidance.readState = .readL) :
    (s (n + 1)).avoiding = ⟨{ (s n).avoidance with readState := .readR },
      { (s n).proximity with countLeft := sensed (env n) (s n) }, (s n).avoiding.velocities⟩ := by
  rw [run.call, runOaTask, here]
  rfl

theorem OaRun.readRight (run : OaRun env s) {n : ℕ} (here : (s n).avoidance.readState = .readR) :
    (s (n + 1)).avoiding = ⟨{ (s n).avoidance with readState := .runDsm },
      { (s n).proximity with countRight := sensed (env n) (s n) }, (s n).avoiding.velocities⟩ := by
  rw [run.call, runOaTask, here]
  rfl

theorem OaRun.decide (run : OaRun env s) {n : ℕ} (here : (s n).avoidance.readState = .runDsm) :
    (s (n + 1)).avoidance.readState = .readL ∧ ∀ c,
      Follows c (runStateMachine (irCounts (s n).proximity) (s n)).avoiding →
        Follows c (s (n + 1)).avoiding := by
  have after := run.call n
  rw [runOaTask, here] at after
  refine ⟨congrArg (fun v : AvoidanceView F => v.avoidance.readState) after, ?_⟩
  intro c follows
  rw [after]
  exact follows.of_readState .readL _

theorem rounding (run : OaRun env s) (k : ℕ) : Rounding env s k := by
  have complete : ∀ k, (s (3 * k)).avoidance.readState = .readL →
      Follows (oaCourse env s k) (s (3 * k)).avoiding → Rounding env s k := by
    intro k readL left
    have first := run.readLeft readL
    have readR : (s (3 * k + 1)).avoidance.readState = .readR :=
      congrArg (fun v : AvoidanceView F => v.avoidance.readState) first
    have right : Follows (oaCourse env s k) (s (3 * k + 1)).avoiding := by
      rw [first]
      exact left.of_readState .readR _
    have second := run.readRight readR
    have runDsm : (s (3 * k + 2)).avoidance.readState = .runDsm :=
      congrArg (fun v : AvoidanceView F => v.avoidance.readState) second
    have decision : Follows (oaCourse env s k) (s (3 * k + 2)).avoiding := by
      rw [second]
      exact right.of_readState .runDsm _
    have taken : (s (3 * k + 1)).proximity.countLeft = sensed (env (3 * k)) (s (3 * k)) :=
      congrArg (fun v : AvoidanceView F => v.proximity.countLeft) first
    have counts : (s (3 * k + 2)).proximity =
        ⟨(s (3 * k + 1)).proximity.countLeft, sensed (env (3 * k + 1)) (s (3 * k + 1))⟩ :=
      congrArg AvoidanceView.proximity second
    refine ⟨readL, left, readR, right, runDsm, decision, ?_⟩
    rw [counts, taken, decisionReading]
  induction k with
  | zero =>
      apply complete
      · exact congrArg Avoidance.readState run.start
      · exact ⟨congrArg Avoidance.oaState run.start, congrArg Avoidance.alpha run.start⟩
  | succ k ih =>
      obtain ⟨readL, decided⟩ := run.decide ih.runDsm
      apply complete
      · exact readL
      · apply decided
        rw [ih.reading]
        apply follows_runStateMachine _ _ _ _ ih.decision
        intro side held holding
        exact HeldTurn.held_lt (by decide) holding

theorem readState_iff (run : OaRun env s) (n : ℕ) :
    (s n).avoidance.readState = .runDsm ↔ n % 3 = 2 := by
  have now := rounding run (n / 3)
  have place : n % 3 = 0 ∨ n % 3 = 1 ∨ n % 3 = 2 := by omega
  rcases place with first | second | third
  · have readL := now.readL
    rw [show 3 * (n / 3) = n by omega] at readL
    simp [readL, first]
  · have readR := now.readR
    rw [show 3 * (n / 3) + 1 = n by omega] at readR
    simp [readR, second]
  · have runDsm := now.runDsm
    rw [show 3 * (n / 3) + 2 = n by omega] at runDsm
    simp [runDsm, third]

theorem follows_course (run : OaRun env s) (n : ℕ) :
    Follows (oaCourse env s (n / 3)) (s n).avoiding := by
  have now := rounding run (n / 3)
  have place : n % 3 = 0 ∨ n % 3 = 1 ∨ n % 3 = 2 := by omega
  rcases place with first | second | third
  · have left := now.left
    rwa [show 3 * (n / 3) = n by omega] at left
  · have right := now.right
    rwa [show 3 * (n / 3) + 1 = n by omega] at right
  · have decision := now.decision
    rwa [show 3 * (n / 3) + 2 = n by omega] at decision

end Runs

end ZumoDelivery
