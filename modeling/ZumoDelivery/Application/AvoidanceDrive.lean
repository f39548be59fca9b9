import ZumoDelivery.Application.AvoidingRun
import ZumoDelivery.Application.PwmHold
import ZumoDelivery.Application.VelocityRun

set_option autoImplicit false

namespace ZumoDelivery

open FloatArith
open HeldTurn (Course)

section heading

variable {F : Type} [FloatArith F]

/-- What the decisions of obstacle avoidance change: its own state and the targets. -/
def State.heading (s : State F) : Avoidance × WheelVelocities F :=
  (s.avoidance, ⟨s.ctrLeftMotor.targetVel, s.ctrRightMotor.targetVel⟩)

theorem Follows.of_heading {c : Course Side} {s t : State F} (follows : Follows c s.avoiding)
    (same : t.heading = s.heading) : Follows c t.avoiding := by
  have avoidance : t.avoiding.avoidance = s.avoiding.avoidance := congrArg Prod.fst same
  have velocities : t.avoiding.velocities = s.avoiding.velocities := congrArg Prod.snd same
  cases c with
  | undecided =>
      rw [Follows, avoidance]
      exact follows
  | straight =>
      rw [Follows, avoidance, velocities]
      exact follows
  | turning side =>
      rw [Follows, avoidance, velocities]
      exact follows
  | holding side held =>
      rw [Follows, avoidance, velocities]
      exact follows

theorem heading_messageHandlingTask (env : Env) (s : State F) (quiet : accepted env s = none) :
    (messageHandlingTask env s).1.heading = s.heading :=
  task_of_quiet quiet (fun t => t.heading = s.heading) (fun _ => rfl) rfl
    (fun request _ _ => by cases request <;> rfl) fun _ _ => rfl

/-- While only obstacle avoidance and velocity control are active, the rest of the loop keeps
the heading. -/
theorem heading_run (env : Env) (stage : Stage) (s : State F) (notTask : stage ≠ .messageHandling)
    (notAvoidance : stage ≠ .objAvoidance) (dist : s.drive.dist.active = false)
    (stop : s.drive.stop.active = false) : (stage.run env s).heading = s.heading := by
  apply run_rule env stage s (fun t => t.heading = s.heading) notTask
  · exact fun _ _ _ => rfl
  · intro after due execution
    cases execution with
    | distBaseline | distDone | distStep =>
        cases due.symm.trans (MsgFlag.not_due_of_inactive env _ s dist)
    | motorStop =>
        cases due.symm.trans (MsgFlag.not_due_of_inactive env _ s stop)
    | oaLeft | oaRight | oaDecided => exact absurd rfl notAvoidance
    | _ => rfl

theorem follows_objAvoidanceHandler (env : Env) (s : State F) (c : Course Side)
    (short : ∀ side held, c = .holding side held → held < 4) (follows : Follows c s.avoiding) :
    Follows (if s.flags.mfObjAvoidance.due env s = true ∧ s.avoidance.readState = .runDsm then
      c.step 4 (escape (irCounts s.proximity)) else c) (objAvoidanceHandler env s).avoiding := by
  have step : LoopStep env s .objAvoidance (objAvoidanceHandler env s) :=
    loopStep env .objAvoidance s
  generalize objAvoidanceHandler env s = after at step ⊢
  cases step with
  | waiting _ idle looks =>
      rw [if_neg (fun both => Bool.false_ne_true (idle.symm.trans both.1))]
      exact follows.of_heading rfl
  | executed _ due _ execution =>
      cases execution with
      | oaLeft phase =>
          rw [if_neg (fun both => absurd (phase.symm.trans both.2) (by decide))]
          exact follows.of_readState .readR _
      | oaRight phase =>
          rw [if_neg (fun both => absurd (phase.symm.trans both.2) (by decide))]
          exact follows.of_readState .runDsm _
      | oaDecided phase decided same =>
          rw [if_pos ⟨due, phase⟩, same]
          exact (follows_runStateMachine (irCounts s.proximity) s c short follows).of_readState
            .readL _

end heading

section mode

/-- Obstacle avoidance and, from its first decision on, velocity control are active. -/
structure Drive.Avoiding (d : Drive ℚ) : Prop where
  avoid : d.avoid.active = true
  dist : d.dist.active = false
  stop : d.stop.active = false
  timed : d.timed.active = false
  vel : d.vel.active = true ↔ d.oaState ≠ .init

theorem Drive.Avoiding.move {d after : Drive ℚ} (avoiding : d.Avoiding) (step : d.Move after) :
    after.Avoiding := by
  cases step with
  | idle => exact avoiding
  | pwmExpired active => cases avoiding.timed.symm.trans active
  | distanceStep active now => cases avoiding.dist.symm.trans active
  | distanceDone active => cases avoiding.dist.symm.trans active
  | velocityStep active now =>
      exact ⟨avoiding.avoid, avoiding.dist, avoiding.stop, avoiding.timed, avoiding.vel⟩
  | stopExpired active => cases avoiding.stop.symm.trans active
  | avoidanceStart active waits next chosen period now =>
      exact ⟨active, avoiding.dist, avoiding.stop, avoiding.timed, iff_of_true rfl chosen⟩
  | avoidanceStep active started next chosen now =>
      exact ⟨active, avoiding.dist, avoiding.stop, avoiding.timed,
        iff_of_true (avoiding.vel.mpr started) chosen⟩

theorem Drive.Avoiding.restart {d : Drive ℚ} (avoiding : d.Avoiding) : d.restart.Avoiding :=
  ⟨avoiding.avoid, rfl, rfl, rfl, avoiding.vel⟩

theorem avoiding_since (env : Env) {start last : ℕ} {duration : ℚ}
    (accepts : acceptedAt ℚ env start = some (.avoidance duration)) (later : start < last)
    (undisturbed : ∀ time, start < time → time < last → acceptedAt ℚ env time = none) :
    (deviceTrace (F := ℚ) env last).drive.Avoiding := by
  apply drive_since env _ (start + 1) last later
  · cases driveStep (F := ℚ) env start with
    | move quiet step => cases accepts.symm.trans quiet
    | restart quiet restarts same => cases accepts.symm.trans quiet
    | command other accepted same =>
        cases accepts.symm.trans accepted
        rw [same]
        exact ⟨rfl, rfl, rfl, rfl, iff_of_false Bool.false_ne_true fun other => other rfl⟩
  · intro d after avoiding step
    exact avoiding.move step
  · intro time lower upper restartsAt avoiding
    exact avoiding.restart
  · intro time lower upper other now period accepted avoiding
    cases (undisturbed time lower upper).symm.trans accepted

/-- An accepted 'O' starts the decisions anew. -/
theorem started_of_avoidance (env : Env) (s : State ℚ) {duration : ℚ}
    (accepts : accepted env s = some (.avoidance duration)) :
    (messageHandlingTask env s).1.avoidance = initObstacleAvoidance := by
  revert accepts
  apply task_rule env s (fun t message =>
    message.bind (acceptedBy (batteryVoltage s.batteryFilter)) = some (.avoidance duration) →
      t.avoidance = initObstacleAvoidance)
  · exact fun _ accepts => nomatch accepts
  · intro command char accepts
    rw [Option.bind_some, acceptedBy_of_other char (by decide)] at accepts
    cases accepts
  · intro message usb after step accepts
    cases step with
    | avoidance => rfl
    | replied _ _ other | asked _ _ _ _ other | gripper _ _ _ _ other | pwm _ other
    | pwmTimed _ _ other | stop _ other | distance _ _ _ other | distanceTimed _ _ _ _ other
    | velocity _ _ _ other | velocityTimed _ _ _ _ other => cases accepts.symm.trans other

end mode

section run

variable {env : Env}

def DecidesAt (env : Env) (time : ℕ) : Prop :=
  stageAt time = some .objAvoidance ∧
    (deviceTrace (F := ℚ) env time).flags.mfObjAvoidance.due env (deviceTrace env time) = true ∧
    (deviceTrace (F := ℚ) env time).avoidance.readState = .runDsm

instance (env : Env) (time : ℕ) : Decidable (DecidesAt env time) :=
  inferInstanceAs (Decidable (_ ∧ _ ∧ _))

/-- What is decided between two times, by the readings of the sensor then. -/
def escapesSince (env : Env) (start : ℕ) : ℕ → List (Option Side)
  | 0 => []
  | time + 1 =>
      escapesSince env start time ++
        if start < time ∧ DecidesAt env time then
          [escape (irCounts (deviceTrace (F := ℚ) env time).proximity)]
        else []

/-- The course after the decisions since an 'O'. -/
def courseSince (env : Env) (start time : ℕ) : Course Side :=
  HeldTurn.courseAfter 4 (escapesSince env start time)

theorem escapesSince_start (start : ℕ) {time : ℕ} (before : time ≤ start + 1) :
    escapesSince env start time = [] := by
  induction time with
  | zero => rfl
  | succ time ih =>
      rw [escapesSince, ih (by omega), if_neg (fun both => by omega)]
      rfl

theorem courseSince_succ (start : ℕ) {time : ℕ} (later : start < time) :
    courseSince env start (time + 1) =
      if DecidesAt env time then
        (courseSince env start time).step 4
          (escape (irCounts (deviceTrace (F := ℚ) env time).proximity))
      else courseSince env start time := by
  rw [courseSince, escapesSince]
  by_cases decides : DecidesAt env time
  · rw [if_pos ⟨later, decides⟩, if_pos decides, HeldTurn.courseAfter_append]
    rfl
  · rw [if_neg (fun both => decides both.2), if_neg decides, List.append_nil]
    rfl

/-- In the mode of 'O' one statement follows the course. -/
theorem follows_succ {start time : ℕ} (later : start < time)
    (quiet : acceptedAt ℚ env time = none)
    (avoiding : (deviceTrace (F := ℚ) env time).drive.Avoiding)
    (follows : Follows (courseSince env start time) (deviceTrace (F := ℚ) env time).avoiding) :
    Follows (courseSince env start (time + 1))
      (deviceTrace (F := ℚ) env (time + 1)).avoiding := by
  obtain ⟨stage, here⟩ := stageAt_isSome time
  rw [deviceTrace_succ here, courseSince_succ start later]
  by_cases avoids : stage = .objAvoidance
  · subst avoids
    have decided := follows_objAvoidanceHandler env (deviceTrace (F := ℚ) env time) _
      (fun side held holding => HeldTurn.held_lt_of_courseAfter (by decide) holding) follows
    simp only [DecidesAt, here, true_and]
    exact decided
  · rw [if_neg (fun decides => avoids (Option.some.inj (here.symm.trans decides.1)))]
    by_cases task : stage = .messageHandling
    · subst task
      rw [acceptedAt_of_stage here] at quiet
      exact follows.of_heading (heading_messageHandlingTask env _ quiet)
    · exact follows.of_heading (heading_run env stage _ task avoids avoiding.dist avoiding.stop)

theorem follows_since {start last : ℕ} {duration : ℚ}
    (accepts : acceptedAt ℚ env start = some (.avoidance duration)) (later : start < last)
    (undisturbed : ∀ time, start < time → time < last → acceptedAt ℚ env time = none) :
    Follows (courseSince env start last) (deviceTrace (F := ℚ) env last).avoiding := by
  induction last, later using Nat.le_induction with
  | base =>
      have task := stage_of_acceptedAt accepts
      rw [acceptedAt_of_stage task] at accepts
      have started := started_of_avoidance env _ accepts
      rw [courseSince, escapesSince_start start (Nat.le_refl _), deviceTrace_succ task]
      change (messageHandlingTask env _).1.avoidance.oaState = .init ∧
        (messageHandlingTask env _).1.avoidance.alpha = 0
      rw [started]
      exact ⟨rfl, rfl⟩
  | succ last later ih =>
      have before := fun time lower upper => undisturbed time lower (Nat.lt_succ_of_lt upper)
      exact follows_succ later (undisturbed last later (Nat.lt_succ_self last))
        (avoiding_since env accepts later before) (ih before)

theorem SameOutputs.trans {first second third : MotorPwm} (start : SameOutputs first second)
    (rest : SameOutputs second third) : SameOutputs first third := by
  have twice : ∀ port : BitVec 8, (port &&& 0b01111111) &&& 0b01111111 = port &&& 0b01111111 := by
    decide
  rcases start with rfl | rfl
  · exact rest
  · rcases rest with rfl | rfl
    · exact Or.inr rfl
    · refine Or.inr ?_
      congr 1
      exact UInt8.toBitVec_inj.mp (twice first.portB.toBitVec)

def VelDrivesAt (env : Env) (time : ℕ) : Prop :=
  VelExecutesAt ℚ env time ∧ (deviceTrace (F := ℚ) env time).locals.firstTime = false

instance (env : Env) (time : ℕ) : Decidable (VelDrivesAt env time) :=
  inferInstanceAs (Decidable (_ ∧ _))

def coursePair : Course Side → Option OaPair
  | .undecided => none
  | .straight => some .straight
  | .turning side => some (.turn side)
  | .holding side _ => some (.turn side)

def OaPair.duties : OaPair → Int16 × Int16
  | .straight => (30, 30)
  | .turn .left => (17, 59)
  | .turn .right => (61, 16)

theorem duties_of_velocities (pair : OaPair) :
    velocityToDutyCycleLeft (pair.velocities (F := ℚ)).left = pair.duties.1 ∧
      velocityToDutyCycleRight (pair.velocities (F := ℚ)).right = pair.duties.2 := by
  rcases pair with _ | (_ | _)
  · decide +kernel
  · decide +kernel
  · decide +kernel

theorem exists_pair_of_follows {F : Type} [FloatArith F] {c : Course Side} {v : AvoidanceView F}
    (follows : Follows c v) (decided : v.avoidance.oaState ≠ .init) :
    ∃ pair ∈ coursePair c, v.velocities = pair.velocities := by
  cases c with
  | undecided => exact absurd follows.1 decided
  | straight => exact ⟨.straight, rfl, follows.2.2⟩
  | turning side => exact ⟨.turn side, rfl, follows.2.2⟩
  | holding side held => exact ⟨.turn side, rfl, follows.2.2⟩

theorem runs_of_velDrivesAt {time : ℕ} (drives : VelDrivesAt env time) :
    (deviceTrace (F := ℚ) env (time + 1)).motors.Runs
      (velocityToDutyCycleLeft (deviceTrace (F := ℚ) env time).ctrLeftMotor.targetVel)
      (velocityToDutyCycleRight (deviceTrace (F := ℚ) env time).ctrRightMotor.targetVel) := by
  obtain ⟨⟨here, due⟩, first⟩ := drives
  have past : (deviceTrace (F := ℚ) env time).looked.locals.firstTime = false := first
  rw [deviceTrace_succ here]
  change (velControlHandler env (deviceTrace (F := ℚ) env time)).motors.Runs _ _
  rw [velControlHandler, whenDue_of_due _ due]
  simp only [past, Bool.false_eq_true, ↓reduceIte, getTimeSec, getTime, countsLeft, countsRight]
  exact runs_driveMotors _ _ (configured_deviceTrace env time)

theorem sameOutputs_succ {time : ℕ} (quiet : acceptedAt ℚ env time = none)
    (avoiding : (deviceTrace (F := ℚ) env time).drive.Avoiding)
    (idle : ¬ VelDrivesAt env time) :
    SameOutputs (deviceTrace (F := ℚ) env time).motors
      (deviceTrace (F := ℚ) env (time + 1)).motors := by
  obtain ⟨stage, here⟩ := stageAt_isSome time
  rw [deviceTrace_succ here]
  by_cases task : stage = .messageHandling
  · subst task
    rw [acceptedAt_of_stage here] at quiet
    exact Or.inl (motors_of_quiet quiet)
  · apply sameOutputs_run env stage _ task avoiding.dist ?_
      (fun _ => MsgFlag.not_due_of_inactive env _ _ avoiding.stop)
      (MsgFlag.not_due_of_inactive env _ _ avoiding.timed)
    rintro rfl due
    by_contra past
    exact idle ⟨⟨here, due⟩, Bool.eq_false_of_not_eq_true past⟩

theorem sameOutputs_since {start first last : ℕ} {duration : ℚ}
    (accepts : acceptedAt ℚ env start = some (.avoidance duration)) (later : start < first)
    (ordered : first ≤ last)
    (undisturbed : ∀ time, start < time → time < last → acceptedAt ℚ env time = none)
    (idle : ∀ time, first ≤ time → time < last → ¬ VelDrivesAt env time) :
    SameOutputs (deviceTrace (F := ℚ) env first).motors
      (deviceTrace (F := ℚ) env last).motors := by
  induction last, ordered using Nat.le_induction with
  | base => exact Or.inl rfl
  | succ last ordered ih =>
      have before := fun time lower upper => undisturbed time lower (Nat.lt_succ_of_lt upper)
      have within : start < last := Nat.lt_of_lt_of_le later ordered
      refine (ih before fun time lower upper => idle time lower (Nat.lt_succ_of_lt upper)).trans ?_
      exact sameOutputs_succ (undisturbed last within (Nat.lt_succ_self last))
        (avoiding_since env accepts within before) (idle last ordered (Nat.lt_succ_self last))

/-- What an accepted 'O' makes the device do up to a later time. -/
structure AvoidanceDrives (env : Env) (start last : ℕ) : Prop where
  /-- The decisions follow the course from scratch. -/
  follows : Follows (courseSince env start last) (deviceTrace (F := ℚ) env last).avoiding
  /-- Velocity control is off up to the first decision, and on from then on. -/
  drives : (deviceTrace (F := ℚ) env last).drive.vel.active = true ↔
    escapesSince env start last ≠ []
  /-- Up to its first execution the motors do what they did before. -/
  waits : (∀ time, start < time → time < last → ¬ VelDrivesAt env time) →
    SameOutputs (deviceTrace (F := ℚ) env start).motors (deviceTrace (F := ℚ) env last).motors
  /-- From then on they have the duties of the course at its last execution. -/
  runs : ∀ time, start < time → time < last → VelDrivesAt env time →
    (∀ after, time < after → after < last → ¬ VelDrivesAt env after) →
    ∃ pair ∈ coursePair (courseSince env start time),
      (deviceTrace (F := ℚ) env last).motors.Runs pair.duties.1 pair.duties.2

/-- From an accepted 'O' up to the next accepted motor command the robot follows the course of
its decisions: straight on at 30 %, or away from the obstacle until the way is clear, and then
for four more decisions, whatever is sensed. -/
theorem avoidance_drives (env : Env) (start last : ℕ) (duration : ℚ)
    (accepts : acceptedAt ℚ env start = some (.avoidance duration)) (later : start < last)
    (undisturbed : ∀ time, start < time → time < last → acceptedAt ℚ env time = none) :
    AvoidanceDrives env start last where
  follows := follows_since accepts later undisturbed
  drives := by
    have follows := follows_since accepts later undisturbed
    rw [(avoiding_since env accepts later undisturbed).vel, ne_eq, ne_eq, not_iff_not,
      ← HeldTurn.courseAfter_eq_undecided_iff]
    change (deviceTrace (F := ℚ) env last).avoiding.avoidance.oaState = .init ↔
      courseSince env start last = .undecided
    rw [follows.oaState_eq]
    cases courseSince env start last with
    | turning side => cases side <;> exact iff_of_false (nomatch ·) (nomatch ·)
    | undecided => exact iff_of_true rfl rfl
    | _ => exact iff_of_false (nomatch ·) (nomatch ·)
  waits := by
    intro idle
    have task := stage_of_acceptedAt accepts
    have motors : (deviceTrace (F := ℚ) env (start + 1)).motors =
        (deviceTrace (F := ℚ) env start).motors := by
      have accepted := accepts
      rw [acceptedAt_of_stage task] at accepted
      rw [deviceTrace_succ task]
      obtain ⟨message, -, same⟩ := motors_of_accepted accepted
      exact same
    rw [← motors]
    exact sameOutputs_since accepts (Nat.lt_succ_self start) later undisturbed idle
  runs := by
    intro time lower upper drives latest
    have before := fun earlier first second =>
      undisturbed earlier first (Nat.lt_trans second upper)
    have follows := follows_since accepts lower before
    have avoiding := avoiding_since env accepts lower before
    have active := MsgFlag.active_of_due drives.1.2
    obtain ⟨pair, chosen, velocities⟩ := exists_pair_of_follows follows (avoiding.vel.mp active)
    refine ⟨pair, chosen, ?_⟩
    have runs := runs_of_velDrivesAt drives
    have left : (deviceTrace (F := ℚ) env time).ctrLeftMotor.targetVel = pair.velocities.left :=
      congrArg WheelVelocities.left velocities
    have right : (deviceTrace (F := ℚ) env time).ctrRightMotor.targetVel =
        pair.velocities.right := congrArg WheelVelocities.right velocities
    rw [left, right, (duties_of_velocities pair).1, (duties_of_velocities pair).2] at runs
    exact runs.same (sameOutputs_since accepts (Nat.lt_succ_of_lt lower) upper undisturbed latest)

/-- One 'O', an obstacle on the left at the first decision, and one while the turn is held. -/
def Env.avoiding : Env :=
  { Env.bench [] (1000 * ·) with
    outPacket := fun look => if look < 10 then some [79, 0, 0, 128, 63] else none
    irHit := fun look => 20 ≤ look ∧ look < 24 ∨ 71 ≤ look ∧ look < 95 }

set_option maxRecDepth 20000 in
/-- The robot turns to the right, holds the turn and drives straight on. -/
theorem avoidance_drives_bench :
    AvoidanceDrives Env.avoiding 69 400 ∧
      [102, 119, 170, 221, 374].map (fun time =>
          (deviceTrace (F := ℚ) Env.avoiding time).avoidance.oaState) =
        [.init, .turnRight, .holding, .holding, .driveStraight] := by
  have undisturbed : ∀ time < 400, 69 < time → acceptedAt ℚ Env.avoiding time = none := by
    decide +kernel
  refine ⟨?_, by decide +kernel⟩
  exact avoidance_drives Env.avoiding 69 400 1 (by decide +kernel) (by decide)
    fun time lower upper => undisturbed time upper lower

end run

end ZumoDelivery
