import ZumoDelivery.Lib.DifferentialDrive
import ZumoDelivery.Application.Dispatching
import ZumoDelivery.Application.Drive

set_option autoImplicit false

namespace ZumoDelivery

open DifferentialDrive (Wheels heading arc)

section Accepted

variable {F : Type} [FloatArith F]

open FloatArith

theorem byteAt_take (data : List UInt8) {offset length : ℕ} (inside : offset < length) :
    byteAt (data.take length) offset = byteAt data offset := by
  simp only [byteAt, List.getD_eq_getElem?_getD, List.getElem?_take, inside, ↓reduceIte]

theorem floatAt_take (data : List UInt8) {offset length : ℕ} (inside : offset + 3 < length) :
    (floatAt (data.take length) offset : F) = floatAt data offset := by
  simp only [floatAt, byteAt_take data (show offset < length by omega),
    byteAt_take data (show offset + 1 < length by omega),
    byteAt_take data (show offset + 2 < length by omega), byteAt_take data inside]

/-- A complete command with one of these letters is next, its payload starts with
these two numbers, and the battery is good enough for it. -/
def Accepts (letters : List Char) (s : State F) (first second : F) : Prop :=
  ∃ command rest, s.usb.received = command :: rest ∧ Ascii.toChar command ∈ letters ∧
    messageSize command ≤ s.usb.received.length ∧ batteryGood s = true ∧
    floatAt rest 0 = first ∧ floatAt rest 4 = second

def State.targetPositions (s : State F) : Wheels F :=
  ⟨s.ctrLeftMotor.targetPos, s.ctrRightMotor.targetPos⟩

def State.targetVelocities (s : State F) : Wheels F :=
  ⟨s.ctrLeftMotor.targetVel, s.ctrRightMotor.targetVel⟩

def Targets.distances (targets : Targets F) : Wheels F :=
  ⟨targets.distanceLeft, targets.distanceRight⟩

def Targets.speeds (targets : Targets F) : Wheels F :=
  ⟨targets.velocities.left, targets.velocities.right⟩

def Journey.ask (j : Journey F) (targets : Targets F) : Journey F where
  firstTime := j.firstTime
  ticksLOld := j.ticksLOld
  ticksROld := j.ticksROld
  ctrLeftMotor := controllerSetTargetVelocity
    (controllerSetTargetPosition j.ctrLeftMotor targets.distanceLeft) targets.velocities.left
  ctrRightMotor := controllerSetTargetVelocity
    (controllerSetTargetPosition j.ctrRightMotor targets.distanceRight) targets.velocities.right

theorem dispatched_of_accepts (env : Env) {s : State F} {letters : List Char} {first second : F}
    (accepts : Accepts letters s first second)
    (long : letters.all (fun letter => 9 ≤ (messageLen letter).toNat) = true) :
    ∃ message usb, (messageHandlingTask env s).2 = some message ∧
      CaseStep env { s with usb } message (messageHandlingTask env s).1 ∧
      Ascii.toChar message.command ∈ letters ∧ le (lit 4.75) (batteryVoltage s.batteryFilter) ∧
      floatAt message.payload 0 = first ∧ floatAt message.payload 4 = second := by
  obtain ⟨command, rest, stored, letter, whole, good, sameFirst, sameSecond⟩ := accepts
  have size : 9 ≤ messageSize command :=
    of_decide_eq_true (List.all_eq_true.mp long _ letter)
  have notRestart : Ascii.toChar command ≠ '~' := by
    intro char
    rw [messageSize, char] at size
    exact absurd size (by decide)
  obtain ⟨guard, dataLen, body, receiveBuffer, found, result, -⟩ :=
    task_of_whole env s command rest stored (by omega) notRestart whole
  have payload := (switchCase_sizes found).2.1
  refine ⟨⟨command, rest.take dataLen⟩, { s.usb with receiveBuffer }, ?_, ?_, letter, good, ?_, ?_⟩
  · rw [result]
  · rw [result]
    exact caseStep_switchCase found _ _
  · rw [floatAt_take rest (show 0 + 3 < dataLen by omega), sameFirst]
  · rw [floatAt_take rest (show 4 + 3 < dataLen by omega), sameSecond]

def DriveCommand.journey (payload : List UInt8) (j : Journey F) : DriveCommand F → Journey F
  | .distance => j.ask (distanceTargets (floatAt payload 0) (floatAt payload 4))
  | .distanceTimed _ => j.ask (distanceTargets (floatAt payload 0) (floatAt payload 4))
  | .velocity => j.ask (velocityTargets (floatAt payload 0) (floatAt payload 4))
  | .velocityTimed _ => j.ask (velocityTargets (floatAt payload 0) (floatAt payload 4))
  | .stop => j.ask ⟨[], lit 0, lit 0, ⟨lit 0, lit 0⟩⟩
  | _ => j

theorem CaseStep.journey {env : Env} {s after : State F} {message : Dispatch}
    (step : CaseStep env s message after) :
    after.journey = (acceptedBy (batteryVoltage s.batteryFilter) message).elim s.journey
      (DriveCommand.journey message.payload s.journey) := by
  cases step with
  | replied _ _ quiet | gripper _ _ _ _ quiet =>
      rw [quiet]
      rfl
  | asked request _ _ _ quiet =>
      rw [quiet]
      cases request <;> rfl
  | distance _ asks _ accepts | distanceTimed _ _ asks _ accepts | velocity _ asks _ accepts
  | velocityTimed _ _ asks _ accepts =>
      rw [accepts, asks]
      rfl
  | pwm _ accepts | pwmTimed _ _ accepts | stop _ accepts | avoidance _ _ accepts =>
      rw [accepts]
      rfl

/-- A 'd' or 'D' is accepted as such, and asks for the targets of `distanceTargets`. -/
theorem distance_of_accepts (env : Env) (s : State F) (linear angular : F)
    (accepts : Accepts ['d', 'D'] s linear angular) :
    (messageHandlingTask env s).1.journey = s.journey.ask (distanceTargets linear angular) ∧
      ∃ command, accepted env s = some command ∧ command.isDistance = true := by
  obtain ⟨message, usb, ran, step, letter, good, rfl, rfl⟩ :=
    dispatched_of_accepts env accepts (by decide)
  have journey := step.journey
  rw [accepted, ran, Option.bind_some]
  simp only [List.mem_cons, List.not_mem_nil, or_false] at letter
  rcases letter with char | char
  · have same : acceptedBy (batteryVoltage s.batteryFilter) message = some .distance := by
      simp only [acceptedBy, char, good, ↓reduceIte]
    rw [same] at journey
    exact ⟨journey, .distance, same, rfl⟩
  · have same : acceptedBy (batteryVoltage s.batteryFilter) message =
        some (.distanceTimed (floatAt message.payload 8)) := by
      simp only [acceptedBy, char, good, ↓reduceIte]
    rw [same] at journey
    exact ⟨journey, _, same, rfl⟩

theorem targetPositions_of_accepts (env : Env) (s : State F) (linear angular : F)
    (accepts : Accepts ['d', 'D'] s linear angular) :
    (messageHandlingTask env s).1.targetPositions =
      (distanceTargets linear angular).distances :=
  congrArg (fun j : Journey F => Wheels.mk j.ctrLeftMotor.targetPos j.ctrRightMotor.targetPos)
    (distance_of_accepts env s linear angular accepts).1

/-- 'v' and 'V'. -/
def DriveCommand.isVelocity : DriveCommand F → Bool
  | .velocity => true
  | .velocityTimed _ => true
  | _ => false

theorem velocity_of_accepts (env : Env) (s : State F) (velocity angular : F)
    (accepts : Accepts ['v', 'V'] s velocity angular) :
    (messageHandlingTask env s).1.journey = s.journey.ask (velocityTargets velocity angular) ∧
      ∃ command, accepted env s = some command ∧ command.isVelocity = true := by
  obtain ⟨message, usb, ran, step, letter, good, rfl, rfl⟩ :=
    dispatched_of_accepts env accepts (by decide)
  have journey := step.journey
  rw [accepted, ran, Option.bind_some]
  simp only [List.mem_cons, List.not_mem_nil, or_false] at letter
  rcases letter with char | char
  · have same : acceptedBy (batteryVoltage s.batteryFilter) message = some .velocity := by
      simp only [acceptedBy, char, good, ↓reduceIte]
    rw [same] at journey
    exact ⟨journey, .velocity, same, rfl⟩
  · have same : acceptedBy (batteryVoltage s.batteryFilter) message =
        some (.velocityTimed (floatAt message.payload 8)) := by
      simp only [acceptedBy, char, good, ↓reduceIte]
    rw [same] at journey
    exact ⟨journey, _, same, rfl⟩

theorem targetVelocities_of_accepts (env : Env) (s : State F) (velocity angular : F)
    (accepts : Accepts ['v', 'V'] s velocity angular) :
    (messageHandlingTask env s).1.targetVelocities =
      (velocityTargets velocity angular).speeds :=
  congrArg (fun j : Journey F => Wheels.mk j.ctrLeftMotor.targetVel j.ctrRightMotor.targetVel)
    (velocity_of_accepts env s velocity angular accepts).1

end Accepted

section Exact

theorem wheelBase_pos : 0 < (wheelBase : ℚ) := by
  change (0 : ℚ) < 0.098
  norm_num

/-- An angle of at least 0.01 either way is a turn. -/
theorem isStraight_of_turning {angular : ℚ} (turning : 0.01 ≤ angular ∨ angular ≤ -0.01) :
    isStraight angular = false := by
  rw [isStraight, Bool.and_eq_false_iff, ← Bool.not_eq_true, ← Bool.not_eq_true,
    FloatArith.lt_iff, FloatArith.lt_iff]
  rcases turning with left | right
  · exact Or.inl (not_lt.mpr left)
  · exact Or.inr (not_lt.mpr right)

theorem abs_of_corrected (linear : ℚ) :
    (if FloatArith.lt linear (FloatArith.lit 0) then linear * FloatArith.lit (-1) else linear) =
      |linear| := by
  by_cases negative : linear < 0
  · rw [if_pos ((FloatArith.lt_iff linear (FloatArith.lit 0)).mpr negative),
      abs_of_neg negative, FloatArith.lit_eq]
    ring
  · rw [if_neg (by rwa [FloatArith.lt_iff, FloatArith.lit_eq]), abs_of_nonneg (not_lt.mp negative)]

/-- A long enough turn follows an arc around the inner wheel. -/
theorem distanceTargets_arc {linear angular : ℚ}
    (turning : 0.01 ≤ angular ∨ angular ≤ -0.01) (long : 0.04 ≤ |linear|) :
    (distanceTargets linear angular).distances = arc wheelBase |linear| angular := by
  have far : ¬ FloatArith.lt |linear| (FloatArith.lit 0.04 : ℚ) = true := by
    rw [FloatArith.lt_iff]
    exact not_lt.mpr long
  rw [distanceTargets, isStraight_of_turning turning]
  simp only [abs_of_corrected, far, Bool.false_eq_true, ↓reduceIte]
  rw [arc]
  by_cases left : 0 < angular
  · rw [if_pos left, if_pos ((FloatArith.lt_iff (FloatArith.lit 0) angular).mpr left)]
    change Wheels.mk |linear| (angular * (|linear| / angular + wheelBase)) = _
    congr 1
    field_simp
  · have right : angular < 0 := by
      rcases turning with positive | negative
      · linarith
      · linarith
    rw [if_neg left, if_neg (by rwa [FloatArith.lt_iff, FloatArith.lit_eq])]
    change Wheels.mk (angular * -1 * (|linear| / (angular * -1) + wheelBase)) |linear| = _
    congr 1
    have nonzero : angular ≠ 0 := right.ne
    field_simp
    ring

/-- A spin changes the heading by half of the size of the angle, always to the left. -/
theorem heading_distanceTargets_spin {linear angular : ℚ}
    (turning : 0.01 ≤ angular ∨ angular ≤ -0.01) (short : |linear| < 0.04) :
    heading wheelBase (distanceTargets linear angular).distances = |angular| / 2 := by
  have near : FloatArith.lt |linear| (FloatArith.lit 0.04 : ℚ) = true :=
    (FloatArith.lt_iff _ _).mpr short
  rw [distanceTargets, isStraight_of_turning turning]
  simp only [abs_of_corrected, near, Bool.false_eq_true, ↓reduceIte]
  by_cases left : 0 < angular
  · rw [if_pos ((FloatArith.lt_iff (FloatArith.lit 0) angular).mpr left), abs_of_pos left]
    change (0.049 * angular / 2 - -1 * (0.049 * angular / 2)) / 0.098 = angular / 2
    ring
  · rw [if_neg (by rwa [FloatArith.lt_iff, FloatArith.lit_eq]), abs_of_nonpos (not_lt.mp left)]
    change (-1 * (0.049 * angular / 2) - 0.049 * angular / 2) / 0.098 = -angular / 2
    ring

theorem velocityTargets_left {velocity angular : ℚ} (turning : 0.01 ≤ angular) :
    (velocityTargets velocity angular).speeds = arc wheelBase velocity angular := by
  have left : 0 < angular := by linarith
  rw [velocityTargets, isStraight_of_turning (Or.inl turning), arc, if_pos left,
    if_pos ((FloatArith.lt_iff (FloatArith.lit 0) angular).mpr left)]
  rfl

/-- To the right the outer wheel gets the slower speed. -/
theorem velocityTargets_right {velocity angular : ℚ} (turning : angular ≤ -0.01) :
    (velocityTargets velocity angular).speeds = ⟨velocity + wheelBase * angular, velocity⟩ := by
  have right : ¬ 0 < angular := by linarith
  rw [velocityTargets, isStraight_of_turning (Or.inr turning), if_neg Bool.false_ne_true,
    if_neg (by rwa [FloatArith.lt_iff, FloatArith.lit_eq])]
  rfl

/-- A turn by `angular`, whose opposite is its mirror image. -/
structure TurnLaw (angular : ℚ) (wheels opposite : Wheels ℚ) : Prop where
  heading : heading wheelBase wheels = angular
  left : 0 < angular → wheels.left < wheels.right
  right : angular < 0 → wheels.right < wheels.left
  mirror : opposite = wheels.mirror

/-- Exactly the turns of at least `MIN_TURN_ARC` obey the law. -/
theorem distance_turn_law_iff (env env' : Env) (s opposite : State ℚ) (linear angular : ℚ)
    (turning : 0.01 ≤ angular ∨ angular ≤ -0.01)
    (asked : Accepts ['d', 'D'] s linear angular)
    (mirrored : Accepts ['d', 'D'] opposite linear (-angular)) :
    TurnLaw angular (messageHandlingTask env s).1.targetPositions
        (messageHandlingTask env' opposite).1.targetPositions ↔
      0.04 ≤ |linear| := by
  rw [targetPositions_of_accepts env s linear angular asked,
    targetPositions_of_accepts env' opposite linear (-angular) mirrored]
  have nonzero : angular ≠ 0 := by
    rintro rfl
    norm_num at turning
  have turned : 0.01 ≤ -angular ∨ -angular ≤ -0.01 := by
    rcases turning with left | right
    · right
      linarith
    · left
      linarith
  by_cases long : 0.04 ≤ |linear|
  · have turns := DifferentialDrive.heading_arc wheelBase_pos |linear| angular
    simp only [long, iff_true]
    rw [distanceTargets_arc turning long, distanceTargets_arc turned long]
    refine ⟨turns, ?_, ?_, DifferentialDrive.arc_neg wheelBase |linear| nonzero⟩
    · rw [DifferentialDrive.left_lt_right_iff wheelBase_pos, turns]
      exact id
    · rw [DifferentialDrive.right_lt_left_iff wheelBase_pos, turns]
      exact id
  · simp only [long, iff_false]
    intro law
    have spun := heading_distanceTargets_spin turning (not_le.mp long)
    rw [law.heading] at spun
    rcases lt_or_gt_of_ne nonzero with right | left
    · rw [abs_of_neg right] at spun
      linarith
    · rw [abs_of_pos left] at spun
      linarith

/-- A charged device that has received some bytes. -/
def deviceCharged (bytes : List UInt8) : State ℚ :=
  { deviceReceived bytes with batteryFilter := batteryMonitorInit filterStatic 1023 }

/-- Half a metre around an angle of one radian, and around its opposite. -/
theorem distance_turn_law_iff_half :
    TurnLaw 1
        (messageHandlingTask (Env.bench [] id)
          (deviceCharged [100, 0, 0, 0, 63, 0, 0, 128, 63])).1.targetPositions
        (messageHandlingTask (Env.bench [] id)
          (deviceCharged [100, 0, 0, 0, 63, 0, 0, 128, 191])).1.targetPositions ↔
      0.04 ≤ |(0.5 : ℚ)| := by
  have asked : Accepts ['d', 'D'] (deviceCharged [100, 0, 0, 0, 63, 0, 0, 128, 63]) 0.5 1 :=
    ⟨100, [0, 0, 0, 63, 0, 0, 128, 63], by decide +kernel⟩
  have mirrored :
      Accepts ['d', 'D'] (deviceCharged [100, 0, 0, 0, 63, 0, 0, 128, 191]) 0.5 (-1) :=
    ⟨100, [0, 0, 0, 63, 0, 0, 128, 191], by decide +kernel⟩
  exact distance_turn_law_iff _ _ _ _ 0.5 1 (by norm_num) asked mirrored

/-- A spin by one radian turns the car by half a radian. -/
theorem not_distance_turn_law :
    ¬ ∀ (env env' : Env) (s opposite : State ℚ) (linear angular : ℚ),
      0.01 ≤ angular ∨ angular ≤ -0.01 → Accepts ['d', 'D'] s linear angular →
      Accepts ['d', 'D'] opposite linear (-angular) →
      TurnLaw angular (messageHandlingTask env s).1.targetPositions
        (messageHandlingTask env' opposite).1.targetPositions := by
  intro every
  have asked : Accepts ['d', 'D'] (deviceCharged [100, 0, 0, 0, 0, 0, 0, 128, 63]) 0 1 :=
    ⟨100, [0, 0, 0, 0, 0, 0, 128, 63], by decide +kernel⟩
  have mirrored : Accepts ['d', 'D'] (deviceCharged [100, 0, 0, 0, 0, 0, 0, 128, 191]) 0 (-1) :=
    ⟨100, [0, 0, 0, 0, 0, 0, 128, 191], by decide +kernel⟩
  have law := every (Env.bench [] id) (Env.bench [] id) _ _ 0 1 (by norm_num) asked mirrored
  have turned := law.heading
  rw [targetPositions_of_accepts _ _ 0 1 asked,
    heading_distanceTargets_spin (by norm_num) (by norm_num)] at turned
  norm_num at turned

/-- The speeds of a turn at `angular` radians per second, `velocity` on the inner track. -/
structure SpeedLaw (velocity angular : ℚ) (wheels : Wheels ℚ) : Prop where
  difference : wheels.right - wheels.left = wheelBase * angular
  innerLeft : 0 < angular → wheels.left = velocity
  innerRight : angular < 0 → wheels.right = velocity
  left : 0 < angular → wheels.left < wheels.right
  right : angular < 0 → wheels.right < wheels.left

/-- Exactly the left turns obey the law, so no turn and its opposite are mirrored. -/
theorem velocity_speed_law_iff (env env' : Env) (s opposite : State ℚ) (velocity angular : ℚ)
    (turning : 0.01 ≤ angular ∨ angular ≤ -0.01)
    (asked : Accepts ['v', 'V'] s velocity angular)
    (mirrored : Accepts ['v', 'V'] opposite velocity (-angular)) :
    (SpeedLaw velocity angular (messageHandlingTask env s).1.targetVelocities ↔ 0 < angular) ∧
      (messageHandlingTask env' opposite).1.targetVelocities ≠
        (messageHandlingTask env s).1.targetVelocities.mirror := by
  rw [targetVelocities_of_accepts env s velocity angular asked,
    targetVelocities_of_accepts env' opposite velocity (-angular) mirrored]
  have base := wheelBase_pos
  rcases turning with left | right
  · have positive : 0 < angular := by linarith
    have outer : 0 < wheelBase * angular := mul_pos base positive
    rw [velocityTargets_left left, velocityTargets_right (by linarith), arc, if_pos positive]
    constructor
    · simp only [positive, iff_true]
      exact {
        difference := by ring
        innerLeft := fun _ => rfl
        innerRight := fun negative => by linarith
        left := fun _ => by
          change velocity < velocity + wheelBase * angular
          linarith
        right := fun negative => by linarith }
    · intro same
      have outside := congrArg Wheels.left same
      change velocity + wheelBase * -angular = velocity + wheelBase * angular at outside
      linarith
  · have negative : angular < 0 := by linarith
    have outer : wheelBase * angular < 0 := mul_neg_of_pos_of_neg base negative
    rw [velocityTargets_right right, velocityTargets_left (by linarith), arc,
      if_pos (by linarith)]
    constructor
    · simp only [negative.not_gt, iff_false]
      intro law
      have difference := law.difference
      change velocity - (velocity + wheelBase * angular) = wheelBase * angular at difference
      linarith
    · intro same
      have outside := congrArg Wheels.right same
      change velocity + wheelBase * -angular = velocity + wheelBase * angular at outside
      linarith

theorem velocity_speed_law_iff_half :
    (SpeedLaw 0.5 1 (messageHandlingTask (Env.bench [] id)
        (deviceCharged [118, 0, 0, 0, 63, 0, 0, 128, 63])).1.targetVelocities ↔ 0 < (1 : ℚ)) ∧
      (messageHandlingTask (Env.bench [] id)
          (deviceCharged [118, 0, 0, 0, 63, 0, 0, 128, 191])).1.targetVelocities ≠
        (messageHandlingTask (Env.bench [] id)
          (deviceCharged [118, 0, 0, 0, 63, 0, 0, 128, 63])).1.targetVelocities.mirror := by
  have asked : Accepts ['v', 'V'] (deviceCharged [118, 0, 0, 0, 63, 0, 0, 128, 63]) 0.5 1 :=
    ⟨118, [0, 0, 0, 63, 0, 0, 128, 63], by decide +kernel⟩
  have mirrored :
      Accepts ['v', 'V'] (deviceCharged [118, 0, 0, 0, 63, 0, 0, 128, 191]) 0.5 (-1) :=
    ⟨118, [0, 0, 0, 63, 0, 0, 128, 191], by decide +kernel⟩
  exact velocity_speed_law_iff _ _ _ _ 0.5 1 (by norm_num) asked mirrored

/-- A right turn at one radian per second makes the right wheel the faster one. -/
theorem not_velocity_speed_law :
    ¬ ∀ (env : Env) (s : State ℚ) (velocity angular : ℚ),
      0.01 ≤ angular ∨ angular ≤ -0.01 → Accepts ['v', 'V'] s velocity angular →
      SpeedLaw velocity angular (messageHandlingTask env s).1.targetVelocities := by
  intro every
  have asked : Accepts ['v', 'V'] (deviceCharged [118, 0, 0, 0, 63, 0, 0, 128, 191]) 0.5 (-1) :=
    ⟨118, [0, 0, 0, 63, 0, 0, 128, 191], by decide +kernel⟩
  have law := every (Env.bench [] id) _ 0.5 (-1) (by norm_num) asked
  have slower := law.right (by norm_num)
  rw [targetVelocities_of_accepts _ _ 0.5 (-1) asked,
    velocityTargets_right (by norm_num)] at slower
  change (0.5 : ℚ) < 0.5 + 0.098 * -1 at slower
  norm_num at slower

end Exact

end ZumoDelivery
