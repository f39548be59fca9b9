import Mathlib.Data.Nat.Count
import ZumoDelivery.Lib.ConstantInput
import ZumoDelivery.Driver.BatteryMonitor
import ZumoDelivery.Driver.Timing
import ZumoDelivery.Application.DriveModes
import ZumoDelivery.Application.Intake
import ZumoDelivery.Application.Restart
import ZumoDelivery.Application.Sensors

set_option autoImplicit false

namespace ZumoDelivery

open DifferenceEquation (History hold push)

section frame

variable {F : Type} [FloatArith F]

/-- Only the battery task runs the filter. -/
theorem batteryFilter_run (env : Env) (stage : Stage) (s : State F)
    (other : stage ≠ .batteryTask) : (stage.run env s).batteryFilter = s.batteryFilter := by
  have sensed := congrArg Sensors.batteryFilter (sensors_run env stage s)
  cases stage with
  | batteryTask => exact absurd rfl other
  | _ => exact sensed

theorem batteryFilter_batteryTaskHandler (env : Env) (s : State F) :
    (batteryTaskHandler env s).batteryFilter =
      if s.flags.mfBatteryTask.due env s then
        (batteryVoltageTask s.batteryFilter (env.adc (s.looks + 1))).2
      else s.batteryFilter := by
  refine (congrArg Sensors.batteryFilter (sensors_run env .batteryTask s)).trans ?_
  simp only [Stage.sense, Stage.samples]
  split <;> rfl

end frame

section run

def SamplesAt (env : Env) (time : ℕ) : Prop :=
  stageAt time = some .batteryTask ∧
    (deviceTrace (F := ℚ) env time).flags.mfBatteryTask.due env (deviceTrace env time) = true

instance (env : Env) : DecidablePred (SamplesAt env) := fun _ => inferInstanceAs (Decidable (_ ∧ _))

def reportedVoltage (env : Env) (time : ℕ) : ℚ :=
  batteryVoltage (deviceTrace (F := ℚ) env time).batteryFilter

/-- What the filter makes of a constant voltage in the long run. -/
def batteryGain : ℚ := 0.00377876 / 0.0038

theorem batteryGain_balanced (volts : ℚ) :
    batteryGain * volts * ∑ i ∈ Finset.range 3, (batteryACoeff i : ℚ) =
      volts * ∑ i ∈ Finset.range 3, (batteryBCoeff i : ℚ) := by
  rw [Finset.sum_range_succ, Finset.sum_range_succ, Finset.sum_range_one,
    Finset.sum_range_succ, Finset.sum_range_succ, Finset.sum_range_one, batteryGain]
  change _ * (1 + -1.9112 + 0.9150 : ℚ) = _ * (9.4469e-4 + 18.8938e-4 + 9.4469e-4 : ℚ)
  ring

theorem batteryFilter_succ (env : Env) (time : ℕ) :
    (deviceTrace (F := ℚ) env (time + 1)).batteryFilter =
      if SamplesAt env time then
        (batteryVoltageTask (deviceTrace env time).batteryFilter
          (env.adc ((deviceTrace (F := ℚ) env time).looks + 1))).2
      else (deviceTrace env time).batteryFilter := by
  by_cases sampling : stageAt time = some .batteryTask
  · rw [deviceTrace_succ sampling]
    change (batteryTaskHandler env _).batteryFilter = _
    rw [batteryFilter_batteryTaskHandler]
    simp only [SamplesAt, sampling, true_and]
  · rw [if_neg fun samples => sampling samples.1]
    cases here : stageAt time with
    | none => simp only [deviceTrace, CyclicProgram.trace, here]
    | some stage =>
        rw [deviceTrace_succ here]
        exact batteryFilter_run env stage _ fun same => sampling (same ▸ here)

theorem looks_of_samplesAt {env : Env} {time : ℕ} (samples : SamplesAt env time) :
    (deviceTrace (F := ℚ) env time).looks < (deviceTrace (F := ℚ) env (time + 1)).looks := by
  rw [deviceTrace_succ samples.1]
  exact (Execution.batteryTaskHandler samples.2).looks

theorem count_samples_le_looks (env : Env) (time : ℕ) :
    Nat.count (SamplesAt env) time ≤ (deviceTrace (F := ℚ) env time).looks := by
  induction time with
  | zero => exact Nat.zero_le _
  | succ time ih =>
      rw [Nat.count_succ]
      split
      · rename_i samples
        exact Nat.succ_le_of_lt (Nat.lt_of_le_of_lt ih (looks_of_samplesAt samples))
      · exact Nat.le_trans ih (looks_deviceTrace_mono env (Nat.le_succ time))

theorem represents_deviceTrace (env : Env) (time : ℕ) :
    ∃ history, (deviceTrace (F := ℚ) env time).batteryFilter.Represents
      batteryACoeff batteryBCoeff 3 history := by
  induction time with
  | zero => exact ⟨_, represents_batteryMonitorInit filterStatic (env.adc 0)⟩
  | succ time ih =>
      obtain ⟨history, represents⟩ := ih
      rw [batteryFilter_succ]
      split
      · exact ⟨_, (filterValue_eq represents (by decide) _).2⟩
      · exact ⟨history, represents⟩

theorem represents_hold (env : Env) {adc : UInt16} {first time : ℕ} {history : History ℚ}
    (started : (deviceTrace (F := ℚ) env first).batteryFilter.Represents
      batteryACoeff batteryBCoeff 3 history)
    (steady : ∀ look, (deviceTrace (F := ℚ) env first).looks ≤ look → env.adc look = adc)
    (later : first ≤ time) :
    (deviceTrace (F := ℚ) env time).batteryFilter.Represents batteryACoeff batteryBCoeff 3
      (hold batteryACoeff batteryBCoeff 2 (batteryVoltageOneshot adc) history
        (Nat.count (SamplesAt env) time - Nat.count (SamplesAt env) first)) := by
  induction time, later using Nat.le_induction with
  | base =>
      rw [Nat.sub_self]
      exact started
  | succ time later ih =>
      have order := Nat.count_monotone (SamplesAt env) later
      rw [batteryFilter_succ, Nat.count_succ]
      split
      · have look := steady _
          (Nat.le_succ_of_le (looks_deviceTrace_mono (F := ℚ) env later))
        rw [look, Nat.sub_add_comm order]
        exact (filterValue_eq ih (by decide) _).2
      · exact ih

theorem samples_unbounded {env : Env}
    (sampling : ∀ time, ∃ later, time ≤ later ∧ SamplesAt env later) (samples : ℕ) :
    ∃ time, samples ≤ Nat.count (SamplesAt env) time := by
  induction samples with
  | zero => exact ⟨0, Nat.zero_le _⟩
  | succ samples ih =>
      obtain ⟨time, reached⟩ := ih
      obtain ⟨later, after, here⟩ := sampling time
      refine ⟨later + 1, ?_⟩
      rw [Nat.count_succ, if_pos here]
      exact Nat.succ_le_succ (Nat.le_trans reached (Nat.count_monotone _ after))

theorem reportedVoltage_settles {env : Env} {adc : UInt16} {first : ℕ}
    (steady : ∀ look, first ≤ look → env.adc look = adc)
    (sampling : ∀ time, ∃ later, time ≤ later ∧ SamplesAt env later) {ε : ℚ} (positive : 0 < ε) :
    ∃ start, ∀ time, start ≤ time →
      |reportedVoltage env time - batteryGain * batteryVoltageOneshot adc| < ε := by
  obtain ⟨origin, sampled⟩ := samples_unbounded sampling first
  have looked : first ≤ (deviceTrace (F := ℚ) env origin).looks :=
    Nat.le_trans sampled (count_samples_le_looks env origin)
  obtain ⟨history, started⟩ := represents_deviceTrace env origin
  have follows := DifferenceEquation.follows_hold (a := (batteryACoeff : ℕ → ℚ))
    (by rw [batteryACoeff_zero]; norm_num) history
    (batteryGain_balanced (batteryVoltageOneshot adc))
  obtain ⟨runs, close⟩ := follows.settles
    (show (-(-1.9112 / 1)) ^ 2 < 4 * (0.9150 / 1 : ℚ) by norm_num)
    (show (0.9150 / 1 : ℚ) < 1 by norm_num) positive
  obtain ⟨start, enough⟩ := samples_unbounded sampling
    (Nat.count (SamplesAt env) origin + (runs + 1))
  refine ⟨max origin start, fun time later => ?_⟩
  have held := represents_hold env started
    (fun look after => steady look (Nat.le_trans looked after))
    (Nat.le_trans (Nat.le_max_left _ _) later)
  have counted := Nat.le_trans enough
    (Nat.count_monotone (SamplesAt env) (Nat.le_trans (Nat.le_max_right _ _) later))
  obtain ⟨more, sum⟩ := Nat.exists_eq_add_of_le counted
  rw [sum, show Nat.count (SamplesAt env) origin + (runs + 1) + more -
    Nat.count (SamplesAt env) origin = runs + more + 1 by omega] at held
  rw [reportedVoltage, batteryVoltage, filterLastOutput_eq held]
  exact close (runs + more) (Nat.le_add_right runs more)

def motionLetters : List Char := ['p', 'd', 'D', 'v', 'V']

theorem accepted_iff_batteryGood {env : Env} {s : State ℚ} {message : Dispatch}
    (dispatched : (messageHandlingTask env s).2 = some message)
    (motion : Ascii.toChar message.command ∈ motionLetters) :
    (accepted env s).isSome = true ↔ 4.75 ≤ batteryVoltage s.batteryFilter := by
  rw [accepted, dispatched, Option.bind_some, ← FloatArith.le_iff]
  simp only [motionLetters, List.mem_cons, List.not_mem_nil, or_false] at motion
  change _ ↔ FloatArith.le (FloatArith.lit 4.75) _ = true
  rcases motion with char | char | char | char | char
  all_goals
    simp only [acceptedBy, char]
    split
    · rename_i good
      exact iff_of_true rfl good
    · rename_i poor
      exact iff_of_false Bool.false_ne_true poor

/-- The level of a reading is above 4.75 V from 978 on, and never within 1 mV of it. -/
theorem level_clears (adc : UInt16) :
    (978 ≤ adc.toNat → 4.751 ≤ batteryGain * batteryVoltageOneshot adc) ∧
      (adc.toNat < 978 → batteryGain * batteryVoltageOneshot adc ≤ 4.749) := by
  have volts : (batteryVoltageOneshot adc : ℚ) = (adc.toNat : ℚ) * 0.004887585533 := by
    change ((adc.toNat : ℤ) : ℚ) * 0.004887585533 = _
    rw [Int.cast_natCast]
  rw [volts, batteryGain]
  constructor
  · intro high
    have cast : (978 : ℚ) ≤ adc.toNat := by exact_mod_cast high
    linarith
  · intro low
    have cast : (adc.toNat : ℚ) ≤ 977 := by exact_mod_cast Nat.le_of_lt_succ low
    linarith

/-- A steady ADC reading, sampled again and again, is reported as 0.9944 of its voltage in
the long run, and motion commands are then accepted from a reading of 978 on. -/
theorem battery_settles (env : Env) (adc : UInt16) (first : ℕ)
    (steady : ∀ look, first ≤ look → env.adc look = adc)
    (sampling : ∀ time, ∃ later, time ≤ later ∧ SamplesAt env later) :
    (∀ ε > 0, ∃ start, ∀ time, start ≤ time →
      |reportedVoltage env time - batteryGain * batteryVoltageOneshot adc| < ε) ∧
    ∃ start, ∀ time, start ≤ time → ∀ message,
      (messageHandlingTask env (deviceTrace (F := ℚ) env time)).2 = some message →
      Ascii.toChar message.command ∈ motionLetters →
      ((accepted env (deviceTrace (F := ℚ) env time)).isSome = true ↔ 978 ≤ adc.toNat) := by
  refine ⟨fun ε positive => reportedVoltage_settles steady sampling positive, ?_⟩
  obtain ⟨start, close⟩ := reportedVoltage_settles steady sampling
    (show (0 : ℚ) < 0.001 by norm_num)
  refine ⟨start, fun time later message dispatched motion => ?_⟩
  rw [accepted_iff_batteryGood dispatched motion]
  obtain ⟨below, above⟩ := abs_lt.mp (close time later)
  obtain ⟨high, low⟩ := level_clears adc
  change 4.75 ≤ reportedVoltage env time ↔ _
  constructor
  · intro good
    by_contra poor
    have bound := low (Nat.lt_of_not_le poor)
    linarith
  · intro enough
    have bound := high enough
    linarith

end run

section resting

variable {F : Type} [FloatArith F] {s : State F}

/-- Nothing is asked of the device but to watch its battery. -/
structure Resting (s : State F) : Prop where
  received : s.usb.received = []
  flags : ∀ flag ∈ s.flags.messageDriven, flag.active = false

theorem Resting.run_eq (resting : Resting s) (env : Env) (stage : Stage)
    (noUpkeep : stage ≠ .usbUpkeep) (noTask : stage ≠ .batteryTask)
    (noNotice : stage ≠ .lowBattery) : stage.run env s = s := by
  have inactive {flag : MsgFlag F} (driven : flag ∈ s.flags.messageDriven) :
      flag.active = false := resting.flags flag driven
  cases stage with
  | usbUpkeep => exact absurd rfl noUpkeep
  | batteryTask => exact absurd rfl noTask
  | lowBattery => exact absurd rfl noNotice
  | messageHandling =>
      change (messageHandlingTask env s).1 = s
      rw [task_of_nil env s resting.received]
  | _ =>
      dsimp only [Stage.run, restartHandler, sendTimeHandler, timeFloatSendHandler,
        loopTimerHandler, sendEncoderHandler, sendBatteryHandler, timedPwmHandler,
        sysDataHandler, distControlHandler, velControlHandler, motorStopHandler,
        irProximityHandler, objAvoidanceHandler]
      apply whenDue_of_inactive
      apply inactive
      simp [Flags.messageDriven, Flags.initialised]

omit [FloatArith F] in
theorem Resting.of_same {after : State F} (resting : Resting s)
    (received : after.usb.received = s.usb.received)
    (flags : after.flags.messageDriven = s.flags.messageDriven) : Resting after := by
  refine ⟨received.trans resting.received, fun flag driven => ?_⟩
  rw [flags] at driven
  exact resting.flags flag driven

end resting

section alone

/-- No host, and two milliseconds between any two looks at the clock. -/
def Env.alone : Env := { Env.bench [] (2 * ·) with configured := fun _ => false }

/-- A device at rest whose battery task last ran at a recent look. -/
structure Watching (s : State ℚ) (last slack : ℕ) : Prop where
  resting : Resting s
  active : s.flags.mfBatteryTask.active = true
  duration : s.flags.mfBatteryTask.duration = 2
  stamp : s.flags.mfBatteryTask.lastTriggerTime.millisec = UInt32.ofNat (2 * last)
  past : last < s.looks
  recent : s.looks ≤ last + slack

variable {s : State ℚ} {last slack : ℕ}

theorem Watching.due (watching : Watching s last slack) (small : slack ≤ 10) :
    s.flags.mfBatteryTask.due Env.alone s = true := by
  rw [MsgFlag.due_iff]
  refine ⟨watching.active, ?_⟩
  have past := watching.past
  have recent := watching.recent
  have elapsed : (UInt32.ofNat (Env.alone.millis s.looks) -
      s.flags.mfBatteryTask.lastTriggerTime.millisec).toNat = 2 * (s.looks - last) := by
    rw [watching.stamp]
    change (UInt32.ofNat (2 * s.looks) - UInt32.ofNat (2 * last)).toNat = _
    rw [toNat_ofNat_sub (2 * last) (2 * s.looks) (by omega) (by omega)]
    omega
  rw [elapsed, watching.duration, FloatArith.le_iff]
  change (2 : ℚ) ≤ ((2 * (s.looks - last) : ℕ) : ℤ)
  rw [Int.cast_natCast]
  exact_mod_cast show 2 ≤ 2 * (s.looks - last) by omega

theorem Watching.batteryTask (watching : Watching s last slack) (small : slack ≤ 10) :
    Watching (batteryTaskHandler Env.alone s) (s.looks + 2) 1 := by
  rw [batteryTaskHandler, whenDue_of_due _ (watching.due small)]
  dsimp only [getTime, batteryTask]
  split
  all_goals exact {
    resting := watching.resting.of_same rfl rfl
    active := watching.active
    duration := watching.duration
    stamp := rfl
    past := by change s.looks + 2 < s.looks + 3; omega
    recent := by change s.looks + 3 ≤ _; omega }

theorem Watching.lowBattery (watching : Watching s last slack) :
    Watching (lowBatteryHandler Env.alone s) last (slack + 2) := by
  have past := watching.past
  have recent := watching.recent
  have quiet := quiet_run Env.alone .lowBattery s (by decide) (by decide)
  have received : (lowBatteryHandler Env.alone s).usb.received = s.usb.received :=
    congrArg (fun intake : Intake => intake.receiveBuffer.toList) quiet.intake
  have step : LoopStep Env.alone s .lowBattery (lowBatteryHandler Env.alone s) :=
    loopStep Env.alone .lowBattery s
  generalize lowBatteryHandler Env.alone s = after at step received ⊢
  cases step with
  | waiting _ _ looks forward near =>
      exact ⟨watching.resting.of_same rfl rfl, watching.active, watching.duration, watching.stamp,
        Nat.lt_of_lt_of_le past forward, Nat.le_trans near (by omega)⟩
  | executed _ _ _ execution =>
      cases execution with
      | lowBattery =>
          exact ⟨watching.resting.of_same received rfl, watching.active, watching.duration,
            watching.stamp, Nat.lt_add_right 2 past, Nat.add_le_add_right recent 2⟩

def watchingStages : List Stage := [.usbUpkeep, .batteryTask, .lowBattery]

theorem Resting.same_within (n : ℕ) {first later : ℕ}
    (resting : Resting (deviceTrace (F := ℚ) Env.alone (17 * n + first)))
    (ordered : first ≤ later) (within : later ≤ 17)
    (idle : ∀ offset, (inside : offset < loopBody.length) → first ≤ offset → offset < later →
      loopBody[offset] ∉ watchingStages) :
    deviceTrace (F := ℚ) Env.alone (17 * n + later) = deviceTrace Env.alone (17 * n + first) := by
  induction later, ordered using Nat.le_induction with
  | base => rfl
  | succ later ordered ih =>
      have same := ih (by omega) fun offset inside lower upper =>
        idle offset inside lower (by omega)
      have inside : later < loopBody.length := within
      have other := idle later inside ordered (Nat.lt_succ_self later)
      simp only [watchingStages, List.mem_cons, List.not_mem_nil, or_false, not_or] at other
      rw [← Nat.add_assoc, deviceTrace_succ (stageAt_iteration n later inside), same,
        resting.run_eq Env.alone _ other.1 other.2.1 other.2.2]

theorem watching_iteration (n : ℕ)
    (watching : ∃ last, Watching (deviceTrace (F := ℚ) Env.alone (17 * n)) last 3) :
    (∃ last, Watching (deviceTrace (F := ℚ) Env.alone (17 * n + 3)) last 4) ∧
      ∃ last, Watching (deviceTrace (F := ℚ) Env.alone (17 * (n + 1))) last 3 := by
  obtain ⟨last, start⟩ := watching
  have upkeep : deviceTrace (F := ℚ) Env.alone (17 * n + 1) =
      (deviceTrace (F := ℚ) Env.alone (17 * n)).looked :=
    deviceTrace_succ (stageAt_iteration n 0 (by decide))
  have task : deviceTrace (F := ℚ) Env.alone (17 * n + 4) =
      batteryTaskHandler Env.alone (deviceTrace Env.alone (17 * n + 3)) :=
    deviceTrace_succ (stageAt_iteration n 3 (by decide))
  have notice : deviceTrace (F := ℚ) Env.alone (17 * n + 10) =
      lowBatteryHandler Env.alone (deviceTrace Env.alone (17 * n + 9)) :=
    deviceTrace_succ (stageAt_iteration n 9 (by decide))
  have woken : Watching (deviceTrace (F := ℚ) Env.alone (17 * n + 1)) last 4 := by
    rw [upkeep]
    exact {
      resting := start.resting.of_same rfl rfl
      active := start.active
      duration := start.duration
      stamp := start.stamp
      past := Nat.lt_succ_of_lt start.past
      recent := Nat.succ_le_succ start.recent }
  have asked : Watching (deviceTrace (F := ℚ) Env.alone (17 * n + 3)) last 4 := by
    rw [woken.resting.same_within n (by decide) (by decide) (by decide)]
    exact woken
  have sampled := asked.batteryTask (by decide)
  rw [← task] at sampled
  have told : Watching (deviceTrace (F := ℚ) Env.alone (17 * n + 9))
      ((deviceTrace (F := ℚ) Env.alone (17 * n + 3)).looks + 2) 1 := by
    rw [sampled.resting.same_within n (by decide) (by decide) (by decide)]
    exact sampled
  have noticed := told.lowBattery
  rw [← notice] at noticed
  have passed : deviceTrace (F := ℚ) Env.alone (17 * (n + 1)) =
      deviceTrace Env.alone (17 * n + 10) :=
    noticed.resting.same_within n (by decide) (Nat.le_refl 17) (by decide)
  rw [← passed] at noticed
  exact ⟨⟨last, asked⟩, _, noticed⟩

theorem watching_alone (n : ℕ) :
    ∃ last, Watching (deviceTrace (F := ℚ) Env.alone (17 * n)) last 3 := by
  induction n with
  | zero =>
      refine ⟨0, ⟨rfl, ?_⟩, rfl, rfl, rfl, Nat.zero_lt_one, by decide⟩
      decide
  | succ n ih => exact (watching_iteration n ih).2

theorem battery_settles_alone :
    (∀ ε > 0, ∃ start, ∀ time, start ≤ time →
      |reportedVoltage Env.alone time - batteryGain * batteryVoltageOneshot 1023| < ε) ∧
    ∃ start, ∀ time, start ≤ time → ∀ message,
      (messageHandlingTask Env.alone (deviceTrace (F := ℚ) Env.alone time)).2 = some message →
      Ascii.toChar message.command ∈ motionLetters →
      ((accepted Env.alone (deviceTrace (F := ℚ) Env.alone time)).isSome = true ↔
        978 ≤ (1023 : UInt16).toNat) := by
  refine battery_settles Env.alone 1023 0 (fun _ _ => rfl) fun time => ?_
  obtain ⟨last, watching⟩ := (watching_iteration time (watching_alone time)).1
  exact ⟨17 * time + 3, by omega, stageAt_iteration time 3 (by decide), watching.due (by decide)⟩

end alone

end ZumoDelivery
