import ZumoDelivery.Lib.Latest
import ZumoDelivery.Application.Dispatching
import ZumoDelivery.Application.DriveRun

set_option autoImplicit false

namespace ZumoDelivery

open Latest FloatArith

section statement

variable {F : Type} [FloatArith F]

structure Sensors (F : Type) where
  proximity : Proximity
  batteryFilter : FilterData F
  batVal : F
  /-- `mf_low_battery` is active. -/
  low : Bool

def State.sensors (s : State F) : Sensors F where
  proximity := s.proximity
  batteryFilter := s.batteryFilter
  batVal := s.locals.batVal
  low := s.flags.mfLowBattery.active

namespace Stage

variable (env : Env) (s : State F)

/-- The side of the proximity sensor that a statement reads, if it reads one. -/
def reads : Stage → Option Side
  | .irProximity =>
      if s.flags.mfIrProximity.due env s then
        some (if s.locals.proxyFirst then .left else .right)
      else none
  | .objAvoidance =>
      if s.flags.mfObjAvoidance.due env s then
        match s.avoidance.readState with
        | .readL => some .left
        | .readR => some .right
        | .runDsm => none
      else none
  | _ => none

/-- The sample of the battery that a statement takes, filtered, and the filter after it. -/
def samples : Stage → Option (F × FilterData F)
  | .batteryTask =>
      if s.flags.mfBatteryTask.due env s then
        some (batteryVoltageTask s.batteryFilter (env.adc (s.looks + 1)))
      else none
  | _ => none

def warns : Stage → Option Bool
  | .batteryTask => (Stage.batteryTask.samples env s).map fun sample => lowVoltage sample.1
  | .restart => if s.flags.mfRestart.due env s then some false else none
  | _ => none

def sense (stage : Stage) : Sensors F where
  proximity := (stage.reads env s).elim s.proximity fun side =>
    irRead side (irHits env (s.looks + 1)) s.proximity
  batteryFilter := ((stage.samples env s).map Prod.snd).getD s.batteryFilter
  batVal := ((stage.samples env s).map Prod.fst).getD s.locals.batVal
  low := (stage.warns env s).getD s.flags.mfLowBattery.active

end Stage

theorem CaseStep.sensors {env : Env} {s after : State F} {message : Dispatch}
    (step : CaseStep env s message after) : after.sensors = s.sensors := by
  cases step with
  | asked request => cases request <;> rfl
  | _ => rfl

theorem sense_of_waiting {env : Env} {s : State F} {stage : Stage}
    (waiting : stage.due env s = false) : stage.sense env s = s.sensors := by
  cases stage with
  | usbUpkeep | messageHandling => cases waiting
  | restart | batteryTask | irProximity | objAvoidance =>
      simp only [Stage.due] at waiting
      simp only [Stage.sense, Stage.reads, Stage.samples, Stage.warns, waiting]
      rfl
  | _ => rfl

theorem Execution.sensors {env : Env} {s after : State F} {stage : Stage}
    (execution : Execution env s stage after) (due : stage.due env s = true) :
    after.sensors = stage.sense env s := by
  cases execution with
  | restart =>
      simp only [Stage.due] at due
      simp only [Stage.sense, Stage.reads, Stage.samples, Stage.warns, due]
      rfl
  | batteryLow volts filter sampled low | batteryFine volts filter sampled low =>
      simp only [Stage.due] at due
      simp only [Stage.sense, Stage.reads, Stage.samples, Stage.warns, due, sampled,
        ↓reduceIte, Option.map_some, low]
      rfl
  | irLeft phase | irOnce phase | irAgain phase | oaLeft phase | oaRight phase =>
      simp only [Stage.due] at due
      simp only [Stage.sense, Stage.reads, Stage.samples, Stage.warns, due, phase]
      rfl
  | oaDecided phase _ _ decision =>
      simp only [Stage.due] at due
      simp only [Stage.sense, Stage.reads, Stage.samples, Stage.warns, due, phase]
      cases decision <;> rfl
  | _ => rfl

theorem sensors_run (env : Env) (stage : Stage) (s : State F) :
    (stage.run env s).sensors = stage.sense env s := by
  have step := loopStep env stage s
  generalize stage.run env s = after at step ⊢
  cases step with
  | upkeep => rfl
  | task ran after same step =>
      cases step with
      | idle => rfl
      | restart => rfl
      | case message usb after step => exact step.sensors
  | waiting stage waiting => exact (sense_of_waiting waiting).symm
  | executed stage due after execution => exact execution.sensors due

end statement

section latest

variable (env : Env)

/-- The count of a reading of a side, if a time takes one. -/
def readingAt (side : Side) (time : ℕ) : Option ℕ :=
  if (stageAt time).bind (fun stage => stage.reads env (deviceTrace (F := ℚ) env time)) =
      some side then
    some ((irHits env ((deviceTrace (F := ℚ) env time).looks + 1)).count true)
  else none

/-- The filtered voltage of a sample, if a time takes one. -/
def sampleAt (time : ℕ) : Option ℚ :=
  (stageAt time).bind fun stage =>
    (stage.samples env (deviceTrace (F := ℚ) env time)).map Prod.fst

def warningAt (time : ℕ) : Option Bool :=
  (stageAt time).bind fun stage => stage.warns env (deviceTrace (F := ℚ) env time)

/-- The count of the latest reading of a side, 0 before the first. -/
def latestCount (side : Side) (time : ℕ) : ℕ := (latest (readingAt env side) time).getD 0

end latest

variable {env : Env}

theorem sensors_deviceTrace (env : Env) {time : ℕ} {stage : Stage}
    (here : stageAt time = some stage) :
    (deviceTrace (F := ℚ) env (time + 1)).sensors = stage.sense env (deviceTrace env time) := by
  rw [deviceTrace_succ here]
  exact sensors_run env stage _

def Proximity.count (proximity : Proximity) : Side → UInt16
  | .left => proximity.countLeft
  | .right => proximity.countRight

theorem count_irRead (side other : Side) (hits : List Bool) (proximity : Proximity) :
    (irRead other hits proximity).count side =
      if other = side then UInt16.ofNat (hits.count true) else proximity.count side := by
  cases side <;> cases other <;> rfl

theorem count_irHits_le (env : Env) (look : ℕ) : (irHits env look).count true ≤ 2 :=
  List.count_le_length

theorem latestCount_le (env : Env) (side : Side) (time : ℕ) : latestCount env side time ≤ 2 := by
  have bounded : ∀ count ∈ latest (readingAt env side) time, count ≤ 2 := by
    apply of_latest
    intro time count read
    rw [readingAt] at read
    split at read
    · cases read
      exact count_irHits_le env _
    · cases read
  rw [latestCount]
  cases last : latest (readingAt env side) time with
  | none => exact Nat.zero_le 2
  | some count => exact bounded count last

/-- The sensor shows the latest reading of each side, whoever asked for it. -/
theorem proximity_deviceTrace (env : Env) (side : Side) (time : ℕ) :
    (deviceTrace (F := ℚ) env time).proximity.count side =
      UInt16.ofNat (latestCount env side time) := by
  induction time with
  | zero => cases side <;> rfl
  | succ time ih =>
      obtain ⟨stage, here⟩ := stageAt_isSome time
      have sensed := congrArg Sensors.proximity (sensors_deviceTrace env here)
      change (deviceTrace (F := ℚ) env (time + 1)).proximity = Option.elim _ _ _ at sensed
      rw [sensed, latestCount, latest, readingAt, here, Option.bind_some]
      cases stage.reads env (deviceTrace (F := ℚ) env time) with
      | none => exact ih
      | some other =>
          rw [Option.elim_some, count_irRead]
          by_cases same : other = side
          · rw [if_pos same, if_pos (congrArg some same)]
            rfl
          · rw [if_neg same, if_neg fun equal => same (Option.some.inj equal)]
            exact ih

theorem voltage_of_samples (env : Env) (s : State ℚ) (stage : Stage) :
    ∀ sample ∈ stage.samples env s, batteryVoltage sample.2 = sample.1 := by
  intro sample taken
  cases stage with
  | batteryTask =>
      rw [Stage.samples] at taken
      split at taken
      · cases taken
        rfl
      · cases taken
  | _ => cases taken

theorem voltage_deviceTrace (env : Env) (time : ℕ) :
    batteryVoltage (deviceTrace (F := ℚ) env time).batteryFilter =
      (latest (sampleAt env) time).getD
        (batteryVoltage (deviceTrace (F := ℚ) env 0).batteryFilter) := by
  apply eq_latest fun time => batteryVoltage (deviceTrace (F := ℚ) env time).batteryFilter
  intro time
  obtain ⟨stage, here⟩ := stageAt_isSome time
  have sensed := congrArg Sensors.batteryFilter (sensors_deviceTrace env here)
  change (deviceTrace (F := ℚ) env (time + 1)).batteryFilter = Option.getD _ _ at sensed
  have same := voltage_of_samples env (deviceTrace (F := ℚ) env time) stage
  rw [sensed, sampleAt, here, Option.bind_some]
  cases taken : stage.samples env (deviceTrace (F := ℚ) env time) with
  | none => rfl
  | some sample => exact same sample taken

theorem batVal_deviceTrace (env : Env) (time : ℕ) :
    (deviceTrace (F := ℚ) env time).locals.batVal = (latest (sampleAt env) time).getD 0 := by
  apply eq_latest fun time => (deviceTrace (F := ℚ) env time).locals.batVal
  intro time
  obtain ⟨stage, here⟩ := stageAt_isSome time
  rw [sampleAt, here]
  exact congrArg Sensors.batVal (sensors_deviceTrace env here)

theorem low_deviceTrace (env : Env) (time : ℕ) :
    (deviceTrace (F := ℚ) env time).flags.mfLowBattery.active =
      (latest (warningAt env) time).getD false := by
  apply eq_latest fun time => (deviceTrace (F := ℚ) env time).flags.mfLowBattery.active
  intro time
  obtain ⟨stage, here⟩ := stageAt_isSome time
  rw [warningAt, here]
  exact congrArg Sensors.low (sensors_deviceTrace env here)

theorem low_of_warns {s : State ℚ} {stage : Stage} (warned : stage.warns env s = some true) :
    ∃ sample ∈ stage.samples env s, lowVoltage sample.1 = true := by
  cases stage with
  | batteryTask =>
      obtain ⟨sample, taken, low⟩ := Option.map_eq_some_iff.mp warned
      exact ⟨sample, taken, low⟩
  | restart =>
      rw [Stage.warns] at warned
      split at warned
      · cases warned
      · cases warned
  | _ => cases warned

theorem samples_of_quiet {s : State ℚ} {stage : Stage} (quiet : stage.warns env s = none) :
    stage.samples env s = none := by
  cases stage with
  | batteryTask => exact Option.map_eq_none_iff.mp quiet
  | _ => rfl

/-- While the warning is on, the latest sample is low. -/
theorem low_of_warned {time : ℕ} (warned : latest (warningAt env) time = some true) :
    ∃ volts ∈ latest (sampleAt env) time, lowVoltage volts = true := by
  induction time with
  | zero => cases warned
  | succ time ih =>
      obtain ⟨stage, here⟩ := stageAt_isSome time
      rw [latest, warningAt, here, Option.bind_some] at warned
      rw [latest, sampleAt, here, Option.bind_some]
      cases decided : stage.warns env (deviceTrace (F := ℚ) env time) with
      | none =>
          rw [decided, Option.none_or] at warned
          rw [samples_of_quiet decided, Option.map_none, Option.none_or]
          exact ih warned
      | some low =>
          rw [decided, Option.some_or] at warned
          cases warned
          obtain ⟨sample, taken, low⟩ := low_of_warns decided
          rw [Option.mem_def] at taken
          rw [taken]
          exact ⟨sample.1, rfl, low⟩

theorem lowVoltage_iff (volts : ℚ) : lowVoltage volts = true ↔ 3.0 < volts ∧ volts < 4.75 := by
  rw [lowVoltage, Bool.and_eq_true, lt_iff, lt_iff, and_comm]
  rfl

end ZumoDelivery
