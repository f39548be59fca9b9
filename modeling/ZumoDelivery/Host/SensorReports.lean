import Mathlib.Tactic.IntervalCases
import ZumoDelivery.Application.Sensors
import ZumoDelivery.Host.Calculator
import ZumoDelivery.Host.SystemReport

set_option autoImplicit false

namespace ZumoDelivery

open Latest FloatArith PyStruct

/-- The larger count, on a tie the left one. -/
theorem irCounts_of_counts {proximity : Proximity} {left right : ℕ} (small : left ≤ 2)
    (smaller : right ≤ 2) (countLeft : proximity.count .left = UInt16.ofNat left)
    (countRight : proximity.count .right = UInt16.ofNat right) :
    irCounts proximity =
      ⟨UInt16.ofNat (max left right), if right ≤ left then .left else .right⟩ := by
  rcases proximity with ⟨first, second⟩
  change first = UInt16.ofNat left at countLeft
  change second = UInt16.ofNat right at countRight
  subst countLeft countRight
  interval_cases left <;> interval_cases right <;> rfl

theorem values_proximity (command : UInt8) {count : ℕ} (small : count ≤ 2) (letter : Char)
    (own : Ascii.toChar (Ascii.ofChar letter) = letter) :
    (⟨['c', 'h', 'c'], command,
        intBytes (UInt16.ofNat count).toInt16 ++ [Ascii.ofChar letter]⟩ : UsbMessage).values =
      [.str [Ascii.toChar command], .int count, .str [letter]] := by
  have number : signedLittleEndian (intBytes (UInt16.ofNat count).toInt16) = count := by
    rw [signedLittleEndian_intBytes]
    interval_cases count <;> rfl
  change [PyVal.str [Ascii.toChar command],
    PyVal.int (signedLittleEndian (intBytes (UInt16.ofNat count).toInt16)),
    PyVal.str [Ascii.toChar (Ascii.ofChar letter)]] = _
  rw [number, own]

def Side.letter : Side → Char
  | .left => 'L'
  | .right => 'R'

/-- The side that saw more, on a tie the left one. -/
def latestSide (env : Env) (time : ℕ) : Side :=
  if latestCount env .right time ≤ latestCount env .left time then .left else .right

def latestLarger (env : Env) (time : ℕ) : ℕ :=
  max (latestCount env .left time) (latestCount env .right time)

theorem latestLarger_le (env : Env) (time : ℕ) : latestLarger env time ≤ 2 :=
  max_le (latestCount_le env .left time) (latestCount_le env .right time)

theorem values_proximityMessage {env : Env} {s : State ℚ} {count : ℕ} {side : Side}
    (small : count ≤ 2)
    (seen : irCounts (irReadTask env .right s.looked).proximity = ⟨UInt16.ofNat count, side⟩) :
    ∃ letter ∈ ['i', 'I'], (proximityMessage env s).values =
      [.str [letter], .int count, .str [side.letter]] := by
  have own : Ascii.toChar (Ascii.ofChar side.letter) = side.letter := by
    cases side <;> rfl
  have message (letter : Char) (chosen : (if le s.flags.mfIrProximity.duration (lit 0) then 'i'
      else 'I') = letter) : proximityMessage env s = ⟨['c', 'h', 'c'], Ascii.ofChar letter,
        intBytes (UInt16.ofNat count).toInt16 ++ [Ascii.ofChar side.letter]⟩ := by
    rw [proximityMessage, seen, chosen]
    cases side <;> rfl
  cases once : le s.flags.mfIrProximity.duration (lit 0) with
  | true =>
      refine ⟨'i', List.mem_cons_self, ?_⟩
      rw [message 'i' (if_pos once), values_proximity _ small _ own]
      rfl
  | false =>
      refine ⟨'I', List.mem_cons_of_mem _ List.mem_cons_self, ?_⟩
      rw [message 'I' (if_neg (Bool.not_eq_true _ ▸ once)), values_proximity _ small _ own]
      rfl

/-- What the proximity sensor tells at a time. -/
structure ProximityReported (env : Env) (time : ℕ) : Prop where
  /-- `IR_Counts` returns the larger of the latest counts. -/
  seen : irCounts (deviceTrace (F := ℚ) env time).proximity =
    ⟨UInt16.ofNat (latestLarger env time), latestSide env time⟩
  bounded : ∀ side, latestCount env side time ≤ 2
  /-- A report takes a reading of the right side and shows both as they are then. -/
  reports : stageAt time = some .irProximity → ∀ message ∈ sentAt ℚ env time,
    (readingAt env .right time).isSome ∧ ∃ letter ∈ ['i', 'I'],
      message.values = [.str [letter], .int (latestLarger env (time + 1)),
        .str [(latestSide env (time + 1)).letter]]

theorem irCounts_deviceTrace (env : Env) (time : ℕ) :
    irCounts (deviceTrace (F := ℚ) env time).proximity =
      ⟨UInt16.ofNat (latestLarger env time), latestSide env time⟩ :=
  irCounts_of_counts (latestCount_le env .left time) (latestCount_le env .right time)
    (proximity_deviceTrace env .left time) (proximity_deviceTrace env .right time)

/-- At every time `IR_Counts` and the reports show the latest reading of each side. -/
theorem proximity_reported (env : Env) (time : ℕ) : ProximityReported env time where
  seen := irCounts_deviceTrace env time
  bounded := fun side => latestCount_le env side time
  reports := by
    intro here message sent
    have after := irCounts_deviceTrace env (time + 1)
    have sensed := congrArg Sensors.proximity (sensors_deviceTrace env here)
    rw [sentAt, here, Option.bind_some] at sent
    simp only [Stage.outgoing] at sent
    split at sent
    · rename_i asked
      rw [Bool.and_eq_true, Bool.not_eq_true'] at asked
      have reads : Stage.irProximity.reads env (deviceTrace (F := ℚ) env time) = some .right := by
        simp only [Stage.reads, asked.1, asked.2, Bool.false_eq_true, ↓reduceIte]
      cases sent
      constructor
      · rw [readingAt, here, Option.bind_some, if_pos reads]
        rfl
      · change (deviceTrace (F := ℚ) env (time + 1)).proximity = Option.elim _ _ _ at sensed
        rw [reads, Option.elim_some] at sensed
        rw [sensed] at after
        exact values_proximityMessage (latestLarger_le env (time + 1)) after
    · cases sent

theorem values_batLow (volts : ℚ) :
    (batLow volts).values = [.str ['!'], .str ['B'], .str ['A'], .str ['T'], .str [' '],
      .str ['L'], .str ['O'], .str ['W'], .float (floatBytes volts)] := by
  have whole : (floatBytes volts).take 4 = floatBytes volts :=
    List.take_of_length_le (by rw [length_floatBytes])
  rw [← whole]
  rfl

/-- What the battery monitor tells at a time. -/
structure BatteryReported (env : Env) (time : ℕ) : Prop where
  /-- The checks of the motor commands see the latest sample. -/
  seen : batteryVoltage (deviceTrace (F := ℚ) env time).batteryFilter =
    (latest (sampleAt env) time).getD (batteryVoltage (deviceTrace (F := ℚ) env 0).batteryFilter)
  /-- The warning is on exactly after a low sample with no restart or better sample since. -/
  warned : (deviceTrace (F := ℚ) env time).flags.mfLowBattery.active =
    (latest (warningAt env) time).getD false
  /-- A notice shows the latest sample, which is low. -/
  notices : stageAt time = some .lowBattery → ∀ message ∈ sentAt ℚ env time,
    ∃ volts ∈ latest (sampleAt env) time, 3.0 < volts ∧ volts < 4.75 ∧
      ∃ raw, CorrectResult raw volts ∧
        message.values = [.str ['!'], .str ['B'], .str ['A'], .str ['T'], .str [' '],
          .str ['L'], .str ['O'], .str ['W'], .float raw]

/-- At every time the robot acts on the latest sample of its battery and warns of it. -/
theorem battery_reported (env : Env) (time : ℕ) : BatteryReported env time where
  seen := voltage_deviceTrace env time
  warned := low_deviceTrace env time
  notices := by
    intro here message sent
    rw [sentAt, here, Option.bind_some] at sent
    simp only [Stage.outgoing] at sent
    split at sent
    · rename_i due
      cases sent
      have active := MsgFlag.active_of_due due
      have warned : latest (warningAt env) time = some true := by
        rw [low_deviceTrace] at active
        cases last : latest (warningAt env) time with
        | none =>
            rw [last] at active
            cases active
        | some low =>
            rw [last] at active
            exact congrArg some active
      obtain ⟨volts, last, low⟩ := low_of_warned warned
      obtain ⟨above, below⟩ := (lowVoltage_iff volts).mp low
      have shown : (deviceTrace (F := ℚ) env time).locals.batVal = volts := by
        rw [batVal_deviceTrace, last]
        rfl
      rw [shown]
      exact ⟨volts, last, above, below, floatBytes volts, correctResult_floatBytes volts,
        values_batLow volts⟩
    · cases sent

end ZumoDelivery
