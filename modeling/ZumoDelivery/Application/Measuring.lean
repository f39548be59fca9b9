import Mathlib.Tactic.Ring
import ZumoDelivery.Driver.Timing
import ZumoDelivery.Application.Trips

set_option autoImplicit false

namespace ZumoDelivery

open FloatArith

section Handlers

variable {F : Type} [FloatArith F]

/-- A handler that records a start time and reports the time since then later. -/
structure Meter (F : Type) where
  stage : Stage
  /-- The place of the handler in the loop. -/
  offset : ℕ
  flag : Flags F → MsgFlag F
  trip : LoopLocals F → Trip
  /-- What the second phase waits for. -/
  ready : State F → Bool
  /-- The argument of the requests and reports. -/
  arg : UInt8

def floatSendMeter (F : Type) [FloatArith F] : Meter F where
  stage := .timeFloatSend
  offset := 5
  flag := Flags.mfTimeFloatSend
  trip := LoopLocals.floatSend
  ready s := usbOutMsgLength s.usb = 0
  arg := 0x01

def loopTimeMeter (F : Type) [FloatArith F] : Meter F where
  stage := .loopTimer
  offset := 6
  flag := Flags.mfLoopTimer
  trip := LoopLocals.loopTime
  ready _ := true
  arg := 0x02

namespace Meter

variable (meter : Meter F)

def report (value : F) (s : State F) : SerialIO :=
  (sendTimeMessage (if lt (meter.flag s.flags).duration (lit 0) then 't' else 'T') meter.arg
    value s).usb

inductive Outcome (env : Env) (s after : State F) : Prop
  | begun (idle : (meter.trip s.locals).trip = false)
      (trip : meter.trip after.locals = ⟨true, clockReading env s⟩)
  | waiting (busy : (meter.trip s.locals).trip = true) (unready : meter.ready s = false)
      (same : meter.trip after.locals = meter.trip s.locals)
  | reported (busy : (meter.trip s.locals).trip = true) (ready : meter.ready s = true)
      (trip : meter.trip after.locals = { meter.trip s.locals with trip := false })
      (sent : after.usb =
        meter.report (reportedTime env (meter.trip s.locals).startTime s) s)

variable {s : State F}

theorem report_single (single : lt (meter.flag s.flags).duration (lit 0) = true) (value : F) :
    meter.report value s = (timeMessage 't' meter.arg value).send s.usb := by
  rw [report, if_pos single, sendTimeMessage, sendMsg_eq, timeMessage, State.mapUsb]

theorem report_periodic (periodic : lt (meter.flag s.flags).duration (lit 0) = false)
    (value : F) : meter.report value s = (timeMessage 'T' meter.arg value).send s.usb := by
  rw [report, if_neg (Bool.eq_false_iff.mp periodic), sendTimeMessage, sendMsg_eq, timeMessage,
    State.mapUsb]

end Meter

theorem outcome_timeFloatSendHandler (env : Env) (s : State F)
    (due : s.flags.mfTimeFloatSend.due env s = true) :
    (floatSendMeter F).Outcome env s (timeFloatSendHandler env s) := by
  have execution := Execution.timeFloatSendHandler due
  generalize timeFloatSendHandler env s = after at execution ⊢
  cases execution with
  | floatBegun idle => exact .begun idle rfl
  | floatWaiting busy unsent => exact .waiting busy (decide_eq_false unsent) rfl
  | floatOnce busy sent single =>
      refine .reported busy (decide_eq_true sent) rfl ?_
      rw [(floatSendMeter F).report_single single]
      dsimp only
      rfl
  | floatAgain busy sent periodic =>
      refine .reported busy (decide_eq_true sent) rfl ?_
      rw [(floatSendMeter F).report_periodic periodic]
      dsimp only
      rfl

theorem outcome_loopTimerHandler (env : Env) (s : State F)
    (due : s.flags.mfLoopTimer.due env s = true) :
    (loopTimeMeter F).Outcome env s (loopTimerHandler env s) := by
  have execution := Execution.loopTimerHandler due
  generalize loopTimerHandler env s = after at execution ⊢
  cases execution with
  | loopBegun idle => exact .begun idle rfl
  | loopOnce busy single =>
      refine .reported busy rfl rfl ?_
      rw [(loopTimeMeter F).report_single single]
      dsimp only
      rfl
  | loopAgain busy periodic =>
      refine .reported busy rfl rfl ?_
      rw [(loopTimeMeter F).report_periodic periodic]
      dsimp only
      rfl

end Handlers

theorem seconds_eq (time : Time) : (time.seconds : ℚ) = time.micros / 10 ^ 6 := by
  have parts : (time.micros : ℚ) = 1000 * time.millisec.toNat + time.microsec.toNat := by
    rw [Time.micros]
    push_cast
    rfl
  change (((time.millisec.toNat : ℤ) : ℚ) + ((time.microsec.toNat : ℤ) : ℚ) / 1000) / 1000 = _
  rw [parts]
  push_cast
  ring

/-- A report of the time since `start`, made at `current`, carries the time between them. -/
def Meter.ReportsElapsed (meter : Meter ℚ) (start current : ℕ) : Prop :=
  ∀ (env : Env) (s : State ℚ), (meter.flag s.flags).due env s = true →
    meter.trip s.locals = ⟨true, .ofMicros start⟩ → meter.ready s = true →
    clockReading env s = .ofMicros current →
    (meter.stage.run env s).usb = meter.report ((current - start : ℕ) / 10 ^ 6) s

theorem Meter.reportsElapsed {meter : Meter ℚ} {start current : ℕ}
    (outcome : ∀ (env : Env) (s : State ℚ), (meter.flag s.flags).due env s = true →
      meter.Outcome env s (meter.stage.run env s))
    (exact : ((Time.ofMicros current).since (.ofMicros start)).micros = current - start) :
    meter.ReportsElapsed start current := by
  intro env s due trip ready clock
  have busy : (meter.trip s.locals).trip = true := by rw [trip]
  rcases outcome env s due with ⟨idle, -⟩ | ⟨-, unready, -⟩ | ⟨-, -, -, sent⟩
  · exact absurd busy (Bool.eq_false_iff.mp idle)
  · exact absurd ready (Bool.eq_false_iff.mp unready)
  · rw [sent, reportedTime, trip, clock, seconds_eq, exact]

/-- What `SecondsSince` makes of two instants, and what the reports make of that. -/
structure TrueElapsed (start current : ℕ) : Prop where
  since : ((Time.ofMicros current).since (.ofMicros start)).Exact (current - start)
  floatSend : (floatSendMeter ℚ).ReportsElapsed start current
  loopTime : (loopTimeMeter ℚ).ReportsElapsed start current

theorem trueElapsed_iff (start current : ℕ) (ordered : start ≤ current)
    (apart : current - start < 1000 * 2 ^ 32) :
    TrueElapsed start current ↔ start % 1000 ≤ current % 1000 := by
  rw [← exact_since_iff ordered apart]
  constructor
  · exact TrueElapsed.since
  · intro exact
    exact ⟨exact, Meter.reportsElapsed outcome_timeFloatSendHandler exact.micros,
      Meter.reportsElapsed outcome_loopTimerHandler exact.micros⟩

/-- One second and a bit, across a wrap of the millisecond counter. -/
theorem trueElapsed_wrap : TrueElapsed (1000 * (2 ^ 32 - 1) + 4) (1000 * (2 ^ 32 + 999) + 8) :=
  (trueElapsed_iff (1000 * (2 ^ 32 - 1) + 4) (1000 * (2 ^ 32 + 999) + 8) (by decide)
    (by decide)).mpr (by decide)

/-- From 0 ms 996 us to 1 ms 0 us. -/
theorem not_trueElapsed :
    ¬ ∀ start current : ℕ, start ≤ current → current - start < 1000 * 2 ^ 32 →
      TrueElapsed start current := by
  intro exact
  have span := (exact 996 1000 (by decide) (by decide)).since.microsec
  have borrowed : ((Time.ofMicros 1000).since (.ofMicros 996)).microsec = 64540 := by decide
  rw [borrowed] at span
  exact absurd span (by decide)

end ZumoDelivery
