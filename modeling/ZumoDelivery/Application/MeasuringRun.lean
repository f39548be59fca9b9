import ZumoDelivery.Lib.TwoPhase
import ZumoDelivery.Application.Measuring

set_option autoImplicit false

namespace ZumoDelivery

variable {F : Type} [FloatArith F]

open FloatArith

/-- The argument of a 't' or 'T' request that a case of the message task has accepted. -/
def timeRequest (F : Type) [FloatArith F] (message : Dispatch) : Option UInt8 :=
  if Ascii.toChar message.command = 't' then some (byteAt message.payload 0)
  else if Ascii.toChar message.command = 'T' ∧ lt (lit 0) (floatAt message.payload 1 : F) then
    some (byteAt message.payload 0)
  else none

namespace Meter

variable (meter : Meter F)

/-- The state in which an iteration of the loop reaches the handler. -/
def reached (env : Env) (n : ℕ) : State F := deviceTrace env (17 * n + meter.offset)

/-- The state after the handler. -/
def passed (env : Env) (n : ℕ) : State F := deviceTrace env (17 * n + meter.offset + 1)

def DueAt (env : Env) (n : ℕ) : Prop :=
  (meter.flag (meter.reached env n).flags).due env (meter.reached env n) = true

def ReadyAt (env : Env) (n : ℕ) : Prop := meter.ready (meter.reached env n) = true

def ArmedAt (env : Env) (n : ℕ) : Prop := (meter.trip (meter.reached env n).locals).trip = true

/-- The message task of an iteration accepts a request for these reports. -/
def RequestedAt (env : Env) (n : ℕ) : Prop :=
  (messageHandlingTask env (deviceTrace (F := F) env (17 * n + 1))).2.bind (timeRequest F) =
    some meter.arg

instance (env : Env) (n : ℕ) : Decidable (meter.DueAt env n) :=
  inferInstanceAs (Decidable (_ = _))

instance (env : Env) (n : ℕ) : Decidable (meter.ReadyAt env n) :=
  inferInstanceAs (Decidable (_ = _))

instance (env : Env) (n : ℕ) : Decidable (meter.ArmedAt env n) :=
  inferInstanceAs (Decidable (_ = _))

instance (env : Env) (n : ℕ) : Decidable (meter.RequestedAt env n) :=
  inferInstanceAs (Decidable (_ = _))

abbrev BeginsAt (env : Env) : ℕ → Prop := TwoPhase.Begins (meter.DueAt env) (meter.ArmedAt env)

abbrev ReportsAt (env : Env) : ℕ → Prop :=
  TwoPhase.Ends (meter.DueAt env) (meter.ReadyAt env) (meter.ArmedAt env)

/-- The report of one iteration subtracts the time recorded in another, and no request
came in between. -/
structure Measures (env : Env) (m n : ℕ) : Prop where
  ordered : m < n
  begins : meter.BeginsAt env m
  sent : (meter.passed env n).usb = meter.report
    (reportedTime env (clockReading env (meter.reached env m)) (meter.reached env n))
    (meter.reached env n)
  fresh : ∀ i, m < i → i ≤ n → ¬ meter.RequestedAt env i

/-- The first handler position after the start that is ready finds the flag due and no
request accepted in the meantime, or the measurement is never finished. -/
def OnTime (env : Env) : Prop :=
  ∀ m n, meter.BeginsAt env m → TwoPhase.FirstReady (meter.ReadyAt env) m n →
    (meter.DueAt env n ∧ ∀ i, m < i → i ≤ n → ¬ meter.RequestedAt env i) ∨
      ∀ i, m < i → ¬ (meter.DueAt env i ∧ meter.ReadyAt env i)

/-- What the runs need to know about a handler. -/
structure Sound : Prop where
  only : ∀ i < 17, loopBody[i]? = some meter.stage ↔ i = meter.offset
  inside : meter.offset < 17
  initial : ∀ env, (meter.trip (mainInit (F := F) env).locals).trip = false
  due : ∀ env s, (meter.flag s.flags).due env s = true →
    meter.Outcome env s (meter.stage.run env s)
  waiting : ∀ env s, (meter.flag s.flags).due env s = false →
    meter.trip (meter.stage.run env s).locals = meter.trip s.locals
  frame : ∀ env stage s, stage ≠ meter.stage →
    meter.trip (stage.run env s).locals = meter.trip s.locals

end Meter

theorem sound_floatSendMeter : (floatSendMeter F).Sound where
  only := show ∀ i < 17, loopBody[i]? = some .timeFloatSend ↔ i = 5 by decide
  inside := show 5 < 17 by decide
  initial _ := rfl
  due := outcome_timeFloatSendHandler
  waiting env s idle := by
    obtain ⟨looks, -, -, same⟩ := @run_of_waiting F _ env .timeFloatSend s idle
    change (Stage.timeFloatSend.run env s).locals.floatSend = s.locals.floatSend
    rw [same]
  frame := floatSend_run

theorem sound_loopTimeMeter : (loopTimeMeter F).Sound where
  only := show ∀ i < 17, loopBody[i]? = some .loopTimer ↔ i = 6 by decide
  inside := show 6 < 17 by decide
  initial _ := rfl
  due := outcome_loopTimerHandler
  waiting env s idle := by
    obtain ⟨looks, -, -, same⟩ := @run_of_waiting F _ env .loopTimer s idle
    change (Stage.loopTimer.run env s).locals.loopTime = s.locals.loopTime
    rw [same]
  frame := loopTime_run

namespace Meter

variable {meter : Meter F}

theorem Sound.stageAt (sound : meter.Sound) (n : ℕ) :
    stageAt (17 * n + meter.offset) = some meter.stage := by
  have inside : meter.offset < loopBody.length := sound.inside
  have here := CyclicProgram.stageAt_mul_add n meter.offset inside
  rw [← List.getElem?_eq_getElem inside] at here
  exact here.trans ((sound.only meter.offset inside).mpr rfl)

theorem Sound.passed_eq (sound : meter.Sound) (env : Env) (n : ℕ) :
    meter.passed env n = meter.stage.run env (meter.reached env n) :=
  deviceTrace_succ (sound.stageAt n)

theorem Sound.outcome (sound : meter.Sound) {env : Env} {n : ℕ} (due : meter.DueAt env n) :
    meter.Outcome env (meter.reached env n) (meter.passed env n) := by
  rw [sound.passed_eq]
  exact sound.due env _ due

theorem Sound.trip_reached_succ (sound : meter.Sound) (env : Env) (n : ℕ) :
    meter.trip (meter.reached env (n + 1)).locals = meter.trip (meter.passed env n).locals := by
  apply CyclicProgram.trace_since
    (fun s : State F => meter.trip s.locals = meter.trip (meter.passed env n).locals)
    (17 * n + meter.offset + 1) (17 * (n + 1) + meter.offset) (by omega)
  · rfl
  · intro time stage lower upper here same
    refine (sound.frame env stage _ ?_).trans same
    rintro rfl
    have place := (sound.only (time % 17) (Nat.mod_lt _ (by decide))).mp here
    have inside := sound.inside
    omega

theorem Sound.trip_reached_zero (sound : meter.Sound) (env : Env) :
    (meter.trip (meter.reached env 0).locals).trip = false := by
  apply CyclicProgram.trace_since (fun s : State F => (meter.trip s.locals).trip = false)
    0 (17 * 0 + meter.offset) (by omega)
  · exact sound.initial env
  · intro time stage lower upper here idle
    rw [sound.frame env stage]
    · exact idle
    · rintro rfl
      have place := (sound.only (time % 17) (Nat.mod_lt _ (by decide))).mp here
      have inside := sound.inside
      omega

theorem Sound.trip_step (sound : meter.Sound) (env : Env) (n : ℕ) :
    meter.trip (meter.reached env (n + 1)).locals =
      if meter.DueAt env n then
        if meter.ArmedAt env n then
          if meter.ReadyAt env n then
            { meter.trip (meter.reached env n).locals with trip := false }
          else meter.trip (meter.reached env n).locals
        else ⟨true, clockReading env (meter.reached env n)⟩
      else meter.trip (meter.reached env n).locals := by
  rw [sound.trip_reached_succ]
  by_cases due : meter.DueAt env n
  · rw [if_pos due]
    rcases sound.outcome due with ⟨idle, trip⟩ | ⟨busy, unready, same⟩ | ⟨busy, ready, trip, -⟩
    · rw [if_neg (show ¬ meter.ArmedAt env n from Bool.eq_false_iff.mp idle), trip]
    · rw [if_pos (show meter.ArmedAt env n from busy),
        if_neg (show ¬ meter.ReadyAt env n from Bool.eq_false_iff.mp unready), same]
    · rw [if_pos (show meter.ArmedAt env n from busy),
        if_pos (show meter.ReadyAt env n from ready), trip]
  · rw [if_neg due, sound.passed_eq]
    exact sound.waiting env _ (Bool.eq_false_iff.mpr due)

theorem Sound.rounds (sound : meter.Sound) (env : Env) :
    TwoPhase.Rounds (meter.DueAt env) (meter.ReadyAt env) (meter.ArmedAt env) where
  idle := Bool.eq_false_iff.mp (sound.trip_reached_zero env)
  step n := by
    change (meter.trip (meter.reached env (n + 1)).locals).trip = true ↔ _
    rw [sound.trip_step]
    by_cases due : meter.DueAt env n
    · by_cases armed : meter.ArmedAt env n
      · by_cases ready : meter.ReadyAt env n
        · simp only [due, armed, ready, ↓reduceIte, Bool.false_eq_true, not_true_eq_false,
            and_false, and_self, or_self]
        · simp only [due, armed, ready, ↓reduceIte, not_true_eq_false, and_false,
            not_false_eq_true, and_self, or_true, iff_true]
          exact armed
      · simp only [due, armed, ↓reduceIte, not_false_eq_true, and_self, true_or]
    · simp only [due, ↓reduceIte, false_and, not_false_eq_true, and_true, false_or]
      rfl

theorem Sound.trip_of_pending (sound : meter.Sound) {env : Env} {m n : ℕ}
    (pending : TwoPhase.Pending (meter.DueAt env) (meter.ArmedAt env) m n) :
    meter.trip (meter.reached env n).locals = ⟨true, clockReading env (meter.reached env m)⟩ := by
  obtain ⟨begins, ordered, armed⟩ := pending
  induction ordered with
  | refl => rw [sound.trip_step, if_pos begins.due, if_neg begins.idle]
  | @step n ordered ih =>
      have before := ih fun i lower upper => armed i lower (Nat.le_succ_of_le upper)
      have busy : meter.ArmedAt env n := armed n ordered (Nat.le_succ n)
      rw [sound.trip_step, before, if_pos busy]
      by_cases due : meter.DueAt env n
      · rw [if_pos due]
        by_cases ready : meter.ReadyAt env n
        · -- The measurement would have ended.
          have still := armed (n + 1) (Nat.le_succ_of_le ordered) (Nat.le_refl _)
          rcases ((sound.rounds env).step n).mp still with ⟨-, idle⟩ | ⟨-, going⟩
          · exact absurd busy idle
          · exact absurd ⟨due, ready⟩ going
        · rw [if_neg ready]
      · rw [if_neg due]

theorem Sound.sent_of_pending (sound : meter.Sound) {env : Env} {m n : ℕ}
    (pending : TwoPhase.Pending (meter.DueAt env) (meter.ArmedAt env) m n)
    (ends : meter.ReportsAt env n) :
    (meter.passed env n).usb = meter.report
      (reportedTime env (clockReading env (meter.reached env m)) (meter.reached env n))
      (meter.reached env n) := by
  rcases sound.outcome ends.due with ⟨idle, -⟩ | ⟨-, unready, -⟩ | ⟨-, -, -, sent⟩
  · exact absurd ends.armed (Bool.eq_false_iff.mp idle)
  · exact absurd ends.ready (Bool.eq_false_iff.mp unready)
  · rw [sent, sound.trip_of_pending pending]

theorem Sound.prompt_iff_measures (sound : meter.Sound) {env : Env} {m n : ℕ}
    (ends : meter.ReportsAt env n) :
    TwoPhase.Prompt (meter.DueAt env) (meter.ReadyAt env) (meter.ArmedAt env)
        (meter.RequestedAt env) m n ↔
      meter.Measures env m n ∧ TwoPhase.FirstReady (meter.ReadyAt env) m n := by
  constructor
  · rintro ⟨pending, first, fresh⟩
    exact ⟨⟨pending.ordered, pending.begins, sound.sent_of_pending pending ends, fresh⟩, first⟩
  · rintro ⟨measures, first⟩
    have pending := measures.begins.pending (sound.rounds env) first.ordered
      fun i lower upper finished => first.before i lower upper finished.2
    exact ⟨pending, first, measures.fresh⟩

/-- A measurement is on time exactly if each report is the first that it could be. -/
theorem Sound.onTime_iff (sound : meter.Sound) (env : Env) :
    meter.OnTime env ↔ ∀ n, meter.ReportsAt env n →
      ∃ m, meter.Measures env m n ∧ TwoPhase.FirstReady (meter.ReadyAt env) m n := by
  refine (TwoPhase.prompt_iff (sound.rounds env) (meter.RequestedAt env)).symm.trans ?_
  apply forall_congr'
  intro n
  apply forall_congr'
  intro ends
  exact exists_congr fun m => sound.prompt_iff_measures ends

end Meter

theorem firstReady_loopTimeMeter (env : Env) (m n : ℕ) :
    TwoPhase.FirstReady ((loopTimeMeter F).ReadyAt env) m n ↔ m + 1 = n := by
  constructor
  · intro first
    by_contra apart
    exact first.before (m + 1) (Nat.lt_succ_self m) (by have := first.ordered; omega) rfl
  · rintro rfl
    exact ⟨Nat.lt_succ_self m, rfl, fun i lower upper => by omega⟩

def QueuesFloat (F : Type) [FloatArith F] (env : Env) (n : ℕ) : Prop :=
  ((floatSendMeter F).passed env n).usb =
    (sendMsg ['c', 'f'] (Ascii.ofChar 'f') (floatBytes (lit 12.345 : F))
      ((floatSendMeter F).reached env n)).usb

theorem usb_timeFloatSendHandler (env : Env) (s : State F)
    (due : s.flags.mfTimeFloatSend.due env s = true) (idle : s.locals.floatSend.trip = false) :
    (timeFloatSendHandler env s).usb =
      (sendMsg ['c', 'f'] (Ascii.ofChar 'f') (floatBytes (lit 12.345 : F)) s).usb := by
  have execution := Execution.timeFloatSendHandler due
  generalize timeFloatSendHandler env s = after at execution ⊢
  cases execution with
  | floatBegun => rw [sendMsg_eq, State.mapUsb]
  | floatWaiting busy | floatOnce busy | floatAgain busy => cases idle.symm.trans busy

theorem queuesFloat_of_beginsAt {env : Env} {n : ℕ}
    (begins : (floatSendMeter F).BeginsAt env n) : QueuesFloat F env n := by
  rw [QueuesFloat, sound_floatSendMeter.passed_eq]
  exact usb_timeFloatSendHandler env _ begins.due (Bool.eq_false_iff.mpr begins.idle)

structure TimesMeasured (F : Type) [FloatArith F] (env : Env) : Prop where
  loopTime : ∀ n, (loopTimeMeter F).ReportsAt env n →
    ∃ m, m + 1 = n ∧ (loopTimeMeter F).Measures env m n
  floatSend : ∀ n, (floatSendMeter F).ReportsAt env n →
    ∃ m, QueuesFloat F env m ∧ (floatSendMeter F).Measures env m n ∧
      TwoPhase.FirstReady ((floatSendMeter F).ReadyAt env) m n

theorem times_measured_iff (F : Type) [FloatArith F] (env : Env) :
    TimesMeasured F env ↔
      (loopTimeMeter F).OnTime env ∧ (floatSendMeter F).OnTime env := by
  rw [sound_loopTimeMeter.onTime_iff, sound_floatSendMeter.onTime_iff]
  constructor
  · rintro ⟨loopTime, floatSend⟩
    constructor
    · intro n ends
      obtain ⟨m, next, measures⟩ := loopTime n ends
      exact ⟨m, measures, (firstReady_loopTimeMeter env m n).mpr next⟩
    · intro n ends
      obtain ⟨m, -, measures, first⟩ := floatSend n ends
      exact ⟨m, measures, first⟩
  · rintro ⟨loopTime, floatSend⟩
    constructor
    · intro n ends
      obtain ⟨m, measures, first⟩ := loopTime n ends
      exact ⟨m, (firstReady_loopTimeMeter env m n).mp first, measures⟩
    · intro n ends
      obtain ⟨m, measures, first⟩ := floatSend n ends
      exact ⟨m, queuesFloat_of_beginsAt measures.begins, measures, first⟩

/-- Loop times every second and every ten seconds, in turn. -/
def renewedPeriods : List UInt8 := [84, 2, 0, 0, 128, 63, 84, 2, 0, 0, 32, 65]

/-- The clock passes two seconds as iteration 10 comes to the loop timer. -/
def lateClock (look : ℕ) : ℕ := if look < 28 then 0 else 2000

/-- Iteration 10 records a start time for the first period. The second one is accepted in
iteration 11, and iteration 18 reports the time since iteration 10. -/
theorem not_times_measured : ¬ ∀ env : Env, TimesMeasured ℚ env := by
  intro measured
  have reports : (loopTimeMeter ℚ).ReportsAt (Env.bench renewedPeriods lateClock) 18 :=
    ⟨by decide +kernel, rfl, by decide +kernel⟩
  obtain ⟨m, next, measures⟩ := (measured _).loopTime 18 reports
  obtain rfl : m = 17 := by omega
  exact absurd measures.begins.due (by decide +kernel)

end ZumoDelivery
