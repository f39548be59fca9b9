import Mathlib.Algebra.Ring.Nat
import Mathlib.Data.List.Induction
import Mathlib.Tactic.Common
import ZumoDelivery.Driver.Peripherals

set_option autoImplicit false

namespace ZumoDelivery

def Time.micros (time : Time) : ℕ := 1000 * time.millisec.toNat + time.microsec.toNat

def Time.ofMicros (micros : ℕ) : Time :=
  ⟨UInt32.ofNat (micros / 1000), UInt16.ofNat (micros % 1000)⟩

theorem toNat_ofNat_sub (start now : ℕ) (ordered : start ≤ now) (range : now < start + 2 ^ 32) :
    (UInt32.ofNat now - UInt32.ofNat start).toNat = now - start := by
  rw [UInt32.toNat_sub, UInt32.toNat_ofNat', UInt32.toNat_ofNat']
  omega

structure Time.Exact (span : Time) (elapsed : ℕ) : Prop where
  microsec : span.microsec.toNat < 1000
  micros : span.micros = elapsed

/-- The microseconds of a difference, taken modulo `2 ^ 16` by themselves. -/
theorem microsec_since (start current : ℕ) :
    ((Time.ofMicros current).since (Time.ofMicros start)).microsec.toNat =
      if start % 1000 ≤ current % 1000 then current % 1000 - start % 1000
      else 2 ^ 16 + current % 1000 - start % 1000 := by
  simp only [Time.since, Time.ofMicros, UInt16.toNat_sub, UInt16.toNat_ofNat']
  split <;> omega

theorem micros_since_of_le {start current : ℕ} (ordered : start ≤ current)
    (apart : current - start < 1000 * 2 ^ 32) (forward : start % 1000 ≤ current % 1000) :
    ((Time.ofMicros current).since (Time.ofMicros start)).micros = current - start := by
  have whole : ((Time.ofMicros current).since (Time.ofMicros start)).millisec.toNat =
      current / 1000 - start / 1000 :=
    toNat_ofNat_sub (start / 1000) (current / 1000) (by omega) (by omega)
  rw [Time.micros, whole, microsec_since, if_pos forward]
  omega

/-- A missing borrow is never a whole number of milliseconds. -/
theorem micros_since_ne {start current : ℕ} (ordered : start ≤ current)
    (backward : current % 1000 < start % 1000) :
    ((Time.ofMicros current).since (Time.ofMicros start)).micros ≠ current - start := by
  rw [Time.micros, microsec_since, if_neg (by omega)]
  omega

theorem exact_since_iff {start current : ℕ} (ordered : start ≤ current)
    (apart : current - start < 1000 * 2 ^ 32) :
    ((Time.ofMicros current).since (Time.ofMicros start)).Exact (current - start) ↔
      start % 1000 ≤ current % 1000 := by
  constructor
  · intro exact
    by_contra backward
    exact micros_since_ne ordered (by omega) exact.micros
  · intro forward
    refine ⟨?_, micros_since_of_le ordered apart forward⟩
    rw [microsec_since, if_pos forward]
    omega

/-- The counter of Timer 0 and the milliseconds counted by its interrupt. -/
structure Timer0 where
  countMs : UInt32
  tcnt0 : UInt8
deriving DecidableEq

/-- How far a call of `GetTime` has come. The compiler may read either half first. -/
inductive Reading where
  | idle
  | countMs (value : UInt32)
  | tcnt0 (value : UInt8)
deriving DecidableEq

/-- The timer, the call in progress and the times returned so far. -/
structure TimerRun where
  timer : Timer0
  reading : Reading
  returned : List Time
deriving DecidableEq

inductive TimerEvent where
  | tick
  /-- `ISR(TIMER0_COMPB_vect)`. -/
  | compareB
  | readCountMs
  | readTcnt0
deriving DecidableEq

def setupTimer0 : TimerRun := ⟨⟨0, 0⟩, .idle, []⟩

/-- `none` is an event that cannot happen. OCR0B is 249. -/
def timerStep (r : TimerRun) : TimerEvent → Option TimerRun
  | .tick =>
      if r.timer.tcnt0 < 249 then some { r with timer.tcnt0 := r.timer.tcnt0 + 1 } else none
  | .compareB =>
      if r.timer.tcnt0 = 249 then some { r with timer := ⟨r.timer.countMs + 1, 0⟩ } else none
  | .readCountMs =>
      match r.reading with
      | .idle => some { r with reading := .countMs r.timer.countMs }
      | .countMs _ => none
      | .tcnt0 value =>
          some { r with
            reading := .idle
            returned := r.returned ++ [timeOfCounts r.timer.countMs value] }
  | .readTcnt0 =>
      match r.reading with
      | .idle => some { r with reading := .tcnt0 r.timer.tcnt0 }
      | .countMs value =>
          some { r with
            reading := .idle
            returned := r.returned ++ [timeOfCounts value r.timer.tcnt0] }
      | .tcnt0 _ => none

def timerRun (events : List TimerEvent) : Option TimerRun := events.foldlM timerStep setupTimer0

/-- No interrupt falls between the two reads of a call. -/
def Untorn (events : List TimerEvent) : Prop :=
  ∀ time < events.length, events[time]? = some .compareB →
    ∀ r ∈ timerRun (events.take time), r.reading = .idle

instance (events : List TimerEvent) : Decidable (Untorn events) :=
  inferInstanceAs (Decidable (∀ time < events.length, _))

def Ascending (times : List Time) : Prop := times.Pairwise fun earlier later =>
  earlier.micros ≤ later.micros

instance (times : List Time) : Decidable (Ascending times) :=
  inferInstanceAs (Decidable (List.Pairwise _ _))

theorem micros_timeOfCounts (countMs : UInt32) (tcnt0 : UInt8) :
    (timeOfCounts countMs tcnt0).micros = 1000 * countMs.toNat + 4 * tcnt0.toNat := by
  have small := tcnt0.toNat_lt
  simp only [Time.micros, timeOfCounts, UInt16.toNat_mul, UInt8.toNat_toUInt16]
  rw [show (4 : UInt16).toNat = 4 by rfl]
  omega

/-- The earliest time that the next call can return. -/
def TimerRun.earliest (r : TimerRun) : Time :=
  match r.reading with
  | .idle => timeOfCounts r.timer.countMs r.timer.tcnt0
  | .countMs _ => timeOfCounts r.timer.countMs r.timer.tcnt0
  | .tcnt0 value => timeOfCounts r.timer.countMs value

/-- A run without torn reads after a number of interrupts. -/
structure TimerRun.Steady (r : TimerRun) (interrupts : ℕ) : Prop where
  interrupts : r.timer.countMs.toNat = interrupts
  below : r.timer.tcnt0.toNat ≤ 249
  countMs : ∀ value, r.reading = .countMs value → value = r.timer.countMs
  tcnt0 : ∀ value, r.reading = .tcnt0 value → value.toNat ≤ r.timer.tcnt0.toNat
  ascending : Ascending r.returned
  past : ∀ time ∈ r.returned, time.micros ≤ r.earliest.micros

theorem TimerRun.earliest_of_idle {r : TimerRun} (idle : r.reading = .idle) :
    r.earliest = timeOfCounts r.timer.countMs r.timer.tcnt0 := by
  rw [earliest, idle]

/-- The time of a call lies between the earliest one and the present. -/
theorem TimerRun.Steady.earliest_le {r : TimerRun} {interrupts : ℕ}
    (steady : r.Steady interrupts) :
    r.earliest.micros ≤ (timeOfCounts r.timer.countMs r.timer.tcnt0).micros := by
  cases reading : r.reading with
  | idle => exact Nat.le_of_eq (congrArg Time.micros (earliest_of_idle reading))
  | countMs value =>
      have whole : r.earliest = timeOfCounts r.timer.countMs r.timer.tcnt0 := by
        rw [earliest, reading]
      exact Nat.le_of_eq (congrArg Time.micros whole)
  | tcnt0 value =>
      have earlier := steady.tcnt0 value reading
      rw [earliest, reading, micros_timeOfCounts, micros_timeOfCounts]
      omega

theorem steady_tick {r after : TimerRun} {interrupts : ℕ} (steady : r.Steady interrupts)
    (stepped : timerStep r .tick = some after) : after.Steady interrupts := by
  obtain ⟨timer, reading, returned⟩ := r
  simp only [timerStep] at stepped
  split at stepped
  · rename_i below
    cases stepped
    have less : timer.tcnt0.toNat < 249 := UInt8.lt_iff_toNat_lt.mp below
    have next : (timer.tcnt0 + 1).toNat = timer.tcnt0.toNat + 1 := by
      rw [UInt8.toNat_add, UInt8.toNat_one]
      omega
    refine ⟨steady.interrupts, ?_, steady.countMs, ?_, steady.ascending, ?_⟩
    · change (timer.tcnt0 + 1).toNat ≤ 249
      omega
    · intro value held
      have earlier := steady.tcnt0 value held
      change value.toNat ≤ (timer.tcnt0 + 1).toNat
      change value.toNat ≤ timer.tcnt0.toNat at earlier
      omega
    · intro time member
      have past := steady.past time member
      cases reading with
      | tcnt0 value => exact past
      | idle =>
          simp only [TimerRun.earliest, micros_timeOfCounts] at past ⊢
          omega
      | countMs value =>
          simp only [TimerRun.earliest, micros_timeOfCounts] at past ⊢
          omega
  · cases stepped

/-- Between two calls the interrupt moves the time on by the missing four microseconds. -/
theorem steady_compareB {r after : TimerRun} {interrupts : ℕ} (steady : r.Steady interrupts)
    (idle : r.reading = .idle) (range : interrupts + 1 < 2 ^ 32)
    (stepped : timerStep r .compareB = some after) : after.Steady (interrupts + 1) := by
  obtain ⟨timer, reading, returned⟩ := r
  change reading = .idle at idle
  subst idle
  simp only [timerStep] at stepped
  split at stepped
  · cases stepped
    have count : timer.countMs.toNat = interrupts := steady.interrupts
    have below : timer.tcnt0.toNat ≤ 249 := steady.below
    have next : (timer.countMs + 1).toNat = interrupts + 1 := by
      rw [UInt32.toNat_add, UInt32.toNat_one, count]
      omega
    refine ⟨next, Nat.zero_le _, nofun, nofun, steady.ascending, ?_⟩
    intro time member
    have past := steady.past time member
    simp only [TimerRun.earliest, micros_timeOfCounts, next] at past ⊢
    omega
  · cases stepped

theorem ascending_append {times : List Time} {last : Time} (ascending : Ascending times)
    (past : ∀ time ∈ times, time.micros ≤ last.micros) : Ascending (times ++ [last]) := by
  rw [Ascending, List.pairwise_append]
  refine ⟨ascending, List.pairwise_singleton _ last, ?_⟩
  intro time member other only
  rw [List.mem_singleton.mp only]
  exact past time member

theorem steady_return {r : TimerRun} {interrupts : ℕ} {last : Time} (steady : r.Steady interrupts)
    (lower : r.earliest.micros ≤ last.micros)
    (upper : last.micros ≤ (timeOfCounts r.timer.countMs r.timer.tcnt0).micros) :
    TimerRun.Steady { r with reading := .idle, returned := r.returned ++ [last] } interrupts := by
  refine ⟨steady.interrupts, steady.below, nofun, nofun, ?_, ?_⟩
  · apply ascending_append steady.ascending
    intro time member
    exact Nat.le_trans (steady.past time member) lower
  · intro time member
    rcases List.mem_append.mp member with before | here
    · exact Nat.le_trans (steady.past time before) (Nat.le_trans lower upper)
    · rw [List.mem_singleton.mp here]
      exact upper

theorem steady_readCountMs {r after : TimerRun} {interrupts : ℕ} (steady : r.Steady interrupts)
    (stepped : timerStep r .readCountMs = some after) : after.Steady interrupts := by
  have present := steady.earliest_le
  simp only [timerStep] at stepped
  split at stepped
  · rename_i idle
    cases stepped
    refine ⟨steady.interrupts, steady.below, ?_, nofun, steady.ascending, ?_⟩
    · rintro value ⟨⟩
      rfl
    · intro time member
      rw [← r.earliest_of_idle idle] at present
      have past := steady.past time member
      rwa [r.earliest_of_idle idle] at past
  · cases stepped
  · rename_i value held
    cases stepped
    have first : r.earliest = timeOfCounts r.timer.countMs value := by
      rw [TimerRun.earliest, held]
    apply steady_return steady
    · exact Nat.le_of_eq (congrArg Time.micros first)
    · rwa [← first]

theorem steady_readTcnt0 {r after : TimerRun} {interrupts : ℕ} (steady : r.Steady interrupts)
    (stepped : timerStep r .readTcnt0 = some after) : after.Steady interrupts := by
  simp only [timerStep] at stepped
  split at stepped
  · rename_i idle
    cases stepped
    refine ⟨steady.interrupts, steady.below, nofun, ?_, steady.ascending, ?_⟩
    · rintro value ⟨⟩
      exact Nat.le_refl _
    · intro time member
      have past := steady.past time member
      rwa [r.earliest_of_idle idle] at past
  · rename_i value held
    cases stepped
    rw [steady.countMs value held]
    exact steady_return steady steady.earliest_le (Nat.le_refl _)
  · cases stepped

theorem Untorn.of_append {events later : List TimerEvent} (untorn : Untorn (events ++ later)) :
    Untorn events := by
  intro time inside here r ran
  apply untorn time
  · rw [List.length_append]
    omega
  · rwa [List.getElem?_append_left inside]
  · rwa [List.take_append_of_le_length (Nat.le_of_lt inside)]

/-- Without torn reads the run stays steady, up to the wrap of the counter. -/
theorem steady_timerRun (events : List TimerEvent) (r : TimerRun)
    (ran : timerRun events = some r) (untorn : Untorn events)
    (range : events.count .compareB < 2 ^ 32) : r.Steady (events.count .compareB) := by
  induction events using List.reverseRecOn generalizing r with
  | nil =>
      cases ran
      exact ⟨rfl, Nat.zero_le _, nofun, nofun, List.Pairwise.nil, nofun⟩
  | append_singleton events event ih =>
      have counted := (List.sublist_append_left events [event]).count_le TimerEvent.compareB
      rw [timerRun, List.foldlM_append] at ran
      obtain ⟨before, started, stepped⟩ := Option.bind_eq_some_iff.mp ran
      have steady := ih before started untorn.of_append (by omega)
      obtain ⟨after, stepped, same⟩ := Option.bind_eq_some_iff.mp stepped
      cases same
      rw [List.count_append] at range ⊢
      cases event with
      | tick => exact steady_tick steady stepped
      | compareB =>
          have idle : before.reading = .idle := by
            apply untorn events.length (by simp) (by simp)
            rwa [List.take_left]
          exact steady_compareB steady idle range stepped
      | readCountMs => exact steady_readCountMs steady stepped
      | readTcnt0 => exact steady_readTcnt0 steady stepped

/-- In every run in which no interrupt falls between the two reads of a call, the times
that the calls return never decrease. -/
theorem ascending_of_untorn (events : List TimerEvent) (r : TimerRun)
    (ran : timerRun events = some r) (range : events.count .compareB < 2 ^ 32)
    (untorn : Untorn events) : Ascending r.returned :=
  (steady_timerRun events r ran untorn range).ascending

/-- A call before the interrupt and one after it. -/
theorem ascending_of_untorn_two : Ascending [timeOfCounts 0 249, timeOfCounts 1 0] :=
  ascending_of_untorn (List.replicate 249 .tick ++
      [.readCountMs, .readTcnt0, .compareB, .readTcnt0, .readCountMs])
    ⟨⟨1, 0⟩, .idle, [timeOfCounts 0 249, timeOfCounts 1 0]⟩ (by decide +kernel)
    (by decide +kernel) (by decide +kernel)

/-- 249 ticks, a call, and the interrupt in the middle of the next call. -/
def tornCountMs : List TimerEvent :=
  List.replicate 249 .tick ++
    [.readCountMs, .readTcnt0, .readCountMs, .compareB, .readTcnt0]

/-- 996 microseconds after start-up come before 0. -/
theorem not_ascending :
    ¬ ∀ events r, timerRun events = some r → events.count .compareB < 2 ^ 32 →
      Ascending r.returned := by
  intro ascending
  have two := ascending tornCountMs ⟨⟨1, 0⟩, .idle, [timeOfCounts 0 249, timeOfCounts 0 0]⟩
    (by decide +kernel) (by decide +kernel)
  exact absurd two (by decide)

/-- With the other order of the reads a call returns a time to come. -/
example : timerRun (List.replicate 249 .tick ++
      [.readTcnt0, .compareB, .readCountMs, .readTcnt0, .readCountMs]) =
    some ⟨⟨1, 0⟩, .idle, [timeOfCounts 1 249, timeOfCounts 1 0]⟩ := by
  decide +kernel

end ZumoDelivery
