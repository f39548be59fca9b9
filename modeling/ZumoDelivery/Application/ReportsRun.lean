import ZumoDelivery.Application.Reception
import ZumoDelivery.Application.Requests
import ZumoDelivery.Application.DriveModes

set_option autoImplicit false

namespace ZumoDelivery

open FloatArith

namespace Report

/-- A message that asks for one report at once. -/
def asksFor (message : Dispatch) : Report → Bool
  | .time => Ascii.toChar message.command = 't' && byteAt message.payload 0 = 0x00
  | .encoder => Ascii.toChar message.command = 'e'
  | .battery => Ascii.toChar message.command = 'b'
  | .system => Ascii.toChar message.command = 'q'

def offset : Report → ℕ
  | .time => 4
  | .encoder => 7
  | .battery => 8
  | .system => 11

/-- The state in which an iteration of the loop reaches the handler. -/
def reached (env : Env) (n : ℕ) (report : Report) : State ℚ :=
  deviceTrace env (17 * n + report.offset)

def passed (env : Env) (n : ℕ) (report : Report) : State ℚ :=
  deviceTrace env (17 * n + report.offset + 1)

def DueAt (env : Env) (n : ℕ) (report : Report) : Prop :=
  (report.flag (report.reached env n).flags).due env (report.reached env n) = true

/-- The handler answers a request. -/
def SingleAt (env : Env) (n : ℕ) (report : Report) : Prop :=
  report.DueAt env n ∧ report.once (report.flag (report.reached env n).flags).duration = true

def PeriodicAt (env : Env) (n : ℕ) (report : Report) : Prop :=
  report.DueAt env n ∧ report.once (report.flag (report.reached env n).flags).duration = false

/-- The message task of an iteration dispatches a request. -/
def RequestedAt (env : Env) (n : ℕ) (report : Report) : Prop :=
  (messageHandlingTask env (deviceTrace (F := ℚ) env (17 * n + 1))).2.any report.asksFor = true

end Report

namespace Asked

/-- Between two iterations every report that is active is a periodic one. -/
structure Settled (asked : Asked ℚ) : Prop where
  restart : asked.restart = msgFlagInit
  periodic : ∀ report, (Asked.report report asked).1 = true → 0 < (Asked.report report asked).2

def accept (asked : Asked ℚ) (message : Option Dispatch) : Asked ℚ :=
  message.elim asked fun message =>
    if Ascii.toChar message.command = '~' then cleared else asked.dispatch message

theorem restart_dispatch (asked : Asked ℚ) (message : Dispatch)
    (other : Ascii.toChar message.command ≠ '~') :
    (asked.dispatch message).restart = asked.restart := by
  unfold dispatch
  dsimp only
  split
  all_goals repeat' split
  all_goals first | rfl | contradiction

theorem restart_dispatch_of_restart (asked : Asked ℚ) (message : Dispatch)
    (char : Ascii.toChar message.command = '~') :
    asked.dispatch message = { asked with restart.active := true } := by
  simp only [dispatch, char]

theorem report_dispatch_of_asksFor (asked : Asked ℚ) (message : Dispatch) (report : Report)
    (asks : report.asksFor message = true) :
    Asked.report report (asked.dispatch message) = (true, -1) := by
  cases report with
  | time =>
      simp only [Report.asksFor, Bool.and_eq_true, decide_eq_true_eq] at asks
      simp only [dispatch, asks.1, asks.2, ↓reduceIte]
      rfl
  | encoder =>
      have char := of_decide_eq_true asks
      simp only [dispatch, char]
      rfl
  | battery =>
      have char := of_decide_eq_true asks
      simp only [dispatch, char]
      rfl
  | system =>
      have char := of_decide_eq_true asks
      simp only [dispatch, char]
      rfl

/-- Every other message leaves a report alone or gives it a period. -/
theorem report_dispatch_of_not_asksFor (asked : Asked ℚ) (message : Dispatch) (report : Report)
    (other : report.asksFor message = false) :
    Asked.report report (asked.dispatch message) = Asked.report report asked ∨
      0 < (Asked.report report (asked.dispatch message)).2 := by
  have scaled : ∀ duration : ℚ, lt (lit 0) duration = true → 0 < duration * lit 1000 := by
    intro duration positive
    exact mul_pos ((lt_iff _ _).mp positive) (by decide +kernel)
  unfold dispatch
  dsimp only
  split
  all_goals repeat' split
  all_goals cases report
  all_goals first
    | exact Or.inl rfl
    | exact Or.inr (scaled _ (by simp_all))
    | simp_all [Report.asksFor]

theorem Settled.restart_accept {asked : Asked ℚ} (settled : asked.Settled)
    (message : Option Dispatch) :
    (asked.accept message).restart = msgFlagInit := by
  cases message with
  | none => exact settled.restart
  | some message =>
      dsimp only [Asked.accept, Option.elim]
      split
      · rfl
      · rename_i other
        rw [restart_dispatch asked message other, settled.restart]

theorem not_asksFor_of_restart {message : Dispatch} (char : Ascii.toChar message.command = '~')
    (report : Report) : report.asksFor message = false := by
  cases report <;> simp [Report.asksFor, char]

theorem report_accept_of_asksFor (asked : Asked ℚ) (message : Dispatch) (report : Report)
    (asks : report.asksFor message = true) :
    Asked.report report (asked.accept (some message)) = (true, -1) := by
  dsimp only [Asked.accept, Option.elim]
  split
  · rename_i char
    rw [not_asksFor_of_restart char] at asks
    cases asks
  · exact report_dispatch_of_asksFor asked message report asks

/-- Unless it is asked for, a report that is active is a periodic one. -/
theorem Settled.report_accept {asked : Asked ℚ} (settled : asked.Settled)
    (message : Option Dispatch) (report : Report) (other : message.any report.asksFor = false)
    (active : (Asked.report report (asked.accept message)).1 = true) :
    0 < (Asked.report report (asked.accept message)).2 := by
  cases message with
  | none => exact settled.periodic report active
  | some message =>
      by_cases restart : Ascii.toChar message.command = '~'
      · have cleared : asked.accept (some message) = cleared := if_pos restart
        rw [cleared] at active
        cases report <;> cases active
      · have dispatched : asked.accept (some message) = asked.dispatch message := if_neg restart
        rw [dispatched] at active ⊢
        rcases report_dispatch_of_not_asksFor asked message report other with same | positive
        · rw [same] at active ⊢
          exact settled.periodic report active
        · exact positive

theorem report_answer_self (asked : Asked ℚ) (report : Report) :
    (Asked.report report (asked.answer report)).1 = false := by
  cases report <;> rfl

theorem report_answer_of_ne (asked : Asked ℚ) {report other : Report} (differ : report ≠ other) :
    Asked.report report (asked.answer other) = Asked.report report asked := by
  cases report <;> cases other <;> first | rfl | contradiction

theorem restart_answer (asked : Asked ℚ) (report : Report) :
    (asked.answer report).restart = asked.restart := by
  cases report <;> rfl

end Asked

theorem report_asked (s : State ℚ) (report : Report) :
    Asked.report report s.asked =
      ((report.flag s.flags).active, (report.flag s.flags).duration) := by
  cases report <;> rfl

theorem restart_run (env : Env) (stage : Stage) (s : State ℚ)
    (notTask : stage ≠ .messageHandling) (notRestart : stage ≠ .restart) :
    (stage.run env s).asked.restart = s.asked.restart := by
  by_cases own : ∃ report : Report, stage = report.stage
  · obtain ⟨report, rfl⟩ := own
    rw [asked_run_stage]
    split
    · exact Asked.restart_answer s.asked report
    · rfl
  · rw [asked_run_other env stage s notTask notRestart fun report same => own ⟨report, same⟩]

theorem report_run (env : Env) (stage : Stage) (s : State ℚ) (report : Report)
    (notTask : stage ≠ .messageHandling) (notRestart : stage ≠ .restart)
    (notOwn : stage ≠ report.stage) :
    Asked.report report (stage.run env s).asked = Asked.report report s.asked := by
  by_cases own : ∃ other : Report, stage = other.stage
  · obtain ⟨other, rfl⟩ := own
    have differ : report ≠ other := fun same => notOwn (congrArg Report.stage same.symm)
    rw [asked_run_stage]
    split
    · exact Asked.report_answer_of_ne s.asked differ
    · rfl
  · rw [asked_run_other env stage s notTask notRestart fun report same => own ⟨report, same⟩]

theorem due_restart (env : Env) (s : State ℚ) (waiting : s.asked.restart.duration = -1)
    (start : s.asked.restart.active = true) : s.flags.mfRestart.due env s = true := by
  refine (s.flags.mfRestart.due_iff env s).mpr ⟨start, (le_iff _ _).mpr ?_⟩
  have duration : s.flags.mfRestart.duration = -1 := waiting
  have counted : (0 : ℚ) ≤ ofInt (UInt32.ofNat (env.millis s.looks) -
      s.flags.mfRestart.lastTriggerTime.millisec).toNat := by
    exact Int.cast_nonneg (Int.natCast_nonneg _)
  rw [duration]
  linarith

theorem asked_restartHandler_of_restart (env : Env) (s : State ℚ)
    (start : s.asked.restart = { msgFlagInit with active := true }) :
    (restartHandler env s).asked = Asked.cleared := by
  rw [asked_restartHandler, if_pos]
  apply due_restart
  · rw [start]
    rfl
  · rw [start]

theorem asked_restartHandler_of_idle (env : Env) (s : State ℚ)
    (idle : s.asked.restart = msgFlagInit) : (restartHandler env s).asked = s.asked := by
  rw [asked_restartHandler, if_neg]
  intro due
  have active : s.asked.restart.active = true := MsgFlag.active_of_due due
  rw [idle] at active
  cases active

theorem asked_accepted (env : Env) (n : ℕ)
    (settled : (deviceTrace (F := ℚ) env (17 * n)).asked.Settled) :
    (deviceTrace (F := ℚ) env (17 * n + 3)).asked =
      (deviceTrace (F := ℚ) env (17 * n)).asked.accept
        (messageHandlingTask env (deviceTrace (F := ℚ) env (17 * n + 1))).2 := by
  have upkeep : deviceTrace (F := ℚ) env (17 * n + 1) = _ :=
    deviceTrace_succ (stageAt_iteration n 0 (by decide))
  have task : deviceTrace (F := ℚ) env (17 * n + 2) = _ :=
    deviceTrace_succ (stageAt_iteration n 1 (by decide))
  have restart : deviceTrace (F := ℚ) env (17 * n + 3) = _ :=
    deviceTrace_succ (stageAt_iteration n 2 (by decide))
  have before : (deviceTrace (F := ℚ) env (17 * n + 1)).asked =
      (deviceTrace (F := ℚ) env (17 * n)).asked := by
    rw [upkeep]
    exact asked_run_other env .usbUpkeep _ (by decide) (by decide) fun report => by
      cases report <;> decide
  have between : (deviceTrace (F := ℚ) env (17 * n + 2)).asked = _ :=
    (congrArg State.asked task).trans (asked_messageHandlingTask env _)
  rw [before] at between
  have handler : (deviceTrace (F := ℚ) env (17 * n + 3)).asked =
      (restartHandler env (deviceTrace env (17 * n + 2))).asked := congrArg State.asked restart
  rw [handler]
  cases dispatched : (messageHandlingTask env (deviceTrace (F := ℚ) env (17 * n + 1))).2 with
  | none =>
      rw [dispatched] at between
      rw [asked_restartHandler_of_idle env _ (between ▸ settled.restart), between]
      rfl
  | some message =>
      rw [dispatched] at between
      dsimp only [Option.elim] at between
      dsimp only [Asked.accept, Option.elim]
      split
      · rename_i char
        rw [Asked.restart_dispatch_of_restart _ message char] at between
        apply asked_restartHandler_of_restart
        rw [between, settled.restart]
      · rename_i other
        rw [asked_restartHandler_of_idle, between]
        rw [between, Asked.restart_dispatch _ message other, settled.restart]

theorem stageAt_report (n : ℕ) (report : Report) :
    stageAt (17 * n + report.offset) = some report.stage := by
  cases report
  · exact stageAt_iteration n 4 (by decide)
  · exact stageAt_iteration n 7 (by decide)
  · exact stageAt_iteration n 8 (by decide)
  · exact stageAt_iteration n 11 (by decide)

theorem mod_of_report {time : ℕ} {report : Report} (here : stageAt time = some report.stage) :
    time % 17 = report.offset := by
  have only : ∀ place < 17, loopBody[place]? = some report.stage → place = report.offset := by
    cases report <;> decide
  exact only _ (Nat.mod_lt _ (by decide)) here

theorem mod_of_restart {time : ℕ} (here : stageAt time = some .restart) : time % 17 = 2 := by
  have only : ∀ place < 17, loopBody[place]? = some .restart → place = 2 := by decide
  exact only _ (Nat.mod_lt _ (by decide)) here

theorem offset_bounds (report : Report) : 3 < report.offset ∧ report.offset < 17 := by
  cases report <;> decide

theorem report_rest (env : Env) (n : ℕ) (report : Report) (first last : ℕ)
    (lower : 17 * n + 3 ≤ first) (ordered : first ≤ last) (upper : last ≤ 17 * (n + 1))
    (elsewhere : last ≤ 17 * n + report.offset ∨ 17 * n + report.offset < first) :
    Asked.report report (deviceTrace (F := ℚ) env last).asked =
      Asked.report report (deviceTrace (F := ℚ) env first).asked := by
  apply CyclicProgram.trace_since (fun s : State ℚ => Asked.report report s.asked =
    Asked.report report (deviceTrace (F := ℚ) env first).asked) first last ordered rfl
  intro time stage from_first to_last here same
  refine (report_run env stage _ report ?_ ?_ ?_).trans same
  · rintro rfl
    have place := mod_of_stageAt here
    omega
  · rintro rfl
    have place := mod_of_restart here
    omega
  · rintro rfl
    have place := mod_of_report here
    have inside := (offset_bounds report).2
    omega

theorem restart_rest (env : Env) (n : ℕ) :
    (deviceTrace (F := ℚ) env (17 * (n + 1))).asked.restart =
      (deviceTrace (F := ℚ) env (17 * n + 3)).asked.restart := by
  apply CyclicProgram.trace_since (fun s : State ℚ => s.asked.restart =
    (deviceTrace (F := ℚ) env (17 * n + 3)).asked.restart) (17 * n + 3) (17 * (n + 1))
    (by omega) rfl
  intro time stage lower upper here same
  refine (restart_run env stage _ ?_ ?_).trans same
  · rintro rfl
    have place := mod_of_stageAt here
    omega
  · rintro rfl
    have place := mod_of_restart here
    omega

namespace Report

theorem asked_reached (env : Env) (n : ℕ) (report : Report)
    (settled : (deviceTrace (F := ℚ) env (17 * n)).asked.Settled) :
    Asked.report report (report.reached env n).asked =
      Asked.report report ((deviceTrace (F := ℚ) env (17 * n)).asked.accept
        (messageHandlingTask env (deviceTrace (F := ℚ) env (17 * n + 1))).2) := by
  have bounds := offset_bounds report
  rw [← asked_accepted env n settled]
  exact report_rest env n report (17 * n + 3) (17 * n + report.offset) (Nat.le_refl _) (by omega)
    (by omega) (Or.inl (Nat.le_refl _))

theorem passed_eq (env : Env) (n : ℕ) (report : Report) :
    report.passed env n = report.stage.run env (report.reached env n) :=
  deviceTrace_succ (stageAt_report n report)

theorem once_neg_one (report : Report) : report.once (-1 : ℚ) = true := by
  cases report <;> decide +kernel

theorem once_of_positive (report : Report) {duration : ℚ} (positive : 0 < duration) :
    report.once duration = false := by
  have notLe : le duration (lit 0) = false := by
    rw [Bool.eq_false_iff, ne_eq, le_iff]
    exact not_le.mpr positive
  have notLt : lt duration (lit 0) = false := by
    rw [Bool.eq_false_iff, ne_eq, lt_iff]
    exact not_lt.mpr positive.le
  cases report
  · exact notLt
  · exact notLe
  · exact notLe
  · exact notLe

theorem positive_of_reached (env : Env) (n : ℕ) (report : Report)
    (settled : (deviceTrace (F := ℚ) env (17 * n)).asked.Settled)
    (unasked : ¬ report.RequestedAt env n)
    (active : (Asked.report report (report.reached env n).asked).1 = true) :
    0 < (Asked.report report (report.reached env n).asked).2 := by
  have other := Bool.eq_false_of_not_eq_true unasked
  rw [asked_reached env n report settled] at active ⊢
  exact settled.report_accept _ report other active

/-- A handler answers just the requests of its iteration. -/
theorem singleAt_iff_of_settled (env : Env) (n : ℕ) (report : Report)
    (settled : (deviceTrace (F := ℚ) env (17 * n)).asked.Settled) :
    report.SingleAt env n ↔ report.RequestedAt env n := by
  constructor
  · rintro ⟨due, single⟩
    by_contra unasked
    have positive := positive_of_reached env n report settled unasked (by
      rw [report_asked]
      exact MsgFlag.active_of_due due)
    rw [report_asked] at positive
    rw [once_of_positive report positive] at single
    cases single
  · intro asked
    have found := asked_reached env n report settled
    obtain ⟨message, dispatched, asks⟩ := (Option.any_eq_true _ _).mp asked
    rw [report_asked, dispatched,
      Asked.report_accept_of_asksFor _ message report asks] at found
    obtain ⟨active, duration⟩ := Prod.ext_iff.mp found
    dsimp only at active duration
    refine ⟨(MsgFlag.due_iff _ _ _).mpr ⟨active, ?_⟩, ?_⟩
    · rw [duration, le_iff]
      exact le_trans (by decide +kernel) (Int.cast_nonneg (Int.natCast_nonneg _))
    · rw [duration]
      exact once_neg_one report

/-- After the handler, too, a report that is active is a periodic one. -/
theorem positive_of_passed (env : Env) (n : ℕ) (report : Report)
    (settled : (deviceTrace (F := ℚ) env (17 * n)).asked.Settled)
    (active : (Asked.report report (report.passed env n).asked).1 = true) :
    0 < (Asked.report report (report.passed env n).asked).2 := by
  have effect := asked_run_stage env (report.reached env n) report
  rw [← passed_eq] at effect
  by_cases single : report.SingleAt env n
  · rw [effect, if_pos (Bool.and_eq_true_iff.mpr single), Asked.report_answer_self] at active
    cases active
  · have unasked := mt (singleAt_iff_of_settled env n report settled).mpr single
    rw [effect, if_neg (mt Bool.and_eq_true_iff.mp single)] at active ⊢
    exact positive_of_reached env n report settled unasked active

end Report

theorem settled_deviceTrace (env : Env) (n : ℕ) :
    (deviceTrace (F := ℚ) env (17 * n)).asked.Settled := by
  induction n with
  | zero =>
      refine ⟨rfl, fun report active => ?_⟩
      cases report <;> cases active
  | succ n ih =>
      refine ⟨?_, fun report active => ?_⟩
      · rw [restart_rest, asked_accepted env n ih]
        exact ih.restart_accept _
      · have bounds := offset_bounds report
        have rest : Asked.report report (deviceTrace (F := ℚ) env (17 * (n + 1))).asked =
            Asked.report report (report.passed env n).asked :=
          report_rest env n report (17 * n + report.offset + 1) (17 * (n + 1)) (by omega)
            (by omega) (Nat.le_refl _) (Or.inr (Nat.lt_succ_self _))
        rw [rest] at active ⊢
        exact report.positive_of_passed env n ih active

instance (env : Env) (n : ℕ) (report : Report) : Decidable (report.DueAt env n) :=
  inferInstanceAs (Decidable (_ = _))

instance (env : Env) (n : ℕ) (report : Report) : Decidable (report.SingleAt env n) :=
  inferInstanceAs (Decidable (_ ∧ _))

instance (env : Env) (n : ℕ) (report : Report) : Decidable (report.RequestedAt env n) :=
  inferInstanceAs (Decidable (_ = _))

structure ReportsOnRequest (env : Env) (report : Report) : Prop where
  /-- A request is answered in the iteration that dispatches it. -/
  answered : ∀ n, report.SingleAt env n ↔ report.RequestedAt env n
  single : ∀ n, report.SingleAt env n →
    (report.passed env n).usb = report.queue env (report.reached env n) true
  periodic : ∀ n, report.PeriodicAt env n →
    0 < (report.flag (report.reached env n).flags).duration ∧
      (report.passed env n).usb = report.queue env (report.reached env n) false
  quiet : ∀ n, ¬ report.SingleAt env n → ¬ report.PeriodicAt env n →
    (report.passed env n).usb = (report.reached env n).usb
  /-- There are as many answers as dispatched requests. -/
  counted : ∀ n, {k ∈ Finset.range n | report.SingleAt env k}.card =
    (dispatchedBefore ℚ env n).countP fun message => report.asksFor message

theorem countP_toList {α : Type} (p : α → Bool) (message : Option α) :
    message.toList.countP p = if message.any p = true then 1 else 0 := by
  cases message with
  | none => rfl
  | some message => cases asks : p message <;> simp [asks]

theorem countP_dispatchedBefore (env : Env) (n : ℕ) (report : Report) :
    (dispatchedBefore ℚ env n).countP (fun message => report.asksFor message) =
      {k ∈ Finset.range n | report.RequestedAt env k}.card := by
  induction n with
  | zero => rfl
  | succ n ih =>
      have last : (messageHandlingTask env (deviceTrace (F := ℚ) env (17 * n + 1))).2.toList.countP
          (fun message => report.asksFor message) = if report.RequestedAt env n then 1 else 0 :=
        countP_toList _ _
      rw [dispatchedBefore, List.countP_append, ih, last, Finset.range_add_one,
        Finset.filter_insert]
      split
      · rw [Finset.card_insert_of_notMem (by simp)]
      · rfl

/-- Every request for a report is answered once, in the iteration that takes it from the
receive buffer, and all other reports are periodic ones with a positive period. -/
theorem reports_on_request (env : Env) (report : Report) : ReportsOnRequest env report where
  answered n := report.singleAt_iff_of_settled env n (settled_deviceTrace env n)
  single n single := by
    rw [report.passed_eq, report.usb_run, single.1, if_pos rfl, ← report.queue_once, single.2]
  periodic n periodic := by
    obtain ⟨due, several⟩ := periodic
    constructor
    · have unasked : ¬ report.RequestedAt env n := by
        rw [← report.singleAt_iff_of_settled env n (settled_deviceTrace env n)]
        exact fun single => Bool.eq_false_iff.mp several single.2
      have positive := report.positive_of_reached env n (settled_deviceTrace env n) unasked
      rw [report_asked] at positive
      exact positive (MsgFlag.active_of_due due)
    · rw [report.passed_eq, report.usb_run, due, if_pos rfl, ← report.queue_once, several]
  quiet n notSingle notPeriodic := by
    have waiting : (report.flag (report.reached env n).flags).due env (report.reached env n) =
        false := by
      apply Bool.eq_false_of_not_eq_true
      intro due
      cases single : report.once (report.flag (report.reached env n).flags).duration with
      | true => exact notSingle ⟨due, single⟩
      | false => exact notPeriodic ⟨due, single⟩
    rw [report.passed_eq, report.usb_run, waiting, if_neg Bool.false_ne_true]
  counted n := by
    rw [countP_dispatchedBefore]
    congr 1
    ext k
    simp only [Finset.mem_filter]
    rw [report.singleAt_iff_of_settled env k (settled_deviceTrace env k)]

end ZumoDelivery
