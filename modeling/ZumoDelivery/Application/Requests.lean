import ZumoDelivery.Application.LoopSteps

set_option autoImplicit false

namespace ZumoDelivery

variable {F : Type} [FloatArith F]

open FloatArith

/-- The flags that the requests for reports set: active, and with which duration. -/
structure Asked (F : Type) where
  restart : MsgFlag F
  time : Bool × F
  encoder : Bool × F
  battery : Bool × F
  system : Bool × F

def State.asked (s : State F) : Asked F where
  restart := s.flags.mfRestart
  time := (s.flags.mfSendTime.active, s.flags.mfSendTime.duration)
  encoder := (s.flags.mfSendEncoder.active, s.flags.mfSendEncoder.duration)
  battery := (s.flags.mfSendBattery.active, s.flags.mfSendBattery.duration)
  system := (s.flags.mfSysData.active, s.flags.mfSysData.duration)

namespace Asked

def report : Report → Asked F → Bool × F
  | .time => Asked.time
  | .encoder => Asked.encoder
  | .battery => Asked.battery
  | .system => Asked.system

def answer (asked : Asked F) : Report → Asked F
  | .time => { asked with time := (false, asked.time.2) }
  | .encoder => { asked with encoder := (false, asked.encoder.2) }
  | .battery => { asked with battery := (false, asked.battery.2) }
  | .system => { asked with system := (false, asked.system.2) }

def dispatch (asked : Asked F) (message : Dispatch) : Asked F :=
  let single : Bool × F := (true, lit (-1))
  let period (offset : ℕ) : F := floatAt message.payload offset
  match Ascii.toChar message.command with
  | '~' => { asked with restart.active := true }
  | 't' => if byteAt message.payload 0 = 0x00 then { asked with time := single } else asked
  | 'T' =>
      if byteAt message.payload 0 = 0x00 ∧ lt (lit 0) (period 1) then
        { asked with time := (true, period 1 * lit 1000) }
      else asked
  | 'e' => { asked with encoder := single }
  | 'E' =>
      if lt (lit 0) (period 0) then { asked with encoder := (true, period 0 * lit 1000) } else asked
  | 'b' => { asked with battery := single }
  | 'B' =>
      if lt (lit 0) (period 0) then { asked with battery := (true, period 0 * lit 1000) } else asked
  | 'q' => { asked with system := single }
  | 'Q' =>
      if lt (lit 0) (period 0) then { asked with system := (true, period 0 * lit 1000) } else asked
  | _ => asked

def cleared : Asked F :=
  ⟨msgFlagInit, (false, lit (-1)), (false, lit (-1)), (false, lit (-1)), (false, lit (-1))⟩

end Asked

/-- The commands that have to do with the reports. -/
def reportCommands : List Char := ['~', 't', 'T', 'e', 'E', 'b', 'B', 'q', 'Q']

theorem dispatch_of_other {asked : Asked F} {message : Dispatch} {letter : Char}
    (char : Ascii.toChar message.command = letter) (other : letter ∉ reportCommands) :
    asked.dispatch message = asked := by
  subst char
  unfold Asked.dispatch
  dsimp only
  split
  all_goals first
    | rfl
    | rename_i char
      rw [char] at other
      exact absurd (by decide) other

theorem CaseStep.asked_of_other {env : Env} {s after : State F} {message : Dispatch}
    (step : CaseStep env s message after) {letter : Char}
    (char : Ascii.toChar message.command = letter) (other : letter ∉ reportCommands) :
    after.asked = s.asked.dispatch message := by
  rw [dispatch_of_other char other]
  cases step with
  | asked request duration own =>
      cases request with
      | timeFloat | loopTimer | proximity => rfl
      | _ =>
          rw [char] at own
          exact absurd ((by decide : _ ⊆ reportCommands) own) other
  | _ => rfl

theorem asked_casePeriodic (command : UInt8) (start : F → State F → State F) (data : List UInt8)
    (s : State F) :
    (casePeriodic command start data s).asked =
      if lt (lit 0) (floatAt data 0 : F) then (start (floatAt data 0 * lit 1000) s).asked
      else s.asked := by
  unfold casePeriodic
  dsimp only
  split <;> rfl

theorem asked_caseTime (command : UInt8) (data : List UInt8) (s : State F) :
    (caseTime command data s).asked =
      if byteAt data 0 = 0x00 then { s.asked with time := (true, lit (-1)) } else s.asked := by
  unfold caseTime
  dsimp only
  split
  · rfl
  split
  · rfl
  split <;> rfl

theorem asked_caseTimePeriodic (command : UInt8) (data : List UInt8) (s : State F) :
    (caseTimePeriodic command data s).asked =
      if byteAt data 0 = 0x00 ∧ lt (lit 0) (floatAt data 1 : F) then
        { s.asked with time := (true, floatAt data 1 * lit 1000) }
      else s.asked := by
  unfold caseTimePeriodic
  dsimp only
  split
  · rfl
  split
  · rfl
  split <;> rfl

theorem asked_switchCase (env : Env) (command : UInt8) (guard : Char) (dataLen : ℕ)
    (body : List UInt8 → State F → State F) (data : List UInt8) (s : State F)
    (found : switchCase env command = some (.read guard dataLen body)) :
    (body data s).asked = s.asked.dispatch ⟨command, data⟩ := by
  have step := caseStep_switchCase found data s
  unfold switchCase at found
  split at found
  all_goals cases found
  all_goals rename_i char
  all_goals first
    | exact step.asked_of_other char (by decide)
    | simp only [Asked.dispatch, char]
  -- The cases of the reports are left: 't', 'T', 'e', 'E', 'b', 'B', 'q' and 'Q'.
  · exact asked_caseTime command data s
  · exact asked_caseTimePeriodic command data s
  · rfl
  · exact asked_casePeriodic command startSendEncoder data s
  · rfl
  · exact asked_casePeriodic command startSendBattery data s
  · rfl
  · exact asked_casePeriodic command startSysData data s

theorem asked_messageHandlingTask (env : Env) (s : State F) :
    (messageHandlingTask env s).1.asked =
      (messageHandlingTask env s).2.elim s.asked s.asked.dispatch := by
  apply messageHandlingTask_rule env s fun t message =>
    t.asked = message.elim s.asked s.asked.dispatch
  · exact fun _ => rfl
  · intro command char
    simp only [Option.elim, Asked.dispatch, char]
    rfl
  · intro command guard dataLen body data usb found
    exact asked_switchCase env command guard dataLen body data { s with usb } found

theorem asked_restartHandler (env : Env) (s : State F) :
    (restartHandler env s).asked =
      if s.flags.mfRestart.due env s then Asked.cleared else s.asked :=
  whenDue_view State.asked s rfl

theorem due_report (env : Env) (s : State F) (report : Report) :
    report.stage.due env s = (report.flag s.flags).due env s := by
  cases report <;> rfl

theorem Report.queue_once (env : Env) (s : State F) (report : Report) :
    report.queue env s (report.once (report.flag s.flags).duration) =
      (report.message env s).send s.usb := by
  rw [report.queue_eq, Report.message]

theorem Execution.report {env : Env} {s after : State F} {report : Report}
    (execution : Execution env s report.stage after) :
    after.usb = (report.message env s).send s.usb ∧
      after.asked =
        if report.once (report.flag s.flags).duration then s.asked.answer report
        else s.asked := by
  rw [← report.queue_once]
  cases report with
  | time =>
      cases execution with
      | timeOnce once | timeAgain once =>
          simp only [Report.once, Report.flag, once]
          exact ⟨trivial, rfl⟩
  | encoder =>
      cases execution with
      | encoderOnce once | encoderAgain once =>
          simp only [Report.once, Report.flag, once]
          exact ⟨trivial, rfl⟩
  | battery =>
      cases execution with
      | batteryOnce once | batteryAgain once =>
          simp only [Report.once, Report.flag, once]
          exact ⟨trivial, rfl⟩
  | system =>
      cases execution with
      | systemOnce once | systemAgain once =>
          simp only [Report.once, Report.flag, once]
          exact ⟨trivial, rfl⟩

theorem report_run_rule (env : Env) (s : State F) (report : Report) (holds : State F → Prop)
    (waiting : (report.flag s.flags).due env s = false → ∀ looks, holds { s with looks })
    (executed : ∀ after, (report.flag s.flags).due env s = true →
      Execution env s report.stage after → holds after) :
    holds (report.stage.run env s) := by
  cases due : (report.flag s.flags).due env s with
  | false =>
      obtain ⟨looks, -, -, same⟩ := run_of_waiting ((due_report env s report).trans due)
      rw [same]
      exact waiting due looks
  | true =>
      refine executed _ due (run_of_due ((due_report env s report).trans due) ?_ ?_)
      · cases report <;> exact Stage.noConfusion
      · cases report <;> exact Stage.noConfusion

theorem Report.usb_run (env : Env) (s : State F) (report : Report) :
    (report.stage.run env s).usb =
      if (report.flag s.flags).due env s then (report.message env s).send s.usb else s.usb := by
  apply report_run_rule env s report fun after =>
    after.usb = if (report.flag s.flags).due env s then (report.message env s).send s.usb else s.usb
  · intro waiting looks
    rw [waiting]
    rfl
  · intro after due execution
    rw [due]
    exact execution.report.1

theorem asked_run_stage (env : Env) (s : State F) (report : Report) :
    (report.stage.run env s).asked =
      if (report.flag s.flags).due env s && report.once (report.flag s.flags).duration then
        s.asked.answer report
      else s.asked := by
  apply report_run_rule env s report fun after => after.asked =
    if (report.flag s.flags).due env s && report.once (report.flag s.flags).duration then
      s.asked.answer report
    else s.asked
  · intro waiting looks
    rw [waiting]
    rfl
  · intro after due execution
    rw [due]
    exact execution.report.2

theorem asked_run_other (env : Env) (stage : Stage) (s : State F)
    (notTask : stage ≠ .messageHandling) (notRestart : stage ≠ .restart)
    (other : ∀ report : Report, stage ≠ report.stage) : (stage.run env s).asked = s.asked := by
  apply run_rule env stage s (fun after => after.asked = s.asked) notTask
  · exact fun _ _ _ => rfl
  · intro after _ execution
    cases execution with
    | restart => contradiction
    | timeOnce | timeAgain => exact absurd rfl (other .time)
    | encoderOnce | encoderAgain => exact absurd rfl (other .encoder)
    | batteryOnce | batteryAgain => exact absurd rfl (other .battery)
    | systemOnce | systemAgain => exact absurd rfl (other .system)
    | oaDecided _ _ _ decision => cases decision <;> rfl
    | _ => rfl

end ZumoDelivery
