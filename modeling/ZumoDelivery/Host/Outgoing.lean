import ZumoDelivery.Application.Requests
import ZumoDelivery.Application.Measuring
import ZumoDelivery.Host.Replies

set_option autoImplicit false

namespace ZumoDelivery

open PyStruct FloatArith

variable {F : Type} [FloatArith F]

def Meter.message (meter : Meter F) (env : Env) (s : State F) : UsbMessage :=
  ⟨['c', 'c', 'f'],
    Ascii.ofChar (if lt (meter.flag s.flags).duration (lit 0) then 't' else 'T'),
    meter.arg :: floatBytes (reportedTime env (meter.trip s.locals).startTime s)⟩

/-- The message that a statement sends, if there is one. -/
def Stage.outgoing (env : Env) (s : State F) : Stage → Option UsbMessage
  | .messageHandling => taskAnswer env s
  | .sendTime => if s.flags.mfSendTime.due env s then some (Report.time.message env s) else none
  | .timeFloatSend =>
      if s.flags.mfTimeFloatSend.due env s then
        if !s.locals.floatSend.trip then
          some ⟨['c', 'f'], Ascii.ofChar 'f', floatBytes (lit 12.345 : F)⟩
        else if usbOutMsgLength s.usb = 0 then some ((floatSendMeter F).message env s)
        else none
      else none
  | .loopTimer =>
      if s.flags.mfLoopTimer.due env s && s.locals.loopTime.trip then
        some ((loopTimeMeter F).message env s)
      else none
  | .sendEncoder =>
      if s.flags.mfSendEncoder.due env s then some (Report.encoder.message env s) else none
  | .sendBattery =>
      if s.flags.mfSendBattery.due env s then some (Report.battery.message env s) else none
  | .lowBattery => if s.flags.mfLowBattery.due env s then some (batLow s.locals.batVal) else none
  | .sysData => if s.flags.mfSysData.due env s then some (Report.system.message env s) else none
  | .irProximity =>
      if s.flags.mfIrProximity.due env s && !s.locals.proxyFirst then
        some (proximityMessage env s)
      else none
  | _ => none

theorem Meter.message_single (meter : Meter F) {env : Env} {s : State F}
    (single : lt (meter.flag s.flags).duration (lit 0) = true) :
    meter.message env s = timeMessage 't' meter.arg
      (reportedTime env (meter.trip s.locals).startTime s) := by
  rw [message, if_pos single, timeMessage]

theorem Meter.message_periodic (meter : Meter F) {env : Env} {s : State F}
    (periodic : lt (meter.flag s.flags).duration (lit 0) = false) :
    meter.message env s = timeMessage 'T' meter.arg
      (reportedTime env (meter.trip s.locals).startTime s) := by
  rw [message, if_neg (Bool.eq_false_iff.mp periodic), timeMessage]

theorem proximityMessage_eq {env : Env} {s : State F} {letter : Char}
    (own : (if le s.flags.mfIrProximity.duration (lit 0) then 'i' else 'I') = letter) :
    proximityMessage env s =
      ⟨['c', 'h', 'c'], Ascii.ofChar letter, (proximityMessage env s).data⟩ := by
  rw [← own]
  rfl

theorem outgoing_of_waiting {env : Env} {stage : Stage} {s : State F}
    (waiting : stage.due env s = false) : stage.outgoing env s = none := by
  have idle : ¬ stage.due env s = true := Bool.eq_false_iff.mp waiting
  cases stage with
  | usbUpkeep | messageHandling => contradiction
  | loopTimer | irProximity =>
      apply if_neg
      rw [Bool.and_eq_true]
      exact fun sends => idle sends.1
  | sendTime | timeFloatSend | sendEncoder | sendBattery | lowBattery | sysData => exact if_neg idle
  | _ => rfl

theorem Execution.outgoing {env : Env} {stage : Stage} {s after : State F}
    (execution : Execution env s stage after) (due : stage.due env s = true) :
    after.usb = queueMessage (stage.outgoing env s) s.usb := by
  have reported (report : Report) (own : stage = report.stage) :
      after.usb = queueMessage
        (if (report.flag s.flags).due env s then some (report.message env s) else none) s.usb := by
    subst own
    rw [← due_report, due, if_pos rfl, queueMessage_some]
    exact execution.report.1
  have armed {trip : Bool} (busy : trip = true) : ¬ (!trip) = true := by
    rw [busy]
    exact Bool.false_ne_true
  have proximity (second : s.locals.proxyFirst = false) (own : stage = .irProximity) :
      stage.outgoing env s = some (proximityMessage env s) := by
    subst own
    apply if_pos
    rw [second, Bool.not_false, Bool.and_true]
    exact due
  cases execution with
  | timeOnce | timeAgain => exact reported .time rfl
  | encoderOnce | encoderAgain => exact reported .encoder rfl
  | batteryOnce | batteryAgain => exact reported .battery rfl
  | systemOnce | systemAgain => exact reported .system rfl
  | floatBegun idle =>
      have own : Stage.timeFloatSend.outgoing env s =
          some ⟨['c', 'f'], Ascii.ofChar 'f', floatBytes (lit 12.345 : F)⟩ := by
        refine (if_pos due).trans (if_pos ?_)
        rw [idle, Bool.not_false]
      rw [own, queueMessage_some]
  | floatWaiting busy unsent =>
      have silent : Stage.timeFloatSend.outgoing env s = none :=
        (if_pos due).trans ((if_neg (armed busy)).trans (if_neg unsent))
      rw [silent, queueMessage_none, State.looked]
  | floatOnce busy sent single =>
      have own : Stage.timeFloatSend.outgoing env s = some ((floatSendMeter F).message env s) :=
        (if_pos due).trans ((if_neg (armed busy)).trans (if_pos sent))
      have shown : (floatSendMeter F).message env s =
          timeMessage 't' 0x01 (reportedTime env s.locals.floatSend.startTime s) :=
        (floatSendMeter F).message_single single
      rw [own, queueMessage_some, shown]
  | floatAgain busy sent periodic =>
      have own : Stage.timeFloatSend.outgoing env s = some ((floatSendMeter F).message env s) :=
        (if_pos due).trans ((if_neg (armed busy)).trans (if_pos sent))
      have shown : (floatSendMeter F).message env s =
          timeMessage 'T' 0x01 (reportedTime env s.locals.floatSend.startTime s) :=
        (floatSendMeter F).message_periodic periodic
      rw [own, queueMessage_some, shown]
  | loopBegun idle =>
      have silent : Stage.loopTimer.outgoing env s = none := by
        apply if_neg
        rw [idle, Bool.and_false]
        exact Bool.false_ne_true
      rw [silent, queueMessage_none]
  | loopOnce busy single =>
      have own : Stage.loopTimer.outgoing env s = some ((loopTimeMeter F).message env s) := by
        apply if_pos
        rw [busy, Bool.and_true]
        exact due
      have shown : (loopTimeMeter F).message env s =
          timeMessage 't' 0x02 (reportedTime env s.locals.loopTime.startTime s) :=
        (loopTimeMeter F).message_single single
      rw [own, queueMessage_some, shown]
  | loopAgain busy periodic =>
      have own : Stage.loopTimer.outgoing env s = some ((loopTimeMeter F).message env s) := by
        apply if_pos
        rw [busy, Bool.and_true]
        exact due
      have shown : (loopTimeMeter F).message env s =
          timeMessage 'T' 0x02 (reportedTime env s.locals.loopTime.startTime s) :=
        (loopTimeMeter F).message_periodic periodic
      rw [own, queueMessage_some, shown]
  | lowBattery =>
      have own : Stage.lowBattery.outgoing env s = some (batLow s.locals.batVal) := if_pos due
      rw [own, queueMessage_some]
  | irLeft first =>
      have silent : Stage.irProximity.outgoing env s = none := by
        apply if_neg
        rw [first, Bool.not_true, Bool.and_false]
        exact Bool.false_ne_true
      rw [silent, queueMessage_none]
  | irOnce second single =>
      rw [proximity second rfl, proximityMessage_eq (if_pos single), queueMessage_some]
  | irAgain second periodic =>
      rw [proximity second rfl, proximityMessage_eq (if_neg (Bool.eq_false_iff.mp periodic)),
        queueMessage_some]
  | oaDecided _ _ _ decision => cases decision <;> rfl
  | _ => rfl

/-- Every statement but the transfer itself sends its message. -/
theorem outlet_run (env : Env) (stage : Stage) (s : State F) (notUpkeep : stage ≠ .usbUpkeep) :
    (stage.run env s).usb.outlet = (queueMessage (stage.outgoing env s) s.usb).outlet := by
  by_cases notTask : stage = .messageHandling
  · rw [notTask]
    exact outlet_messageHandlingTask env s
  cases due : stage.due env s with
  | true =>
      rw [(run_of_due due notUpkeep notTask).outgoing due]
  | false =>
      obtain ⟨looks, -, -, same⟩ := run_of_waiting due
      rw [same, outgoing_of_waiting due, queueMessage_none]

end ZumoDelivery
