import ZumoDelivery.Application.Answers

set_option autoImplicit false

namespace ZumoDelivery

variable {F : Type} [FloatArith F]

open FloatArith

/-- The reports that answer a request at once: 't' with the argument 0, 'e', 'b' and 'q'. With
a period the same handlers serve 'T', 'E', 'B' and 'Q'. -/
inductive Report where
  | time
  | encoder
  | battery
  | system
deriving DecidableEq

namespace Report

def stage : Report → Stage
  | .time => .sendTime
  | .encoder => .sendEncoder
  | .battery => .sendBattery
  | .system => .sysData

def flag : Report → Flags F → MsgFlag F
  | .time => Flags.mfSendTime
  | .encoder => Flags.mfSendEncoder
  | .battery => Flags.mfSendBattery
  | .system => Flags.mfSysData

/-- The letter of a single report and of a periodic one. -/
def letter : Bool → Report → Char
  | true, .time => 't'
  | false, .time => 'T'
  | true, .encoder => 'e'
  | false, .encoder => 'E'
  | true, .battery => 'b'
  | false, .battery => 'B'
  | true, .system => 'q'
  | false, .system => 'Q'

/-- The test by which a handler tells a single report. -/
def once (duration : F) : Report → Bool
  | .time => lt duration (lit 0)
  | _ => le duration (lit 0)

def format : Report → List Char
  | .time => ['c', 'c', 'f']
  | .encoder => ['c', 'f', 'f']
  | .battery => ['c', 'f']
  | .system => ['c', 'f', 'h', 'h', 'h', 'h']

def data (env : Env) (s : State F) : Report → List UInt8
  | .time => 0x00 :: floatBytes ((getTime env s).1.seconds : F)
  | .encoder =>
      let (left, s) := countsLeft env s
      let (right, _) := countsRight env s
      floatBytes (ofInt left.toInt : F) ++ floatBytes (ofInt right.toInt : F)
  | .battery => floatBytes (batteryVoltage s.batteryFilter)
  | .system =>
      let (now, s) := getTime env s
      let pwmL := getMotorPwmLeft F s.motors
      let pwmR := getMotorPwmRight F s.motors
      let (left, s) := countsLeft env s
      let (right, _) := countsRight env s
      floatBytes (now.seconds : F) ++ intBytes pwmL ++ intBytes pwmR ++
        intBytes left.toInt16 ++ intBytes right.toInt16

def queue (env : Env) (s : State F) (single : Bool) (report : Report) : SerialIO :=
  usbSendMsg (Ascii.bytes report.format) (Ascii.ofChar (letter single report))
    (report.data env s.looked) s.usb

theorem queue_eq (env : Env) (s : State F) (single : Bool) (report : Report) :
    report.queue env s single = (⟨report.format, Ascii.ofChar (letter single report),
      report.data env s.looked⟩ : UsbMessage).send s.usb := by
  rw [queue, UsbMessage.send]

def message (env : Env) (s : State F) (report : Report) : UsbMessage :=
  ⟨report.format, Ascii.ofChar (letter (report.once (report.flag s.flags).duration) report),
    report.data env s.looked⟩

end Report

/-- The clock as the body of a handler finds it, after `MSG_FLAG_Execute`. -/
def clockReading (env : Env) (s : State F) : Time := (getTime env s.looked).1

def reportedTime (env : Env) (start : Time) (s : State F) : F :=
  ((clockReading env s).since start).seconds

def proximityMessage (env : Env) (s : State F) : UsbMessage :=
  let proxOut := irCounts (irReadTask env .right s.looked).proximity
  let side := match proxOut.side with
    | .left => Ascii.ofChar 'L'
    | .right => Ascii.ofChar 'R'
  ⟨['c', 'h', 'c'], Ascii.ofChar (if le s.flags.mfIrProximity.duration (lit 0) then 'i' else 'I'),
    intBytes proxOut.count.toInt16 ++ [side]⟩

end ZumoDelivery
