import ZumoDelivery.Driver.Filter
import ZumoDelivery.Driver.MotorPwm
import ZumoDelivery.Driver.Peripherals
import ZumoDelivery.Driver.SerialIO

set_option autoImplicit false

namespace ZumoDelivery

/-- The outside world, as the firmware finds it at its `n`-th look at it. -/
structure Env where
  /-- `USB_DeviceState == DEVICE_STATE_Configured`. -/
  configured : ℕ → Bool
  /-- The packet the host presents if the receive endpoint is free. -/
  outPacket : ℕ → Option (List UInt8)
  inReady : ℕ → Bool
  /-- Milliseconds since start-up; `_count_ms` holds them modulo `2 ^ 32`. -/
  millis : ℕ → ℕ
  tcnt0 : ℕ → UInt8
  adc : ℕ → UInt16
  /-- Encoder counts added by the interrupt routines since the last look. -/
  leftSteps : ℕ → ℤ
  rightSteps : ℕ → ℤ
  /-- The proximity sensor pin is low. -/
  irHit : ℕ → Bool

/-- A bench test: the host repeats one packet, the battery is full and nothing moves. -/
def Env.bench (packet : List UInt8) (millis : ℕ → ℕ) : Env where
  configured _ := true
  outPacket _ := some packet
  inReady _ := true
  millis := millis
  tcnt0 _ := 0
  adc _ := 1023
  leftSteps _ := 0
  rightSteps _ := 0
  irHit _ := false

/-- `MSG_FLAG_t`. -/
structure MsgFlag (F : Type) where
  active : Bool
  duration : F
  lastTriggerTime : Time

/-- The message driven state machine flags. -/
structure Flags (F : Type) where
  mfRestart : MsgFlag F
  mfLoopTimer : MsgFlag F
  mfTimeFloatSend : MsgFlag F
  mfSendTime : MsgFlag F
  mfSendEncoder : MsgFlag F
  mfSendBattery : MsgFlag F
  mfLowBattery : MsgFlag F
  mfBatteryTask : MsgFlag F
  mfTimedPwm : MsgFlag F
  mfSysData : MsgFlag F
  mfMotorDistControl : MsgFlag F
  mfMotorVelControl : MsgFlag F
  mfMotorStop : MsgFlag F
  mfIrProximity : MsgFlag F
  mfObjAvoidance : MsgFlag F

/-- `eOAReadState`. -/
inductive OaReadState where
  | readL
  | readR
  | runDsm
deriving DecidableEq

/-- `eOADSM`. -/
inductive OaDsm where
  | init
  | driveStraight
  | turnLeft
  | turnRight
  | holding
deriving DecidableEq

/-- The file-scope state of Obstacle_Avoidance.c. -/
structure Avoidance where
  readState : OaReadState
  oaState : OaDsm
  alpha : UInt16
deriving DecidableEq

structure Trip where
  trip : Bool
  startTime : Time

/-- The local variables of `main` that live across iterations. -/
structure LoopLocals (F : Type) where
  batVal : F
  ticksLOld : F
  ticksROld : F
  timeOld : F
  firstTime : Bool
  proxyFirst : Bool
  floatSend : Trip
  loopTime : Trip

structure State (F : Type) where
  /-- How often the firmware has looked at the outside world. -/
  looks : ℕ
  usb : SerialIO
  flags : Flags F
  motors : MotorPwm
  ctrLeftMotor : Controller F
  ctrRightMotor : Controller F
  encoders : Encoders
  batteryFilter : FilterData F
  avoidance : Avoidance
  proximity : Proximity
  gripper : Gripper
  locals : LoopLocals F

variable {F : Type} [FloatArith F]

open FloatArith

/-- One look at the outside world has passed. -/
def State.looked (s : State F) : State F := { s with looks := s.looks + 1 }

def State.mapUsb (f : SerialIO → SerialIO) (s : State F) : State F := { s with usb := f s.usb }

def State.mapMotors (f : MotorPwm → MotorPwm) (s : State F) : State F :=
  { s with motors := f s.motors }

def getTime (env : Env) (s : State F) : Time × State F :=
  (timeOfCounts (UInt32.ofNat (env.millis s.looks)) (env.tcnt0 s.looks), s.looked)

def secondsSince (env : Env) (start : Time) (s : State F) : Time × State F :=
  let (current, s) := getTime env s
  (current.since start, s)

/-- Milliseconds and microseconds as a `float` of seconds, as the reports compute it. -/
def Time.seconds (time : Time) : F :=
  (ofInt time.millisec.toNat + ofInt time.microsec.toNat / lit 1000) / lit 1000

def getTimeSec (env : Env) (s : State F) : F × State F :=
  let (time, s) := getTime env s
  let seconds : F := lit 0 + ofInt time.millisec.toNat / lit 1000
  (seconds + ofInt time.microsec.toNat / lit 1000000, s)

def countsLeft (env : Env) (s : State F) : Int32 × State F :=
  let counts := s.encoders.leftCounts + Int32.ofInt (env.leftSteps s.looks)
  (counts, { s.looked with encoders.leftCounts := counts })

def countsRight (env : Env) (s : State F) : Int32 × State F :=
  let counts := s.encoders.rightCounts + Int32.ofInt (env.rightSteps s.looks)
  (counts, { s.looked with encoders.rightCounts := counts })

def batteryTask (env : Env) (s : State F) : F × State F :=
  let (batVal, batteryFilter) := batteryVoltageTask s.batteryFilter (env.adc s.looks)
  (batVal, { s.looked with batteryFilter })

/-- `IRRead`, which also turns the line sensor lights on PORTB off. -/
def irReadTask (env : Env) (side : Side) (s : State F) : State F :=
  let hits := [env.irHit s.looks, env.irHit (s.looks + 1)]
  { s.looked.looked with
    proximity := irRead side hits s.proximity
    motors.portB := s.motors.portB &&& 0b01111111 }

/-- `USB_Upkeep_Task`. The events of `USB_USBTask` are those of `env`. -/
def usbUpkeepTask (env : Env) (s : State F) : State F :=
  if env.configured s.looks then
    s.looked.mapUsb fun usb =>
      usbWriteNextByte (env.inReady s.looks) (usbReadNextByte (env.outPacket s.looks) usb)
  else s.looked

def msgFlagInit : MsgFlag F :=
  { active := false, duration := lit (-1), lastTriggerTime := ⟨0, 0⟩ }

/-- A zero-initialised global. -/
def msgFlagStatic : MsgFlag F :=
  { active := false, duration := 0, lastTriggerTime := ⟨0, 0⟩ }

def msgFlagExecute (env : Env) (flag : MsgFlag F) (s : State F) : Bool × State F :=
  if flag.active then
    let (deltaTime, s) := secondsSince env flag.lastTriggerTime s
    (le flag.duration (ofInt deltaTime.millisec.toNat), s)
  else (false, s)

/-- A handler of the main loop: `if(MSG_FLAG_Execute(&flag)) { body }`. -/
def whenDue (env : Env) (flag : Flags F → MsgFlag F) (body : State F → State F)
    (s : State F) : State F :=
  let (due, s) := msgFlagExecute env (flag s.flags) s
  if due then body s else s

def MsgFlag.due (env : Env) (flag : MsgFlag F) (s : State F) : Bool :=
  (msgFlagExecute env flag s).1

/-- The milliseconds between the last trigger and now, modulo `2 ^ 32`. -/
theorem MsgFlag.due_iff (env : Env) (flag : MsgFlag F) (s : State F) :
    flag.due env s = true ↔ flag.active = true ∧ le flag.duration (ofInt
      (UInt32.ofNat (env.millis s.looks) - flag.lastTriggerTime.millisec).toNat) = true := by
  unfold due msgFlagExecute
  split
  · rename_i active
    simp only [active, true_and]
    rfl
  · rename_i inactive
    simp only [inactive, Bool.false_eq_true, false_and]

theorem MsgFlag.active_of_due {env : Env} {flag : MsgFlag F} {s : State F}
    (due : flag.due env s = true) : flag.active = true :=
  ((flag.due_iff env s).mp due).1

theorem whenDue_of_inactive {env : Env} {flag : Flags F → MsgFlag F} {s : State F}
    (body : State F → State F) (inactive : (flag s.flags).active = false) :
    whenDue env flag body s = s := by
  simp only [whenDue, msgFlagExecute, inactive, Bool.false_eq_true, ↓reduceIte]

theorem whenDue_of_due {env : Env} {flag : Flags F → MsgFlag F} {s : State F}
    (body : State F → State F) (due : (flag s.flags).due env s = true) :
    whenDue env flag body s = body s.looked := by
  have answer : (msgFlagExecute env (flag s.flags) s).1 = true := due
  have active := MsgFlag.active_of_due due
  have passed : (msgFlagExecute env (flag s.flags) s).2 = s.looked := by
    simp only [msgFlagExecute, active, ↓reduceIte]
    rfl
  simp only [whenDue, answer, passed, ↓reduceIte]

/-- A flag that is not due costs one look at the clock if it is active, and none else. -/
theorem whenDue_of_not_due {env : Env} {flag : Flags F → MsgFlag F} {s : State F}
    (body : State F → State F) (waiting : (flag s.flags).due env s = false) :
    whenDue env flag body s = s ∨ whenDue env flag body s = s.looked := by
  have answer : (msgFlagExecute env (flag s.flags) s).1 = false := waiting
  cases active : (flag s.flags).active with
  | false => exact Or.inl (whenDue_of_inactive body active)
  | true =>
      right
      have passed : (msgFlagExecute env (flag s.flags) s).2 = s.looked := by
        simp only [msgFlagExecute, active, ↓reduceIte]
        rfl
      simp only [whenDue, answer, passed, Bool.false_eq_true, ↓reduceIte]

theorem whenDue_view {α : Type} {env : Env} {flag : Flags F → MsgFlag F}
    {body : State F → State F} (view : State F → α) (s : State F)
    (quiet : view s.looked = view s) :
    view (whenDue env flag body s) =
      if (flag s.flags).due env s then view (body s.looked) else view s := by
  cases due : (flag s.flags).due env s with
  | true => simp only [whenDue_of_due body due, ↓reduceIte]
  | false =>
      rcases whenDue_of_not_due body due with same | same
      · simp only [same, Bool.false_eq_true, ↓reduceIte]
      · simp only [same, quiet, Bool.false_eq_true, ↓reduceIte]

end ZumoDelivery
