import ZumoDelivery.Lib.Ascii
import ZumoDelivery.Application.ObstacleAvoidance

set_option autoImplicit false

namespace ZumoDelivery

variable {F : Type} [FloatArith F]

open FloatArith

/-- `MEGN540_Message_Len`: the length of a command with its payload, 0 if unknown. -/
def messageLen (cmd : Char) : UInt8 :=
  match cmd with
  | '~' => 1
  | '*' => 9
  | '/' => 9
  | '+' => 9
  | '-' => 9
  | 't' => 2
  | 'T' => 6
  | 'e' => 1
  | 'E' => 5
  | 'b' => 1
  | 'B' => 5
  | 'p' => 5
  | 'P' => 9
  | 's' => 1
  | 'S' => 1
  | 'q' => 1
  | 'Q' => 5
  | 'd' => 9
  | 'D' => 13
  | 'v' => 9
  | 'V' => 13
  | 'i' => 1
  | 'I' => 5
  | 'G' => 2
  | 'O' => 5
  | _ => 0

def messageHandlingInit (s : State F) : State F :=
  { s with flags := { s.flags with
    mfRestart := msgFlagInit
    mfLoopTimer := msgFlagInit
    mfTimeFloatSend := msgFlagInit
    mfSendTime := msgFlagInit
    mfSendEncoder := msgFlagInit
    mfSendBattery := msgFlagInit
    mfLowBattery := msgFlagInit
    mfTimedPwm := msgFlagInit
    mfSysData := msgFlagInit
    mfMotorDistControl := msgFlagInit
    mfMotorStop := msgFlagInit
    mfIrProximity := msgFlagInit } }

def resetDriveFlags (s : State F) : State F :=
  { s with
    flags.mfObjAvoidance.active := false
    flags.mfMotorDistControl.active := false
    flags.mfMotorVelControl.active := false
    flags.mfMotorStop.active := false
    flags.mfTimedPwm.active := false
    gripper.portD := setLed .red false s.gripper.portD }

def sendMsg (format : List Char) (cmd : UInt8) (data : List UInt8) (s : State F) : State F :=
  s.mapUsb (usbSendMsg (Ascii.bytes format) cmd data)

def sendTimeMessage (cmd : Char) (arg : UInt8) (time : F) (s : State F) : State F :=
  sendMsg ['c', 'c', 'f'] (Ascii.ofChar cmd) (arg :: floatBytes time) s

def sendBadInput (command : UInt8) (s : State F) : State F :=
  sendMsg ['c', 'c'] command (Ascii.bytes ['?']) s

def sendBatLow (volts : F) (s : State F) : State F :=
  sendMsg ['c', 'c', 'c', 'c', 'c', 'c', 'c', 'c', 'f'] (Ascii.ofChar '!')
    (Ascii.bytes ['B', 'A', 'T', ' ', 'L', 'O', 'W'] ++ floatBytes volts) s

def sendPowerOff (volts : F) (s : State F) : State F :=
  sendMsg ['c', 'c', 'c', 'c', 'c', 'c', 'c', 'c', 'c', 'c', 'f'] (Ascii.ofChar '!')
    (Ascii.bytes ['P', 'O', 'W', 'E', 'R', ' ', 'O', 'F', 'F'] ++ floatBytes volts) s

/-- The diagnosis of the 'p' and 'P' commands. -/
def pwmBatteryNotice (batVal : F) (s : State F) : State F :=
  if lt (lit 3.5) batVal then sendBatLow batVal s else sendPowerOff batVal s

/-- The diagnosis of the 'd', 'D', 'v', 'V' and 'O' commands. -/
def driveBatteryNotice (batVal : F) (s : State F) : State F :=
  if lt batVal (lit 3.0) then sendBatLow batVal s else sendPowerOff batVal s

def caseArithmetic (command : UInt8) (op : F → F → F) (data : List UInt8) (s : State F) :
    State F :=
  sendMsg ['c', 'f'] command (floatBytes (op (floatAt data 0) (floatAt data 4))) s

def caseDivide (command : UInt8) (data : List UInt8) (s : State F) : State F :=
  let v2 : F := floatAt data 4
  -- `v2 != 0.0f`, where only the two zeros compare equal to 0.
  if !(le v2 (lit 0) && le (lit 0) v2) then caseArithmetic command (· / ·) data s
  else sendBadInput command s

/-- 't' reads its one byte with a second `usb_msg_get`. -/
def caseTime (command : UInt8) (data : List UInt8) (s : State F) : State F :=
  let action := byteAt data 0
  if action = 0x00 then
    { s with flags.mfSendTime.active := true, flags.mfSendTime.duration := lit (-1) }
  else if action = 0x01 then
    { s with flags.mfTimeFloatSend.active := true, flags.mfTimeFloatSend.duration := lit (-1) }
  else if action = 0x02 then
    { s with flags.mfLoopTimer.active := true, flags.mfLoopTimer.duration := lit (-1) }
  else sendBadInput command s

def caseTimePeriodic (command : UInt8) (data : List UInt8) (s : State F) : State F :=
  let action := byteAt data 0
  let duration : F := floatAt data 1
  let period := duration * lit 1000
  if action = 0x00 ∧ lt (lit 0) duration then
    { s with flags.mfSendTime.active := true, flags.mfSendTime.duration := period }
  else if action = 0x01 ∧ lt (lit 0) duration then
    { s with flags.mfTimeFloatSend.active := true, flags.mfTimeFloatSend.duration := period }
  else if action = 0x02 ∧ lt (lit 0) duration then
    { s with flags.mfLoopTimer.active := true, flags.mfLoopTimer.duration := period }
  else sendBadInput command s

/-- 'E', 'B', 'Q' and 'I': a report with a period, refused unless it is positive. -/
def casePeriodic (command : UInt8) (start : F → State F → State F) (data : List UInt8)
    (s : State F) : State F :=
  let duration : F := floatAt data 0
  if lt (lit 0) duration then start (duration * lit 1000) s else sendBadInput command s

def startSendEncoder (duration : F) (s : State F) : State F :=
  { s with flags.mfSendEncoder.active := true, flags.mfSendEncoder.duration := duration }

def startSendBattery (duration : F) (s : State F) : State F :=
  { s with flags.mfSendBattery.active := true, flags.mfSendBattery.duration := duration }

def startSysData (duration : F) (s : State F) : State F :=
  { s with flags.mfSysData.active := true, flags.mfSysData.duration := duration }

def startIrProximity (duration : F) (s : State F) : State F :=
  { s with flags.mfIrProximity.active := true, flags.mfIrProximity.duration := duration }

def caseGripper (data : List UInt8) (s : State F) : State F :=
  let command := byteAt data 0
  if Ascii.toChar command = 'O' then { s with gripper := servoPwmInit .opened s.gripper }
  else if Ascii.toChar command = 'C' then { s with gripper := servoPwmInit .closed s.gripper }
  else sendBadInput (Ascii.ofChar 'G') s

/-- `bat_val >= 4.75`, the check before every drive command. -/
def batteryGood (s : State F) : Bool := le (lit 4.75) (batteryVoltage s.batteryFilter)

def casePwm (data : List UInt8) (s : State F) : State F :=
  if batteryGood s then
    { s with
      motors := motorPwmEnable true
        (motorPwmRight F (intAt data 2) (motorPwmLeft F (intAt data 0) s.motors))
      flags.mfMotorDistControl.active := false
      flags.mfMotorVelControl.active := false
      flags.mfMotorStop.active := false
      flags.mfTimedPwm.active := false }
  else pwmBatteryNotice (batteryVoltage s.batteryFilter) s

def casePwmTimed (env : Env) (command : UInt8) (data : List UInt8) (s : State F) : State F :=
  let duration : F := floatAt data 4
  if batteryGood s then
    if lt (lit 0) duration then
      let s := s.mapMotors fun motors => motorPwmEnable true
        (motorPwmRight F (intAt data 2) (motorPwmLeft F (intAt data 0) motors))
      let (now, s) := getTime env s
      { s with
        flags.mfTimedPwm := ⟨true, duration * lit 1000, now⟩
        flags.mfMotorDistControl.active := false
        flags.mfMotorVelControl.active := false
        flags.mfMotorStop.active := false }
    else sendBadInput command s
  else pwmBatteryNotice (batteryVoltage s.batteryFilter) s

def setTargetPositions (left right : F) (s : State F) : State F :=
  { s with
    ctrLeftMotor := controllerSetTargetPosition s.ctrLeftMotor left
    ctrRightMotor := controllerSetTargetPosition s.ctrRightMotor right }

def caseStop (s : State F) : State F :=
  let s := resetDriveFlags s
  let s := s.mapMotors fun motors =>
    motorPwmRight F 0 (motorPwmLeft F 0 (motorPwmEnable false motors))
  setTargetVelocities ⟨lit 0, lit 0⟩ (setTargetPositions (lit 0) (lit 0) s)

/-- What a 'd', 'D', 'v' or 'V' command asks of the wheels. -/
structure Targets (F : Type) where
  text : List Char
  distanceLeft : F
  distanceRight : F
  velocities : WheelVelocities F

def goStraight : List Char := ['G', 'o', ' ', 'S', 't', 'r']

def turnText : List Char := ['T', 'u', 'r', 'n']

/-- `angular < 0.01 && angular > -0.01`. -/
def isStraight (angular : F) : Bool := lt angular (lit 0.01) && lt (lit (-0.01)) angular

/-- The targets of 'd' and 'D', which carry two copies of this text. `TURN_VELOCITY`
is 0.1, `MIN_TURN_ARC` is 0.04 and `SPIN_DUTYCYLE` is 25. -/
def distanceTargets (linear angular : F) : Targets F :=
  if isStraight angular then
    ⟨goStraight, linear, linear, ⟨dutyCycleToVelocityLeft 75, dutyCycleToVelocityRight 75⟩⟩
  else
    let linear := if lt linear (lit 0) then linear * lit (-1) else linear
    if lt linear (lit 0.04) then
      let d := lit 0.049 * angular / lit 2
      let spin : WheelVelocities F :=
        ⟨dutyCycleToVelocityLeft 25, dutyCycleToVelocityRight 25⟩
      if lt (lit 0) angular then ⟨turnText, lit (-1) * d, d, spin⟩
      else ⟨turnText, d, lit (-1) * d, spin⟩
    else if lt (lit 0) angular then
      let r := linear / angular
      let distanceRight := angular * (r + wheelBase)
      let dt := linear / lit 0.1
      ⟨turnText, linear, distanceRight, ⟨lit 0.1, distanceRight / dt⟩⟩
    else
      let angular := angular * lit (-1)
      let r := linear / angular
      let distanceLeft := angular * (r + wheelBase)
      let dt := linear / lit 0.1
      ⟨turnText, distanceLeft, linear, ⟨distanceLeft / dt, lit 0.1⟩⟩

/-- The targets of 'v' and 'V', which carry two copies of this text. -/
def velocityTargets (velocity angular : F) : Targets F :=
  if isStraight angular then ⟨goStraight, lit 0, lit 0, ⟨velocity, velocity⟩⟩
  else if lt (lit 0) angular then
    ⟨turnText, lit 0, lit 0, ⟨velocity, velocity + wheelBase * angular⟩⟩
  else ⟨turnText, lit 0, lit 0, ⟨velocity + wheelBase * angular, velocity⟩⟩

def textFormat (text : List Char) : List Char := 'c' :: text.map fun _ => 'c'

/-- The body shared by 'd', 'D', 'v' and 'V' up to their flags. -/
def startMotion (command : UInt8) (targets : Targets F) (s : State F) : State F :=
  let s := resetDriveFlags s
  let s := sendMsg (textFormat targets.text) command (Ascii.bytes targets.text) s
  let s := setTargetPositions targets.distanceLeft targets.distanceRight s
  let s := setTargetVelocities targets.velocities s
  { s with encoders := zeroEncoders s.encoders }

def startDistControl (s : State F) : State F :=
  { s with
    flags.mfMotorDistControl.active := true
    flags.mfMotorDistControl.duration := s.ctrLeftMotor.updatePeriod }

def startVelControl (s : State F) : State F :=
  { s with
    flags.mfMotorVelControl.active := true
    flags.mfMotorVelControl.duration := s.ctrLeftMotor.updatePeriod }

def startMotorStop (env : Env) (duration : F) (s : State F) : State F :=
  let (now, s) := getTime env s
  { s with flags.mfMotorStop := ⟨true, duration * lit 1000, now⟩ }

def caseDistance (command : UInt8) (data : List UInt8) (s : State F) : State F :=
  if batteryGood s then
    startDistControl (startMotion command (distanceTargets (floatAt data 0) (floatAt data 4)) s)
  else driveBatteryNotice (batteryVoltage s.batteryFilter) s

def caseDistanceTimed (env : Env) (command : UInt8) (data : List UInt8) (s : State F) :
    State F :=
  if batteryGood s then
    startMotorStop env (floatAt data 8) (startDistControl
      (startMotion command (distanceTargets (floatAt data 0) (floatAt data 4)) s))
  else driveBatteryNotice (batteryVoltage s.batteryFilter) s

def caseVelocity (command : UInt8) (data : List UInt8) (s : State F) : State F :=
  if batteryGood s then
    startVelControl (startMotion command (velocityTargets (floatAt data 0) (floatAt data 4)) s)
  else driveBatteryNotice (batteryVoltage s.batteryFilter) s

def caseVelocityTimed (env : Env) (command : UInt8) (data : List UInt8) (s : State F) :
    State F :=
  if batteryGood s then
    startMotorStop env (floatAt data 8) (startVelControl
      (startMotion command (velocityTargets (floatAt data 0) (floatAt data 4)) s))
  else driveBatteryNotice (batteryVoltage s.batteryFilter) s

def caseObjAvoidance (command : UInt8) (data : List UInt8) (s : State F) : State F :=
  let duration : F := floatAt data 0
  if batteryGood s then
    if lt (lit 0) duration then
      let s := resetDriveFlags s
      { s with
        avoidance := initObstacleAvoidance
        flags.mfObjAvoidance.active := true
        flags.mfObjAvoidance.duration := duration * lit 1000 }
    else sendBadInput command s
  else driveBatteryNotice (batteryVoltage s.batteryFilter) s

/-- A case of the `switch`: the '~' case, or the length check on `guard`, the size of
the payload read after the command byte and the body that uses it. -/
inductive MessageCase (F : Type) where
  | restart
  | read (guard : Char) (dataLen : ℕ) (body : List UInt8 → State F → State F)

def switchCase (env : Env) (command : UInt8) : Option (MessageCase F) :=
  match Ascii.toChar command with
  | '*' => some (.read '*' 8 (caseArithmetic command (· * ·)))
  | '/' => some (.read '/' 8 (caseDivide command))
  | '+' => some (.read '+' 8 (caseArithmetic command (· + ·)))
  | '-' => some (.read '-' 8 (caseArithmetic command (· - ·)))
  | '~' => some .restart
  | 't' => some (.read 't' 1 (caseTime command))
  | 'T' => some (.read 'T' 5 (caseTimePeriodic command))
  | 'e' => some (.read 'e' 0 fun _ => startSendEncoder (lit (-1)))
  | 'E' => some (.read 'E' 4 (casePeriodic command startSendEncoder))
  | 'b' => some (.read 'b' 0 fun _ => startSendBattery (lit (-1)))
  | 'B' => some (.read 'B' 4 (casePeriodic command startSendBattery))
  | 'p' => some (.read 'p' 4 casePwm)
  | 'P' => some (.read 'P' 8 (casePwmTimed env command))
  | 's' => some (.read 's' 0 fun _ => caseStop)
  | 'S' => some (.read 's' 0 fun _ => caseStop)
  | 'q' => some (.read 'q' 0 fun _ => startSysData (lit (-1)))
  | 'Q' => some (.read 'Q' 4 (casePeriodic command startSysData))
  | 'd' => some (.read 'd' 8 (caseDistance command))
  | 'D' => some (.read 'D' 12 (caseDistanceTimed env command))
  | 'v' => some (.read 'v' 8 (caseVelocity command))
  | 'V' => some (.read 'V' 12 (caseVelocityTimed env command))
  | 'i' => some (.read 'i' 0 fun _ => startIrProximity (lit (-1)))
  | 'I' => some (.read 'I' 4 (casePeriodic command startIrProximity))
  | 'G' => some (.read 'G' 1 caseGripper)
  | 'O' => some (.read 'O' 4 (caseObjAvoidance command))
  | _ => none

/-- A command byte and the payload bytes its case was run with. -/
structure Dispatch where
  command : UInt8
  payload : List UInt8
deriving DecidableEq

/-- The state after one call, and the case it ran. -/
def messageHandlingTask (env : Env) (s : State F) : State F × Option Dispatch :=
  if usbMsgLength s.usb = 0 then (s, none)
  else
    let command := usbMsgPeek s.usb
    match switchCase env command with
    | some .restart =>
        if usbMsgLength s.usb ≥ messageLen '~' then
          -- The command byte stays in the receive buffer.
          ({ s with flags.mfRestart.active := true }, some ⟨command, []⟩)
        else (s, none)
    | some (.read guard dataLen body) =>
        if usbMsgLength s.usb ≥ messageLen guard then
          let s := s.mapUsb fun usb => (usbMsgGet usb).2
          match usbMsgReadInto dataLen s.usb with
          | (some data, usb) => (body data { s with usb }, some ⟨command, data⟩)
          -- Not reached: the length check covers the payload.
          | (none, _) => (s, none)
        else (s, none)
    | none => (sendBadInput command (s.mapUsb usbFlushInputBuffer), none)

/-- All that a call can do: nothing but to take bytes and answer, to ask for a restart, or to
run a case. -/
theorem messageHandlingTask_rule (env : Env) (s : State F)
    (holds : State F → Option Dispatch → Prop) (idle : ∀ usb, holds { s with usb } none)
    (restart : ∀ command, Ascii.toChar command = '~' →
      holds { s with flags.mfRestart.active := true } (some ⟨command, []⟩))
    (case : ∀ command guard dataLen body data usb,
      switchCase env command = some (.read guard dataLen body) →
      holds (body data { s with usb }) (some ⟨command, data⟩)) :
    holds (messageHandlingTask env s).1 (messageHandlingTask env s).2 := by
  unfold messageHandlingTask
  split
  · exact idle s.usb
  dsimp only
  split
  · rename_i found
    have char : Ascii.toChar (usbMsgPeek s.usb) = '~' := by
      unfold switchCase at found
      split at found
      all_goals first | assumption | cases found
    split
    · exact restart _ char
    · exact idle s.usb
  · rename_i guard dataLen body found
    split
    · split
      · rename_i data usb read
        exact case _ guard dataLen body data usb found
      · exact idle _
    · exact idle s.usb
  · exact idle _

end ZumoDelivery
