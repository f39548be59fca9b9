import ZumoDelivery.Lib.CyclicProgram
import ZumoDelivery.Application.MessageHandling

set_option autoImplicit false

namespace ZumoDelivery

variable {F : Type} [FloatArith F]

open FloatArith

/-- The state before `main`: zeroed globals and registers after reset. -/
def deviceReset : State F where
  looks := 0
  usb := serialStatic
  flags := ⟨msgFlagStatic, msgFlagStatic, msgFlagStatic, msgFlagStatic, msgFlagStatic,
    msgFlagStatic, msgFlagStatic, msgFlagStatic, msgFlagStatic, msgFlagStatic, msgFlagStatic,
    msgFlagStatic, msgFlagStatic, msgFlagStatic, msgFlagStatic⟩
  motors := motorPwmReset
  ctrLeftMotor := controllerStatic
  ctrRightMotor := controllerStatic
  encoders := ⟨0, 0⟩
  batteryFilter := filterStatic
  avoidance := ⟨.readL, .init, 0⟩
  proximity := ⟨0, 0⟩
  gripper := ⟨0, 0, 0⟩
  locals :=
    { batVal := lit 0
      ticksLOld := 0
      ticksROld := 0
      timeOld := 0
      firstTime := true
      proxyFirst := true
      floatSend := ⟨false, ⟨0, 0⟩⟩
      loopTime := ⟨false, ⟨0, 0⟩⟩ }

def numLeft (i : ℕ) : F := [lit 0.187533508705, lit 0.124897316798].getD i 0

def numRight (i : ℕ) : F := [lit 0.172825818795, lit 0.130440286735].getD i 0

/-- `den_left` and `den_right`. -/
def denMotor (i : ℕ) : F := [lit 1, lit (-1)].getD i 0

def initializeSystem (env : Env) (s : State F) : State F :=
  let batteryFilter := batteryMonitorInit s.batteryFilter (env.adc s.looks)
  let s := s.looked
  messageHandlingInit { s with
    batteryFilter
    motors := motorPwmInit 0x190 s.motors
    proximity := proxyInit
    gripper := servoPwmInit .opened s.gripper
    usb := usbSetupHardware s.usb
    ctrLeftMotor := controllerInit s.ctrLeftMotor (lit 0.1875335) numLeft denMotor 1 (lit 10)
    ctrRightMotor := controllerInit s.ctrRightMotor (lit 0.1728258) numRight denMotor 1 (lit 10)
    avoidance := initObstacleAvoidance }

/-- The state in which `while(true)` is entered. -/
def mainInit (env : Env) : State F :=
  let s := initializeSystem env deviceReset
  { s with flags.mfBatteryTask.duration := lit 2, flags.mfBatteryTask.active := true }

def restartHandler (env : Env) : State F → State F :=
  whenDue env Flags.mfRestart messageHandlingInit

def batteryTaskHandler (env : Env) : State F → State F :=
  whenDue env Flags.mfBatteryTask fun s =>
    let (batVal, s) := batteryTask env s
    let s := { s with locals.batVal := batVal }
    let s :=
      if lt batVal (lit 4.75) && lt (lit 3.0) batVal then
        { s with flags.mfLowBattery.active := true, flags.mfLowBattery.duration := lit 1000 }
      else { s with flags.mfLowBattery.active := false }
    let (now, s) := getTime env s
    { s with flags.mfBatteryTask.lastTriggerTime := now }

def sendTimeHandler (env : Env) : State F → State F :=
  whenDue env Flags.mfSendTime fun s =>
    let (now, s) := getTime env s
    let retVal : F := now.seconds
    if lt s.flags.mfSendTime.duration (lit 0) then
      sendTimeMessage 't' 0x00 retVal { s with flags.mfSendTime.active := false }
    else
      let s := sendTimeMessage 'T' 0x00 retVal s
      let (now, s) := getTime env s
      { s with flags.mfSendTime.lastTriggerTime := now }

def timeFloatSendHandler (env : Env) : State F → State F :=
  whenDue env Flags.mfTimeFloatSend fun s =>
    if !s.locals.floatSend.trip then
      let (now, s) := getTime env s
      sendMsg ['c', 'f'] (Ascii.ofChar 'f') (floatBytes (lit 12.345 : F))
        { s with locals.floatSend := ⟨true, now⟩ }
    else if usbOutMsgLength s.usb = 0 then
      let (retTime, s) := secondsSince env s.locals.floatSend.startTime s
      let retVal : F := retTime.seconds
      let s :=
        if lt s.flags.mfTimeFloatSend.duration (lit 0) then
          sendTimeMessage 't' 0x01 retVal { s with flags.mfTimeFloatSend.active := false }
        else
          let (now, s) := getTime env s
          sendTimeMessage 'T' 0x01 retVal
            { s with flags.mfTimeFloatSend.lastTriggerTime := now }
      { s with locals.floatSend.trip := false }
    else s

def loopTimerHandler (env : Env) : State F → State F :=
  whenDue env Flags.mfLoopTimer fun s =>
    if !s.locals.loopTime.trip then
      let (now, s) := getTime env s
      { s with locals.loopTime := ⟨true, now⟩ }
    else
      let (retTime, s) := secondsSince env s.locals.loopTime.startTime s
      let retVal : F := retTime.seconds
      let s :=
        if lt s.flags.mfLoopTimer.duration (lit 0) then
          sendTimeMessage 't' 0x02 retVal { s with flags.mfLoopTimer.active := false }
        else
          let (now, s) := getTime env s
          sendTimeMessage 'T' 0x02 retVal { s with flags.mfLoopTimer.lastTriggerTime := now }
      { s with locals.loopTime.trip := false }

def sendEncoderHandler (env : Env) : State F → State F :=
  whenDue env Flags.mfSendEncoder fun s =>
    let (left, s) := countsLeft env s
    let (right, s) := countsRight env s
    let retVal := floatBytes (ofInt left.toInt : F) ++ floatBytes (ofInt right.toInt : F)
    if le s.flags.mfSendEncoder.duration (lit 0) then
      sendMsg ['c', 'f', 'f'] (Ascii.ofChar 'e') retVal
        { s with flags.mfSendEncoder.active := false }
    else
      let (now, s) := getTime env s
      sendMsg ['c', 'f', 'f'] (Ascii.ofChar 'E') retVal
        { s with flags.mfSendEncoder.lastTriggerTime := now }

def sendBatteryHandler (env : Env) : State F → State F :=
  whenDue env Flags.mfSendBattery fun s =>
    let retVal := floatBytes (batteryVoltage s.batteryFilter)
    if le s.flags.mfSendBattery.duration (lit 0) then
      sendMsg ['c', 'f'] (Ascii.ofChar 'b') retVal
        { s with flags.mfSendBattery.active := false }
    else
      let (now, s) := getTime env s
      sendMsg ['c', 'f'] (Ascii.ofChar 'B') retVal
        { s with flags.mfSendBattery.lastTriggerTime := now }

def lowBatteryHandler (env : Env) : State F → State F :=
  whenDue env Flags.mfLowBattery fun s =>
    let s := sendBatLow s.locals.batVal s
    let (now, s) := getTime env s
    { s with flags.mfLowBattery.lastTriggerTime := now }

/-- Both duties to 0 and the outputs disabled. -/
def motorsOff (motors : MotorPwm) : MotorPwm :=
  motorPwmEnable false (motorPwmRight F 0 (motorPwmLeft F 0 motors))

def timedPwmHandler (env : Env) : State F → State F :=
  whenDue env Flags.mfTimedPwm fun s =>
    { s.mapMotors (motorsOff (F := F)) with flags.mfTimedPwm.active := false }

def sysDataHandler (env : Env) : State F → State F :=
  whenDue env Flags.mfSysData fun s =>
    let (now, s) := getTime env s
    let time : F := now.seconds
    let pwmL := getMotorPwmLeft F s.motors
    let pwmR := getMotorPwmRight F s.motors
    let (left, s) := countsLeft env s
    let (right, s) := countsRight env s
    let data := floatBytes time ++ intBytes pwmL ++ intBytes pwmR ++
      intBytes left.toInt16 ++ intBytes right.toInt16
    if le s.flags.mfSysData.duration (lit 0) then
      sendMsg ['c', 'f', 'h', 'h', 'h', 'h'] (Ascii.ofChar 'q') data
        { s with flags.mfSysData.active := false }
    else
      let (now, s) := getTime env s
      sendMsg ['c', 'f', 'h', 'h', 'h', 'h'] (Ascii.ofChar 'Q') data
        { s with flags.mfSysData.lastTriggerTime := now }

/-- The baseline step shared by the distance and velocity handlers. -/
def recordBaseline (env : Env) (s : State F) : State F :=
  let (left, s) := countsLeft env s
  let (right, s) := countsRight env s
  let (time, s) := getTimeSec env s
  { s with
    locals.ticksLOld := ofInt left.toInt
    locals.ticksROld := ofInt right.toInt
    locals.timeOld := time
    locals.firstTime := false }

def clearTargets (s : State F) : State F :=
  setTargetVelocities ⟨lit 0, lit 0⟩ (setTargetPositions (lit 0) (lit 0) s)

def reached (targetPos measured : F) : Bool :=
  if lt (lit 0) targetPos then le targetPos measured else le measured targetPos

/-- The duty of a wheel, with the sign of the distance left to travel. -/
def signedDuty (targetPos : F) (duty : Int16) : Int16 :=
  if lt (lit 0) targetPos then duty else -1 * duty

def driveMotors (left right : Int16) (motors : MotorPwm) : MotorPwm :=
  motorPwmEnable true (motorPwmRight F right (motorPwmLeft F left motors))

/-- `CNTRL_SYS` and `DEBUG` are 0; the code they guard is not compiled in. -/
def distControlHandler (env : Env) : State F → State F :=
  whenDue env Flags.mfMotorDistControl fun s =>
    if s.locals.firstTime then recordBaseline env s
    else
      let (left, s) := countsLeft env s
      let (right, s) := countsRight env s
      let ticksLNew : F := ofInt left.toInt
      let ticksRNew : F := ofInt right.toInt
      let measuredLeft : F :=
        ecountToDistance (Int16.ofInt (trunc (ticksLNew - s.locals.ticksLOld)))
      let measuredRight : F :=
        ecountToDistance (Int16.ofInt (trunc (ticksRNew - s.locals.ticksROld)))
      if reached s.ctrLeftMotor.targetPos measuredLeft ||
          reached s.ctrRightMotor.targetPos measuredRight then
        let s := clearTargets (s.mapMotors (motorsOff (F := F)))
        { s with flags.mfMotorDistControl.active := false, locals.firstTime := true }
      else
        let (timeNew, s) := getTimeSec env s
        let s := setTargetPositions (s.ctrLeftMotor.targetPos - measuredLeft)
          (s.ctrRightMotor.targetPos - measuredRight) s
        let pwmL := signedDuty s.ctrLeftMotor.targetPos
          (velocityToDutyCycleLeft s.ctrLeftMotor.targetVel)
        let pwmR := signedDuty s.ctrRightMotor.targetPos
          (velocityToDutyCycleRight s.ctrRightMotor.targetVel)
        let s := s.mapMotors (driveMotors (F := F) pwmL pwmR)
        let s := { s with
          locals.ticksLOld := ticksLNew
          locals.ticksROld := ticksRNew
          locals.timeOld := timeNew }
        let (now, s) := getTime env s
        { s with flags.mfMotorDistControl.lastTriggerTime := now }

/-- Both directions of travel compute the same duties while `CNTRL_SYS` is 0. -/
def velControlHandler (env : Env) : State F → State F :=
  whenDue env Flags.mfMotorVelControl fun s =>
    if s.locals.firstTime then recordBaseline env s
    else
      let (timeNew, s) := getTimeSec env s
      let (left, s) := countsLeft env s
      let (right, s) := countsRight env s
      let pwmL := velocityToDutyCycleLeft s.ctrLeftMotor.targetVel
      let pwmR := velocityToDutyCycleRight s.ctrRightMotor.targetVel
      let s := s.mapMotors (driveMotors (F := F) pwmL pwmR)
      let s := { s with
        locals.ticksLOld := ofInt left.toInt
        locals.ticksROld := ofInt right.toInt
        locals.timeOld := timeNew }
      let (now, s) := getTime env s
      { s with flags.mfMotorVelControl.lastTriggerTime := now }

def motorStopHandler (env : Env) : State F → State F :=
  whenDue env Flags.mfMotorStop fun s =>
    let s := clearTargets (s.mapMotors (motorsOff (F := F)))
    { s with
      flags.mfMotorStop.active := false
      flags.mfMotorDistControl.active := false
      flags.mfMotorVelControl.active := false
      flags.mfTimedPwm.active := false }

def irProximityHandler (env : Env) : State F → State F :=
  whenDue env Flags.mfIrProximity fun s =>
    if s.locals.proxyFirst then
      let s := irReadTask env .left s
      { s with locals.proxyFirst := false }
    else
      let s := irReadTask env .right s
      let proxOut := irCounts s.proximity
      let side := match proxOut.side with
        | .left => Ascii.ofChar 'L'
        | .right => Ascii.ofChar 'R'
      let data := intBytes proxOut.count.toInt16 ++ [side]
      let s :=
        if le s.flags.mfIrProximity.duration (lit 0) then
          sendMsg ['c', 'h', 'c'] (Ascii.ofChar 'i') data
            { s with flags.mfIrProximity.active := false }
        else
          let (now, s) := getTime env s
          sendMsg ['c', 'h', 'c'] (Ascii.ofChar 'I') data
            { s with flags.mfIrProximity.lastTriggerTime := now }
      { s with locals.proxyFirst := true }

def objAvoidanceHandler (env : Env) : State F → State F :=
  whenDue env Flags.mfObjAvoidance fun s =>
    let (runAgain, s) := runOaTask env s
    if !runAgain then
      let (now, s) := getTime env s
      { s with flags.mfObjAvoidance.lastTriggerTime := now }
    else s

inductive Stage where
  | usbUpkeep
  | messageHandling
  | restart
  | batteryTask
  | sendTime
  | timeFloatSend
  | loopTimer
  | sendEncoder
  | sendBattery
  | lowBattery
  | timedPwm
  | sysData
  | distControl
  | velControl
  | motorStop
  | irProximity
  | objAvoidance
deriving DecidableEq

def loopBody : List Stage :=
  [.usbUpkeep, .messageHandling, .restart, .batteryTask, .sendTime, .timeFloatSend, .loopTimer,
    .sendEncoder, .sendBattery, .lowBattery, .timedPwm, .sysData, .distControl, .velControl,
    .motorStop, .irProximity, .objAvoidance]

def Stage.run (env : Env) : Stage → State F → State F
  | .usbUpkeep => usbUpkeepTask env
  | .messageHandling => fun s => (messageHandlingTask env s).1
  | .restart => restartHandler env
  | .batteryTask => batteryTaskHandler env
  | .sendTime => sendTimeHandler env
  | .timeFloatSend => timeFloatSendHandler env
  | .loopTimer => loopTimerHandler env
  | .sendEncoder => sendEncoderHandler env
  | .sendBattery => sendBatteryHandler env
  | .lowBattery => lowBatteryHandler env
  | .timedPwm => timedPwmHandler env
  | .sysData => sysDataHandler env
  | .distControl => distControlHandler env
  | .velControl => velControlHandler env
  | .motorStop => motorStopHandler env
  | .irProximity => irProximityHandler env
  | .objAvoidance => objAvoidanceHandler env

/-- The state after `time` statements of the loop. Iteration `n` runs from time
`17 * n` to time `17 * (n + 1)`. -/
def deviceTrace (env : Env) (time : ℕ) : State F :=
  CyclicProgram.trace loopBody (Stage.run env) (mainInit env) time

abbrev stageAt (time : ℕ) : Option Stage := CyclicProgram.stageAt loopBody time

def mainLoop (env : Env) (s : State F) : State F :=
  CyclicProgram.pass loopBody (Stage.run env) s

theorem deviceTrace_succ {env : Env} {time : ℕ} {stage : Stage}
    (here : stageAt time = some stage) :
    deviceTrace (F := F) env (time + 1) = stage.run env (deviceTrace env time) :=
  CyclicProgram.trace_succ here

theorem deviceTrace_iteration (env : Env) (n : ℕ) :
    deviceTrace (F := F) env (17 * (n + 1)) = mainLoop env (deviceTrace env (17 * n)) :=
  CyclicProgram.trace_mul_succ (mainInit env) n

theorem stageAt_iteration (n offset : ℕ) (inside : offset < loopBody.length) :
    stageAt (17 * n + offset) = some loopBody[offset] :=
  CyclicProgram.stageAt_mul_add n offset inside

end ZumoDelivery
