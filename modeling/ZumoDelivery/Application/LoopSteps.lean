import ZumoDelivery.Application.MessageCases
import ZumoDelivery.Application.Reports

set_option autoImplicit false

namespace ZumoDelivery

variable {F : Type} [FloatArith F]

open FloatArith

/-- All that a decision of `Run_State_Machine` can do: start velocity control, take other
targets, or only count and change its state. None goes back to `INIT`. -/
inductive Decision (s : State F) : State F → Prop where
  | start (next : OaDsm) (chosen : next ≠ .init) (velocities : WheelVelocities F)
      (waiting : s.avoidance.oaState = .init) :
      Decision s { s with
        avoidance.oaState := next
        ctrLeftMotor := controllerSetTargetVelocity s.ctrLeftMotor velocities.left
        ctrRightMotor := controllerSetTargetVelocity s.ctrRightMotor velocities.right
        flags.mfMotorVelControl.active := true
        flags.mfMotorVelControl.duration := s.ctrLeftMotor.updatePeriod
        gripper.portD := setLed .red true s.gripper.portD }
  | steer (next : OaDsm) (chosen : next ≠ .init) (alpha : UInt16)
      (velocities : WheelVelocities F) (started : s.avoidance.oaState ≠ .init) :
      Decision s { s with
        avoidance.oaState := next
        avoidance.alpha := alpha
        ctrLeftMotor := controllerSetTargetVelocity s.ctrLeftMotor velocities.left
        ctrRightMotor := controllerSetTargetVelocity s.ctrRightMotor velocities.right }
  | keep (next : OaDsm) (chosen : next ≠ .init) (alpha : UInt16)
      (started : s.avoidance.oaState ≠ .init) :
      Decision s { s with avoidance.oaState := next, avoidance.alpha := alpha }

theorem oaTurn_ne_init (ir : ProximityReturn) : (oaTurn (F := F) ir).2 ≠ .init := by
  unfold oaTurn
  split <;> exact OaDsm.noConfusion

theorem decision_runStateMachine (ir : ProximityReturn) (s : State F) :
    Decision s (runStateMachine ir s) := by
  have turn := oaTurn_ne_init (F := F) ir
  unfold runStateMachine
  split
  · rename_i waiting
    by_cases clear : ir.count = 0
    · simp only [clear, ↓reduceIte]
      exact .start .driveStraight OaDsm.noConfusion oaStraight waiting
    · simp only [clear, ↓reduceIte]
      exact .start _ turn (oaTurn ir).1 waiting
  · rename_i here
    have started : s.avoidance.oaState ≠ .init := by rw [here]; decide
    split
    · exact .steer _ turn s.avoidance.alpha (oaTurn ir).1 started
    · exact .keep s.avoidance.oaState started s.avoidance.alpha started
  · rename_i here
    have started : s.avoidance.oaState ≠ .init := by rw [here]; decide
    split
    · exact .keep .holding OaDsm.noConfusion s.avoidance.alpha started
    · exact .keep s.avoidance.oaState started s.avoidance.alpha started
  · rename_i here
    have started : s.avoidance.oaState ≠ .init := by rw [here]; decide
    split
    · exact .keep .holding OaDsm.noConfusion s.avoidance.alpha started
    · exact .keep s.avoidance.oaState started s.avoidance.alpha started
  · rename_i here
    have started : s.avoidance.oaState ≠ .init := by rw [here]; decide
    dsimp only
    split
    · exact .steer .driveStraight OaDsm.noConfusion 0 oaStraight started
    · exact .keep s.avoidance.oaState started _ started

theorem looked_runStateMachine (ir : ProximityReturn) (s : State F) :
    runStateMachine ir s.looked = (runStateMachine ir s).looked := by
  have same : s.looked.avoidance = s.avoidance := rfl
  unfold runStateMachine
  rw [same]
  split
  · rfl
  · split <;> rfl
  · split <;> rfl
  · split <;> rfl
  · dsimp only
    split <;> rfl

def clockAt (env : Env) (look : ℕ) : Time :=
  timeOfCounts (UInt32.ofNat (env.millis look)) (env.tcnt0 look)

/-- The encoders once both counts have been read, the left one first. -/
def countedAt (env : Env) (look : ℕ) (encoders : Encoders) : Encoders where
  leftCounts := encoders.leftCounts + Int32.ofInt (env.leftSteps look)
  rightCounts := encoders.rightCounts + Int32.ofInt (env.rightSteps (look + 1))

/-- What the proximity sensor answers to a reading that starts at a look. -/
def irHits (env : Env) (look : ℕ) : List Bool := [env.irHit look, env.irHit (look + 1)]

def lowVoltage (volts : F) : Bool := lt volts (lit 4.75) && lt (lit 3.0) volts

/-- `measured_left` and `measured_right`: the way of a wheel since its old tick count. -/
def measured (ticksOld : F) (counts : Int32) : F :=
  ecountToDistance (Int16.ofInt (trunc (ofInt counts.toInt - ticksOld)))

/-- `doneL || doneR`, on the counts that the handler reads. -/
def doneMoving (s after : State F) : Bool :=
  reached s.ctrLeftMotor.targetPos (measured s.locals.ticksLOld after.encoders.leftCounts) ||
    reached s.ctrRightMotor.targetPos (measured s.locals.ticksROld after.encoders.rightCounts)

def timeMessage (letter : Char) (arg : UInt8) (seconds : F) : UsbMessage :=
  ⟨['c', 'c', 'f'], Ascii.ofChar letter, arg :: floatBytes seconds⟩

/-- All that the handlers do when they are due, with the looks that each branch takes. -/
inductive Execution (env : Env) (s : State F) : Stage → State F → Prop where
  | restart : Execution env s .restart (messageHandlingInit s.looked)
  | batteryLow (volts : F) (filter : FilterData F)
      (sampled : batteryVoltageTask s.batteryFilter (env.adc (s.looks + 1)) = (volts, filter))
      (low : lowVoltage volts = true) :
      Execution env s .batteryTask { s with
        looks := s.looks + 3
        batteryFilter := filter
        locals.batVal := volts
        flags.mfLowBattery.active := true
        flags.mfLowBattery.duration := lit 1000
        flags.mfBatteryTask.lastTriggerTime := clockAt env (s.looks + 2) }
  | batteryFine (volts : F) (filter : FilterData F)
      (sampled : batteryVoltageTask s.batteryFilter (env.adc (s.looks + 1)) = (volts, filter))
      (fine : lowVoltage volts = false) :
      Execution env s .batteryTask { s with
        looks := s.looks + 3
        batteryFilter := filter
        locals.batVal := volts
        flags.mfLowBattery.active := false
        flags.mfBatteryTask.lastTriggerTime := clockAt env (s.looks + 2) }
  | timeOnce (single : lt s.flags.mfSendTime.duration (lit 0) = true) :
      Execution env s .sendTime { s with
        looks := s.looks + 2
        usb := Report.time.queue env s true
        flags.mfSendTime.active := false }
  | timeAgain (periodic : lt s.flags.mfSendTime.duration (lit 0) = false) :
      Execution env s .sendTime { s with
        looks := s.looks + 3
        usb := Report.time.queue env s false
        flags.mfSendTime.lastTriggerTime := clockAt env (s.looks + 2) }
  | floatBegun (idle : s.locals.floatSend.trip = false) :
      Execution env s .timeFloatSend { s with
        looks := s.looks + 2
        usb := (⟨['c', 'f'], Ascii.ofChar 'f', floatBytes (lit 12.345 : F)⟩ : UsbMessage).send s.usb
        locals.floatSend := ⟨true, clockReading env s⟩ }
  | floatWaiting (busy : s.locals.floatSend.trip = true) (unsent : ¬ usbOutMsgLength s.usb = 0) :
      Execution env s .timeFloatSend s.looked
  | floatOnce (busy : s.locals.floatSend.trip = true) (sent : usbOutMsgLength s.usb = 0)
      (single : lt s.flags.mfTimeFloatSend.duration (lit 0) = true) :
      Execution env s .timeFloatSend { s with
        looks := s.looks + 2
        usb := (timeMessage 't' 0x01
          (reportedTime env s.locals.floatSend.startTime s : F)).send s.usb
        flags.mfTimeFloatSend.active := false
        locals.floatSend.trip := false }
  | floatAgain (busy : s.locals.floatSend.trip = true) (sent : usbOutMsgLength s.usb = 0)
      (periodic : lt s.flags.mfTimeFloatSend.duration (lit 0) = false) :
      Execution env s .timeFloatSend { s with
        looks := s.looks + 3
        usb := (timeMessage 'T' 0x01
          (reportedTime env s.locals.floatSend.startTime s : F)).send s.usb
        flags.mfTimeFloatSend.lastTriggerTime := clockAt env (s.looks + 2)
        locals.floatSend.trip := false }
  | loopBegun (idle : s.locals.loopTime.trip = false) :
      Execution env s .loopTimer { s with
        looks := s.looks + 2
        locals.loopTime := ⟨true, clockReading env s⟩ }
  | loopOnce (busy : s.locals.loopTime.trip = true)
      (single : lt s.flags.mfLoopTimer.duration (lit 0) = true) :
      Execution env s .loopTimer { s with
        looks := s.looks + 2
        usb := (timeMessage 't' 0x02
          (reportedTime env s.locals.loopTime.startTime s : F)).send s.usb
        flags.mfLoopTimer.active := false
        locals.loopTime.trip := false }
  | loopAgain (busy : s.locals.loopTime.trip = true)
      (periodic : lt s.flags.mfLoopTimer.duration (lit 0) = false) :
      Execution env s .loopTimer { s with
        looks := s.looks + 3
        usb := (timeMessage 'T' 0x02
          (reportedTime env s.locals.loopTime.startTime s : F)).send s.usb
        flags.mfLoopTimer.lastTriggerTime := clockAt env (s.looks + 2)
        locals.loopTime.trip := false }
  | encoderOnce (single : le s.flags.mfSendEncoder.duration (lit 0) = true) :
      Execution env s .sendEncoder { s with
        looks := s.looks + 3
        encoders := countedAt env (s.looks + 1) s.encoders
        usb := Report.encoder.queue env s true
        flags.mfSendEncoder.active := false }
  | encoderAgain (periodic : le s.flags.mfSendEncoder.duration (lit 0) = false) :
      Execution env s .sendEncoder { s with
        looks := s.looks + 4
        encoders := countedAt env (s.looks + 1) s.encoders
        usb := Report.encoder.queue env s false
        flags.mfSendEncoder.lastTriggerTime := clockAt env (s.looks + 3) }
  | batteryOnce (single : le s.flags.mfSendBattery.duration (lit 0) = true) :
      Execution env s .sendBattery { s with
        looks := s.looks + 1
        usb := Report.battery.queue env s true
        flags.mfSendBattery.active := false }
  | batteryAgain (periodic : le s.flags.mfSendBattery.duration (lit 0) = false) :
      Execution env s .sendBattery { s with
        looks := s.looks + 2
        usb := Report.battery.queue env s false
        flags.mfSendBattery.lastTriggerTime := clockAt env (s.looks + 1) }
  | lowBattery :
      Execution env s .lowBattery { s with
        looks := s.looks + 2
        usb := (batLow s.locals.batVal).send s.usb
        flags.mfLowBattery.lastTriggerTime := clockAt env (s.looks + 1) }
  | timedPwm :
      Execution env s .timedPwm { s with
        looks := s.looks + 1
        motors := motorsOff (F := F) s.motors
        flags.mfTimedPwm.active := false }
  | systemOnce (single : le s.flags.mfSysData.duration (lit 0) = true) :
      Execution env s .sysData { s with
        looks := s.looks + 4
        encoders := countedAt env (s.looks + 2) s.encoders
        usb := Report.system.queue env s true
        flags.mfSysData.active := false }
  | systemAgain (periodic : le s.flags.mfSysData.duration (lit 0) = false) :
      Execution env s .sysData { s with
        looks := s.looks + 5
        encoders := countedAt env (s.looks + 2) s.encoders
        usb := Report.system.queue env s false
        flags.mfSysData.lastTriggerTime := clockAt env (s.looks + 4) }
  | distBaseline (first : s.locals.firstTime = true) :
      Execution env s .distControl (recordBaseline env s.looked)
  | distDone (running : s.locals.firstTime = false)
      (arrived :
        doneMoving s { s with encoders := countedAt env (s.looks + 1) s.encoders } = true) :
      Execution env s .distControl { clearTargets s with
        looks := s.looks + 3
        encoders := countedAt env (s.looks + 1) s.encoders
        motors := motorsOff (F := F) s.motors
        flags.mfMotorDistControl.active := false
        locals.firstTime := true }
  | distStep (running : s.locals.firstTime = false) (encoders : Encoders)
      (counted : encoders = countedAt env (s.looks + 1) s.encoders)
      (short : doneMoving s { s with encoders } = false)
      (left right : F)
      (restLeft : left = s.ctrLeftMotor.targetPos - measured s.locals.ticksLOld encoders.leftCounts)
      (restRight : right =
        s.ctrRightMotor.targetPos - measured s.locals.ticksROld encoders.rightCounts) :
      Execution env s .distControl { setTargetPositions left right s with
        looks := s.looks + 5
        encoders
        motors := driveMotors (F := F)
          (signedDuty left (velocityToDutyCycleLeft s.ctrLeftMotor.targetVel))
          (signedDuty right (velocityToDutyCycleRight s.ctrRightMotor.targetVel)) s.motors
        locals.ticksLOld := ofInt encoders.leftCounts.toInt
        locals.ticksROld := ofInt encoders.rightCounts.toInt
        locals.timeOld := (getTimeSec env s.looked.looked.looked).1
        flags.mfMotorDistControl.lastTriggerTime := clockAt env (s.looks + 4) }
  | velBaseline (first : s.locals.firstTime = true) :
      Execution env s .velControl (recordBaseline env s.looked)
  | velStep (running : s.locals.firstTime = false) (encoders : Encoders)
      (counted : encoders = countedAt env (s.looks + 2) s.encoders) :
      Execution env s .velControl { s with
        looks := s.looks + 5
        encoders
        motors := driveMotors (F := F) (velocityToDutyCycleLeft s.ctrLeftMotor.targetVel)
          (velocityToDutyCycleRight s.ctrRightMotor.targetVel) s.motors
        locals.ticksLOld := ofInt encoders.leftCounts.toInt
        locals.ticksROld := ofInt encoders.rightCounts.toInt
        locals.timeOld := (getTimeSec env s.looked).1
        flags.mfMotorVelControl.lastTriggerTime := clockAt env (s.looks + 4) }
  | motorStop :
      Execution env s .motorStop { clearTargets s with
        looks := s.looks + 1
        motors := motorsOff (F := F) s.motors
        flags.mfMotorStop.active := false
        flags.mfMotorDistControl.active := false
        flags.mfMotorVelControl.active := false
        flags.mfTimedPwm.active := false }
  | irLeft (first : s.locals.proxyFirst = true) :
      Execution env s .irProximity { s with
        looks := s.looks + 3
        proximity := irRead .left (irHits env (s.looks + 1)) s.proximity
        motors.portB := s.motors.portB &&& 0b01111111
        locals.proxyFirst := false }
  | irOnce (second : s.locals.proxyFirst = false)
      (single : le s.flags.mfIrProximity.duration (lit 0) = true) :
      Execution env s .irProximity { s with
        looks := s.looks + 3
        proximity := irRead .right (irHits env (s.looks + 1)) s.proximity
        motors.portB := s.motors.portB &&& 0b01111111
        usb := (⟨['c', 'h', 'c'], Ascii.ofChar 'i', (proximityMessage env s).data⟩ :
          UsbMessage).send s.usb
        flags.mfIrProximity.active := false
        locals.proxyFirst := true }
  | irAgain (second : s.locals.proxyFirst = false)
      (periodic : le s.flags.mfIrProximity.duration (lit 0) = false) :
      Execution env s .irProximity { s with
        looks := s.looks + 4
        proximity := irRead .right (irHits env (s.looks + 1)) s.proximity
        motors.portB := s.motors.portB &&& 0b01111111
        usb := (⟨['c', 'h', 'c'], Ascii.ofChar 'I', (proximityMessage env s).data⟩ :
          UsbMessage).send s.usb
        flags.mfIrProximity.lastTriggerTime := clockAt env (s.looks + 3)
        locals.proxyFirst := true }
  | oaLeft (phase : s.avoidance.readState = .readL) :
      Execution env s .objAvoidance { s with
        looks := s.looks + 3
        proximity := irRead .left (irHits env (s.looks + 1)) s.proximity
        motors.portB := s.motors.portB &&& 0b01111111
        avoidance.readState := .readR }
  | oaRight (phase : s.avoidance.readState = .readR) :
      Execution env s .objAvoidance { s with
        looks := s.looks + 3
        proximity := irRead .right (irHits env (s.looks + 1)) s.proximity
        motors.portB := s.motors.portB &&& 0b01111111
        avoidance.readState := .runDsm }
  | oaDecided (phase : s.avoidance.readState = .runDsm) (decided : State F)
      (same : decided = runStateMachine (irCounts s.proximity) s) (decision : Decision s decided) :
      Execution env s .objAvoidance { decided with
        looks := decided.looks + 2
        avoidance.readState := .readL
        flags.mfObjAvoidance.lastTriggerTime := clockAt env (decided.looks + 1) }

namespace Execution

variable {env : Env} {s : State F}

theorem restartHandler (due : s.flags.mfRestart.due env s = true) :
    Execution env s .restart (restartHandler env s) := by
  rw [ZumoDelivery.restartHandler, whenDue_of_due _ due]
  exact .restart

theorem batteryTaskHandler (due : s.flags.mfBatteryTask.due env s = true) :
    Execution env s .batteryTask (batteryTaskHandler env s) := by
  rw [ZumoDelivery.batteryTaskHandler, whenDue_of_due _ due]
  dsimp only [batteryTask]
  split
  · rename_i low
    exact .batteryLow _ _ rfl low
  · rename_i fine
    exact .batteryFine _ _ rfl (Bool.eq_false_of_not_eq_true fine)

theorem sendTimeHandler (due : s.flags.mfSendTime.due env s = true) :
    Execution env s .sendTime (sendTimeHandler env s) := by
  rw [ZumoDelivery.sendTimeHandler, whenDue_of_due _ due]
  dsimp only [getTime, sendTimeMessage, sendMsg, State.mapUsb, State.looked]
  split
  · rename_i single
    exact .timeOnce single
  · rename_i periodic
    exact .timeAgain (Bool.eq_false_of_not_eq_true periodic)

theorem timeFloatSendHandler (due : s.flags.mfTimeFloatSend.due env s = true) :
    Execution env s .timeFloatSend (timeFloatSendHandler env s) := by
  rw [ZumoDelivery.timeFloatSendHandler, whenDue_of_due _ due]
  dsimp only [getTime, secondsSince]
  split
  · rename_i idle
    exact .floatBegun ((Bool.not_eq_true' _).mp idle)
  · rename_i armed
    have busy : s.locals.floatSend.trip = true := by
      rw [Bool.not_eq_true, Bool.not_eq_false'] at armed
      exact armed
    split
    · rename_i sent
      split
      · rename_i single
        dsimp only [sendTimeMessage, sendMsg, State.mapUsb, State.looked]
        exact .floatOnce busy sent single
      · rename_i periodic
        dsimp only [sendTimeMessage, sendMsg, State.mapUsb, State.looked]
        exact .floatAgain busy sent (Bool.eq_false_of_not_eq_true periodic)
    · rename_i unsent
      exact .floatWaiting busy unsent

theorem loopTimerHandler (due : s.flags.mfLoopTimer.due env s = true) :
    Execution env s .loopTimer (loopTimerHandler env s) := by
  rw [ZumoDelivery.loopTimerHandler, whenDue_of_due _ due]
  dsimp only [getTime, secondsSince]
  split
  · rename_i idle
    exact .loopBegun ((Bool.not_eq_true' _).mp idle)
  · rename_i armed
    have busy : s.locals.loopTime.trip = true := by
      rw [Bool.not_eq_true, Bool.not_eq_false'] at armed
      exact armed
    split
    · rename_i single
      dsimp only [sendTimeMessage, sendMsg, State.mapUsb, State.looked]
      exact .loopOnce busy single
    · rename_i periodic
      dsimp only [sendTimeMessage, sendMsg, State.mapUsb, State.looked]
      exact .loopAgain busy (Bool.eq_false_of_not_eq_true periodic)

theorem sendEncoderHandler (due : s.flags.mfSendEncoder.due env s = true) :
    Execution env s .sendEncoder (sendEncoderHandler env s) := by
  rw [ZumoDelivery.sendEncoderHandler, whenDue_of_due _ due]
  dsimp only [getTime, countsLeft, countsRight]
  split
  · rename_i single
    exact .encoderOnce single
  · rename_i periodic
    exact .encoderAgain (Bool.eq_false_of_not_eq_true periodic)

theorem sendBatteryHandler (due : s.flags.mfSendBattery.due env s = true) :
    Execution env s .sendBattery (sendBatteryHandler env s) := by
  rw [ZumoDelivery.sendBatteryHandler, whenDue_of_due _ due]
  dsimp only [getTime]
  split
  · rename_i single
    exact .batteryOnce single
  · rename_i periodic
    exact .batteryAgain (Bool.eq_false_of_not_eq_true periodic)

theorem lowBatteryHandler (due : s.flags.mfLowBattery.due env s = true) :
    Execution env s .lowBattery (lowBatteryHandler env s) := by
  have notice : sendBatLow s.locals.batVal s.looked =
      s.looked.mapUsb (batLow s.locals.batVal).send := rfl
  rw [ZumoDelivery.lowBatteryHandler, whenDue_of_due _ due]
  dsimp only [getTime]
  rw [show s.looked.locals.batVal = s.locals.batVal from rfl, notice]
  dsimp only [State.mapUsb, State.looked]
  exact .lowBattery

theorem timedPwmHandler (due : s.flags.mfTimedPwm.due env s = true) :
    Execution env s .timedPwm (timedPwmHandler env s) := by
  rw [ZumoDelivery.timedPwmHandler, whenDue_of_due _ due]
  exact .timedPwm

theorem sysDataHandler (due : s.flags.mfSysData.due env s = true) :
    Execution env s .sysData (sysDataHandler env s) := by
  rw [ZumoDelivery.sysDataHandler, whenDue_of_due _ due]
  dsimp only [getTime, countsLeft, countsRight]
  split
  · rename_i single
    exact .systemOnce single
  · rename_i periodic
    exact .systemAgain (Bool.eq_false_of_not_eq_true periodic)

theorem distControlHandler (due : s.flags.mfMotorDistControl.due env s = true) :
    Execution env s .distControl (distControlHandler env s) := by
  rw [ZumoDelivery.distControlHandler, whenDue_of_due _ due]
  dsimp only [getTime, countsLeft, countsRight, getTimeSec]
  split
  · rename_i first
    exact .distBaseline first
  · rename_i later
    have running : s.locals.firstTime = false := Bool.eq_false_of_not_eq_true later
    split
    · rename_i arrived
      exact .distDone running arrived
    · rename_i short
      dsimp only [State.mapMotors, State.looked]
      exact .distStep running _ rfl (Bool.eq_false_of_not_eq_true short) _ _ rfl rfl

theorem velControlHandler (due : s.flags.mfMotorVelControl.due env s = true) :
    Execution env s .velControl (velControlHandler env s) := by
  rw [ZumoDelivery.velControlHandler, whenDue_of_due _ due]
  dsimp only [getTime, countsLeft, countsRight, getTimeSec]
  split
  · rename_i first
    exact .velBaseline first
  · rename_i later
    have running : s.locals.firstTime = false := Bool.eq_false_of_not_eq_true later
    dsimp only [State.mapMotors, State.looked]
    exact .velStep running (countedAt env (s.looks + 2) s.encoders) rfl

theorem motorStopHandler (due : s.flags.mfMotorStop.due env s = true) :
    Execution env s .motorStop (motorStopHandler env s) := by
  rw [ZumoDelivery.motorStopHandler, whenDue_of_due _ due]
  exact .motorStop

theorem irProximityHandler (due : s.flags.mfIrProximity.due env s = true) :
    Execution env s .irProximity (irProximityHandler env s) := by
  rw [ZumoDelivery.irProximityHandler, whenDue_of_due _ due]
  dsimp only [getTime]
  split
  · rename_i first
    exact .irLeft first
  · rename_i second
    have second : s.locals.proxyFirst = false := Bool.eq_false_of_not_eq_true second
    split
    · rename_i single
      exact .irOnce second single
    · rename_i periodic
      exact .irAgain second (Bool.eq_false_of_not_eq_true periodic)

theorem objAvoidanceHandler (due : s.flags.mfObjAvoidance.due env s = true) :
    Execution env s .objAvoidance (objAvoidanceHandler env s) := by
  rw [ZumoDelivery.objAvoidanceHandler, whenDue_of_due _ due]
  cases phase : s.avoidance.readState with
  | readL =>
      have here : s.looked.avoidance.readState = .readL := phase
      simp only [runOaTask, here, Bool.not_true, Bool.false_eq_true, ↓reduceIte]
      exact .oaLeft phase
  | readR =>
      have here : s.looked.avoidance.readState = .readR := phase
      simp only [runOaTask, here, Bool.not_true, Bool.false_eq_true, ↓reduceIte]
      exact .oaRight phase
  | runDsm =>
      have here : s.looked.avoidance.readState = .runDsm := phase
      simp only [runOaTask, here, Bool.not_false, ↓reduceIte, looked_runStateMachine]
      exact .oaDecided phase _ rfl (decision_runStateMachine _ s)

variable {stage : Stage} {after : State F}

theorem usb (execution : Execution env s stage after) :
    ∃ message? : Option UsbMessage, after.usb = queueMessage message? s.usb := by
  cases execution with
  | restart | batteryLow | batteryFine | floatWaiting | loopBegun | timedPwm | distBaseline
  | distDone | distStep | velBaseline | velStep | motorStop | irLeft | oaLeft
  | oaRight => exact ⟨none, rfl⟩
  | oaDecided _ _ _ decision =>
      refine ⟨none, ?_⟩
      cases decision <;> rfl
  | timeOnce | timeAgain | encoderOnce | encoderAgain | batteryOnce | batteryAgain | systemOnce
  | systemAgain => exact ⟨some _, by rw [queueMessage_some, Report.queue_eq]⟩
  | _ => exact ⟨some _, by rw [queueMessage_some]⟩

theorem looks (execution : Execution env s stage after) : s.looks < after.looks := by
  cases execution with
  | distBaseline | velBaseline => exact Nat.lt_add_of_pos_right (show 0 < 4 by decide)
  | oaDecided _ _ _ decision =>
      cases decision <;> exact Nat.lt_add_of_pos_right (show 0 < 2 by decide)
  | _ => exact Nat.lt_add_of_pos_right (Nat.succ_pos _)

end Execution

theorem MsgFlag.not_due_of_inactive (env : Env) (flag : MsgFlag F) (s : State F)
    (inactive : flag.active = false) : flag.due env s = false := by
  rw [← Bool.not_eq_true]
  intro due
  cases inactive.symm.trans ((flag.due_iff env s).mp due).1

def Stage.due (env : Env) (s : State F) : Stage → Bool
  | .usbUpkeep => true
  | .messageHandling => true
  | .restart => s.flags.mfRestart.due env s
  | .batteryTask => s.flags.mfBatteryTask.due env s
  | .sendTime => s.flags.mfSendTime.due env s
  | .timeFloatSend => s.flags.mfTimeFloatSend.due env s
  | .loopTimer => s.flags.mfLoopTimer.due env s
  | .sendEncoder => s.flags.mfSendEncoder.due env s
  | .sendBattery => s.flags.mfSendBattery.due env s
  | .lowBattery => s.flags.mfLowBattery.due env s
  | .timedPwm => s.flags.mfTimedPwm.due env s
  | .sysData => s.flags.mfSysData.due env s
  | .distControl => s.flags.mfMotorDistControl.due env s
  | .velControl => s.flags.mfMotorVelControl.due env s
  | .motorStop => s.flags.mfMotorStop.due env s
  | .irProximity => s.flags.mfIrProximity.due env s
  | .objAvoidance => s.flags.mfObjAvoidance.due env s

/-- All that a statement of the loop can do. -/
inductive LoopStep (env : Env) (s : State F) : Stage → State F → Prop where
  | upkeep (usb : SerialIO) : LoopStep env s .usbUpkeep { s.looked with usb }
  | task (ran : Option Dispatch) (after : State F) (same : (messageHandlingTask env s).2 = ran)
      (step : TaskStep env s ran after) : LoopStep env s .messageHandling after
  | waiting (stage : Stage) (idle : stage.due env s = false) (looks : ℕ)
      (forward : s.looks ≤ looks) (near : looks ≤ s.looks + 1) :
      LoopStep env s stage { s with looks }
  | executed (stage : Stage) (due : stage.due env s = true) (after : State F)
      (execution : Execution env s stage after) : LoopStep env s stage after

theorem loopStep_whenDue {env : Env} {s : State F} {stage : Stage} (flag : Flags F → MsgFlag F)
    (body : State F → State F) (own : stage.due env s = (flag s.flags).due env s)
    (execution : (flag s.flags).due env s = true →
      Execution env s stage (whenDue env flag body s)) :
    LoopStep env s stage (whenDue env flag body s) := by
  cases due : (flag s.flags).due env s with
  | true => exact .executed stage (own.trans due) _ (execution due)
  | false =>
      rcases whenDue_of_not_due body due with same | same
      · rw [same]
        exact .waiting stage (own.trans due) s.looks (Nat.le_refl _) (Nat.le_succ _)
      · rw [same]
        exact .waiting stage (own.trans due) (s.looks + 1) (Nat.le_succ _) (Nat.le_refl _)

theorem loopStep (env : Env) (stage : Stage) (s : State F) :
    LoopStep env s stage (stage.run env s) := by
  cases stage with
  | usbUpkeep =>
      change LoopStep env s .usbUpkeep (usbUpkeepTask env s)
      unfold usbUpkeepTask
      split
      · exact .upkeep _
      · exact .upkeep s.usb
  | messageHandling => exact .task _ _ rfl (taskStep env s)
  | restart => exact loopStep_whenDue _ _ rfl Execution.restartHandler
  | batteryTask => exact loopStep_whenDue _ _ rfl Execution.batteryTaskHandler
  | sendTime => exact loopStep_whenDue _ _ rfl Execution.sendTimeHandler
  | timeFloatSend => exact loopStep_whenDue _ _ rfl Execution.timeFloatSendHandler
  | loopTimer => exact loopStep_whenDue _ _ rfl Execution.loopTimerHandler
  | sendEncoder => exact loopStep_whenDue _ _ rfl Execution.sendEncoderHandler
  | sendBattery => exact loopStep_whenDue _ _ rfl Execution.sendBatteryHandler
  | lowBattery => exact loopStep_whenDue _ _ rfl Execution.lowBatteryHandler
  | timedPwm => exact loopStep_whenDue _ _ rfl Execution.timedPwmHandler
  | sysData => exact loopStep_whenDue _ _ rfl Execution.sysDataHandler
  | distControl => exact loopStep_whenDue _ _ rfl Execution.distControlHandler
  | velControl => exact loopStep_whenDue _ _ rfl Execution.velControlHandler
  | motorStop => exact loopStep_whenDue _ _ rfl Execution.motorStopHandler
  | irProximity => exact loopStep_whenDue _ _ rfl Execution.irProximityHandler
  | objAvoidance => exact loopStep_whenDue _ _ rfl Execution.objAvoidanceHandler

/-- A handler that is not due looks at the clock at most. -/
theorem run_of_waiting {env : Env} {stage : Stage} {s : State F}
    (waiting : stage.due env s = false) :
    ∃ looks, s.looks ≤ looks ∧ looks ≤ s.looks + 1 ∧ stage.run env s = { s with looks } := by
  have step := loopStep env stage s
  generalize stage.run env s = after at step ⊢
  cases step with
  | upkeep => cases waiting
  | task => cases waiting
  | waiting _ _ looks forward near => exact ⟨looks, forward, near, rfl⟩
  | executed _ due => cases waiting.symm.trans due

theorem run_of_due {env : Env} {stage : Stage} {s : State F} (due : stage.due env s = true)
    (notUpkeep : stage ≠ .usbUpkeep) (notTask : stage ≠ .messageHandling) :
    Execution env s stage (stage.run env s) := by
  have step := loopStep env stage s
  generalize stage.run env s = after at step ⊢
  cases step with
  | upkeep => contradiction
  | task => contradiction
  | waiting _ idle => cases idle.symm.trans due
  | executed _ _ _ execution => exact execution

/-- What holds of the state with another clock and other USB buffers, and after every
execution, holds after every statement but the message task. -/
theorem run_rule (env : Env) (stage : Stage) (s : State F) (holds : State F → Prop)
    (notTask : stage ≠ .messageHandling)
    (aside : ∀ usb looks, s.looks ≤ looks → holds { s with usb, looks })
    (executed : ∀ after, stage.due env s = true → Execution env s stage after → holds after) :
    holds (stage.run env s) := by
  have step := loopStep env stage s
  generalize stage.run env s = after at step ⊢
  cases step with
  | upkeep usb => exact aside usb (s.looks + 1) (Nat.le_succ _)
  | task => contradiction
  | waiting stage _ looks forward => exact aside s.usb looks forward
  | executed stage due after execution => exact executed after due execution

end ZumoDelivery
