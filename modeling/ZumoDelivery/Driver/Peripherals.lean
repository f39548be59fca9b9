import Mathlib.Tactic.Common
import Mathlib.Data.Nat.Notation

set_option autoImplicit false

namespace ZumoDelivery

/-- `Time_t`. -/
structure Time where
  millisec : UInt32
  microsec : UInt16
deriving DecidableEq

/-- One sample of `_count_ms` and `TCNT0`: 64 timer clocks of 0.0625 us a count. -/
def timeOfCounts (countMs : UInt32) (tcnt0 : UInt8) : Time :=
  { millisec := countMs, microsec := tcnt0.toUInt16 * 4 }

/-- The subtraction of `SecondsSince`, field by field. -/
def Time.since (current start : Time) : Time :=
  { millisec := current.millisec - start.millisec
    microsec := current.microsec - start.microsec }

structure Encoders where
  leftCounts : Int32
  rightCounts : Int32
deriving DecidableEq

def zeroEncoders (_ : Encoders) : Encoders := ⟨0, 0⟩

/-- `eProximitySize`. -/
inductive Side where
  | left
  | right
deriving DecidableEq

structure Proximity where
  countLeft : UInt16
  countRight : UInt16
deriving DecidableEq

structure ProximityReturn where
  count : UInt16
  side : Side
deriving DecidableEq

def proxyInit : Proximity := ⟨0, 0⟩

/-- The counting part of `IRRead`: `hits` are the sensor's answers at the two
brightness levels, lowest first. -/
def irRead (side : Side) (hits : List Bool) (proximity : Proximity) : Proximity :=
  let count := UInt16.ofNat (hits.count true)
  match side with
  | .left => { proximity with countLeft := count }
  | .right => { proximity with countRight := count }

def irCounts (proximity : Proximity) : ProximityReturn :=
  if proximity.countLeft ≥ proximity.countRight then ⟨proximity.countLeft, .left⟩
  else ⟨proximity.countRight, .right⟩

/-- `eLEDLights`. -/
inductive Led where
  | red
  | green
  | blue
deriving DecidableEq

/-- The pin of PORTD that drives a light. -/
def Led.pin : Led → UInt8
  | .red => 0b00100000
  | .green => 0b00000001
  | .blue => 0b00001000

def setLed (led : Led) (on : Bool) (portD : UInt8) : UInt8 :=
  if on then portD ||| led.pin else portD &&& ~~~led.pin

inductive GripperState where
  | opened
  | closed
deriving DecidableEq

/-- The compare and TOP values of Timer 4, and the port of the lights. -/
structure Gripper where
  ocr4a : UInt8
  ocr4c : UInt8
  portD : UInt8
deriving DecidableEq

def setLeds (state : GripperState) (portD : UInt8) : UInt8 :=
  match state with
  | .opened => setLed .blue false (setLed .green true portD)
  | .closed => setLed .green false (setLed .blue true portD)

/-- `DUTY_CYCLE_OPEN` is 10, `DUTY_CYCLE_CLOSED` is 13 and `MAX_PWM` is 156. -/
def servoPwmInit (state : GripperState) (gripper : Gripper) : Gripper :=
  { ocr4a := match state with
      | .opened => 10
      | .closed => 13
    ocr4c := 156
    portD := setLeds state gripper.portD }

end ZumoDelivery
