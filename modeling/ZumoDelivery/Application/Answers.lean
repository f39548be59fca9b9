import ZumoDelivery.Driver.Sending
import ZumoDelivery.Application.MainLoop

set_option autoImplicit false

namespace ZumoDelivery

variable {F : Type} [FloatArith F]

open FloatArith

omit [FloatArith F] in
theorem sendMsg_eq (format : List Char) (cmd : UInt8) (data : List UInt8) (s : State F) :
    sendMsg format cmd data s = s.mapUsb (⟨format, cmd, data⟩ : UsbMessage).send := rfl

/-- A message of a command, a text and some floats. -/
def report (command : UInt8) (text : List Char) (n : ℕ) (floats : List UInt8) : UsbMessage :=
  ⟨textFormat text ++ List.replicate n 'f', command, Ascii.bytes text ++ floats⟩

/-- The reply to a bad argument or an unknown command. -/
def badInput (command : UInt8) : UsbMessage := report command ['?'] 0 []

omit [FloatArith F] in
theorem usb_sendBadInput (command : UInt8) (s : State F) :
    (sendBadInput command s).usb = queueMessage (some (badInput command)) s.usb := by
  rw [sendBadInput, sendMsg_eq, State.mapUsb, queueMessage_some]
  rfl

def batLow (volts : F) : UsbMessage :=
  report (Ascii.ofChar '!') ['B', 'A', 'T', ' ', 'L', 'O', 'W'] 1 (floatBytes volts)

def powerOff (volts : F) : UsbMessage :=
  report (Ascii.ofChar '!') ['P', 'O', 'W', 'E', 'R', ' ', 'O', 'F', 'F'] 1 (floatBytes volts)

/-- What is sent when the battery is too low for 'p' or 'P'. -/
def pwmNotice (volts : F) : UsbMessage :=
  if lt (lit 3.5) volts then batLow volts else powerOff volts

/-- What is sent when the battery is too low for 'd', 'D', 'v', 'V' or 'O'. -/
def driveNotice (volts : F) : UsbMessage :=
  if lt volts (lit 3.0) then batLow volts else powerOff volts

/-- The message that answers a dispatched command, if there is one. -/
def answer (s : State F) (message : Dispatch) : Option UsbMessage :=
  let command := message.command
  let data := message.payload
  let value (offset : ℕ) : F := floatAt data offset
  let positive (offset : ℕ) : Bool := lt (lit 0) (value offset)
  let result (value : F) : UsbMessage := report command [] 1 (floatBytes value)
  let started (targets : Targets F) : UsbMessage := report command targets.text 0 []
  let volts := batteryVoltage s.batteryFilter
  match Ascii.toChar command with
  | '*' => some (result (value 0 * value 4))
  | '/' =>
      if !(le (value 4) (lit 0) && le (lit 0) (value 4)) then some (result (value 0 / value 4))
      else some (badInput command)
  | '+' => some (result (value 0 + value 4))
  | '-' => some (result (value 0 - value 4))
  | 't' =>
      if byteAt data 0 ∈ ([0x00, 0x01, 0x02] : List UInt8) then none
      else some (badInput command)
  | 'T' =>
      if byteAt data 0 ∈ ([0x00, 0x01, 0x02] : List UInt8) ∧ positive 1 then none
      else some (badInput command)
  | 'E' => if positive 0 then none else some (badInput command)
  | 'B' => if positive 0 then none else some (badInput command)
  | 'Q' => if positive 0 then none else some (badInput command)
  | 'I' => if positive 0 then none else some (badInput command)
  | 'G' =>
      if Ascii.toChar (byteAt data 0) = 'O' ∨ Ascii.toChar (byteAt data 0) = 'C' then none
      else some (badInput command)
  | 'p' => if batteryGood s then none else some (pwmNotice volts)
  | 'P' =>
      if batteryGood s then if positive 4 then none else some (badInput command)
      else some (pwmNotice volts)
  | 'd' =>
      if batteryGood s then some (started (distanceTargets (value 0) (value 4)))
      else some (driveNotice volts)
  | 'D' =>
      if batteryGood s then some (started (distanceTargets (value 0) (value 4)))
      else some (driveNotice volts)
  | 'v' =>
      if batteryGood s then some (started (velocityTargets (value 0) (value 4)))
      else some (driveNotice volts)
  | 'V' =>
      if batteryGood s then some (started (velocityTargets (value 0) (value 4)))
      else some (driveNotice volts)
  | 'O' =>
      if batteryGood s then if positive 0 then none else some (badInput command)
      else some (driveNotice volts)
  | _ => none

/-- The motor commands, once their battery and argument checks have passed. -/
inductive DriveCommand (F : Type) where
  | pwm
  | pwmTimed (duration : F)
  | stop
  | distance
  | distanceTimed (duration : F)
  | velocity
  | velocityTimed (duration : F)
  | avoidance (duration : F)
deriving DecidableEq

/-- Every motor command but 's' and 'S'. -/
def DriveCommand.drives : DriveCommand F → Bool
  | .stop => false
  | _ => true

/-- 'd' and 'D'. -/
def DriveCommand.isDistance : DriveCommand F → Bool
  | .distance => true
  | .distanceTimed _ => true
  | _ => false

/-- The motor command that a dispatched message is accepted as, given the filtered
battery voltage. -/
def acceptedBy (batVal : F) (message : Dispatch) : Option (DriveCommand F) :=
  let argument (offset : ℕ) : F := floatAt message.payload offset
  let good := le (lit 4.75) batVal
  match Ascii.toChar message.command with
  | 'p' => if good then some .pwm else none
  | 'P' =>
      if good then if lt (lit 0) (argument 4) then some (.pwmTimed (argument 4)) else none
      else none
  | 's' => some .stop
  | 'S' => some .stop
  | 'd' => if good then some .distance else none
  | 'D' => if good then some (.distanceTimed (argument 8)) else none
  | 'v' => if good then some .velocity else none
  | 'V' => if good then some (.velocityTimed (argument 8)) else none
  | 'O' =>
      if good then if lt (lit 0) (argument 0) then some (.avoidance (argument 0)) else none
      else none
  | _ => none

def accepted (env : Env) (s : State F) : Option (DriveCommand F) :=
  (messageHandlingTask env s).2.bind (acceptedBy (batteryVoltage s.batteryFilter))

end ZumoDelivery
