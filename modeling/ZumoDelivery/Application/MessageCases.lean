import ZumoDelivery.Application.Answers

set_option autoImplicit false

namespace ZumoDelivery

variable {F : Type} [FloatArith F]

open FloatArith

/-- The reports that a message can ask for. -/
inductive Request where
  | time
  | timeFloat
  | loopTimer
  | encoder
  | battery
  | system
  | proximity

namespace Request

def letters : Request → List Char
  | time => ['t', 'T']
  | timeFloat => ['t', 'T']
  | loopTimer => ['t', 'T']
  | encoder => ['e', 'E']
  | battery => ['b', 'B']
  | system => ['q', 'Q']
  | proximity => ['i', 'I']

def start (duration : F) (s : State F) : Request → State F
  | time => { s with flags.mfSendTime.active := true, flags.mfSendTime.duration := duration }
  | timeFloat =>
      { s with
        flags.mfTimeFloatSend.active := true
        flags.mfTimeFloatSend.duration := duration }
  | loopTimer => { s with flags.mfLoopTimer.active := true, flags.mfLoopTimer.duration := duration }
  | encoder => startSendEncoder duration s
  | battery => startSendBattery duration s
  | system => startSysData duration s
  | proximity => startIrProximity duration s

end Request

/-- The argument of a 'G' command. -/
def GripperState.letter : GripperState → Char
  | .opened => 'O'
  | .closed => 'C'

theorem acceptedBy_of_other {volts : F} {message : Dispatch} {letter : Char}
    (char : Ascii.toChar message.command = letter)
    (other : letter ∉ ['p', 'P', 's', 'S', 'd', 'D', 'v', 'V', 'O']) :
    acceptedBy volts message = none := by
  subst char
  unfold acceptedBy
  dsimp only
  split
  all_goals first
    | rfl
    | rename_i char
      rw [char] at other
      exact absurd (by decide) other

theorem answer_of_silent {s : State F} {message : Dispatch} {letter : Char}
    (char : Ascii.toChar message.command = letter)
    (silent : letter ∈ ['~', 'e', 'b', 's', 'S', 'q', 'i']) : answer s message = none := by
  subst char
  unfold answer
  dsimp only
  split
  all_goals first
    | rfl
    | rename_i char
      rw [char] at silent
      exact absurd silent (by decide)

/-- All that the body of a case can do with its message: answer it, or accept it as a request,
for the gripper or for the motors. -/
inductive CaseStep (env : Env) (s : State F) (message : Dispatch) : State F → Prop where
  | replied (reply : UsbMessage) (sends : answer s message = some reply)
      (quiet : acceptedBy (batteryVoltage s.batteryFilter) message = none) :
      CaseStep env s message (s.mapUsb reply.send)
  | asked (request : Request) (duration : F)
      (letter : Ascii.toChar message.command ∈ request.letters)
      (silent : answer s message = none)
      (quiet : acceptedBy (batteryVoltage s.batteryFilter) message = none) :
      CaseStep env s message (request.start duration s)
  | gripper (state : GripperState) (letter : Ascii.toChar message.command = 'G')
      (chosen : Ascii.toChar (byteAt message.payload 0) = state.letter)
      (silent : answer s message = none)
      (quiet : acceptedBy (batteryVoltage s.batteryFilter) message = none) :
      CaseStep env s message { s with gripper := servoPwmInit state s.gripper }
  | pwm (silent : answer s message = none)
      (accepts : acceptedBy (batteryVoltage s.batteryFilter) message = some .pwm) :
      CaseStep env s message { s with
        motors := driveMotors (F := F) (intAt message.payload 0) (intAt message.payload 2) s.motors
        flags.mfMotorDistControl.active := false
        flags.mfMotorVelControl.active := false
        flags.mfMotorStop.active := false
        flags.mfTimedPwm.active := false }
  | pwmTimed (duration : F) (silent : answer s message = none)
      (accepts : acceptedBy (batteryVoltage s.batteryFilter) message =
        some (.pwmTimed duration)) :
      CaseStep env s message { s.looked with
        motors := driveMotors (F := F) (intAt message.payload 0) (intAt message.payload 2) s.motors
        flags.mfTimedPwm := ⟨true, duration * lit 1000, (getTime env s).1⟩
        flags.mfMotorDistControl.active := false
        flags.mfMotorVelControl.active := false
        flags.mfMotorStop.active := false }
  | stop (silent : answer s message = none)
      (accepts : acceptedBy (batteryVoltage s.batteryFilter) message = some .stop) :
      CaseStep env s message (caseStop s)
  | distance (targets : Targets F)
      (asks : targets = distanceTargets (floatAt message.payload 0) (floatAt message.payload 4))
      (sends : answer s message = some (report message.command targets.text 0 []))
      (accepts : acceptedBy (batteryVoltage s.batteryFilter) message = some .distance) :
      CaseStep env s message (startDistControl (startMotion message.command targets s))
  | distanceTimed (targets : Targets F) (duration : F)
      (asks : targets = distanceTargets (floatAt message.payload 0) (floatAt message.payload 4))
      (sends : answer s message = some (report message.command targets.text 0 []))
      (accepts : acceptedBy (batteryVoltage s.batteryFilter) message =
        some (.distanceTimed duration)) :
      CaseStep env s message
        (startMotorStop env duration (startDistControl (startMotion message.command targets s)))
  | velocity (targets : Targets F)
      (asks : targets = velocityTargets (floatAt message.payload 0) (floatAt message.payload 4))
      (sends : answer s message = some (report message.command targets.text 0 []))
      (accepts : acceptedBy (batteryVoltage s.batteryFilter) message = some .velocity) :
      CaseStep env s message (startVelControl (startMotion message.command targets s))
  | velocityTimed (targets : Targets F) (duration : F)
      (asks : targets = velocityTargets (floatAt message.payload 0) (floatAt message.payload 4))
      (sends : answer s message = some (report message.command targets.text 0 []))
      (accepts : acceptedBy (batteryVoltage s.batteryFilter) message =
        some (.velocityTimed duration)) :
      CaseStep env s message
        (startMotorStop env duration (startVelControl (startMotion message.command targets s)))
  | avoidance (duration : F) (silent : answer s message = none)
      (accepts : acceptedBy (batteryVoltage s.batteryFilter) message =
        some (.avoidance duration)) :
      CaseStep env s message { resetDriveFlags s with
        avoidance := initObstacleAvoidance
        flags.mfObjAvoidance.active := true
        flags.mfObjAvoidance.duration := duration * lit 1000 }

namespace CaseStep

variable {env : Env} {s : State F} {command : UInt8} {data : List UInt8}

theorem refused (sends : answer s ⟨command, data⟩ = some (badInput command))
    (quiet : acceptedBy (batteryVoltage s.batteryFilter) ⟨command, data⟩ = none) :
    CaseStep env s ⟨command, data⟩ (sendBadInput command s) :=
  .replied (badInput command) sends quiet

theorem pwmNoticed
    (sends : answer s ⟨command, data⟩ = some (pwmNotice (batteryVoltage s.batteryFilter)))
    (quiet : acceptedBy (batteryVoltage s.batteryFilter) ⟨command, data⟩ = none) :
    CaseStep env s ⟨command, data⟩ (pwmBatteryNotice (batteryVoltage s.batteryFilter) s) := by
  have notice : pwmBatteryNotice (batteryVoltage s.batteryFilter) s =
      s.mapUsb (pwmNotice (batteryVoltage s.batteryFilter)).send := by
    rw [pwmBatteryNotice, pwmNotice]
    split <;> rfl
  rw [notice]
  exact .replied _ sends quiet

theorem driveNoticed
    (sends : answer s ⟨command, data⟩ = some (driveNotice (batteryVoltage s.batteryFilter)))
    (quiet : acceptedBy (batteryVoltage s.batteryFilter) ⟨command, data⟩ = none) :
    CaseStep env s ⟨command, data⟩ (driveBatteryNotice (batteryVoltage s.batteryFilter) s) := by
  have notice : driveBatteryNotice (batteryVoltage s.batteryFilter) s =
      s.mapUsb (driveNotice (batteryVoltage s.batteryFilter)).send := by
    rw [driveBatteryNotice, driveNotice]
    split <;> rfl
  rw [notice]
  exact .replied _ sends quiet

theorem calculated {letter : Char} (char : Ascii.toChar command = letter)
    (other : letter ∉ ['p', 'P', 's', 'S', 'd', 'D', 'v', 'V', 'O']) (op : F → F → F)
    (sends : answer s ⟨command, data⟩ =
      some (report command [] 1 (floatBytes (op (floatAt data 0) (floatAt data 4))))) :
    CaseStep env s ⟨command, data⟩ (caseArithmetic command op data s) :=
  .replied (report command [] 1 (floatBytes (op (floatAt data 0) (floatAt data 4)))) sends
    (acceptedBy_of_other char other)

theorem caseDivide (char : Ascii.toChar command = '/') :
    CaseStep env s ⟨command, data⟩ (caseDivide command data s) := by
  have quiet : acceptedBy (batteryVoltage s.batteryFilter) ⟨command, data⟩ = none :=
    acceptedBy_of_other char (by decide)
  unfold ZumoDelivery.caseDivide
  dsimp only
  split
  · rename_i divides
    exact .calculated char (by decide) (· / ·) (by simp only [answer, char]; rw [if_pos divides])
  · rename_i zero
    exact .refused (by simp only [answer, char]; rw [if_neg zero]) quiet

theorem caseTime (char : Ascii.toChar command = 't') :
    CaseStep env s ⟨command, data⟩ (caseTime command data s) := by
  have quiet : acceptedBy (batteryVoltage s.batteryFilter) ⟨command, data⟩ = none :=
    acceptedBy_of_other char (by decide)
  have answered : answer s ⟨command, data⟩ =
      if byteAt data 0 ∈ ([0x00, 0x01, 0x02] : List UInt8) then none
      else some (badInput command) := by
    simp only [answer, char]
  unfold ZumoDelivery.caseTime
  dsimp only
  split
  · rename_i action
    exact .asked .time (lit (-1)) (by rw [char]; decide) (by rw [answered, action]; rfl) quiet
  split
  · rename_i action
    exact .asked .timeFloat (lit (-1)) (by rw [char]; decide) (by rw [answered, action]; rfl) quiet
  split
  · rename_i action
    exact .asked .loopTimer (lit (-1)) (by rw [char]; decide) (by rw [answered, action]; rfl) quiet
  · rename_i zero one two
    exact .refused (by rw [answered, if_neg (by simp [zero, one, two])]) quiet

theorem caseTimePeriodic (char : Ascii.toChar command = 'T') :
    CaseStep env s ⟨command, data⟩ (caseTimePeriodic command data s) := by
  have quiet : acceptedBy (batteryVoltage s.batteryFilter) ⟨command, data⟩ = none :=
    acceptedBy_of_other char (by decide)
  have answered : answer s ⟨command, data⟩ =
      if byteAt data 0 ∈ ([0x00, 0x01, 0x02] : List UInt8) ∧
          lt (lit 0) (floatAt data 1 : F) = true then none
      else some (badInput command) := by
    simp only [answer, char]
  unfold ZumoDelivery.caseTimePeriodic
  dsimp only
  split
  · rename_i action
    exact .asked .time _ (by rw [char]; decide)
      (by rw [answered, if_pos ⟨by simp [action.1], action.2⟩]) quiet
  split
  · rename_i action
    exact .asked .timeFloat _ (by rw [char]; decide)
      (by rw [answered, if_pos ⟨by simp [action.1], action.2⟩]) quiet
  split
  · rename_i action
    exact .asked .loopTimer _ (by rw [char]; decide)
      (by rw [answered, if_pos ⟨by simp [action.1], action.2⟩]) quiet
  · rename_i zero one two
    refine .refused ?_ quiet
    rw [answered, if_neg]
    rintro ⟨action, positive⟩
    simp only [positive, and_true] at zero one two
    simp [zero, one, two] at action

/-- 'E', 'B', 'Q' and 'I'. -/
theorem casePeriodic (request : Request) (letter : Ascii.toChar command ∈ request.letters)
    (quiet : acceptedBy (batteryVoltage s.batteryFilter) ⟨command, data⟩ = none)
    (answered : answer s ⟨command, data⟩ =
      if lt (lit 0) (floatAt data 0 : F) then none else some (badInput command)) :
    CaseStep env s ⟨command, data⟩
      (casePeriodic command (fun duration s => request.start duration s) data s) := by
  unfold ZumoDelivery.casePeriodic
  dsimp only
  split
  · rename_i positive
    exact .asked request _ letter (by rw [answered, if_pos positive]) quiet
  · rename_i negative
    exact .refused (by rw [answered, if_neg negative]) quiet

theorem caseGripper (char : Ascii.toChar command = 'G') :
    CaseStep env s ⟨command, data⟩ (caseGripper data s) := by
  have quiet : acceptedBy (batteryVoltage s.batteryFilter) ⟨command, data⟩ = none :=
    acceptedBy_of_other char (by decide)
  have answered : answer s ⟨command, data⟩ =
      if Ascii.toChar (byteAt data 0) = 'O' ∨ Ascii.toChar (byteAt data 0) = 'C' then none
      else some (badInput command) := by
    simp only [answer, char]
  have own : Ascii.ofChar 'G' = command := by rw [← char, Ascii.ofChar_toChar]
  unfold ZumoDelivery.caseGripper
  rw [own]
  dsimp only
  split
  · rename_i opened
    exact .gripper .opened char opened (by rw [answered, if_pos (Or.inl opened)]) quiet
  split
  · rename_i closed
    exact .gripper .closed char closed (by rw [answered, if_pos (Or.inr closed)]) quiet
  · rename_i notOpened notClosed
    exact .refused (by rw [answered, if_neg (not_or.mpr ⟨notOpened, notClosed⟩)]) quiet

theorem casePwm (char : Ascii.toChar command = 'p') :
    CaseStep env s ⟨command, data⟩ (casePwm data s) := by
  have accepts : acceptedBy (batteryVoltage s.batteryFilter) ⟨command, data⟩ =
      if batteryGood s then some .pwm else none := by
    simp only [acceptedBy, char]
    rfl
  have answered : answer s ⟨command, data⟩ =
      if batteryGood s then none else some (pwmNotice (batteryVoltage s.batteryFilter)) := by
    simp only [answer, char]
  unfold ZumoDelivery.casePwm
  split
  · rename_i good
    exact .pwm (by rw [answered, if_pos good]) (by rw [accepts, if_pos good])
  · rename_i low
    exact .pwmNoticed (by rw [answered, if_neg low]) (by rw [accepts, if_neg low])

theorem casePwmTimed (char : Ascii.toChar command = 'P') :
    CaseStep env s ⟨command, data⟩ (casePwmTimed env command data s) := by
  have accepts : acceptedBy (batteryVoltage s.batteryFilter) ⟨command, data⟩ =
      if batteryGood s then
        if lt (lit 0) (floatAt data 4 : F) then some (.pwmTimed (floatAt data 4)) else none
      else none := by
    simp only [acceptedBy, char]
    rfl
  have answered : answer s ⟨command, data⟩ =
      if batteryGood s then
        if lt (lit 0) (floatAt data 4 : F) then none else some (badInput command)
      else some (pwmNotice (batteryVoltage s.batteryFilter)) := by
    simp only [answer, char]
  unfold ZumoDelivery.casePwmTimed
  dsimp only
  split
  · rename_i good
    rw [if_pos good] at accepts answered
    split
    · rename_i positive
      exact .pwmTimed _ (by rw [answered, if_pos positive]) (by rw [accepts, if_pos positive])
    · rename_i negative
      exact .refused (by rw [answered, if_neg negative]) (by rw [accepts, if_neg negative])
  · rename_i low
    exact .pwmNoticed (by rw [answered, if_neg low]) (by rw [accepts, if_neg low])

/-- 'd', 'D', 'v' and 'V', with what they are accepted as. -/
theorem moving {motor : DriveCommand F} {targets : Targets F} {started : State F}
    (accepts : acceptedBy (batteryVoltage s.batteryFilter) ⟨command, data⟩ =
      if batteryGood s then some motor else none)
    (answered : answer s ⟨command, data⟩ =
      if batteryGood s then some (report command targets.text 0 [])
      else some (driveNotice (batteryVoltage s.batteryFilter)))
    (starts : answer s ⟨command, data⟩ = some (report command targets.text 0 []) →
      acceptedBy (batteryVoltage s.batteryFilter) ⟨command, data⟩ = some motor →
      CaseStep env s ⟨command, data⟩ started) :
    CaseStep env s ⟨command, data⟩ (if batteryGood s then started
      else driveBatteryNotice (batteryVoltage s.batteryFilter) s) := by
  split
  · rename_i good
    exact starts (by rw [answered, if_pos good]) (by rw [accepts, if_pos good])
  · rename_i low
    exact .driveNoticed (by rw [answered, if_neg low]) (by rw [accepts, if_neg low])

theorem caseObjAvoidance (char : Ascii.toChar command = 'O') :
    CaseStep env s ⟨command, data⟩ (caseObjAvoidance command data s) := by
  have accepts : acceptedBy (batteryVoltage s.batteryFilter) ⟨command, data⟩ =
      if batteryGood s then
        if lt (lit 0) (floatAt data 0 : F) then some (.avoidance (floatAt data 0)) else none
      else none := by
    simp only [acceptedBy, char]
    rfl
  have answered : answer s ⟨command, data⟩ =
      if batteryGood s then
        if lt (lit 0) (floatAt data 0 : F) then none else some (badInput command)
      else some (driveNotice (batteryVoltage s.batteryFilter)) := by
    simp only [answer, char]
  unfold ZumoDelivery.caseObjAvoidance
  dsimp only
  split
  · rename_i good
    rw [if_pos good] at accepts answered
    split
    · rename_i positive
      exact .avoidance _ (by rw [answered, if_pos positive]) (by rw [accepts, if_pos positive])
    · rename_i negative
      exact .refused (by rw [answered, if_neg negative]) (by rw [accepts, if_neg negative])
  · rename_i low
    exact .driveNoticed (by rw [answered, if_neg low]) (by rw [accepts, if_neg low])

variable {message : Dispatch} {after : State F}

/-- Without a motor command a case only replies, or starts a report or the gripper. -/
theorem of_quiet (step : CaseStep env s message after)
    (quiet : acceptedBy (batteryVoltage s.batteryFilter) message = none) :
    (∃ usb, after = { s with usb }) ∨
      (∃ (request : Request) (duration : F), after = request.start duration s) ∨
      ∃ state, after = { s with gripper := servoPwmInit state s.gripper } := by
  cases step with
  | replied => exact .inl ⟨_, rfl⟩
  | asked request duration => exact .inr (.inl ⟨request, duration, rfl⟩)
  | gripper state => exact .inr (.inr ⟨state, rfl⟩)
  | pwm _ accepts | pwmTimed _ _ accepts | stop _ accepts | distance _ _ _ accepts
  | distanceTimed _ _ _ _ accepts | velocity _ _ _ accepts | velocityTimed _ _ _ _ accepts
  | avoidance _ _ accepts => cases quiet.symm.trans accepts

theorem usb (step : CaseStep env s message after) :
    after.usb = queueMessage (answer s message) s.usb := by
  have announced (targets : Targets F) : (report message.command targets.text 0 []).send s.usb =
      (startMotion message.command targets s).usb := by
    rw [report, List.replicate_zero, List.append_nil, List.append_nil]
    rfl
  cases step with
  | replied reply sends => rw [sends, queueMessage_some, State.mapUsb]
  | asked request _ _ silent =>
      rw [silent]
      cases request <;> rfl
  | gripper _ _ _ silent => rw [silent, queueMessage_none]
  | pwm silent => rw [silent, queueMessage_none]
  | pwmTimed _ silent => rw [silent, queueMessage_none, State.looked]
  | stop silent =>
      rw [silent, queueMessage_none]
      rfl
  | distance targets _ sends =>
      rw [sends, queueMessage_some, announced]
      rfl
  | distanceTimed targets _ _ sends =>
      rw [sends, queueMessage_some, announced]
      rfl
  | velocity targets _ sends =>
      rw [sends, queueMessage_some, announced]
      rfl
  | velocityTimed targets _ _ sends =>
      rw [sends, queueMessage_some, announced]
      rfl
  | avoidance _ silent =>
      rw [silent, queueMessage_none]
      rfl

theorem looks (step : CaseStep env s message after) :
    after.looks = s.looks ∨ after.looks = s.looks + 1 := by
  cases step with
  | asked request => exact .inl (by cases request <;> rfl)
  | pwmTimed => exact .inr rfl
  | distanceTimed => exact .inr rfl
  | velocityTimed => exact .inr rfl
  | _ => exact .inl rfl

end CaseStep

theorem caseStep_switchCase {env : Env} {command : UInt8} {guard : Char} {dataLen : ℕ}
    {body : List UInt8 → State F → State F}
    (found : switchCase env command = some (.read guard dataLen body)) (data : List UInt8)
    (s : State F) : CaseStep env s ⟨command, data⟩ (body data s) := by
  unfold switchCase at found
  split at found
  all_goals cases found
  all_goals rename_i char
  · exact .calculated char (by decide) (· * ·) (by simp only [answer, char])
  · exact .caseDivide char
  · exact .calculated char (by decide) (· + ·) (by simp only [answer, char])
  · exact .calculated char (by decide) (· - ·) (by simp only [answer, char])
  · exact .caseTime char
  · exact .caseTimePeriodic char
  · exact .asked .encoder _ (by rw [char]; decide) (answer_of_silent char (by decide))
      (acceptedBy_of_other char (by decide))
  · exact .casePeriodic .encoder (by rw [char]; decide) (acceptedBy_of_other char (by decide))
      (by simp only [answer, char])
  · exact .asked .battery _ (by rw [char]; decide) (answer_of_silent char (by decide))
      (acceptedBy_of_other char (by decide))
  · exact .casePeriodic .battery (by rw [char]; decide) (acceptedBy_of_other char (by decide))
      (by simp only [answer, char])
  · exact .casePwm char
  · exact .casePwmTimed char
  · exact .stop (answer_of_silent char (by decide)) (by simp only [acceptedBy, char])
  · exact .stop (answer_of_silent char (by decide)) (by simp only [acceptedBy, char])
  · exact .asked .system _ (by rw [char]; decide) (answer_of_silent char (by decide))
      (acceptedBy_of_other char (by decide))
  · exact .casePeriodic .system (by rw [char]; decide) (acceptedBy_of_other char (by decide))
      (by simp only [answer, char])
  · exact .moving (by simp only [acceptedBy, char]; rfl) (by simp only [answer, char])
      (.distance _ rfl)
  · exact .moving (by simp only [acceptedBy, char]; rfl) (by simp only [answer, char])
      (.distanceTimed _ _ rfl)
  · exact .moving (by simp only [acceptedBy, char]; rfl) (by simp only [answer, char])
      (.velocity _ rfl)
  · exact .moving (by simp only [acceptedBy, char]; rfl) (by simp only [answer, char])
      (.velocityTimed _ _ rfl)
  · exact .asked .proximity _ (by rw [char]; decide) (answer_of_silent char (by decide))
      (acceptedBy_of_other char (by decide))
  · exact .casePeriodic .proximity (by rw [char]; decide) (acceptedBy_of_other char (by decide))
      (by simp only [answer, char])
  · exact .caseGripper char
  · exact .caseObjAvoidance char

/-- All that one call of the task can do: nothing but to take bytes and answer, to ask for a
restart, or to run a case. -/
inductive TaskStep (env : Env) (s : State F) : Option Dispatch → State F → Prop where
  | idle (usb : SerialIO) : TaskStep env s none { s with usb }
  | restart (command : UInt8) (char : Ascii.toChar command = '~') :
      TaskStep env s (some ⟨command, []⟩) { s with flags.mfRestart.active := true }
  | case (message : Dispatch) (usb : SerialIO) (after : State F)
      (step : CaseStep env { s with usb } message after) : TaskStep env s (some message) after

theorem taskStep (env : Env) (s : State F) :
    TaskStep env s (messageHandlingTask env s).2 (messageHandlingTask env s).1 := by
  apply messageHandlingTask_rule env s (fun after ran => TaskStep env s ran after)
  · exact fun usb => .idle usb
  · exact fun command char => .restart command char
  · intro command guard dataLen body data usb found
    exact .case _ usb _ (caseStep_switchCase found data { s with usb })

/-- What holds of a state with other USB buffers, of one that asks for a restart, and after
every case, holds after the task. -/
theorem task_rule (env : Env) (s : State F) (holds : State F → Option Dispatch → Prop)
    (idle : ∀ usb, holds { s with usb } none)
    (restart : ∀ command, Ascii.toChar command = '~' →
      holds { s with flags.mfRestart.active := true } (some ⟨command, []⟩))
    (case : ∀ message usb after, CaseStep env { s with usb } message after →
      holds after (some message)) :
    holds (messageHandlingTask env s).1 (messageHandlingTask env s).2 := by
  have step := taskStep env s
  generalize (messageHandlingTask env s).1 = after at step ⊢
  generalize (messageHandlingTask env s).2 = ran at step ⊢
  cases step with
  | idle usb => exact idle usb
  | restart command char => exact restart command char
  | case message usb after step => exact case message usb after step

theorem task_of_quiet {env : Env} {s : State F} (quiet : accepted env s = none)
    (holds : State F → Prop) (idle : ∀ usb, holds { s with usb })
    (restart : holds { s with flags.mfRestart.active := true })
    (asked : ∀ (request : Request) (duration : F) usb,
      holds (request.start duration { s with usb }))
    (gripper : ∀ state usb, holds { s with usb, gripper := servoPwmInit state s.gripper }) :
    holds (messageHandlingTask env s).1 := by
  revert quiet
  apply task_rule env s fun after ran =>
    ran.bind (acceptedBy (batteryVoltage s.batteryFilter)) = none → holds after
  · exact fun usb _ => idle usb
  · exact fun _ _ _ => restart
  · intro message first after step quiet
    rcases step.of_quiet quiet with ⟨usb, rfl⟩ | ⟨request, duration, rfl⟩ | ⟨state, rfl⟩
    · exact idle usb
    · exact asked request duration first
    · exact gripper state first

end ZumoDelivery
