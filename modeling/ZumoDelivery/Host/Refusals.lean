import ZumoDelivery.Application.BatteryDiagnosis
import ZumoDelivery.Host.Replies

set_option autoImplicit false

namespace ZumoDelivery

variable {F : Type} [FloatArith F]

open FloatArith

/-- The replies to a command that is not carried out. -/
def refusals (command : UInt8) (volts : F) : List UsbMessage :=
  [badInput command, batLow volts, powerOff volts]

def Diagnosis.message : Diagnosis → F → UsbMessage
  | .batLow => ZumoDelivery.batLow
  | .powerOff => ZumoDelivery.powerOff

/-- The arguments that the command of a letter does not take. -/
def badArgument (F : Type) [FloatArith F] (letter : Char) (data : List UInt8) : Bool :=
  match letter with
  | '/' => le (floatAt data 4 : F) (lit 0) && le (lit 0) (floatAt data 4 : F)
  | 't' => byteAt data 0 ∉ [0, 1, 2]
  | 'T' => byteAt data 0 ∉ [0, 1, 2] || !lt (lit 0) (floatAt data 1 : F)
  | 'E' => !lt (lit 0) (floatAt data 0 : F)
  | 'B' => !lt (lit 0) (floatAt data 0 : F)
  | 'P' => !lt (lit 0) (floatAt data 4 : F)
  | 'Q' => !lt (lit 0) (floatAt data 0 : F)
  | 'I' => !lt (lit 0) (floatAt data 0 : F)
  | 'G' => Ascii.toChar (byteAt data 0) ∉ ['O', 'C']
  | 'O' => !lt (lit 0) (floatAt data 0 : F)
  | _ => false

def replyIf (called : Bool) (message : UsbMessage) : Option UsbMessage :=
  if called then some message else none

/-- The reply to a command that is to be refused. -/
def refusal (command : UInt8) (data : List UInt8) (s : State F) : Option UsbMessage :=
  let letter := Ascii.toChar command
  let volts := batteryVoltage s.batteryFilter
  if messageSize command = 0 then some (badInput command)
  else if letter ∈ driveLetters ∧ batteryGood s = false then
    some ((diagnosisFor letter volts).message volts)
  else replyIf (badArgument F letter data) (badInput command)

theorem length_refusal {command : UInt8} {volts : F} {message : UsbMessage}
    (listed : message ∈ refusals command volts) :
    message.frame.length ∈ [6, 23, 27] := by
  simp only [refusals, List.mem_cons, List.not_mem_nil, or_false] at listed
  rcases listed with rfl | rfl | rfl
  · rw [badInput, length_frame_report]
    decide
  · rw [batLow, length_frame_report, length_floatBytes]
    decide
  · rw [powerOff, length_frame_report, length_floatBytes]
    decide

/-- A command that does not drive is refused for its argument only. -/
theorem refusal_of_still {command : UInt8} {letter : Char} (char : Ascii.toChar command = letter)
    (known : messageLen letter ≠ 0) (still : letter ∉ driveLetters) (data : List UInt8)
    (s : State F) :
    refusal command data s =
      replyIf (badArgument F letter data) (badInput command) := by
  have size : messageSize command ≠ 0 := by
    rw [messageSize, char]
    exact fun zero => known (UInt8.toNat_inj.mp zero)
  simp only [refusal, char, if_neg size, still, false_and, ↓reduceIte]

theorem refusal_of_drive {command : UInt8} {letter : Char} (char : Ascii.toChar command = letter)
    (known : messageLen letter ≠ 0) (drives : letter ∈ driveLetters) (data : List UInt8)
    (s : State F) :
    refusal command data s = if batteryGood s = false then
      some ((diagnosisFor letter (batteryVoltage s.batteryFilter)).message
        (batteryVoltage s.batteryFilter))
      else replyIf (badArgument F letter data) (badInput command) := by
  have size : messageSize command ≠ 0 := by
    rw [messageSize, char]
    exact fun zero => known (UInt8.toNat_inj.mp zero)
  simp only [refusal, char, if_neg size, drives, true_and]

theorem Diagnosis.message_mem (diagnosis : Diagnosis) (command : UInt8) (volts : F) :
    diagnosis.message volts ∈ refusals command volts := by
  cases diagnosis <;> simp [Diagnosis.message, refusals]

theorem refusal_mem {command : UInt8} {data : List UInt8} {s : State F} {reply : UsbMessage}
    (refused : refusal command data s = some reply) :
    reply ∈ refusals command (batteryVoltage s.batteryFilter) := by
  simp only [refusal, replyIf] at refused
  split at refused
  · cases refused
    exact List.mem_cons_self ..
  split at refused
  · cases refused
    exact Diagnosis.message_mem _ _ _
  split at refused
  · cases refused
    exact List.mem_cons_self ..
  · cases refused

/-- The lengths of the messages that carry out a command, which no refusal has. -/
def acceptedLengths : List ℕ := [9, 12, 16]

/-- The answer to a command is its refusal, or something that no refusal looks like. -/
inductive Answered (refusal? : Option UsbMessage) : Option UsbMessage → Prop where
  | refused : Answered refusal? refusal?
  | carriedOut (accepted : refusal? = none) (message : UsbMessage)
      (other : message.frame.length ∈ acceptedLengths) : Answered refusal? (some message)

theorem pwmNotice_eq {letter : Char} (pwm : letter = 'p' ∨ letter = 'P') (volts : F) :
    pwmNotice volts = (diagnosisFor letter volts).message volts := by
  rw [pwmNotice, diagnosisFor, if_pos pwm]
  split <;> rfl

theorem driveNotice_eq {letter : Char} (other : ¬ (letter = 'p' ∨ letter = 'P')) (volts : F) :
    driveNotice volts = (diagnosisFor letter volts).message volts := by
  rw [driveNotice, diagnosisFor, if_neg other]
  split <;> rfl

theorem ite_eq_replyIf {good : Prop} [Decidable good] (bad : Bool) {message : UsbMessage}
    (opposite : good ↔ bad = false) :
    (if good then none else some message) = replyIf bad message := by
  cases bad with
  | true => rw [if_neg (fun here => Bool.noConfusion (opposite.mp here)), replyIf, if_pos rfl]
  | false => rw [if_pos (opposite.mpr rfl), replyIf, if_neg Bool.false_ne_true]

namespace Answered

variable {s : State F} {command : UInt8} {data : List UInt8} {letter : Char}

theorem still (char : Ascii.toChar command = letter) (known : messageLen letter ≠ 0)
    (still : letter ∉ driveLetters)
    (answers : answer s ⟨command, data⟩ =
      replyIf (badArgument F letter data) (badInput command)) :
    Answered (refusal command data s) (answer s ⟨command, data⟩) := by
  rw [answers, refusal_of_still char known still]
  exact .refused

theorem calculated (char : Ascii.toChar command = letter) (known : messageLen letter ≠ 0)
    (still : letter ∉ driveLetters) (good : badArgument F letter data = false) (value : F)
    (sends : answer s ⟨command, data⟩ = some (report command [] 1 (floatBytes value))) :
    Answered (refusal command data s) (answer s ⟨command, data⟩) := by
  rw [sends]
  refine .carriedOut ?_ _ ?_
  · rw [refusal_of_still char known still, good]
    rfl
  · rw [length_frame_report, length_floatBytes]
    decide

theorem divided (char : Ascii.toChar command = '/') :
    Answered (refusal command data s) (answer s ⟨command, data⟩) := by
  have refuses : refusal command data s =
      replyIf (badArgument F '/' data) (badInput command) :=
    refusal_of_still char (by decide) (by decide) data s
  have answers : answer s ⟨command, data⟩ =
      if !badArgument F '/' data then
        some (report command [] 1 (floatBytes (floatAt data 0 / floatAt data 4 : F)))
      else some (badInput command) := by
    simp only [answer, char]
    rfl
  cases bad : badArgument F '/' data with
  | true =>
      rw [bad] at refuses answers
      rw [answers, refuses]
      exact .refused
  | false =>
      rw [bad] at answers
      exact .calculated char (by decide) (by decide) bad _ answers

/-- 'E', 'B', 'Q' and 'I'. -/
theorem periodic (char : Ascii.toChar command = letter) (known : messageLen letter ≠ 0)
    (still : letter ∉ driveLetters)
    (bad : badArgument F letter data = !lt (lit 0) (floatAt data 0 : F))
    (answers : answer s ⟨command, data⟩ =
      if lt (lit 0) (floatAt data 0 : F) then none else some (badInput command)) :
    Answered (refusal command data s) (answer s ⟨command, data⟩) := by
  refine .still char known still (answers.trans (ite_eq_replyIf _ ?_))
  rw [bad, Bool.not_eq_false']

theorem driven (char : Ascii.toChar command = letter) (known : messageLen letter ≠ 0)
    (drives : letter ∈ driveLetters)
    (answers : answer s ⟨command, data⟩ =
      if batteryGood s then replyIf (badArgument F letter data) (badInput command)
      else some ((diagnosisFor letter (batteryVoltage s.batteryFilter)).message
        (batteryVoltage s.batteryFilter))) :
    Answered (refusal command data s) (answer s ⟨command, data⟩) := by
  rw [answers, refusal_of_drive char known drives]
  cases batteryGood s <;> exact .refused

/-- 'd', 'D', 'v' and 'V' say how the car moves. -/
theorem motion (char : Ascii.toChar command = letter) (known : messageLen letter ≠ 0)
    (drives : letter ∈ driveLetters) (good : badArgument F letter data = false)
    (other : ¬ (letter = 'p' ∨ letter = 'P')) {targets : Targets F}
    (text : targets.text = goStraight ∨ targets.text = turnText)
    (answers : answer s ⟨command, data⟩ =
      if batteryGood s then some (report command targets.text 0 [])
      else some (driveNotice (batteryVoltage s.batteryFilter))) :
    Answered (refusal command data s) (answer s ⟨command, data⟩) := by
  have refuses := refusal_of_drive char known drives data s
  cases battery : batteryGood s with
  | true =>
      rw [battery, if_pos rfl] at answers
      rw [battery, if_neg Bool.true_eq_false.mp, good] at refuses
      rw [answers]
      refine .carriedOut refuses _ ?_
      rw [length_frame_report]
      rcases text with same | same
      all_goals
        rw [same]
        decide
  | false =>
      rw [battery, if_neg Bool.false_ne_true, driveNotice_eq other] at answers
      rw [battery, if_pos rfl] at refuses
      rw [answers, refuses]
      exact .refused

end Answered

/-- Every case answers what is to be refused with its refusal, and nothing else. -/
theorem answered_switchCase {env : Env} {command : UInt8} {guard : Char} {dataLen : ℕ}
    {body : List UInt8 → State F → State F}
    (found : switchCase env command = some (.read guard dataLen body)) (data : List UInt8)
    (s : State F) : Answered (refusal command data s) (answer s ⟨command, data⟩) := by
  unfold switchCase at found
  split at found
  all_goals cases found
  all_goals rename_i char
  · exact .calculated char (by decide) (by decide) rfl (floatAt data 0 * floatAt data 4)
      (by simp only [answer, char])
  · exact .divided char
  · exact .calculated char (by decide) (by decide) rfl (floatAt data 0 + floatAt data 4)
      (by simp only [answer, char])
  · exact .calculated char (by decide) (by decide) rfl (floatAt data 0 - floatAt data 4)
      (by simp only [answer, char])
  · exact .still char (by decide) (by decide) <| by
      simp only [answer, char]
      exact ite_eq_replyIf _ (by simp only [badArgument, decide_eq_false_iff_not, not_not])
  · exact .still char (by decide) (by decide) <| by
      simp only [answer, char]
      exact ite_eq_replyIf _ (by simp only [badArgument, Bool.or_eq_false_iff,
        decide_eq_false_iff_not, not_not, Bool.not_eq_false'])
  · exact .still char (by decide) (by decide) (answer_of_silent char (by decide))
  · exact .periodic char (by decide) (by decide) rfl (by simp only [answer, char])
  · exact .still char (by decide) (by decide) (answer_of_silent char (by decide))
  · exact .periodic char (by decide) (by decide) rfl (by simp only [answer, char])
  · exact .driven char (by decide) (by decide) <| by
      simp only [answer, char, pwmNotice_eq (Or.inl rfl)]
      rfl
  · exact .driven char (by decide) (by decide) <| by
      simp only [answer, char, pwmNotice_eq (Or.inr rfl)]
      rw [ite_eq_replyIf (!lt (lit 0) (floatAt data 4 : F)) (by rw [Bool.not_eq_false'])]
      rfl
  · exact .still char (by decide) (by decide) (answer_of_silent char (by decide))
  · exact .still char (by decide) (by decide) (answer_of_silent char (by decide))
  · exact .still char (by decide) (by decide) (answer_of_silent char (by decide))
  · exact .periodic char (by decide) (by decide) rfl (by simp only [answer, char])
  · exact .motion char (by decide) (by decide) rfl (by decide)
      (text_distanceTargets (floatAt data 0) (floatAt data 4)) (by simp only [answer, char])
  · exact .motion char (by decide) (by decide) rfl (by decide)
      (text_distanceTargets (floatAt data 0) (floatAt data 4)) (by simp only [answer, char])
  · exact .motion char (by decide) (by decide) rfl (by decide)
      (text_velocityTargets (floatAt data 0) (floatAt data 4)) (by simp only [answer, char])
  · exact .motion char (by decide) (by decide) rfl (by decide)
      (text_velocityTargets (floatAt data 0) (floatAt data 4)) (by simp only [answer, char])
  · exact .still char (by decide) (by decide) (answer_of_silent char (by decide))
  · exact .periodic char (by decide) (by decide) rfl (by simp only [answer, char])
  · exact .still char (by decide) (by decide) <| by
      simp only [answer, char]
      exact ite_eq_replyIf _ (by simp only [badArgument, decide_eq_false_iff_not, not_not,
        List.mem_cons, List.not_mem_nil, or_false])
  · exact .driven char (by decide) (by decide) <| by
      simp only [answer, char, driveNotice_eq (show ¬ ('O' = 'p' ∨ 'O' = 'P') by decide)]
      rw [ite_eq_replyIf (!lt (lit 0) (floatAt data 0 : F)) (by rw [Bool.not_eq_false'])]
      rfl

theorem refusal_unique {command : UInt8} {volts : F} {message other : UsbMessage}
    (first : message ∈ refusals command volts) (second : other ∈ refusals command volts)
    (same : message.frame.length = other.frame.length) : message = other := by
  have short : (badInput command).frame.length = 6 := by
    rw [badInput, length_frame_report]
    rfl
  have low : (batLow volts).frame.length = 23 := by
    rw [batLow, length_frame_report, length_floatBytes]
    rfl
  have off : (powerOff volts).frame.length = 27 := by
    rw [powerOff, length_frame_report, length_floatBytes]
    rfl
  simp only [refusals, List.mem_cons, List.not_mem_nil, or_false] at first second
  rcases first with rfl | rfl | rfl <;> rcases second with rfl | rfl | rfl <;>
    first
    | rfl
    | exact absurd same (by omega)

theorem CaseStep.of_refusal {env : Env} {s after : State F} {message : Dispatch}
    (step : CaseStep env s message after) {reply : UsbMessage}
    (sends : answer s message = some reply)
    (listed : reply ∈ refusals message.command (batteryVoltage s.batteryFilter)) :
    after = s.mapUsb reply.send := by
  have still {targets : Targets F} (text : targets.text = goStraight ∨ targets.text = turnText)
      (moves : answer s message = some (report message.command targets.text 0 [])) : False := by
    cases sends.symm.trans moves
    have length := length_refusal listed
    rw [length_frame_report] at length
    rcases text with same | same
    all_goals
      rw [same] at length
      exact absurd length (by decide)
  cases step with
  | replied other answers =>
      cases sends.symm.trans answers
      rfl
  | asked _ _ _ silent | gripper _ _ _ silent | pwm silent | pwmTimed _ silent | stop silent
  | avoidance _ silent => cases sends.symm.trans silent
  | distance targets asks moves | distanceTimed targets _ asks moves =>
      exact (still (asks ▸ text_distanceTargets _ _) moves).elim
  | velocity targets asks moves | velocityTimed targets _ asks moves =>
      exact (still (asks ▸ text_velocityTargets _ _) moves).elim

theorem UsbMessage.endIndex_send (message : UsbMessage) (usb : SerialIO) :
    (message.send usb).sendBuffer.endIndex.toNat =
      (usb.sendBuffer.endIndex.toNat + message.frame.length) % 2 ^ 6 := by
  rw [message.send_eq, endIndex_foldl_rbPushBack (by decide)]

/-- The end of the send buffer tells whether there was a refusal and which. -/
theorem Answered.eq_of_sent {command : UInt8} {data : List UInt8} {s : State F}
    {answer? : Option UsbMessage} (answered : Answered (refusal command data s) answer?)
    {message : UsbMessage} (listed : message ∈ refusals command (batteryVoltage s.batteryFilter))
    (sent : (queueMessage answer? s.usb).sendBuffer =
      message.frame.foldl rbPushBack s.usb.sendBuffer) :
    refusal command data s = some message := by
  have moved := congrArg (fun buffer : RingBufferC => buffer.endIndex.toNat) sent
  have start := s.usb.sendBuffer.end_lt
  have length := length_refusal listed
  simp only [endIndex_foldl_rbPushBack (show 6 ≤ 8 by decide), List.mem_cons, List.not_mem_nil,
    or_false] at moved length
  cases answered with
  | refused =>
      cases refuses : refusal command data s with
      | none =>
          rw [refuses, queueMessage_none] at moved
          omega
      | some other =>
          have length' := length_refusal (refusal_mem refuses)
          rw [refuses, queueMessage_some, UsbMessage.endIndex_send] at moved
          simp only [List.mem_cons, List.not_mem_nil, or_false] at length'
          rw [refusal_unique (refusal_mem refuses) listed (by omega)]
  | carriedOut _ other length' =>
      rw [queueMessage_some, UsbMessage.endIndex_send] at moved
      simp only [acceptedLengths, List.mem_cons, List.not_mem_nil, or_false] at length'
      omega

theorem answered_task {env : Env} {s : State F} {command : UInt8} {rest : List UInt8}
    (stored : s.usb.received = command :: rest)
    (whole : messageSize command ≤ s.usb.received.length) :
    Answered (refusal command (rest.take (messageSize command - 1)) s) (taskAnswer env s) := by
  rw [taskAnswer, stored]
  dsimp only
  by_cases unknown : messageSize command = 0
  · have refused : refusal command (rest.take (messageSize command - 1)) s =
        some (badInput command) := if_pos unknown
    rw [if_pos unknown, refused]
    exact .refused
  rw [if_neg unknown]
  by_cases restart : Ascii.toChar command = '~'
  · rw [task_of_restart env s command rest stored restart, Option.bind_some,
      answer_of_silent restart (by decide), refusal_of_still restart (by decide) (by decide)]
    exact .refused
  · obtain ⟨guard, dataLen, body, receiveBuffer, found, result, -⟩ :=
      task_of_whole env s command rest stored (Nat.pos_of_ne_zero unknown) restart whole
    have size : messageSize command - 1 = dataLen := by
      have := (switchCase_sizes found).2.1
      omega
    rw [result, size, Option.bind_some]
    exact answered_switchCase found (rest.take dataLen) s

/-- One call of the task takes the next message away and queues a reply, and that is all. -/
structure OnlyReplies (env : Env) (s : State F) (command : UInt8) (reply : UsbMessage) :
    Prop where
  /-- The whole state but the buffers of the USB is as before. -/
  changed : ∃ receiveBuffer clearBuffer,
    (messageHandlingTask env s).1 = { s with usb := { s.usb with
      receiveBuffer
      clearBuffer
      sendBuffer := reply.frame.foldl rbPushBack s.usb.sendBuffer } } ∧
    if messageSize command = 0 then receiveBuffer.toList = [] ∧ clearBuffer = true
    else receiveBuffer.toList = s.usb.received.drop (messageSize command) ∧
      clearBuffer = s.usb.clearBuffer
  queued : s.usb.waiting.length + reply.frame.length ≤ 63 →
    (messageHandlingTask env s).1.usb.waiting = s.usb.waiting ++ reply.frame

theorem onlyReplies_of_changed {env : Env} {s : State F} {command : UInt8} {reply : UsbMessage}
    (receiveBuffer : RingBufferC) (clearBuffer : Bool)
    (result : (messageHandlingTask env s).1 = { s with usb := { s.usb with
      receiveBuffer
      clearBuffer
      sendBuffer := reply.frame.foldl rbPushBack s.usb.sendBuffer } })
    (left : if messageSize command = 0 then receiveBuffer.toList = [] ∧ clearBuffer = true
      else receiveBuffer.toList = s.usb.received.drop (messageSize command) ∧
        clearBuffer = s.usb.clearBuffer) : OnlyReplies env s command reply := by
  refine ⟨⟨receiveBuffer, clearBuffer, result, left⟩, fun room => ?_⟩
  unfold SerialIO.waiting
  rw [result]
  exact toList_foldl_rbPushBack_of_room (by decide) _ _ (Nat.lt_succ_of_le room)

theorem onlyReplies_of_refusal {env : Env} {s : State F} {command : UInt8} {rest : List UInt8}
    (stored : s.usb.received = command :: rest)
    (whole : messageSize command ≤ s.usb.received.length) {reply : UsbMessage}
    (refused : refusal command (rest.take (messageSize command - 1)) s = some reply) :
    OnlyReplies env s command reply := by
  by_cases unknown : messageSize command = 0
  · have echoed : refusal command (rest.take (messageSize command - 1)) s =
        some (badInput command) := if_pos unknown
    cases echoed.symm.trans refused
    have result : (messageHandlingTask env s).1 =
        (s.mapUsb usbFlushInputBuffer).mapUsb (badInput command).send := by
      rw [task_of_unknown env s command rest stored unknown]
      rfl
    refine onlyReplies_of_changed (rbInitialize s.usb.receiveBuffer) true ?_ ?_
    · rw [result, State.mapUsb, UsbMessage.send_eq]
      rfl
    · rw [if_pos unknown]
      exact ⟨toList_rbInitialize s.usb.receiveBuffer, rfl⟩
  by_cases restart : Ascii.toChar command = '~'
  · rw [refusal_of_still restart (by decide) (by decide)] at refused
    cases refused
  · obtain ⟨guard, dataLen, body, receiveBuffer, found, result, left⟩ :=
      task_of_whole env s command rest stored (Nat.pos_of_ne_zero unknown) restart whole
    have size : messageSize command - 1 = dataLen := by
      have := (switchCase_sizes found).2.1
      omega
    rw [size] at refused
    have answered := answered_switchCase found (rest.take dataLen) s
    rw [refused] at answered
    have sends : answer s ⟨command, rest.take dataLen⟩ = some reply := by
      generalize answer s ⟨command, rest.take dataLen⟩ = answer? at answered
      cases answered with
      | refused => rfl
      | carriedOut accepted => cases accepted
    have step := caseStep_switchCase found (rest.take dataLen)
      { s with usb := { s.usb with receiveBuffer } }
    have changed := step.of_refusal sends (refusal_mem refused)
    refine onlyReplies_of_changed receiveBuffer s.usb.clearBuffer ?_ ?_
    · rw [result]
      dsimp only
      rw [changed, State.mapUsb, UsbMessage.send_eq]
    · rw [if_neg unknown]
      exact ⟨left, rfl⟩

/-- Refused commands are atomic: a bad argument, a low battery and an unknown byte are
answered, and nothing else changes. Nothing else is answered so. -/
theorem refused_atomic (env : Env) (s : State F) (command : UInt8) (rest : List UInt8)
    (stored : s.usb.received = command :: rest)
    (whole : messageSize command ≤ s.usb.received.length) :
    (∀ reply, refusal command (rest.take (messageSize command - 1)) s = some reply →
      reply ∈ refusals command (batteryVoltage s.batteryFilter) ∧
        OnlyReplies env s command reply) ∧
    ∀ message ∈ refusals command (batteryVoltage s.batteryFilter),
      (messageHandlingTask env s).1.usb.sendBuffer =
        message.frame.foldl rbPushBack s.usb.sendBuffer →
      refusal command (rest.take (messageSize command - 1)) s = some message := by
  constructor
  · intro reply refused
    exact ⟨refusal_mem refused, onlyReplies_of_refusal stored whole refused⟩
  · intro message listed sent
    have answered : Answered (refusal command (rest.take (messageSize command - 1)) s)
        (taskAnswer env s) := answered_task stored whole
    have same := congrArg Outlet.sendBuffer (outlet_messageHandlingTask env s)
    exact answered.eq_of_sent listed (same.symm.trans sent)

/-- A robot that turns away from an obstacle and reports its position, with another reply
still to be sent. -/
def deviceTurning (voltage : ℚ) (bytes : List UInt8) : State ℚ :=
  let device := deviceAt voltage bytes
  { device with
    usb.sendBuffer := [7, 8].foldl rbPushBack rbStatic
    flags.mfObjAvoidance := ⟨true, 40, ⟨12, 3⟩⟩
    flags.mfSendEncoder := ⟨true, 250, ⟨11, 900⟩⟩
    motors := motorPwmEnable true (motorPwmRight ℚ 30 (motorPwmLeft ℚ (-20) device.motors))
    ctrLeftMotor.targetVel := 0.07
    ctrRightMotor.targetVel := 0.26
    encoders := ⟨1200, -35⟩
    avoidance := ⟨.readR, .turnLeft, 0⟩ }

/-- One and zero, and the first byte of another message. -/
def zeroDivisor : List UInt8 := [0, 0, 128, 63, 0, 0, 0, 0, 101]

/-- An unknown byte, a division by zero, and 'p' and 'd' at 4.0 V. -/
theorem refused_atomic_turning :
    OnlyReplies (Env.bench [] id) (deviceTurning 6 [200, 101]) 200 (badInput 200) ∧
    OnlyReplies (Env.bench [] id) (deviceTurning 6 (47 :: zeroDivisor)) 47 (badInput 47) ∧
    OnlyReplies (Env.bench [] id) (deviceTurning 4 (112 :: onePayload)) 112 (batLow (4 : ℚ)) ∧
    OnlyReplies (Env.bench [] id) (deviceTurning 4 (100 :: onePayload)) 100
      (powerOff (4 : ℚ)) := by
  refine ⟨?_, ?_, ?_, ?_⟩
  · exact ((refused_atomic (Env.bench [] id) (deviceTurning 6 [200, 101]) 200 [101]
      (by decide +kernel) (by decide +kernel)).1 _ (by decide +kernel)).2
  · exact ((refused_atomic (Env.bench [] id) (deviceTurning 6 (47 :: zeroDivisor)) 47 zeroDivisor
      (by decide +kernel) (by decide +kernel)).1 _ (by decide +kernel)).2
  · exact ((refused_atomic (Env.bench [] id) (deviceTurning 4 (112 :: onePayload)) 112 onePayload
      (by decide +kernel) (by decide +kernel)).1 _ (by decide +kernel)).2
  · exact ((refused_atomic (Env.bench [] id) (deviceTurning 4 (100 :: onePayload)) 100 onePayload
      (by decide +kernel) (by decide +kernel)).1 _ (by decide +kernel)).2

end ZumoDelivery
