import ZumoDelivery.Application.Dispatching
import ZumoDelivery.Application.MessageCases
import ZumoDelivery.Host.Decoding

set_option autoImplicit false

namespace ZumoDelivery

open PyStruct

variable {F : Type} [FloatArith F]

open FloatArith

theorem length_frame_report (command : UInt8) (text : List Char) (n : ℕ) (floats : List UInt8) :
    (report command text n floats).frame.length = 4 + 2 * text.length + n + floats.length := by
  rw [UsbMessage.length_frame]
  simp only [report, textFormat, List.length_append, List.length_cons, List.length_map,
    List.length_replicate, Ascii.length_bytes]
  omega

theorem asciiFields_floats (n : ℕ) (raw : List UInt8) :
    asciiFields (List.replicate n 'f') raw = true := by
  induction n generalizing raw with
  | zero => rfl
  | succ n ih =>
      rw [List.replicate_succ, asciiFields, ih]
      rfl

def asciiText (text : List Char) : Bool := text.all (Ascii.ofChar · < 128)

theorem asciiFields_text (text : List Char) (n : ℕ) (floats : List UInt8)
    (letters : asciiText text = true) :
    asciiFields (text.map (fun _ => 'c') ++ List.replicate n 'f') (Ascii.bytes text ++ floats) =
      true := by
  induction text with
  | nil => exact asciiFields_floats n _
  | cons letter text ih =>
      simp only [asciiText, List.all_cons, Bool.and_eq_true, decide_eq_true_eq] at letters
      obtain ⟨here, others⟩ := letters
      have one : fieldSize 'c' = 1 := rfl
      have rest := ih others
      simp only [Ascii.bytes] at rest
      simp only [Ascii.bytes, List.map_cons, List.cons_append, asciiFields, one,
        List.take_succ_cons, List.take_zero, List.drop_succ_cons, List.drop_zero, rest,
        Bool.and_true]
      simp [here]

theorem wellFormed_report {command : UInt8} {text : List Char} {n : ℕ} {floats : List UInt8}
    (ascii : command < 128) (letters : asciiText text = true)
    (size : floats.length = 4 * n) (short : (report command text n floats).frame.length ≤ 63) :
    (report command text n floats).WellFormed := by
  rw [length_frame_report] at short
  have plain : Plain (report command text n floats).format := by
    intro code member
    simp only [report, textFormat, List.mem_append, List.mem_cons, List.mem_map,
      List.mem_replicate] at member
    rcases member with (rfl | ⟨letter, -, rfl⟩) | ⟨-, rfl⟩
    all_goals decide
  have total : totalFieldSize (report command text n floats).format =
      1 + (report command text n floats).data.length := by
    have one : fieldSize 'c' = 1 ∧ fieldSize 'f' = 4 := by decide
    simp [report, textFormat, totalFieldSize, one, size]
    omega
  refine ⟨rfl, plain, ?_, ?_⟩
  · rw [calcsize_plain plain, total]
    simp only [report, textFormat, List.length_append, List.length_cons, List.length_map,
      List.length_replicate]
    omega
  · have fields := asciiFields_text (Ascii.toChar command :: text) n floats (by
      rw [asciiText] at letters
      rw [asciiText, List.all_cons, letters, Ascii.ofChar_toChar, Bool.and_true]
      exact decide_eq_true ascii)
    simp only [Ascii.bytes, List.map_cons, Ascii.ofChar_toChar] at fields
    exact fields

/-- A message that the host can decode and that fits into an empty send buffer. -/
structure UsbMessage.Fitting (message : UsbMessage) : Prop where
  wellFormed : message.WellFormed
  fits : message.frame.length ≤ 63

theorem fitting_report {command : UInt8} (ascii : command < 128) {text : List Char}
    (letters : asciiText text = true) {n : ℕ} {floats : List UInt8}
    (size : floats.length = 4 * n) (short : 4 + 2 * text.length + 5 * n ≤ 63) :
    (report command text n floats).Fitting := by
  have fits : (report command text n floats).frame.length ≤ 63 := by
    rw [length_frame_report]
    omega
  exact ⟨wellFormed_report ascii letters size fits, fits⟩

theorem length_badInput (command : UInt8) : (badInput command).frame.length ≤ 63 := by
  rw [badInput, length_frame_report]
  decide

theorem fitting_badInput {command : UInt8} (ascii : command < 128) : (badInput command).Fitting :=
  fitting_report ascii (by decide) rfl (by decide)

theorem fitting_batLow (volts : F) : (batLow volts).Fitting :=
  fitting_report (by decide) (by decide) (length_floatBytes volts) (by decide)

theorem fitting_powerOff (volts : F) : (powerOff volts).Fitting :=
  fitting_report (by decide) (by decide) (length_floatBytes volts) (by decide)

theorem fitting_pwmNotice (volts : F) : (pwmNotice volts).Fitting := by
  unfold pwmNotice
  split
  · exact fitting_batLow volts
  · exact fitting_powerOff volts

theorem fitting_driveNotice (volts : F) : (driveNotice volts).Fitting := by
  unfold driveNotice
  split
  · exact fitting_batLow volts
  · exact fitting_powerOff volts

theorem text_distanceTargets (linear angular : F) :
    (distanceTargets linear angular).text = goStraight ∨
      (distanceTargets linear angular).text = turnText := by
  unfold distanceTargets
  split
  · exact Or.inl rfl
  · right
    dsimp only
    repeat' split
    all_goals rfl

theorem text_velocityTargets (velocity angular : F) :
    (velocityTargets velocity angular).text = goStraight ∨
      (velocityTargets velocity angular).text = turnText := by
  unfold velocityTargets
  split
  · exact Or.inl rfl
  · right
    split
    all_goals rfl

theorem fitting_started {command : UInt8} (ascii : command < 128) {text : List Char}
    (known : text = goStraight ∨ text = turnText) : (report command text 0 []).Fitting := by
  rcases known with rfl | rfl
  · exact fitting_report ascii (by decide) rfl (by decide)
  · exact fitting_report ascii (by decide) rfl (by decide)

theorem fitting_answer (s : State F) (message : Dispatch) (ascii : message.command < 128) :
    ∀ reply ∈ answer s message, reply.Fitting := by
  have result (value : F) : (report message.command [] 1 (floatBytes value)).Fitting :=
    fitting_report ascii (by decide) (length_floatBytes value) (by decide)
  have refused := fitting_badInput ascii
  have distance (linear angular : F) := fitting_started ascii (text_distanceTargets linear angular)
  have velocity (linear angular : F) := fitting_started ascii (text_velocityTargets linear angular)
  unfold answer
  dsimp only
  split
  all_goals repeat' split
  all_goals intro reply member
  all_goals cases member
  all_goals first
    | exact refused
    | exact result _
    | exact distance _ _
    | exact velocity _ _
    | exact fitting_pwmNotice _
    | exact fitting_driveNotice _

theorem ascii_of_known {command : UInt8} (known : messageSize command ≠ 0) : command < 128 := by
  rw [← Ascii.ofChar_toChar command]
  unfold messageSize messageLen at known
  split at known
  all_goals
    rename_i char
    first
    | rw [char]
      decide
    | exact absurd rfl known

theorem command_of_dispatched {env : Env} {s : State F} {message : Dispatch}
    (dispatched : (messageHandlingTask env s).2 = some message) :
    s.usb.received.head? = some message.command ∧ messageSize message.command ≠ 0 := by
  cases stored : s.usb.received with
  | nil =>
      rw [task_of_nil env s stored] at dispatched
      cases dispatched
  | cons command rest =>
      by_cases unknown : messageSize command = 0
      · rw [task_of_unknown env s command rest stored unknown] at dispatched
        cases dispatched
      by_cases restart : Ascii.toChar command = '~'
      · rw [task_of_restart env s command rest stored restart] at dispatched
        cases dispatched
        exact ⟨rfl, unknown⟩
      by_cases whole : messageSize command ≤ s.usb.received.length
      · obtain ⟨guard, dataLen, body, receiveBuffer, -, task, -⟩ :=
          task_of_whole env s command rest stored (Nat.pos_of_ne_zero unknown) restart whole
        rw [task] at dispatched
        cases dispatched
        exact ⟨rfl, unknown⟩
      · rw [task_of_short env s command rest stored (not_le.mp whole)] at dispatched
        cases dispatched

/-- The answer of one call of the message task. An unknown command is echoed. -/
def taskAnswer (env : Env) (s : State F) : Option UsbMessage :=
  match s.usb.received with
  | [] => none
  | command :: _ =>
      if messageSize command = 0 then some (badInput command)
      else (messageHandlingTask env s).2.bind (answer s)

/-- The part of SerialIO.c that only sending touches. -/
structure Outlet where
  sendBuffer : RingBufferC
  sending : Bool
  inBank : List UInt8
  delivered : List UInt8

def SerialIO.outlet (usb : SerialIO) : Outlet :=
  ⟨usb.sendBuffer, usb.sending, usb.inBank, usb.delivered⟩

theorem outlet_send (message : UsbMessage) {usb other : SerialIO}
    (same : usb.outlet = other.outlet) :
    (message.send usb).outlet = (message.send other).outlet := by
  obtain ⟨buffer, sending, bank, delivered⟩ := Outlet.mk.inj same
  rw [UsbMessage.send, UsbMessage.send, usbSendMsg_eq, usbSendMsg_eq]
  simp only [buffer, sending, bank, delivered, SerialIO.outlet]

theorem outlet_queueMessage (message? : Option UsbMessage) {usb other : SerialIO}
    (same : usb.outlet = other.outlet) :
    (queueMessage message? usb).outlet = (queueMessage message? other).outlet := by
  cases message? with
  | none => exact same
  | some message =>
      rw [queueMessage_some, queueMessage_some]
      exact outlet_send message same

theorem outlet_messageHandlingTask (env : Env) (s : State F) :
    (messageHandlingTask env s).1.usb.outlet =
      (queueMessage (taskAnswer env s) s.usb).outlet := by
  cases stored : s.usb.received with
  | nil =>
      rw [task_of_nil env s stored, taskAnswer]
      simp only [stored, queueMessage_none]
  | cons command rest =>
      by_cases unknown : messageSize command = 0
      · rw [task_of_unknown env s command rest stored unknown, taskAnswer]
        simp only [stored, unknown, ↓reduceIte]
        rw [usb_sendBadInput]
        have flushed : (s.mapUsb usbFlushInputBuffer).usb.outlet = s.usb.outlet := rfl
        exact outlet_queueMessage (some (badInput command)) flushed
      have answered : taskAnswer env s = (messageHandlingTask env s).2.bind (answer s) := by
        rw [taskAnswer]
        simp only [stored, unknown, ↓reduceIte]
      rw [answered]
      by_cases restart : Ascii.toChar command = '~'
      · rw [task_of_restart env s command rest stored restart]
        rw [Option.bind_some, answer_of_silent restart (by decide), queueMessage_none]
      by_cases whole : messageSize command ≤ s.usb.received.length
      · obtain ⟨guard, dataLen, body, receiveBuffer, found, task, -⟩ :=
          task_of_whole env s command rest stored (Nat.pos_of_ne_zero unknown) restart whole
        have popped : ({ s.usb with receiveBuffer } : SerialIO).outlet = s.usb.outlet := rfl
        rw [task]
        dsimp only [Option.bind_some]
        rw [(caseStep_switchCase found _ _).usb]
        exact outlet_queueMessage (answer s ⟨command, rest.take dataLen⟩) popped
      · rw [task_of_short env s command rest stored (not_le.mp whole)]
        simp only [Option.bind_none, queueMessage_none]

/-- The byte at the front of the receive buffer is ASCII if it is no command. -/
def EchoesAscii (s : State F) : Prop :=
  ∀ command rest, s.usb.received = command :: rest → messageSize command = 0 → command < 128

theorem fitting_taskAnswer (env : Env) (s : State F) (echoes : EchoesAscii s) :
    ∀ reply ∈ taskAnswer env s, reply.Fitting := by
  unfold taskAnswer
  split
  · intro reply member
    cases member
  · rename_i command rest stored
    split
    · rename_i unknown
      intro reply member
      cases member
      exact fitting_badInput (echoes command rest stored unknown)
    · intro reply member
      obtain ⟨message, dispatched, answered⟩ := Option.bind_eq_some_iff.mp member
      have ascii := ascii_of_known (command_of_dispatched dispatched).2
      exact fitting_answer s message ascii reply answered

def State.withSend (buffer : RingBufferC) (s : State F) : State F :=
  { s with usb := { s.usb with sendBuffer := buffer } }

/-- The bytes that one call of the task queues, starting with an empty send buffer. -/
def reply (env : Env) (s : State F) : List UInt8 :=
  (messageHandlingTask env (s.withSend rbStatic)).1.usb.waiting

theorem reply_eq (env : Env) (s : State F) :
    reply env s = (queueMessage (taskAnswer env (s.withSend rbStatic))
      (s.withSend rbStatic).usb).waiting :=
  congrArg (fun outlet => outlet.sendBuffer.toList)
    (outlet_messageHandlingTask env (s.withSend rbStatic))

omit [FloatArith F] in
theorem waiting_withSend (s : State F) : (s.withSend rbStatic).usb.waiting = [] := by
  have empty : RingBuffer.toList (rbStatic : RingBufferC) = [] := by decide +kernel
  exact empty

theorem reply_of_silent {env : Env} {s : State F}
    (silent : taskAnswer env (s.withSend rbStatic) = none) : reply env s = [] := by
  rw [reply_eq, silent, queueMessage_none, waiting_withSend]

theorem reply_of_answer {env : Env} {s : State F} {message : UsbMessage}
    (answers : taskAnswer env (s.withSend rbStatic) = some message)
    (fits : message.frame.length ≤ 63) : reply env s = message.frame := by
  have empty := waiting_withSend s
  rw [reply_eq, answers, queueMessage_some, UsbMessage.send, waiting_usbSendMsg_of_room, empty,
    List.nil_append]
  · rfl
  · rw [empty, List.length_nil, Nat.zero_add]
    exact fits

end ZumoDelivery
