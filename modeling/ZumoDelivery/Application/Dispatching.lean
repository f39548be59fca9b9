import ZumoDelivery.Application.Intake
import ZumoDelivery.Driver.Receiving

set_option autoImplicit false

namespace ZumoDelivery

variable {F : Type} [FloatArith F]

/-- The length of the message that starts with a byte, 0 if none does. -/
def messageSize (command : UInt8) : ℕ := (messageLen (Ascii.toChar command)).toNat

/-- `MEGN540_Message_Len` agrees with the reads of every case of the `switch`. -/
theorem switchCase_sizes {env : Env} {command : UInt8} {guard : Char} {dataLen : ℕ}
    {body : List UInt8 → State F → State F}
    (found : switchCase env command = some (.read guard dataLen body)) :
    (messageLen guard).toNat = messageSize command ∧ dataLen + 1 = messageSize command ∧
      Ascii.toChar command ≠ '~' := by
  unfold messageSize
  unfold switchCase at found
  split at found
  all_goals cases found
  all_goals
    rename_i char
    rw [char]
    decide

theorem switchCase_restart {env : Env} {command : UInt8}
    (found : switchCase (F := F) env command = some .restart) : Ascii.toChar command = '~' := by
  unfold switchCase at found
  split at found
  all_goals first | assumption | cases found

/-- The `switch` has a case for every command of `MEGN540_Message_Len`. -/
theorem switchCase_none_iff (env : Env) (command : UInt8) :
    switchCase (F := F) env command = none ↔ messageSize command = 0 := by
  unfold switchCase messageSize messageLen
  split
  all_goals rename_i char
  all_goals simp [*]

theorem task_of_nil (env : Env) (s : State F) (empty : s.usb.received = []) :
    messageHandlingTask env s = (s, none) := by
  simp only [messageHandlingTask, (usbMsgLength_eq_zero_iff s.usb).mpr empty, ↓reduceIte]

omit [FloatArith F] in
private theorem length_ne_zero {s : State F} {command : UInt8} {rest : List UInt8}
    (stored : s.usb.received = command :: rest) : usbMsgLength s.usb ≠ 0 := by
  intro empty
  rw [usbMsgLength_eq_zero_iff, stored] at empty
  cases empty

/-- '~' sets the restart flag and stays where it is. -/
theorem task_of_restart (env : Env) (s : State F) (command : UInt8) (rest : List UInt8)
    (stored : s.usb.received = command :: rest) (char : Ascii.toChar command = '~') :
    messageHandlingTask env s =
      ({ s with flags.mfRestart.active := true }, some ⟨command, []⟩) := by
  have found : switchCase (F := F) env command = some .restart := by
    simp only [switchCase, char]
  have long : usbMsgLength s.usb ≥ messageLen '~' := by
    rw [usbMsgLength_ge_iff, stored]
    exact Nat.succ_le_succ (Nat.zero_le _)
  simp only [messageHandlingTask, length_ne_zero stored, usbMsgPeek_of_cons stored, found, long,
    ↓reduceIte]

/-- An unknown byte is echoed and everything received is dropped. -/
theorem task_of_unknown (env : Env) (s : State F) (command : UInt8) (rest : List UInt8)
    (stored : s.usb.received = command :: rest) (unknown : messageSize command = 0) :
    messageHandlingTask env s =
      (sendBadInput command (s.mapUsb usbFlushInputBuffer), none) := by
  have found := (switchCase_none_iff (F := F) env command).mpr unknown
  simp only [messageHandlingTask, length_ne_zero stored, usbMsgPeek_of_cons stored, found,
    ↓reduceIte]

theorem switchCase_of_size (env : Env) (command : UInt8) (known : 0 < messageSize command)
    (notRestart : Ascii.toChar command ≠ '~') :
    ∃ guard dataLen body, switchCase (F := F) env command = some (.read guard dataLen body) := by
  cases found : switchCase (F := F) env command with
  | none =>
      rw [switchCase_none_iff] at found
      omega
  | some messageCase =>
      cases messageCase with
      | restart => exact absurd (switchCase_restart found) notRestart
      | read guard dataLen body => exact ⟨guard, dataLen, body, rfl⟩

theorem task_of_short (env : Env) (s : State F) (command : UInt8) (rest : List UInt8)
    (stored : s.usb.received = command :: rest)
    (short : s.usb.received.length < messageSize command) :
    messageHandlingTask env s = (s, none) := by
  have known : 0 < messageSize command := by omega
  have notRestart : Ascii.toChar command ≠ '~' := by
    intro char
    have single : messageSize command = 1 := by
      rw [messageSize, char]
      rfl
    rw [stored, single, List.length_cons] at short
    omega
  obtain ⟨guard, dataLen, body, found⟩ := switchCase_of_size (F := F) env command known notRestart
  obtain ⟨size, -, -⟩ := switchCase_sizes found
  have waits : ¬ usbMsgLength s.usb ≥ messageLen guard := by
    rw [usbMsgLength_ge_iff, size]
    omega
  simp only [messageHandlingTask, length_ne_zero stored, usbMsgPeek_of_cons stored, found, waits,
    ↓reduceIte]

/-- A complete message is dispatched with its payload and removed. -/
theorem task_of_whole (env : Env) (s : State F) (command : UInt8) (rest : List UInt8)
    (stored : s.usb.received = command :: rest) (known : 0 < messageSize command)
    (notRestart : Ascii.toChar command ≠ '~')
    (whole : messageSize command ≤ s.usb.received.length) :
    ∃ guard dataLen body receiveBuffer,
      switchCase (F := F) env command = some (.read guard dataLen body) ∧
      messageHandlingTask env s =
        (body (rest.take dataLen) { s with usb := { s.usb with receiveBuffer } },
          some ⟨command, rest.take dataLen⟩) ∧
      receiveBuffer.toList = s.usb.received.drop (messageSize command) := by
  obtain ⟨guard, dataLen, body, found⟩ := switchCase_of_size (F := F) env command known notRestart
  obtain ⟨size, payload, -⟩ := switchCase_sizes found
  have long : usbMsgLength s.usb ≥ messageLen guard := by
    rw [usbMsgLength_ge_iff, size]
    exact whole
  obtain ⟨afterCommand, got, left⟩ := usbMsgGet_of_cons stored
  let read : SerialIO := { s.usb with receiveBuffer := afterCommand }
  have received : read.received = rest := left
  have enough : dataLen ≤ read.received.length := by
    rw [stored, List.length_cons] at whole
    rw [received]
    omega
  obtain ⟨receiveBuffer, taken, last⟩ := usbMsgReadInto_of_le dataLen read enough
  rw [received] at taken last
  refine ⟨guard, dataLen, body, receiveBuffer, found, ?_, ?_⟩
  · simp only [messageHandlingTask, length_ne_zero stored, usbMsgPeek_of_cons stored, found,
      long, State.mapUsb, got, ↓reduceIte]
    rw [show usbMsgReadInto dataLen { s.usb with receiveBuffer := afterCommand } = _ from taken]
  · rw [last, stored, ← payload, List.drop_succ_cons]

theorem task_of_case {env : Env} {s : State F} {command : UInt8} {rest : List UInt8}
    {guard : Char} {dataLen : ℕ} {body : List UInt8 → State F → State F}
    (found : switchCase env command = some (.read guard dataLen body))
    (stored : s.usb.received = command :: rest)
    (whole : messageSize command ≤ s.usb.received.length) :
    ∃ receiveBuffer, messageHandlingTask env s =
        (body (rest.take dataLen) { s with usb := { s.usb with receiveBuffer } },
          some ⟨command, rest.take dataLen⟩) ∧
      receiveBuffer.toList = s.usb.received.drop (messageSize command) := by
  obtain ⟨-, payload, notRestart⟩ := switchCase_sizes found
  obtain ⟨_, _, _, receiveBuffer, same, result, left⟩ :=
    task_of_whole env s command rest stored (by omega) notRestart whole
  rw [found] at same
  cases same
  exact ⟨receiveBuffer, result, left⟩

/-- A complete message leaves the receive buffer exactly if it is not a '~'. -/
theorem received_after_task_iff (env : Env) (s : State F) (command : UInt8) (rest : List UInt8)
    (stored : s.usb.received = command :: rest)
    (known : 0 < (messageLen (Ascii.toChar command)).toNat)
    (whole : (messageLen (Ascii.toChar command)).toNat ≤ s.usb.received.length) :
    (messageHandlingTask env s).1.usb.received =
        s.usb.received.drop (messageLen (Ascii.toChar command)).toNat ↔
      Ascii.toChar command ≠ '~' := by
  by_cases char : Ascii.toChar command = '~'
  · have kept : (messageHandlingTask env s).1.usb.received = s.usb.received := by
      rw [task_of_restart env s command rest stored char]
    rw [kept, char, stored]
    simp only [ne_eq, not_true_eq_false, iff_false]
    intro same
    have shorter := congrArg List.length same
    simp only [List.length_cons, List.length_drop] at shorter
    have single : (messageLen '~').toNat = 1 := rfl
    omega
  · obtain ⟨guard, dataLen, body, receiveBuffer, found, result, left⟩ :=
      task_of_whole env s command rest stored known char whole
    have quiet := (caseStep_switchCase found (rest.take dataLen)
      { s with usb := { s.usb with receiveBuffer } }).quiet
    have kept : (body (rest.take dataLen)
        { s with usb := { s.usb with receiveBuffer } }).usb.received = receiveBuffer.toList :=
      congrArg (fun intake : Intake => intake.receiveBuffer.toList) quiet.intake
    simp only [result, kept, left, messageSize, ne_eq, char, not_false_eq_true]

/-- The state after reset with some bytes received. -/
def deviceReceived (bytes : List UInt8) : State F :=
  let reset : State F := deviceReset
  { reset with usb.receiveBuffer := bytes.foldl rbPushBack rbStatic }

theorem received_after_task_iff_stop :
    (messageHandlingTask (Env.bench [] id) (deviceReceived (F := ℚ) [115, 101])).1.usb.received =
        (deviceReceived (F := ℚ) [115, 101]).usb.received.drop
          (messageLen (Ascii.toChar 115)).toNat ↔
      Ascii.toChar 115 ≠ '~' :=
  received_after_task_iff (Env.bench [] id) (deviceReceived (F := ℚ) [115, 101]) 115 [101]
    (by decide +kernel) (by decide) (by decide +kernel)

/-- A lone '~' is still there after its case has run. -/
theorem not_received_after_task :
    ¬ ∀ (env : Env) (s : State ℚ) (command : UInt8) (rest : List UInt8),
      s.usb.received = command :: rest → 0 < (messageLen (Ascii.toChar command)).toNat →
      (messageLen (Ascii.toChar command)).toNat ≤ s.usb.received.length →
      (messageHandlingTask env s).1.usb.received =
        s.usb.received.drop (messageLen (Ascii.toChar command)).toNat := by
  intro removed
  have empty := removed (Env.bench [] id) (deviceReceived [126]) 126 [] (by decide +kernel)
    (by decide) (by decide +kernel)
  exact absurd empty (by decide +kernel)

end ZumoDelivery
