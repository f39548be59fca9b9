import ZumoDelivery.Lib.MessageStream
import ZumoDelivery.Application.Dispatching

set_option autoImplicit false

namespace ZumoDelivery

open MessageStream

variable {F : Type} [FloatArith F]

def toDispatch (message : List UInt8) : Dispatch := ⟨message.headD 0, message.tail⟩

def dispatchedBefore (F : Type) [FloatArith F] (env : Env) : ℕ → List Dispatch
  | 0 => []
  | n + 1 =>
      dispatchedBefore F env n ++
        (messageHandlingTask env (deviceTrace (F := F) env (17 * n + 1))).2.toList

/-- The reference parser: the bytes read so far, packet by packet, cut into messages. -/
def parse (usb : SerialIO) : Cut UInt8 := cutPackets messageSize usb.out.packetsRead

theorem messageSize_le (command : UInt8) : messageSize command ≤ 13 := by
  unfold messageSize messageLen
  split <;> decide

theorem length_of_pending {stream : List UInt8} (pending : Pending messageSize stream) :
    stream.length ≤ 12 := by
  cases stream with
  | nil => exact Nat.zero_le _
  | cons first others =>
      have short := pending first rfl
      have long := messageSize_le first
      omega

/-- Between two iterations the receive buffer holds what the parser has left over. -/
structure Receiving (usb : SerialIO) : Prop where
  received : usb.received = (parse usb).rest
  clear : usb.clearBuffer = (parse usb).lost
  reading : usb.out.unread = some [] → usb.reading = true
  idle : usb.out.unread = none → usb.out.read = []

def Single (stream : List UInt8) : Prop :=
  Pending messageSize stream ∨ (∃ first, stream = [first] ∧ messageSize first = 0) ∨
    Whole messageSize stream

/-- After a byte has been read the receive buffer holds at most one message, which the
parser has already cut off. -/
structure Arrived (before after : SerialIO) : Prop where
  single : Single after.received
  parsed : parse after =
    { (cut messageSize after.received).after (parse before).messages with
      lost := after.clearBuffer || (cut messageSize after.received).lost }
  reading : after.out.unread = some [] → after.reading = true
  idle : after.out.unread = none → after.out.read = []

theorem single_concat (stream : List UInt8) (byte : UInt8) (pending : Pending messageSize stream) :
    Single (stream ++ [byte]) := by
  cases stream with
  | nil =>
      by_cases unknown : messageSize byte = 0
      · exact Or.inr (Or.inl ⟨byte, rfl, unknown⟩)
      by_cases whole : messageSize byte = 1
      · exact Or.inr (Or.inr ⟨byte, [], rfl, whole.symm⟩)
      · refine Or.inl fun first head => ?_
        cases head
        simp only [List.nil_append, List.length_singleton]
        omega
  | cons first others =>
      have short := pending first rfl
      by_cases whole : (first :: others).length + 1 = messageSize first
      · refine Or.inr (Or.inr ⟨first, others ++ [byte], rfl, ?_⟩)
        rw [List.length_append]
        exact whole
      · refine Or.inl fun front head => ?_
        cases head
        simp only [List.length_append, List.length_singleton]
        omega

theorem Receiving.arrived {usb : SerialIO} (receiving : Receiving usb) : Arrived usb usb := by
  have pending : Pending messageSize usb.received := by
    rw [receiving.received]
    exact pending_cutPackets_rest _
  refine ⟨Or.inl pending, ?_, receiving.reading, receiving.idle⟩
  rw [cut_of_pending pending, receiving.received, receiving.clear, Bool.or_false]
  simp only [Cut.after, List.append_nil]

theorem Receiving.arrived_byte {usb after : SerialIO} (receiving : Receiving usb) (byte : UInt8)
    (rest : List UInt8) (out : after.out = ⟨some rest, usb.out.read ++ [byte], usb.out.cleared⟩)
    (reading : after.reading = true) (clear : after.clearBuffer = usb.clearBuffer)
    (received : after.received =
      if usb.clearBuffer then usb.received else usb.received ++ [byte]) :
    Arrived usb after := by
  have pending : Pending messageSize usb.received := by
    rw [receiving.received]
    exact pending_cutPackets_rest _
  have packets : parse after =
      cutPackets messageSize (usb.out.cleared ++ [usb.out.read ++ [byte]]) := by
    rw [parse, out]
    rfl
  refine ⟨?_, ?_, fun _ => reading, ?_⟩
  · rw [received]
    split
    · exact Or.inl pending
    · exact single_concat _ byte pending
  · cases lost : usb.clearBuffer with
    | true =>
        have spoiled : (parse usb).lost = true := receiving.clear.symm.trans lost
        rw [lost] at received clear
        simp only [↓reduceIte] at received
        rw [packets, cutPackets_concat_append_of_lost _ _ _ spoiled, received, clear,
          cut_of_pending pending, receiving.received, Bool.true_or, ← spoiled]
        simp only [Cut.after, List.append_nil]
        rfl
    | false =>
        have kept : (parse usb).lost = false := receiving.clear.symm.trans lost
        rw [lost] at received clear
        simp only [Bool.false_eq_true, ↓reduceIte] at received
        rw [packets, cutPackets_concat_append _ _ _ kept, received, clear, Bool.false_or,
          receiving.received]
        rfl
  · intro none
    rw [out] at none
    cases none

theorem rbPushBack_of_pending (usb : SerialIO) (byte : UInt8)
    (pending : Pending messageSize usb.received) :
    (rbPushBack usb.receiveBuffer byte).toList = usb.received ++ [byte] := by
  have short := length_of_pending pending
  rw [toList_rbPushBack (by decide)]
  apply BoundedQueue.rtake_eq_self
  change (usb.received ++ [byte]).length ≤ _
  rw [List.length_append, List.length_singleton]
  omega

theorem Receiving.arrived_end {usb : SerialIO} (receiving : Receiving usb) :
    Arrived usb { usb with
      out := ⟨none, [], usb.out.cleared ++ [usb.out.read]⟩
      clearBuffer := false
      reading := true } := by
  have pending : Pending messageSize usb.received := by
    rw [receiving.received]
    exact pending_cutPackets_rest _
  refine ⟨Or.inl pending, ?_, fun _ => rfl, fun _ => rfl⟩
  have packets : parse { usb with
      out := ⟨none, [], usb.out.cleared ++ [usb.out.read]⟩
      clearBuffer := false
      reading := true } = { parse usb with lost := false } :=
    cutPackets_concat_nil usb.out.packetsRead
  rw [packets]
  change _ = { (cut messageSize usb.received).after (parse usb).messages with
    lost := false || (cut messageSize usb.received).lost }
  rw [cut_of_pending pending, receiving.received, Bool.false_or]
  simp only [Cut.after, List.append_nil]

/-- `usb_read_next_byte`, whatever the host does. -/
theorem Receiving.arrived_usbReadNextByte {usb : SerialIO} (receiving : Receiving usb)
    (offered : Option (List UInt8)) (nonempty : ∀ packet ∈ offered, packet ≠ []) :
    Arrived usb (usbReadNextByte offered usb) := by
  cases here : presented offered usb with
  | none =>
      rw [usbReadNextByte_of_none here]
      exact receiving.arrived
  | some packet =>
      cases packet with
      | cons byte rest =>
          rw [usbReadNextByte_of_byte here]
          refine receiving.arrived_byte byte rest rfl rfl rfl ?_
          have pending : Pending messageSize usb.received := by
            rw [receiving.received]
            exact pending_cutPackets_rest _
          cases lost : usb.clearBuffer with
          | true => rfl
          | false => exact rbPushBack_of_pending usb byte pending
      | nil =>
          have unread : usb.out.unread = some [] := by
            unfold presented at here
            cases left : usb.out.unread with
            | some packet => rw [left] at here; exact here
            | none =>
                rw [left] at here
                exact absurd rfl (nonempty [] here)
          rw [usbReadNextByte_of_nil here (receiving.reading unread)]
          exact receiving.arrived_end

structure Handled (before after : SerialIO) (dispatched : Option Dispatch) : Prop where
  dispatched : dispatched.toList = (cut messageSize before.received).messages.map toDispatch
  received : after.received = (cut messageSize before.received).rest
  clear : after.clearBuffer = (before.clearBuffer || (cut messageSize before.received).lost)
  reading : after.reading = before.reading
  out : after.out = before.out

omit [FloatArith F] in
theorem received_of_intake {before after : SerialIO} (same : after.intake = before.intake) :
    after.received = before.received ∧ after.clearBuffer = before.clearBuffer ∧
      after.reading = before.reading ∧ after.out = before.out :=
  ⟨congrArg (fun intake : Intake => intake.receiveBuffer.toList) same,
    congrArg Intake.clearBuffer same, congrArg Intake.reading same, congrArg Intake.out same⟩

theorem handled_of_pending (env : Env) (s : State F)
    (pending : Pending messageSize s.usb.received) :
    Handled s.usb (messageHandlingTask env s).1.usb (messageHandlingTask env s).2 := by
  have idle : messageHandlingTask env s = (s, none) := by
    cases stored : s.usb.received with
    | nil => exact task_of_nil env s stored
    | cons command rest =>
        refine task_of_short env s command rest stored ?_
        exact pending command (by rw [stored]; rfl)
  rw [idle]
  refine ⟨?_, ?_, ?_, rfl, rfl⟩
  all_goals rw [cut_of_pending pending]
  · rfl
  · rw [Bool.or_false]

theorem handled_of_unknown (env : Env) (s : State F) (command : UInt8)
    (stored : s.usb.received = [command]) (unknown : messageSize command = 0) :
    Handled s.usb (messageHandlingTask env s).1.usb (messageHandlingTask env s).2 := by
  obtain ⟨received, clear, reading, out⟩ :=
    received_of_intake (intake_sendBadInput command (s.mapUsb usbFlushInputBuffer))
  rw [task_of_unknown env s command [] stored unknown]
  refine ⟨?_, ?_, ?_, reading, out⟩
  · rw [stored, cut_of_unknown _ _ unknown]
    rfl
  · rw [stored, cut_of_unknown _ _ unknown]
    exact received.trans (toList_rbInitialize _)
  · rw [stored, cut_of_unknown _ _ unknown, Bool.or_true]
    exact clear

theorem handled_of_whole (env : Env) (s : State F) (whole : Whole messageSize s.usb.received)
    (notRestart : Ascii.toChar (s.usb.received.headD 0) ≠ '~') :
    Handled s.usb (messageHandlingTask env s).1.usb (messageHandlingTask env s).2 := by
  have cuts := cut_of_whole whole []
  rw [List.append_nil, cut_nil] at cuts
  obtain ⟨command, rest, stored, length⟩ := whole
  have sized : s.usb.received.length = rest.length + 1 := by rw [stored]; rfl
  rw [stored] at notRestart
  obtain ⟨guard, dataLen, body, receiveBuffer, found, result, left⟩ :=
    task_of_whole env s command rest stored (by omega) notRestart (by omega)
  obtain ⟨size, payload, -⟩ := switchCase_sizes found
  have all : rest.take dataLen = rest := List.take_of_length_le (by omega)
  rw [all] at result
  have quiet := (caseStep_switchCase found rest
    { s with usb := { s.usb with receiveBuffer } }).quiet
  obtain ⟨received, clear, reading, out⟩ := received_of_intake quiet.intake
  rw [result]
  refine ⟨?_, ?_, ?_, reading, out⟩
  · rw [cuts, stored]
    rfl
  · rw [cuts, received]
    change receiveBuffer.toList = []
    rw [left, ← length, List.drop_length]
  · rw [cuts]
    change _ = (s.usb.clearBuffer || false)
    rw [Bool.or_false]
    exact clear

theorem handled_of_single (env : Env) (s : State F) (single : Single s.usb.received)
    (noRestart : ∀ message ∈ (cut messageSize s.usb.received).messages,
      Ascii.toChar (message.headD 0) ≠ '~') :
    Handled s.usb (messageHandlingTask env s).1.usb (messageHandlingTask env s).2 := by
  rcases single with pending | ⟨command, stored, unknown⟩ | whole
  · exact handled_of_pending env s pending
  · exact handled_of_unknown env s command stored unknown
  · have cuts := cut_of_whole whole []
    rw [List.append_nil, cut_nil] at cuts
    apply handled_of_whole env s whole
    apply noRestart
    rw [cuts]
    exact List.mem_cons_self

theorem out_messageHandlingTask (env : Env) (s : State F) :
    (messageHandlingTask env s).1.usb.out = s.usb.out := by
  cases stored : s.usb.received with
  | nil => rw [task_of_nil env s stored]
  | cons command rest =>
      by_cases restart : Ascii.toChar command = '~'
      · rw [task_of_restart env s command rest stored restart]
      by_cases unknown : messageSize command = 0
      · obtain ⟨-, -, -, out⟩ :=
          received_of_intake (intake_sendBadInput command (s.mapUsb usbFlushInputBuffer))
        rw [task_of_unknown env s command rest stored unknown]
        exact out
      by_cases short : s.usb.received.length < messageSize command
      · rw [task_of_short env s command rest stored short]
      · obtain ⟨guard, dataLen, body, receiveBuffer, found, result, left⟩ :=
          task_of_whole env s command rest stored (by omega) restart (by omega)
        have quiet := (caseStep_switchCase found (rest.take dataLen)
          { s with usb := { s.usb with receiveBuffer } }).quiet
        obtain ⟨-, -, -, out⟩ := received_of_intake quiet.intake
        rw [result]
        exact out

theorem Arrived.receiving {before after handled : SerialIO} {dispatched : Option Dispatch}
    (arrived : Arrived before after) (task : Handled after handled dispatched) :
    Receiving handled ∧
      (parse handled).messages.map toDispatch =
        (parse before).messages.map toDispatch ++ dispatched.toList := by
  have same : parse handled = parse after := by
    rw [parse, parse, task.out]
  constructor
  · refine ⟨?_, ?_, ?_, ?_⟩
    · rw [task.received, same, arrived.parsed]
      rfl
    · rw [task.clear, same, arrived.parsed]
    · rw [task.out, task.reading]
      exact arrived.reading
    · rw [task.out]
      exact arrived.idle
  · rw [same, arrived.parsed, task.dispatched, ← List.map_append]
    rfl

theorem parse_of_intake {before after : SerialIO} (same : after.intake = before.intake) :
    parse after = parse before :=
  congrArg (fun intake : Intake => cutPackets messageSize intake.out.packetsRead) same

theorem Receiving.of_intake {before after : SerialIO} (receiving : Receiving before)
    (same : after.intake = before.intake) : Receiving after := by
  obtain ⟨received, clear, reading, out⟩ := received_of_intake same
  have parsed := parse_of_intake same
  refine ⟨?_, ?_, ?_, ?_⟩
  · rw [received, parsed, receiving.received]
  · rw [clear, parsed, receiving.clear]
  · rw [out, reading]
    exact receiving.reading
  · rw [out]
    exact receiving.idle

theorem receiving_mainInit (env : Env) : Receiving (mainInit (F := F) env).usb := by
  refine ⟨?_, rfl, ?_, fun _ => rfl⟩
  · exact toList_rbInitialize _
  · intro unread
    cases unread

omit [FloatArith F] in
theorem arrived_usbUpkeepTask (env : Env) (s : State F) (receiving : Receiving s.usb)
    (nonempty : ∀ look, ∀ packet ∈ env.outPacket look, packet ≠ []) :
    Arrived s.usb (usbUpkeepTask env s).usb := by
  unfold usbUpkeepTask
  split
  · have arrived := receiving.arrived_usbReadNextByte (env.outPacket s.looks) (nonempty _)
    obtain ⟨received, clear, reading, out⟩ := received_of_intake
      (intake_usbWriteNextByte (env.inReady s.looks)
        (usbReadNextByte (env.outPacket s.looks) s.usb))
    have parsed : parse (usbWriteNextByte (env.inReady s.looks)
        (usbReadNextByte (env.outPacket s.looks) s.usb)) = _ :=
      congrArg (fun out : OutEndpoint => cutPackets messageSize out.packetsRead) out
    refine ⟨?_, ?_, ?_, ?_⟩
    · exact received ▸ arrived.single
    · refine parsed.trans (arrived.parsed.trans ?_)
      rw [← received, ← clear]
      rfl
    · exact out ▸ reading ▸ arrived.reading
    · exact out ▸ arrived.idle
  · exact receiving.arrived

/-- The statements behind the message task neither receive nor dispatch. -/
theorem intake_rest_of_iteration (env : Env) (n offset : ℕ) (lower : 2 ≤ offset)
    (upper : offset ≤ 17) :
    (deviceTrace (F := F) env (17 * n + offset)).usb.intake =
      (deviceTrace (F := F) env (17 * n + 2)).usb.intake := by
  induction lower with
  | refl => rfl
  | @step offset lower ih =>
      have above : 2 ≤ offset := lower
      have inside : offset < loopBody.length := upper
      have quiet : ∀ offset, (inside : offset < loopBody.length) → 2 ≤ offset →
          loopBody[offset] ≠ .usbUpkeep ∧ loopBody[offset] ≠ .messageHandling := by
        decide
      obtain ⟨notUpkeep, notTask⟩ := quiet offset inside above
      have next : deviceTrace (F := F) env (17 * n + (offset + 1)) = _ :=
        deviceTrace_succ (stageAt_iteration n offset inside)
      rw [← ih (by omega), next]
      exact (quiet_run env _ _ notUpkeep notTask).intake

theorem prefix_usbReadNextByte (offered : Option (List UInt8)) (usb : SerialIO) :
    (parse usb).messages <+: (parse (usbReadNextByte offered usb)).messages := by
  cases here : presented offered usb with
  | none =>
      exact ⟨[], by rw [usbReadNextByte_of_none here, List.append_nil]⟩
  | some packet =>
      cases packet with
      | cons byte rest =>
          rw [usbReadNextByte_of_byte here]
          exact prefix_cutPackets_concat_append usb.out.cleared usb.out.read [byte]
      | nil =>
          cases reading : usb.reading with
          | true =>
              rw [usbReadNextByte_of_nil here reading]
              change _ <+: (cutPackets messageSize (usb.out.packetsRead ++ [[]])).messages
              rw [cutPackets_concat_nil]
              exact List.prefix_refl _
          | false =>
              simp only [usbReadNextByte, endpointIsOutReceived_of_some here,
                endpointBytesInEndpoint, Option.getD_some, List.length_nil, ne_eq,
                not_true_eq_false, reading, Bool.false_eq_true, ↓reduceIte]
              exact List.prefix_refl _

theorem out_iteration (env : Env) (n : ℕ) :
    (deviceTrace (F := F) env (17 * (n + 1))).usb.out =
      (usbUpkeepTask env (deviceTrace (F := F) env (17 * n))).usb.out := by
  have upkeep : deviceTrace (F := F) env (17 * n + 1) = usbUpkeepTask env _ :=
    deviceTrace_succ (stageAt_iteration n 0 (by decide))
  have task : deviceTrace (F := F) env (17 * n + 2) =
      (messageHandlingTask env (deviceTrace env (17 * n + 1))).1 :=
    deviceTrace_succ (stageAt_iteration n 1 (by decide))
  have last : (deviceTrace (F := F) env (17 * (n + 1))).usb.intake = _ :=
    intake_rest_of_iteration env n 17 (by decide) (Nat.le_refl _)
  refine (congrArg Intake.out last).trans ?_
  rw [task]
  exact (out_messageHandlingTask env _).trans
    (congrArg (fun s : State F => s.usb.out) upkeep)

theorem prefix_iteration (env : Env) (n : ℕ) :
    (parse (deviceTrace (F := F) env (17 * n)).usb).messages <+:
      (parse (deviceTrace (F := F) env (17 * (n + 1))).usb).messages := by
  have out := out_iteration (F := F) env n
  rw [parse, parse, out]
  unfold usbUpkeepTask
  split
  · change _ <+: (parse (usbWriteNextByte _ _)).messages
    rw [parse_of_intake (intake_usbWriteNextByte _ _)]
    exact prefix_usbReadNextByte _ _
  · exact List.prefix_refl _

/-- As long as no '~' is dispatched, the run keeps up with the parser. -/
theorem receiving_run (env : Env) (n : ℕ)
    (nonempty : ∀ look, ∀ packet ∈ env.outPacket look, packet ≠ [])
    (noRestart : ∀ message ∈ (parse (deviceTrace (F := F) env (17 * n)).usb).messages,
      Ascii.toChar (message.headD 0) ≠ '~') :
    Receiving (deviceTrace (F := F) env (17 * n)).usb ∧
      dispatchedBefore F env n =
        (parse (deviceTrace (F := F) env (17 * n)).usb).messages.map toDispatch := by
  induction n with
  | zero => exact ⟨receiving_mainInit env, rfl⟩
  | succ n ih =>
      obtain ⟨receiving, log⟩ := ih fun message member =>
        noRestart message ((prefix_iteration env n).subset member)
      have upkeep : deviceTrace (F := F) env (17 * n + 1) = usbUpkeepTask env _ :=
        deviceTrace_succ (stageAt_iteration n 0 (by decide))
      have task : deviceTrace (F := F) env (17 * n + 2) =
          (messageHandlingTask env (deviceTrace env (17 * n + 1))).1 :=
        deviceTrace_succ (stageAt_iteration n 1 (by decide))
      have arrived : Arrived (deviceTrace (F := F) env (17 * n)).usb
          (deviceTrace (F := F) env (17 * n + 1)).usb :=
        upkeep ▸ arrived_usbUpkeepTask env _ receiving nonempty
      have last : (deviceTrace (F := F) env (17 * (n + 1))).usb.intake =
          (deviceTrace (F := F) env (17 * n + 2)).usb.intake :=
        intake_rest_of_iteration env n 17 (by decide) (Nat.le_refl _)
      rw [task] at last
      have cutOff : parse (deviceTrace (F := F) env (17 * (n + 1))).usb =
          parse (deviceTrace (F := F) env (17 * n + 1)).usb := by
        rw [parse, parse, out_iteration, upkeep]
        rfl
      have handled := handled_of_single env (deviceTrace (F := F) env (17 * n + 1))
        arrived.single fun message member => noRestart message (by
          rw [cutOff, arrived.parsed]
          exact List.mem_append_right _ member)
      obtain ⟨settled, messages⟩ := arrived.receiving handled
      refine ⟨settled.of_intake last, ?_⟩
      rw [dispatchedBefore, log, parse_of_intake last, messages]

/-- After every iteration the messages dispatched so far are those of the reference
parser, whatever the packets and pauses, and the receive buffer holds the beginning of
one message or nothing. A stream of recognised messages is dispatched exactly. -/
theorem dispatched_eq_parse (env : Env) (n : ℕ)
    (nonempty : ∀ look, ∀ packet ∈ env.outPacket look, packet ≠ [])
    (noRestart : ∀ message ∈ (parse (deviceTrace (F := F) env (17 * n)).usb).messages,
      Ascii.toChar (message.headD 0) ≠ '~') :
    let usb := (deviceTrace (F := F) env (17 * n)).usb
    dispatchedBefore F env n = (parse usb).messages.map toDispatch ∧
      usb.received = (parse usb).rest ∧
      Pending messageSize usb.received ∧ usb.received.length ≤ 12 ∧
      ∀ (messages : List (List UInt8)) (tail : List UInt8),
        (∀ message ∈ messages, Whole messageSize message) → Pending messageSize tail →
        usb.out.packetsRead.flatten = messages.flatten ++ tail →
        dispatchedBefore F env n = messages.map toDispatch ∧ usb.received = tail := by
  intro usb
  obtain ⟨receiving, log⟩ := receiving_run env n nonempty noRestart
  have pending : Pending messageSize usb.received := by
    rw [receiving.received]
    exact pending_cutPackets_rest _
  refine ⟨log, receiving.received, pending, length_of_pending pending, ?_⟩
  intro messages tail whole waits stream
  have cuts := cut_flatten messages tail whole waits
  have parsed : parse usb = ⟨messages, tail, false⟩ := by
    rw [← stream] at cuts
    rw [parse, cutPackets_eq_cut _ (by rw [cuts]), cuts]
  rw [log, receiving.received]
  change (parse usb).messages.map toDispatch = _ ∧ (parse usb).rest = tail
  rw [parsed]
  exact ⟨rfl, rfl⟩

set_option maxRecDepth 20000 in
theorem dispatched_eq_parse_bench :
    let usb := (deviceTrace (F := ℚ) (Env.bench (Ascii.bytes ['e', 'z', 'e', 'b']) id) (17 * 8)).usb
    dispatchedBefore ℚ (Env.bench (Ascii.bytes ['e', 'z', 'e', 'b']) id) 8 =
        (parse usb).messages.map toDispatch ∧
      usb.received = (parse usb).rest ∧
      Pending messageSize usb.received ∧ usb.received.length ≤ 12 ∧
      ∀ (messages : List (List UInt8)) (tail : List UInt8),
        (∀ message ∈ messages, Whole messageSize message) → Pending messageSize tail →
        usb.out.packetsRead.flatten = messages.flatten ++ tail →
        dispatchedBefore ℚ (Env.bench (Ascii.bytes ['e', 'z', 'e', 'b']) id) 8 =
          messages.map toDispatch ∧ usb.received = tail := by
  have messages : (parse (deviceTrace (F := ℚ)
      (Env.bench (Ascii.bytes ['e', 'z', 'e', 'b']) id) (17 * 8)).usb).messages =
      [[101], [101]] := by decide +kernel
  refine dispatched_eq_parse (Env.bench (Ascii.bytes ['e', 'z', 'e', 'b']) id) 8 ?_ ?_
  · intro look packet presented
    cases presented
    decide
  · rw [messages]
    intro message member
    simp only [List.mem_cons, List.not_mem_nil, or_false, or_self] at member
    rw [member]
    decide

end ZumoDelivery
