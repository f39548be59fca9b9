import ZumoDelivery.Lib.MessageStream
import ZumoDelivery.Host.Outbox

set_option autoImplicit false

namespace ZumoDelivery

open PyStruct FloatArith

section run

variable (F : Type) [FloatArith F]

def sentAt (env : Env) (time : ℕ) : Option UsbMessage :=
  (stageAt time).bind fun stage => stage.outgoing env (deviceTrace (F := F) env time)

/-- The messages that a run sends, oldest first. -/
def outbox (env : Env) (time : ℕ) : List UsbMessage := (List.range time).filterMap (sentAt F env)

def RoomAt (env : Env) (time : ℕ) : Prop :=
  ∀ message ∈ sentAt F env time,
    (deviceTrace (F := F) env time).usb.waiting.length + message.frame.length ≤ 63

instance (env : Env) (time : ℕ) : Decidable (RoomAt F env time) :=
  inferInstanceAs (Decidable (∀ _ ∈ _, _))

/-- A command that the task at this time does not recognise is ASCII. -/
def EchoesAt (env : Env) (time : ℕ) : Prop :=
  stageAt time = some .messageHandling → EchoesAscii (deviceTrace (F := F) env time)

variable {F} in
omit [FloatArith F] in
theorem echoesAscii_iff (s : State F) :
    EchoesAscii s ↔ ∀ command ∈ s.usb.received.head?, messageSize command = 0 → command < 128 := by
  constructor
  · intro echoes command member
    obtain ⟨rest, stored⟩ := List.head?_eq_some_iff.mp member
    exact echoes command rest stored
  · intro echoes command rest stored
    exact echoes command (by rw [stored]; rfl)

omit [FloatArith F] in
instance (s : State F) : Decidable (EchoesAscii s) :=
  @decidable_of_iff' _ _ (echoesAscii_iff s) (Option.decidableForallMem _)

instance (env : Env) (time : ℕ) : Decidable (EchoesAt F env time) :=
  inferInstanceAs (Decidable (_ → _))

theorem outbox_succ (env : Env) (time : ℕ) :
    outbox F env (time + 1) = outbox F env time ++ (sentAt F env time).toList := by
  rw [outbox, outbox, List.range_succ, List.filterMap_append]
  cases sent : sentAt F env time <;> simp [sent]

theorem fitting_sentAt (env : Env) (time : ℕ) (echoes : EchoesAt F env time) :
    ∀ message ∈ sentAt F env time, message.Fitting := by
  intro message member
  obtain ⟨stage, here, outgoing⟩ := Option.bind_eq_some_iff.mp member
  refine fitting_outgoing env _ stage ?_ message outgoing
  rintro rfl
  exact echoes here

theorem fitting_outbox (env : Env) (time : ℕ) (echoes : ∀ t < time, EchoesAt F env t) :
    ∀ message ∈ outbox F env time, message.Fitting := by
  intro message member
  obtain ⟨t, inside, sent⟩ := List.mem_filterMap.mp member
  exact fitting_sentAt F env t (echoes t (List.mem_range.mp inside)) message sent

end run

/-- What has been handed to the host and what still waits, behind an empty bank. -/
structure SerialIO.Carries (usb : SerialIO) (stream : List UInt8) : Prop where
  bank : usb.inBank = []
  stream : usb.delivered ++ usb.waiting = stream

theorem SerialIO.Carries.of_outlet {usb other : SerialIO} {stream : List UInt8}
    (carries : other.Carries stream) (same : usb.outlet = other.outlet) :
    usb.Carries stream := by
  obtain ⟨buffer, -, bank, delivered⟩ := Outlet.mk.inj same
  refine ⟨bank.trans carries.bank, ?_⟩
  rw [← carries.stream, delivered, SerialIO.waiting, buffer]
  rfl

theorem carries_queueMessage (message? : Option UsbMessage) {usb : SerialIO}
    {stream : List UInt8} (carries : usb.Carries stream)
    (room : ∀ message ∈ message?, usb.waiting.length + message.frame.length ≤ 63) :
    (queueMessage message? usb).Carries
      (stream ++ (message?.toList.map UsbMessage.frame).flatten) := by
  cases message? with
  | none =>
      rw [queueMessage_none, Option.toList_none, List.map_nil, List.flatten_nil, List.append_nil]
      exact carries
  | some message =>
      have waiting : (message.send usb).waiting = usb.waiting ++ message.frame :=
        waiting_usbSendMsg_of_room _ _ _ usb (room message rfl)
      have sent : message.send usb = { usb with sendBuffer := (message.send usb).sendBuffer } := by
        rw [UsbMessage.send, usbSendMsg_eq]
      rw [queueMessage_some]
      refine ⟨?_, ?_⟩
      · rw [sent]
        exact carries.bank
      · rw [waiting, ← List.append_assoc, sent]
        simp [carries.stream]

theorem carries_usbWriteNextByte (inReady : Bool) {usb : SerialIO} {stream : List UInt8}
    (carries : usb.Carries stream) : (usbWriteNextByte inReady usb).Carries stream := by
  have bank : (usbWriteNextByte inReady usb).inBank = [] := by
    unfold usbWriteNextByte
    repeat' split
    all_goals first
      | rfl
      | exact carries.bank
  refine ⟨bank, ?_⟩
  rw [← carries.stream]
  cases stored : usb.waiting with
  | nil =>
      obtain ⟨waiting, delivered⟩ := usbWriteNextByte_of_nil inReady usb stored carries.bank
      rw [waiting, delivered]
  | cons front rest =>
      obtain ⟨waiting, delivered⟩ :=
        usbWriteNextByte_of_cons inReady usb front rest stored carries.bank
      rw [waiting, delivered, stored]
      cases inReady <;> simp

theorem outlet_usbReadNextByte (offered : Option (List UInt8)) (usb : SerialIO) :
    (usbReadNextByte offered usb).outlet = usb.outlet := by
  have received : (endpointIsOutReceived offered usb).2.outlet = usb.outlet := by
    unfold endpointIsOutReceived
    repeat' split
    all_goals rfl
  have byte (usb : SerialIO) : (endpointRead8 usb).2.outlet = usb.outlet := by
    unfold endpointRead8
    split <;> rfl
  unfold usbReadNextByte
  dsimp only
  split
  · split
    · split
      · exact (byte _).trans received
      · exact (byte _).trans received
    · split
      · exact received
      · exact received
  · exact received

variable {F : Type} [FloatArith F]

omit [FloatArith F] in
theorem carries_usbUpkeepTask (env : Env) (s : State F) {stream : List UInt8}
    (carries : s.usb.Carries stream) : (usbUpkeepTask env s).usb.Carries stream := by
  unfold usbUpkeepTask
  split
  · exact carries_usbWriteNextByte _ (carries.of_outlet (outlet_usbReadNextByte _ _))
  · exact carries

/-- A run with room hands over or keeps just the frames of its messages. -/
theorem carries_deviceTrace (env : Env) (time : ℕ) (room : ∀ t < time, RoomAt F env t) :
    (deviceTrace (F := F) env time).usb.Carries
      ((outbox F env time).map UsbMessage.frame).flatten := by
  induction time with
  | zero => exact ⟨rfl, toList_rbInitialize _⟩
  | succ time ih =>
      have carries := ih fun t below => room t (Nat.lt_succ_of_lt below)
      obtain ⟨stage, here⟩ := stageAt_isSome time
      rw [deviceTrace_succ here, outbox_succ, List.map_append, List.flatten_append]
      have sent : sentAt F env time = stage.outgoing env (deviceTrace (F := F) env time) := by
        rw [sentAt, here, Option.bind_some]
      by_cases upkeep : stage = .usbUpkeep
      · subst upkeep
        rw [sent]
        have silent :
            (Stage.usbUpkeep.outgoing env (deviceTrace (F := F) env time)).toList = [] := rfl
        rw [silent, List.map_nil, List.flatten_nil, List.append_nil]
        exact carries_usbUpkeepTask env _ carries
      · have queued := carries_queueMessage (sentAt F env time) carries
          (room time (Nat.lt_succ_self time))
        rw [sent] at queued ⊢
        exact queued.of_outlet (outlet_run env stage _ upkeep)

def frameSize (length : UInt8) : ℕ := length.toNat + 1

theorem whole_frame {message : UsbMessage} (fits : message.frame.length ≤ 63) :
    MessageStream.Whole frameSize message.frame := by
  refine ⟨_, _, rfl, ?_⟩
  rw [frameSize, UsbMessage.length_byte fits, UsbMessage.length_frame]
  omega

/-- The beginning of a frame keeps the thread waiting for the rest of it. -/
theorem settle_of_pending {s : SerialData} (idle : s.Idle) {message : UsbMessage}
    (fits : message.frame.length ≤ 63) {tail : List UInt8} (part : tail <+: message.frame)
    (pending : MessageStream.Pending frameSize tail) :
    ∃ numBytes rest,
      serialReader.settle (s, tail) = ({ s with dataNumBytes := numBytes }, rest) := by
  cases tail with
  | nil => exact ⟨s.dataNumBytes, [], settle_of_idle idle⟩
  | cons length rest =>
      have first : length.toNat = 2 + message.format.length + message.data.length := by
        obtain ⟨others, joined⟩ := part
        rw [UsbMessage.frame, usbFrame, List.cons_append] at joined
        rw [(List.cons.inj joined).1, UsbMessage.length_byte fits]
      have short : rest.length < length.toNat := by
        have inside := pending length rfl
        rw [frameSize, List.length_cons] at inside
        exact Nat.lt_of_succ_lt_succ inside
      have ascii : length < 128 := by
        have bound := UsbMessage.length_frame message
        rw [UInt8.lt_iff_toNat_lt, first]
        change _ < 128
        omega
      have read := reaches_length idle.toListening [] length rest ascii
      rw [idle.eq] at read
      refine ⟨length.toNat, rest, ?_⟩
      rw [read.settle, StreamReader.settle_of_none (sleeps_short s [] _ rest short),
        SerialData.inFrame, ← idle.fresh]

/-- The first `k` frames are in a stream, and the next one is not. -/
structure FramesIn (frames : List (List UInt8)) (stream : List UInt8) (k : ℕ) : Prop where
  bound : k ≤ frames.length
  inside : (frames.take k).flatten <+: stream
  next : ∀ frame ∈ frames[k]?, stream.length < (frames.take k).flatten.length + frame.length

theorem settle_of_prefix (messages : List UsbMessage)
    (fitting : ∀ message ∈ messages, message.Fitting) {s : SerialData} (idle : s.Idle)
    {stream : List UInt8} (beginning : stream <+: (messages.map UsbMessage.frame).flatten) :
    ∃ k, FramesIn (messages.map UsbMessage.frame) stream k ∧
      let last := (serialReader.settle (s, stream)).1
      last.isRun = true ∧ last.portOpen = true ∧
        last.calls = s.calls ++ (messages.take k).map UsbMessage.values := by
  have whole : ∀ frame ∈ messages.map UsbMessage.frame, MessageStream.Whole frameSize frame := by
    intro frame member
    obtain ⟨message, inside, rfl⟩ := List.mem_map.mp member
    exact whole_frame (fitting message inside).fits
  obtain ⟨k, bound, tail, rfl, pending, -⟩ := MessageStream.prefix_flatten _ whole beginning
  rw [← List.take_append_drop k (messages.map UsbMessage.frame), List.flatten_append,
    List.take_append_drop] at beginning
  have part := pending.part_of_first (fun frame member => whole frame (List.mem_of_mem_drop member))
    ((List.prefix_append_right_inj _).mp beginning)
  have taken : ∀ message ∈ messages.take k, message.Fitting := fun message member =>
    fitting message (List.mem_of_mem_take member)
  obtain ⟨raw, read⟩ := reaches_frames (messages.take k) s idle
    (fun message member => (taken message member).wellFormed)
    (fun message member => (taken message member).fits)
  have ready := idle.called raw ((messages.take k).map UsbMessage.values)
  have settled := (read.extend tail).settle
  rw [List.map_take, List.nil_append] at settled
  refine ⟨k, ⟨bound, List.prefix_append _ _, ?_⟩, ?_⟩
  · intro frame member
    rw [← List.head?_drop] at member
    rw [List.length_append]
    rcases part with rfl | ⟨own, others, split, -, short⟩
    · have filled := (whole frame (List.mem_of_mem_drop (List.mem_of_mem_head? member))).length_pos
      exact Nat.add_lt_add_left filled _
    · rw [split] at member
      cases member
      exact Nat.add_lt_add_left short _
  · rw [settled]
    rcases part with rfl | ⟨own, others, split, inside, -⟩
    · rw [settle_of_idle ready]
      exact ⟨ready.running, ready.opened, rfl⟩
    · have sent : own ∈ messages.map UsbMessage.frame :=
        List.mem_of_mem_drop (split ▸ List.mem_cons_self)
      obtain ⟨message, member, rfl⟩ := List.mem_map.mp sent
      obtain ⟨numBytes, rest, asleep⟩ :=
        settle_of_pending ready (fitting message member).fits inside pending
      rw [asleep]
      exact ⟨ready.running, ready.opened, rfl⟩

/-- As long as every message of a run finds room in the send buffer, the messages that
have wholly been handed over reach the callbacks of the host, in order and each once, at
any pace, and nothing else does. -/
theorem outbox_delivered (env : Env) (time : ℕ) (room : ∀ t < time, RoomAt F env t)
    (echoes : ∀ t < time, EchoesAt F env t) (s : SerialData) (idle : s.Idle)
    (arrivals : List (List UInt8)) (n : ℕ)
    (stream : arrivals.flatten = (deviceTrace (F := F) env time).usb.delivered)
    (enough : 2 * arrivals.flatten.length ≤ n) :
    ∃ k, FramesIn ((outbox F env time).map UsbMessage.frame) arrivals.flatten k ∧
      let last := (serialReader.run (arrivals ++ List.replicate n []) (s, [])).1
      last.isRun = true ∧ last.portOpen = true ∧
        last.calls = s.calls ++ ((outbox F env time).take k).map UsbMessage.values := by
  have carries := (carries_deviceTrace (F := F) env time room).stream
  have beginning : arrivals.flatten <+: ((outbox F env time).map UsbMessage.frame).flatten := by
    rw [stream, ← carries]
    exact List.prefix_append _ _
  rw [run_of_idle idle arrivals n enough]
  exact settle_of_prefix (outbox F env time) (fitting_outbox F env time echoes) idle beginning

set_option maxRecDepth 20000 in
/-- After nine iterations one echo is at the host, and the next one on its way. -/
theorem outbox_delivered_bench :
    ∃ k, FramesIn ((outbox ℚ (Env.bench [120] id) (17 * 9)).map UsbMessage.frame)
        [5, 99, 99, 0, 120, 63, 5, 99] k ∧
      let last := (serialReader.run
        ([[5, 99], [99, 0, 120, 63, 5], [99]] ++ List.replicate 16 []) (dynamicStart, [])).1
      last.isRun = true ∧ last.portOpen = true ∧ last.calls = dynamicStart.calls ++
        ((outbox ℚ (Env.bench [120] id) (17 * 9)).take k).map UsbMessage.values :=
  outbox_delivered (F := ℚ) (Env.bench [120] id) (17 * 9) (by decide +kernel)
    (by decide +kernel) dynamicStart idle_dynamicStart [[5, 99], [99, 0, 120, 63, 5], [99]] 16
    (by decide +kernel) (by decide)

end ZumoDelivery
