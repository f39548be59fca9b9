import ZumoDelivery.Lib.FramedQueue
import ZumoDelivery.Lib.Ascii
import ZumoDelivery.Driver.SerialIO

set_option autoImplicit false

namespace ZumoDelivery

/-- The bytes that `usb_send_msg` queues for one message. -/
def usbFrame (format : List UInt8) (cmd : UInt8) (data : List UInt8) : List UInt8 :=
  (2 + UInt8.ofNat format.length + UInt8.ofNat data.length) :: (format ++ 0 :: cmd :: data)

theorem length_usbFrame (format : List UInt8) (cmd : UInt8) (data : List UInt8) :
    (usbFrame format cmd data).length = 3 + format.length + data.length := by
  simp only [usbFrame, List.length_cons, List.length_append]
  omega

theorem foldl_sendBuffer (values : List UInt8) (usb : SerialIO) :
    values.foldl (fun usb byte => { usb with sendBuffer := rbPushBack usb.sendBuffer byte }) usb =
      { usb with sendBuffer := values.foldl rbPushBack usb.sendBuffer } := by
  induction values generalizing usb with
  | nil => rfl
  | cons value values ih => rw [List.foldl_cons, ih, List.foldl_cons]

/-- A message is pushed byte by byte, without a look at the room there is. -/
theorem usbSendMsg_eq (format : List UInt8) (cmd : UInt8) (data : List UInt8) (usb : SerialIO) :
    usbSendMsg format cmd data usb =
      { usb with sendBuffer := (usbFrame format cmd data).foldl rbPushBack usb.sendBuffer } := by
  simp only [usbSendMsg, usbSendData, usbSendStr, usbSendByte, foldl_sendBuffer, usbFrame,
    List.foldl_cons, List.foldl_append]

/-- The arguments of a `usb_send_msg` call. -/
structure UsbMessage where
  format : List Char
  cmd : UInt8
  data : List UInt8
deriving DecidableEq

namespace UsbMessage

/-- The bytes it queues if there is room. -/
def frame (message : UsbMessage) : List UInt8 :=
  usbFrame (Ascii.bytes message.format) message.cmd message.data

def send (message : UsbMessage) (usb : SerialIO) : SerialIO :=
  usbSendMsg (Ascii.bytes message.format) message.cmd message.data usb

theorem length_frame (message : UsbMessage) :
    message.frame.length = 3 + message.format.length + message.data.length := by
  rw [frame, length_usbFrame, Ascii.length_bytes]

theorem send_eq (message : UsbMessage) (usb : SerialIO) :
    message.send usb =
      { usb with sendBuffer := message.frame.foldl rbPushBack usb.sendBuffer } :=
  usbSendMsg_eq _ _ _ usb

end UsbMessage

/-- The send side with a message queued, if there is one. -/
def queueMessage (message? : Option UsbMessage) (usb : SerialIO) : SerialIO :=
  message?.elim usb fun message => message.send usb

@[simp] theorem queueMessage_some (message : UsbMessage) (usb : SerialIO) :
    queueMessage (some message) usb = message.send usb := rfl

@[simp] theorem queueMessage_none (usb : SerialIO) : queueMessage none usb = usb := rfl

def SerialIO.waiting (usb : SerialIO) : List UInt8 := usb.sendBuffer.toList

theorem waiting_usbSendMsg (format : List UInt8) (cmd : UInt8) (data : List UInt8)
    (usb : SerialIO) :
    (usbSendMsg format cmd data usb).waiting =
      BoundedQueue.pushAll 63 usb.waiting (usbFrame format cmd data) := by
  rw [usbSendMsg_eq]
  exact toList_foldl_rbPushBack (by decide) usb.sendBuffer _

theorem waiting_usbSendMsg_of_room (format : List UInt8) (cmd : UInt8) (data : List UInt8)
    (usb : SerialIO)
    (room : usb.waiting.length + (usbFrame format cmd data).length ≤ 63) :
    (usbSendMsg format cmd data usb).waiting = usb.waiting ++ usbFrame format cmd data := by
  rw [waiting_usbSendMsg]
  exact BoundedQueue.pushAll_of_room _ _ _ room

inductive SendOp where
  | send (format : List UInt8) (cmd : UInt8) (data : List UInt8)
  | write (inReady : Bool)
deriving DecidableEq

def SendOp.run (usb : SerialIO) : SendOp → SerialIO
  | .send format cmd data => usbSendMsg format cmd data usb
  | .write inReady => usbWriteNextByte inReady usb

def sendRun (ops : List SendOp) : SerialIO :=
  ops.foldl SendOp.run (usbInitBuffers serialStatic)

def SendOp.frame? : SendOp → Option (List UInt8)
  | .send format cmd data => some (usbFrame format cmd data)
  | .write _ => none

def sentFrames (ops : List SendOp) : List (List UInt8) := ops.filterMap SendOp.frame?

/-- The calls so far, the bytes waiting and the bytes handed to the host. -/
def sendState (ops : List SendOp) : FramedQueue.State UInt8 :=
  ⟨sentFrames ops, (sendRun ops).waiting, (sendRun ops).delivered⟩

theorem inBank_sendRun (ops : List SendOp) : (sendRun ops).inBank = [] := by
  induction ops using List.reverseRecOn with
  | nil => rfl
  | append_singleton ops op ih =>
      rw [sendRun, List.foldl_append, List.foldl_cons, List.foldl_nil]
      change (op.run (sendRun ops)).inBank = []
      cases op with
      | send format cmd data =>
          change (usbSendMsg format cmd data (sendRun ops)).inBank = []
          rw [usbSendMsg_eq]
          exact ih
      | write inReady =>
          change (usbWriteNextByte inReady (sendRun ops)).inBank = []
          unfold usbWriteNextByte
          dsimp only
          split
          · split
            · rfl
            · exact ih
          split
          · split
            · rfl
            · exact ih
          · exact ih

theorem sendState_send (ops : List SendOp) (format : List UInt8) (cmd : UInt8)
    (data : List UInt8) :
    sendState (ops ++ [.send format cmd data]) =
      FramedQueue.push 63 (usbFrame format cmd data) (sendState ops) := by
  have frames : sentFrames (ops ++ [.send format cmd data]) =
      sentFrames ops ++ [usbFrame format cmd data] := by
    rw [sentFrames, List.filterMap_append]
    rfl
  have run : sendRun (ops ++ [.send format cmd data]) =
      usbSendMsg format cmd data (sendRun ops) := by
    rw [sendRun, List.foldl_append]
    rfl
  have waiting := waiting_usbSendMsg format cmd data (sendRun ops)
  have delivered : (usbSendMsg format cmd data (sendRun ops)).delivered =
      (sendRun ops).delivered := by
    rw [usbSendMsg_eq]
  rw [sendState, frames, run, waiting, delivered]
  rfl

theorem usbWriteNextByte_of_nil (inReady : Bool) (usb : SerialIO) (empty : usb.waiting = [])
    (bank : usb.inBank = []) :
    (usbWriteNextByte inReady usb).waiting = [] ∧
      (usbWriteNextByte inReady usb).delivered = usb.delivered := by
  have none : rbLength usb.sendBuffer = 0 := by
    rw [← UInt8.toNat_inj, rbLength_toNat (by decide)]
    exact congrArg List.length empty
  simp only [usbWriteNextByte, none, ne_eq, not_true_eq_false, ↓reduceIte, endpointClearIn, bank,
    List.append_nil]
  split
  · split <;> exact ⟨empty, rfl⟩
  · exact ⟨empty, rfl⟩

theorem usbWriteNextByte_of_cons (inReady : Bool) (usb : SerialIO) (front : UInt8)
    (rest : List UInt8) (stored : usb.waiting = front :: rest) (bank : usb.inBank = []) :
    (usbWriteNextByte inReady usb).waiting = (if inReady then rest else usb.waiting) ∧
      (usbWriteNextByte inReady usb).delivered =
        if inReady then usb.delivered ++ [front] else usb.delivered := by
  have some : rbLength usb.sendBuffer ≠ 0 := by
    intro none
    have length := rbLength_toNat (by decide) usb.sendBuffer
    rw [none, show usb.sendBuffer.toList = front :: rest from stored] at length
    cases length
  obtain ⟨value, popped⟩ := rbPopFront_of_cons (by decide) usb.sendBuffer front rest stored
  simp only [usbWriteNextByte, some, ne_eq, not_false_eq_true, ↓reduceIte, endpointClearIn,
    endpointWrite8, bank, List.nil_append, value]
  split
  · exact ⟨popped, rfl⟩
  · exact ⟨rfl, rfl⟩

theorem sendState_write (ops : List SendOp) (inReady : Bool) :
    sendState (ops ++ [.write inReady]) =
      if inReady then FramedQueue.pop (sendState ops) else sendState ops := by
  have frames : sentFrames (ops ++ [.write inReady]) = sentFrames ops := by
    rw [sentFrames, List.filterMap_append]
    exact List.append_nil _
  have run : sendRun (ops ++ [.write inReady]) = usbWriteNextByte inReady (sendRun ops) := by
    rw [sendRun, List.foldl_append]
    rfl
  have bank := inBank_sendRun ops
  cases stored : (sendRun ops).waiting with
  | nil =>
      obtain ⟨waiting, delivered⟩ := usbWriteNextByte_of_nil inReady _ stored bank
      rw [FramedQueue.pop_of_nil (s := sendState ops) stored, ite_self, sendState, frames, run,
        waiting, delivered, ← stored]
      rfl
  | cons front rest =>
      obtain ⟨waiting, delivered⟩ := usbWriteNextByte_of_cons inReady _ front rest stored bank
      rw [FramedQueue.pop_of_cons (s := sendState ops) stored, sendState, frames, run, waiting,
        delivered]
      cases inReady <;> rfl

/-- The `i`-th call finds room for its frame, or overwrites whole frames of which
nothing has been handed over. -/
def HarmlessAt (ops : List SendOp) (i : ℕ) : Prop :=
  ∀ frame ∈ ops[i]?.bind SendOp.frame?, FramedQueue.Harmless 63 frame (sendState (ops.take i))

instance (ops : List SendOp) (i : ℕ) : Decidable (HarmlessAt ops i) :=
  inferInstanceAs (Decidable (∀ _ ∈ _, _))

theorem usbFrame_ne_nil (format : List UInt8) (cmd : UInt8) (data : List UInt8) :
    usbFrame format cmd data ≠ [] :=
  List.cons_ne_nil _ _

theorem intact_sendRun (ops : List SendOp) (harmless : ∀ i < ops.length, HarmlessAt ops i) :
    ∃ next rest kept, FramedQueue.Intact 63 (sendState ops) next rest kept := by
  induction ops using List.reverseRecOn with
  | nil =>
      refine ⟨0, [], [], ?_, ?_, Nat.le_refl _, List.Sublist.refl _, rfl, ?_, ?_⟩
      · intro frame member
        cases member
      · decide
      · exact toList_rbInitialize _
      · intro started
        contradiction
  | append_singleton ops op ih =>
      obtain ⟨next, rest, kept, intact⟩ := ih fun i below => by
        intro frame member
        have within : i < (ops ++ [op]).length := by
          rw [List.length_append]
          exact Nat.lt_add_right _ below
        have same := harmless i within frame
        rw [List.getElem?_append_left below, List.take_append_of_le_length below.le] at same
        exact same member
      cases op with
      | send format cmd data =>
          rw [sendState_send]
          have last := harmless ops.length (by simp) (usbFrame format cmd data)
          rw [List.getElem?_concat_length, List.take_left'] at last
          · obtain ⟨later, rest, intact⟩ :=
              intact.push_of_harmless (usbFrame_ne_nil format cmd data) (last rfl)
            exact ⟨later, rest, kept, intact⟩
          · rfl
      | write inReady =>
          rw [sendState_write]
          split
          · exact intact.pop
          · exact ⟨next, rest, kept, intact⟩

/-- What is handed to the host is always the beginning of whole frames, in call order,
as long as no call overwrites a part of a frame. -/
theorem delivers_of_harmless (ops : List SendOp)
    (harmless : ∀ i < ops.length, HarmlessAt ops i) : FramedQueue.Delivers (sendState ops) := by
  obtain ⟨next, rest, kept, intact⟩ := intact_sendRun ops harmless
  exact intact.delivers

/-- The notice that the battery is off, with 0 volts. -/
def powerOffNotice : SendOp :=
  .send (Ascii.bytes ['c', 'c', 'c', 'c', 'c', 'c', 'c', 'c', 'c', 'c', 'f']) (Ascii.ofChar '!')
    (Ascii.bytes ['P', 'O', 'W', 'E', 'R', ' ', 'O', 'F', 'F'] ++ [0, 0, 0, 0])

theorem delivers_of_harmless_notice :
    FramedQueue.Delivers (sendState [powerOffNotice, .write true, powerOffNotice, .write true]) :=
  delivers_of_harmless _ (by decide +kernel)

/-- The third notice overwrites the beginning of the first. -/
theorem not_delivers :
    ¬ ∀ ops : List SendOp, (∀ frame ∈ sentFrames ops, frame.length ≤ 63) →
      FramedQueue.Delivers (sendState ops) := by
  intro delivers
  have broken := delivers [powerOffNotice, powerOffNotice, powerOffNotice, .write true]
    (by decide +kernel)
  exact absurd broken (by decide +kernel)

end ZumoDelivery
