import ZumoDelivery.Driver.SerialIO

set_option autoImplicit false

namespace ZumoDelivery

/-- The unread bytes of the receive buffer, oldest first. -/
def SerialIO.received (usb : SerialIO) : List UInt8 := usb.receiveBuffer.toList

theorem usbMsgLength_toNat (usb : SerialIO) :
    (usbMsgLength usb).toNat = usb.received.length :=
  rbLength_toNat (by decide) usb.receiveBuffer

theorem usbMsgLength_eq_zero_iff (usb : SerialIO) :
    usbMsgLength usb = 0 ↔ usb.received = [] := by
  rw [← UInt8.toNat_inj, usbMsgLength_toNat]
  exact List.length_eq_zero_iff

theorem usbMsgLength_ge_iff (usb : SerialIO) (len : UInt8) :
    usbMsgLength usb ≥ len ↔ len.toNat ≤ usb.received.length := by
  rw [ge_iff_le, UInt8.le_iff_toNat_le, usbMsgLength_toNat]

theorem rbLength_ne_zero_of_cons {usb : SerialIO} {front : UInt8} {rest : List UInt8}
    (stored : usb.received = front :: rest) : rbLength usb.receiveBuffer ≠ 0 := by
  intro empty
  have none := (usbMsgLength_eq_zero_iff usb).mp empty
  rw [stored] at none
  cases none

theorem usbMsgPeek_of_cons {usb : SerialIO} {front : UInt8} {rest : List UInt8}
    (stored : usb.received = front :: rest) : usbMsgPeek usb = front := by
  have inside : (0 : UInt8).toNat < usb.receiveBuffer.toList.length := by
    change 0 < usb.received.length
    rw [stored]
    exact Nat.succ_pos _
  have first := rbGet_eq (by decide) usb.receiveBuffer 0 inside
  have head : usb.receiveBuffer.toList[(0 : UInt8).toNat] = front := by
    simp only [show usb.receiveBuffer.toList = front :: rest from stored]
    rfl
  simp only [usbMsgPeek, ne_eq, rbLength_ne_zero_of_cons stored, not_false_eq_true, ↓reduceIte,
    first, head]

theorem usbMsgGet_of_cons {usb : SerialIO} {front : UInt8} {rest : List UInt8}
    (stored : usb.received = front :: rest) :
    ∃ receiveBuffer, usbMsgGet usb = (front, { usb with receiveBuffer }) ∧
      receiveBuffer.toList = rest := by
  obtain ⟨value, popped⟩ := rbPopFront_of_cons (by decide) usb.receiveBuffer front rest stored
  refine ⟨(rbPopFront usb.receiveBuffer).2, ?_, popped⟩
  simp only [usbMsgGet, ne_eq, rbLength_ne_zero_of_cons stored, not_false_eq_true, ↓reduceIte,
    value]

/-- Popping `n` stored elements yields them in order. -/
theorem rbPopFrontMany_eq {α : Type} [Zero α] {k : ℕ} (small : k ≤ 8) (n : ℕ)
    (buf : RingBuffer α k) (stored : n ≤ buf.toList.length) :
    (rbPopFrontMany n buf).1 = buf.toList.take n ∧
      (rbPopFrontMany n buf).2.toList = buf.toList.drop n := by
  induction n generalizing buf with
  | zero => exact ⟨rfl, rfl⟩
  | succ n ih =>
      cases front : buf.toList with
      | nil =>
          rw [front] at stored
          cases stored
      | cons value rest =>
          obtain ⟨first, popped⟩ := rbPopFront_of_cons small buf value rest front
          have enough : n ≤ (rbPopFront buf).2.toList.length := by
            rw [popped]
            rw [front] at stored
            exact Nat.le_of_succ_le_succ stored
          obtain ⟨values, left⟩ := ih _ enough
          rw [popped] at values left
          simp only [rbPopFrontMany, first, values, left, List.take_succ_cons,
            List.drop_succ_cons, and_self]

/-- A read that the buffer can serve takes exactly its bytes. -/
theorem usbMsgReadInto_of_le (dataLen : ℕ) (usb : SerialIO)
    (enough : dataLen ≤ usb.received.length) :
    ∃ receiveBuffer, usbMsgReadInto dataLen usb =
        (some (usb.received.take dataLen), { usb with receiveBuffer }) ∧
      receiveBuffer.toList = usb.received.drop dataLen := by
  obtain ⟨values, left⟩ := rbPopFrontMany_eq (by decide) dataLen usb.receiveBuffer enough
  have covered : ¬ (rbLength usb.receiveBuffer).toNat < dataLen := by
    rw [rbLength_toNat (by decide)]
    exact Nat.not_lt.mpr enough
  refine ⟨(rbPopFrontMany dataLen usb.receiveBuffer).2, ?_, left⟩
  simp only [usbMsgReadInto, covered, ↓reduceIte, values]
  rfl

def presented (offered : Option (List UInt8)) (usb : SerialIO) : Option (List UInt8) :=
  usb.out.unread.or offered

theorem usbReadNextByte_of_none {offered : Option (List UInt8)} {usb : SerialIO}
    (idle : presented offered usb = none) : usbReadNextByte offered usb = usb := by
  obtain ⟨unread, absent⟩ := Option.or_eq_none_iff.mp idle
  simp only [usbReadNextByte, endpointIsOutReceived, unread, absent, Bool.false_eq_true,
    ↓reduceIte]

theorem endpointIsOutReceived_of_some {offered : Option (List UInt8)} {usb : SerialIO}
    {packet : List UInt8} (here : presented offered usb = some packet) :
    endpointIsOutReceived offered usb = (true, { usb with out.unread := some packet }) := by
  unfold presented at here
  unfold endpointIsOutReceived
  cases unread : usb.out.unread with
  | some left =>
      rw [unread] at here
      cases here
      have same : { usb.out with unread := some packet } = usb.out := by rw [← unread]
      simp only [same]
  | none =>
      rw [unread, Option.none_or] at here
      rw [here]

theorem usbReadNextByte_of_byte {offered : Option (List UInt8)} {usb : SerialIO} {byte : UInt8}
    {rest : List UInt8} (here : presented offered usb = some (byte :: rest)) :
    usbReadNextByte offered usb = { usb with
      reading := true
      out := ⟨some rest, usb.out.read ++ [byte], usb.out.cleared⟩
      receiveBuffer :=
        if usb.clearBuffer then usb.receiveBuffer else rbPushBack usb.receiveBuffer byte } := by
  simp only [usbReadNextByte, endpointIsOutReceived_of_some here, endpointBytesInEndpoint,
    endpointRead8, Option.getD_some, List.length_cons, ne_eq, Nat.add_eq_zero_iff, one_ne_zero,
    and_false, not_false_eq_true, ↓reduceIte]
  cases usb.clearBuffer <;> rfl

theorem usbReadNextByte_of_nil {offered : Option (List UInt8)} {usb : SerialIO}
    (here : presented offered usb = some []) (reading : usb.reading = true) :
    usbReadNextByte offered usb = { usb with
      out := ⟨none, [], usb.out.cleared ++ [usb.out.read]⟩
      clearBuffer := false
      reading := true } := by
  simp only [usbReadNextByte, endpointIsOutReceived_of_some here, endpointBytesInEndpoint,
    Option.getD_some, List.length_nil, ne_eq, not_true_eq_false, reading, ↓reduceIte,
    endpointClearOut]

end ZumoDelivery
