import ZumoDelivery.Driver.Sending
import ZumoDelivery.Host.Fields

set_option autoImplicit false

namespace ZumoDelivery

open PyStruct

namespace UsbMessage

/-- The bytes it queues behind those of `usb`. -/
def queued (message : UsbMessage) (usb : SerialIO) : List UInt8 :=
  (message.send usb).waiting.drop usb.waiting.length

/-- The fields that the format announces. -/
def values (message : UsbMessage) : List PyVal :=
  fieldValues message.format (message.cmd :: message.data)

/-- The format describes the command and the data, and their characters are ASCII. -/
structure WellFormed (message : UsbMessage) : Prop where
  command : message.format.head? = some 'c'
  plain : Plain message.format
  sized : calcsize ('<' :: message.format) = some (1 + message.data.length)
  ascii : asciiFields message.format (message.cmd :: message.data) = true

theorem queued_eq (message : UsbMessage) (usb : SerialIO)
    (room : usb.waiting.length + message.frame.length ≤ 63) :
    message.queued usb = message.frame := by
  rw [queued, send, waiting_usbSendMsg_of_room _ _ _ _ room, List.drop_left, frame]

end UsbMessage

theorem formatText_plain {before format : List Char} (plain : Plain (before ++ format))
    (short : (before ++ format).length < 256) : FormatText before (Ascii.bytes format) := by
  induction format generalizing before with
  | nil => exact .nil before
  | cons code format ih =>
      have here : code ∈ fieldCodes :=
        plain code (List.mem_append_right _ List.mem_cons_self)
      have byte : Ascii.ofChar code ≠ 0 ∧ Ascii.ofChar code < 128 ∧
          Ascii.toChar (Ascii.ofChar code) = code := by
        rcases fieldCode_cases here with rfl | rfl | rfl | rfl | rfl
        all_goals decide
      rw [List.append_cons] at plain short
      have first : Plain (before ++ [code]) := by
        intro other member
        exact plain other (List.mem_append_left _ member)
      have shorter : (before ++ [code]).length < 256 := by
        simp only [List.length_append] at short ⊢
        omega
      have taken : acceptable (before ++ [Ascii.toChar (Ascii.ofChar code)]) = true := by
        rw [byte.2.2, acceptable, calcsize_plain first shorter]
        simp
      have rest := ih plain short
      rw [← byte.2.2] at rest
      exact .cons byte.1 byte.2.1 taken rest

theorem formatAfter_bytes {format : List Char} (plain : Plain format) :
    formatAfter [] (Ascii.bytes format) = format := by
  rw [formatAfter, List.nil_append, Ascii.bytes, List.map_map]
  refine (List.map_congr_left ?_).trans (List.map_id format)
  intro code member
  have here := plain code member
  rcases fieldCode_cases here with rfl | rfl | rfl | rfl | rfl
  all_goals decide

variable {s : SerialData}

namespace UsbMessage

variable {message : UsbMessage}

theorem length_byte (fits : message.frame.length ≤ 63) :
    (2 + UInt8.ofNat (Ascii.bytes message.format).length + UInt8.ofNat message.data.length).toNat =
      2 + message.format.length + message.data.length := by
  rw [length_frame] at fits
  have two : (2 : UInt8).toNat = 2 := rfl
  rw [UInt8.toNat_add, UInt8.toNat_add, UInt8.toNat_ofNat', UInt8.toNat_ofNat',
    Ascii.length_bytes, two]
  omega

theorem totalFieldSize_eq (wellFormed : message.WellFormed) (fits : message.frame.length ≤ 63) :
    totalFieldSize message.format = (message.cmd :: message.data).length := by
  rw [length_frame] at fits
  have short : message.format.length < 256 := by omega
  have sized := wellFormed.sized
  rw [calcsize_plain wellFormed.plain short, Option.some.injEq] at sized
  rw [sized, List.length_cons, Nat.add_comm]

/-- A frame without its length byte. -/
def body (message : UsbMessage) : List UInt8 :=
  Ascii.bytes message.format ++ 0 :: message.cmd :: message.data

theorem length_body (message : UsbMessage) :
    message.body.length = 2 + message.format.length + message.data.length := by
  simp only [body, List.length_append, List.length_cons, Ascii.length_bytes]
  omega

theorem formatText (plain : Plain message.format) (fits : message.frame.length ≤ 63) :
    FormatText [] (Ascii.bytes message.format) := by
  rw [length_frame] at fits
  refine formatText_plain plain ?_
  rw [List.nil_append]
  omega

theorem readsBody (plain : Plain message.format) (fits : message.frame.length ≤ 63)
    {data : List PyVal} (done : parsed message.format (message.cmd :: message.data) = some data) :
    ReadsBody [] message.body [] [data] [] := by
  rw [← formatAfter_bytes plain] at done
  exact .whole (formatText plain fits) done

theorem raisesOn (plain : Plain message.format) (fits : message.frame.length ≤ 63)
    (sized : calcsize ('<' :: message.format) = some (message.cmd :: message.data).length)
    (raises : parsed message.format (message.cmd :: message.data) = none) :
    RaisesOn [] message.body := by
  rw [← formatAfter_bytes plain] at sized raises
  exact .unparsed (formatText plain fits) sized raises

theorem reaches_body (idle : s.Idle) (fits : message.frame.length ≤ 63) :
    serialReader.Reaches (s, message.frame) (s.inFrame message.body.length [], message.body) := by
  have length := length_byte fits
  rw [length_frame] at fits
  have short : 2 + UInt8.ofNat (Ascii.bytes message.format).length +
      UInt8.ofNat message.data.length < 128 := by
    rw [UInt8.lt_iff_toNat_lt, length]
    have bound : (128 : UInt8).toNat = 128 := rfl
    omega
  have start := reaches_length idle.toListening [] _ message.body short
  rw [length, ← length_body, idle.eq] at start
  exact start

theorem reaches (idle : s.Idle) (wellFormed : message.WellFormed)
    (fits : message.frame.length ≤ 63) :
    ∃ raw, serialReader.Reaches (s, message.frame) (s.called raw [message.values], []) := by
  have short : message.format.length < 256 := by
    rw [length_frame] at fits
    omega
  have small := totalFieldSize_le_ssizeMax wellFormed.plain short
  have done := parsed_plain wellFormed.plain small _ (totalFieldSize_eq wellFormed fits)
    wellFormed.ascii
  obtain ⟨raw, read⟩ :=
    ZumoDelivery.reaches_body idle.toListening (readsBody wellFormed.plain fits done)
  refine ⟨raw, ?_⟩
  have last : (s.called raw [message.values]).inFrame (-1) [] = s.called raw [message.values] :=
    (idle.called raw _).eq
  rw [← last]
  exact (reaches_body idle fits).trans read

end UsbMessage

/-- Messages one behind the other reach the callbacks one after the other. -/
theorem reaches_frames (messages : List UsbMessage) (s : SerialData) (idle : s.Idle)
    (wellFormed : ∀ message ∈ messages, message.WellFormed)
    (fits : ∀ message ∈ messages, message.frame.length ≤ 63) :
    ∃ raw, serialReader.Reaches (s, (messages.map UsbMessage.frame).flatten)
      (s.called raw (messages.map UsbMessage.values), []) := by
  induction messages generalizing s with
  | nil =>
      refine ⟨s.rawData, ?_⟩
      simp only [List.map_nil, List.flatten_nil, SerialData.called, List.append_nil]
      exact .refl _
  | cons message messages ih =>
      obtain ⟨here, others⟩ := List.forall_mem_cons.mp wellFormed
      obtain ⟨short, shorter⟩ := List.forall_mem_cons.mp fits
      obtain ⟨raw, first⟩ := UsbMessage.reaches idle here short
      obtain ⟨last, rest⟩ := ih (s.called raw [message.values]) (idle.called raw _) others shorter
      refine ⟨last, ?_⟩
      rw [called_called] at rest
      exact (first.extend _).trans rest

/-- The messages that `usb_send_msg` queues with room to spare are all handed to the
callbacks, in order and each once, whatever the pace at which their bytes arrive. -/
theorem decoded_in_order (sends : List (UsbMessage × SerialIO))
    (wellFormed : ∀ send ∈ sends, send.1.WellFormed)
    (room : ∀ send ∈ sends, send.2.waiting.length + send.1.frame.length ≤ 63)
    (s : SerialData) (idle : s.Idle) (arrivals : List (List UInt8)) (n : ℕ)
    (stream : arrivals.flatten = (sends.map fun send => send.1.queued send.2).flatten)
    (enough : 2 * arrivals.flatten.length ≤ n) :
    ∃ raw, serialReader.run (arrivals ++ List.replicate n []) (s, []) =
        (s.called raw (sends.map fun send => send.1.values), []) ∧
      (s.called raw (sends.map fun send => send.1.values)).Idle := by
  have frames : (sends.map fun send => send.1.queued send.2) =
      (sends.map Prod.fst).map UsbMessage.frame := by
    rw [List.map_map]
    refine List.map_congr_left ?_
    intro send member
    exact send.1.queued_eq send.2 (room send member)
  obtain ⟨raw, reaches⟩ := reaches_frames (sends.map Prod.fst) s idle
    (by
      intro message member
      obtain ⟨send, inside, rfl⟩ := List.mem_map.mp member
      exact wellFormed send inside)
    (by
      intro message member
      obtain ⟨send, inside, rfl⟩ := List.mem_map.mp member
      have fits := room send inside
      omega)
  have values : (sends.map Prod.fst).map UsbMessage.values =
      sends.map fun send => send.1.values := List.map_map
  rw [values] at reaches
  have back := idle.called raw (sends.map fun send => send.1.values)
  refine ⟨raw, ?_, back⟩
  rw [run_of_idle idle arrivals n enough, stream, frames]
  exact reaches.settle.trans (settle_of_idle back)

/-- A battery reading and a counter, whose bytes arrive in pieces. -/
theorem decoded_in_order_pieces :
    let sends : List (UsbMessage × SerialIO) :=
      [(⟨['c', 'f'], 98, [0, 0, 160, 64]⟩, usbInitBuffers serialStatic),
        (⟨['c', 'h', 'c'], 110, [255, 255, 33]⟩, usbInitBuffers serialStatic)]
    ∃ raw, serialReader.run ([[8, 99], [102, 0, 98, 0, 0], [160, 64, 8, 99, 104, 99, 0],
          [110, 255, 255, 33]] ++ List.replicate 36 []) (dynamicStart, []) =
        (dynamicStart.called raw (sends.map fun send => send.1.values), []) ∧
      (dynamicStart.called raw (sends.map fun send => send.1.values)).Idle := by
  intro sends
  have wellFormed : ∀ send ∈ sends, send.1.WellFormed := by
    intro send member
    simp only [sends, List.mem_cons, List.not_mem_nil, or_false] at member
    rcases member with rfl | rfl
    all_goals exact ⟨rfl, by decide, by decide, by decide⟩
  exact decoded_in_order sends wellFormed (by decide +kernel) dynamicStart idle_dynamicStart
    [[8, 99], [102, 0, 98, 0, 0], [160, 64, 8, 99, 104, 99, 0], [110, 255, 255, 33]] 36
    (by decide +kernel) (by decide)

end ZumoDelivery
