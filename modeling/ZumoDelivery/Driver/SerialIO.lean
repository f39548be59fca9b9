import Mathlib.Data.UInt
import ZumoDelivery.Driver.FloatArith
import ZumoDelivery.Driver.Filter
import ZumoDelivery.Driver.RingBufferQueue

set_option autoImplicit false

namespace ZumoDelivery

/-- The receive endpoint. A packet stays presented, and its bytes are read in order,
until it is acknowledged; only then is the next one presented. -/
structure OutEndpoint where
  /-- The bytes still to be read of the packet presented now. -/
  unread : Option (List UInt8)
  /-- The bytes already read of it. -/
  read : List UInt8
  /-- The packets acknowledged so far, oldest first. -/
  cleared : List (List UInt8)

/-- Every packet the firmware has begun to read, cut to the bytes read so far. -/
def OutEndpoint.packetsRead (out : OutEndpoint) : List (List UInt8) :=
  out.cleared ++ [out.read]

/-- The file-scope state of SerialIO.c and the two endpoints behind it. -/
structure SerialIO where
  receiveBuffer : RingBufferC
  sendBuffer : RingBufferC
  clearBuffer : Bool
  /-- The `static` of `usb_read_next_byte`. -/
  reading : Bool
  /-- The `static` of `usb_write_next_byte`. -/
  sending : Bool
  out : OutEndpoint
  /-- Bytes written to the transmit endpoint and not released yet. -/
  inBank : List UInt8
  /-- The byte stream handed to the host. -/
  delivered : List UInt8

def serialStatic : SerialIO where
  receiveBuffer := rbStatic
  sendBuffer := rbStatic
  clearBuffer := false
  reading := false
  sending := false
  out := ⟨none, [], []⟩
  inBank := []
  delivered := []

def usbInitBuffers (usb : SerialIO) : SerialIO :=
  { usb with
    receiveBuffer := rbInitialize usb.receiveBuffer
    sendBuffer := rbInitialize usb.sendBuffer }

def usbSetupHardware (usb : SerialIO) : SerialIO :=
  { usbInitBuffers usb with clearBuffer := false }

/-- `Endpoint_IsOUTReceived`: the host may present `offered` to a free endpoint. -/
def endpointIsOutReceived (offered : Option (List UInt8)) (usb : SerialIO) : Bool × SerialIO :=
  match usb.out.unread with
  | some _ => (true, usb)
  | none =>
      match offered with
      | some packet => (true, { usb with out.unread := some packet })
      | none => (false, usb)

def endpointBytesInEndpoint (usb : SerialIO) : ℕ := (usb.out.unread.getD []).length

def endpointRead8 (usb : SerialIO) : UInt8 × SerialIO :=
  match usb.out.unread with
  | some (data :: rest) =>
      (data, { usb with out.unread := some rest, out.read := usb.out.read ++ [data] })
  | _ => (0, usb)

def endpointClearOut (usb : SerialIO) : SerialIO :=
  { usb with out := ⟨none, [], usb.out.cleared ++ [usb.out.read]⟩ }

def usbReadNextByte (offered : Option (List UInt8)) (usb : SerialIO) : SerialIO :=
  let (received, usb) := endpointIsOutReceived offered usb
  if received then
    if endpointBytesInEndpoint usb ≠ 0 then
      let usb := { usb with reading := true }
      let (data, usb) := endpointRead8 usb
      if !usb.clearBuffer then
        { usb with receiveBuffer := rbPushBack usb.receiveBuffer data }
      else usb
    else if usb.reading then
      { endpointClearOut usb with clearBuffer := false, reading := true }
    else usb
  else usb

def usbMsgLength (usb : SerialIO) : UInt8 := rbLength usb.receiveBuffer

def usbMsgPeek (usb : SerialIO) : UInt8 :=
  if rbLength usb.receiveBuffer ≠ 0 then rbGet usb.receiveBuffer 0 else 0

def usbMsgGet (usb : SerialIO) : UInt8 × SerialIO :=
  if rbLength usb.receiveBuffer ≠ 0 then
    let (data, receiveBuffer) := rbPopFront usb.receiveBuffer
    (data, { usb with receiveBuffer })
  else (0, usb)

/-- The copying loop of `usb_msg_read_into`. -/
def rbPopFrontMany {α : Type} [Zero α] {k : ℕ} :
    ℕ → RingBuffer α k → List α × RingBuffer α k
  | 0, buf => ([], buf)
  | n + 1, buf =>
      let (data, buf) := rbPopFront buf
      let (rest, buf) := rbPopFrontMany n buf
      (data :: rest, buf)

/-- `none` is the return value `false`: nothing is read or removed. -/
def usbMsgReadInto (dataLen : ℕ) (usb : SerialIO) : Option (List UInt8) × SerialIO :=
  if (rbLength usb.receiveBuffer).toNat < dataLen then (none, usb)
  else
    let (data, receiveBuffer) := rbPopFrontMany dataLen usb.receiveBuffer
    (some data, { usb with receiveBuffer })

def usbFlushInputBuffer (usb : SerialIO) : SerialIO :=
  { usb with receiveBuffer := rbInitialize usb.receiveBuffer, clearBuffer := true }

def usbOutMsgLength (usb : SerialIO) : UInt8 := rbLength usb.sendBuffer

def usbSendByte (byte : UInt8) (usb : SerialIO) : SerialIO :=
  { usb with sendBuffer := rbPushBack usb.sendBuffer byte }

def usbSendData (data : List UInt8) (usb : SerialIO) : SerialIO :=
  data.foldl (fun usb byte => { usb with sendBuffer := rbPushBack usb.sendBuffer byte }) usb

/-- `str` holds the characters before the terminator. -/
def usbSendStr (str : List UInt8) (usb : SerialIO) : SerialIO :=
  let usb := str.foldl
    (fun usb byte => { usb with sendBuffer := rbPushBack usb.sendBuffer byte }) usb
  { usb with sendBuffer := rbPushBack usb.sendBuffer 0 }

def usbSendMsg (format : List UInt8) (cmd : UInt8) (data : List UInt8) (usb : SerialIO) :
    SerialIO :=
  let len : UInt8 := 2 + UInt8.ofNat format.length + UInt8.ofNat data.length
  usbSendData data (usbSendByte cmd (usbSendStr format (usbSendByte len usb)))

def endpointWrite8 (data : UInt8) (usb : SerialIO) : SerialIO :=
  { usb with inBank := usb.inBank ++ [data] }

def endpointClearIn (usb : SerialIO) : SerialIO :=
  { usb with inBank := [], delivered := usb.delivered ++ usb.inBank }

/-- `inReady` is the answer of `Endpoint_IsINReady`, asked at most once. -/
def usbWriteNextByte (inReady : Bool) (usb : SerialIO) : SerialIO :=
  if rbLength usb.sendBuffer ≠ 0 then
    let usb := { usb with sending := true }
    if inReady then
      let (data, sendBuffer) := rbPopFront usb.sendBuffer
      endpointClearIn (endpointWrite8 data { usb with sendBuffer })
    else usb
  else if usb.sending then
    if inReady then { endpointClearIn usb with sending := false } else usb
  else usb

end ZumoDelivery
