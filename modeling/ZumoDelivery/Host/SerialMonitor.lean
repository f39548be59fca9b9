import ZumoDelivery.Lib.StreamReader
import ZumoDelivery.Host.PyStruct

set_option autoImplicit false

namespace ZumoDelivery

open PyStruct

/-- The fields of `SerialData` that its thread works with, the state of the serial port
and the data that the registered callbacks were called with. -/
structure SerialData where
  isRun : Bool
  portOpen : Bool
  definedDataMode : Bool
  dataNumBytes : ℤ
  dataFormat : List Char
  rawData : List UInt8
  calls : List (List PyVal)
deriving DecidableEq

/-- `data[-1] += text`, where `data[-1]` is the string of the first repetition. -/
def appendText (data : List PyVal) (text : List Char) : List PyVal :=
  match data.getLast? with
  | some (.str chars) => data.dropLast ++ [.str (chars ++ text)]
  | _ => data

/-- The `for i in range(rep)` loop of `parseData` with the given repetitions left,
`none` if it raises. -/
def parseRepeat (value : List PyVal) (fmt : Char) (rep : ℕ) :
    ℕ → List PyVal → ℕ → Option (List PyVal × ℕ)
  | 0, data, ind => some (data, ind)
  | left + 1, data, ind => do
      let item ← value[ind]?
      if fmt = 'c' then
        let text ← decodeAscii item
        if rep = 1 ∨ left + 1 = rep then
          parseRepeat value fmt rep left (data ++ [.str text]) (ind + 1)
        else parseRepeat value fmt rep left (appendText data text) (ind + 1)
      else if fmt = 's' then
        let text ← decodeAscii item
        return (data ++ [.str text], ind + 1)
      else if fmt = 'b' ∨ fmt = 'h' then
        let number ← toInt item
        parseRepeat value fmt rep left (data ++ [.int number]) (ind + 1)
      else parseRepeat value fmt rep left (data ++ [item]) (ind + 1)

/-- The loop of `parseData` over the format, `none` if it raises. -/
def parseFormat (value : List PyVal) :
    List Char → ℕ → List PyVal → ℕ → Option (List PyVal)
  | [], _, data, _ => some data
  | fmt :: format, rep, data, ind =>
      if fmt = '<' then parseFormat value format rep data ind
      else
        -- A second digit is taken for a value.
        match if rep = 1 then digit? fmt else none with
        | some digit => parseFormat value format digit data ind
        | none => do
            let (data, ind) ← parseRepeat value fmt rep rep data ind
            parseFormat value format 1 data ind

/-- `none` is an exception that `parseData` does not catch. -/
def parseData (s : SerialData) : Option SerialData :=
  match unpack s.dataFormat s.rawData with
  | none => some s
  | some value => do
      let data ← parseFormat value s.dataFormat 1 [] 0
      return { s with calls := s.calls ++ [data] }

/-- The outermost `except`: the thread ends and the port is closed. -/
def connectionLost (s : SerialData) : SerialData := { s with isRun := false, portOpen := false }

def resetFrame (s : SerialData) : SerialData := { s with dataNumBytes := -1, dataFormat := ['<'] }

/-- `int(self.dataFormat[-1])` succeeds. -/
def endsInDigit (format : List Char) : Bool := (format.getLast?.bind digit?).isSome

/-- A byte of the format has been read; one that is not 0 is appended to it. -/
def readFormatByte (tmp : UInt8) (s : SerialData) (inWaiting : List UInt8) :
    SerialData × List UInt8 :=
  let s := { s with dataNumBytes := s.dataNumBytes - 1 }
  if tmp ≠ 0 then
    match decodeAscii (.bytes [tmp]) with
    | none => (connectionLost s, inWaiting)
    | some text =>
        let s := { s with dataFormat := s.dataFormat ++ text }
        if endsInDigit s.dataFormat || (calcsize s.dataFormat).isSome then (s, inWaiting)
        else (resetFrame s, inWaiting)
  else
    match calcsize s.dataFormat with
    | none => (connectionLost s, inWaiting)
    | some size =>
        if (size : ℤ) = s.dataNumBytes then
          let s := { s with rawData := inWaiting.take size }
          match parseData s with
          | none => (connectionLost s, inWaiting.drop size)
          | some s => (resetFrame s, inWaiting.drop size)
        else (resetFrame s, inWaiting)

/-- One pass of the `while` loop and the bytes it leaves waiting; `none` while the thread
sleeps or once it has ended. -/
def backgroundThread (s : SerialData) (inWaiting : List UInt8) :
    Option (SerialData × List UInt8) :=
  if !s.isRun then none
  else if s.definedDataMode ∧ s.dataNumBytes ≤ inWaiting.length ∧ 0 < s.dataNumBytes then
    let size := s.dataNumBytes.toNat
    let s := { s with rawData := inWaiting.take size }
    some ((parseData s).getD (connectionLost s), inWaiting.drop size)
  else if !s.definedDataMode ∧ inWaiting ≠ [] ∧ s.dataNumBytes = -1 then
    some ({ s with dataNumBytes := signedLittleEndian (inWaiting.take 1) }, inWaiting.drop 1)
  else if !s.definedDataMode ∧ s.dataNumBytes ≤ inWaiting.length ∧ 0 < s.dataNumBytes then
    some (readFormatByte (inWaiting.headD 0) s (inWaiting.drop 1))
  else if s.dataNumBytes = 0 then some ({ s with dataNumBytes := -1 }, inWaiting)
  else none

end ZumoDelivery
