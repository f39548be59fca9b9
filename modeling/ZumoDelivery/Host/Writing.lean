import Mathlib.Data.Int.Order.Basic
import ZumoDelivery.Host.SerialMonitor

set_option autoImplicit false

namespace ZumoDelivery

open PyStruct

/-- `out_selection` of the command window. -/
inductive OutFormat where
  | c
  | b
  | B
  | h
  | f
deriving DecidableEq

namespace OutFormat

def size : OutFormat → ℕ
  | .c => 1
  | .b => 1
  | .B => 1
  | .h => 2
  | .f => 4

end OutFormat

/-- The conversions of a text that the language provides. Each is `none` if it raises. -/
structure Conversions where
  int : List Char → Option ℤ
  /-- `float(d)`, as the bytes that `struct.pack` makes of it, if it does not overflow. -/
  float : List Char → Option (Option (Vector UInt8 4))

/-- An entry after its conversion. -/
inductive Entry where
  | bytes (raw : List UInt8)
  | float (packed : Option (Vector UInt8 4))
  | int (value : ℤ)

def encodeText (text : List Char) : List UInt8 := text.flatMap String.utf8EncodeChar

def convertEntry (conv : Conversions) (format : OutFormat) (text : List Char) : Option Entry :=
  match format with
  | .c => some (.bytes (encodeText text))
  | .f => (conv.float text).map .float
  | _ => (conv.int text).map .int

/-- The bytes of a number in two's complement, lowest first. -/
def packInt (size : ℕ) (value : ℤ) : List UInt8 :=
  (List.range size).map fun place => UInt8.ofNat (value / 256 ^ place % 256).toNat

/-- The item of `struct.pack` for an entry, `none` if it raises. -/
def packEntry : OutFormat → Entry → Option (List UInt8)
  | .c, .bytes [byte] => some [byte]
  | .f, .float (some packed) => some packed.toList
  | .b, .int value => if -128 ≤ value ∧ value ≤ 127 then some (packInt 1 value) else none
  | .B, .int value => if 0 ≤ value ∧ value ≤ 255 then some (packInt 1 value) else none
  | .h, .int value => if -32768 ≤ value ∧ value ≤ 32767 then some (packInt 2 value) else none
  | _, _ => none

def convertEntries (conv : Conversions) : List (List Char) → List OutFormat → Option (List Entry)
  | [], _ => some []
  | _ :: _, [] => none
  | text :: data, format :: formats => do
      let entry ← convertEntry conv format text
      let entries ← convertEntries conv data formats
      return entry :: entries

/-- `struct.pack`, which wants one value for each item. -/
def packEntries : List OutFormat → List Entry → Option (List UInt8)
  | [], [] => some []
  | format :: formats, entry :: entries => do
      let item ← packEntry format entry
      let items ← packEntries formats entries
      return item ++ items
  | _, _ => none

inductive WriteError where
  | formatEntryMismatch
  | dataLengthUnsupported
  | portNotWriteable
  | notConnected
deriving DecidableEq

def WriteError.text : WriteError → String
  | .formatEntryMismatch => "Format/Entry Mismatch"
  | .dataLengthUnsupported => "Data Length Unsupported"
  | .portNotWriteable => "Port Not Writeable"
  | .notConnected => "Not Connected"

/-- The bytes that are written to the port. `opened` says that `serialConnection` has been set. -/
def SerialData.write (conv : Conversions) (s : SerialData) (opened : Bool)
    (data : List (List Char)) (format : List OutFormat) : Except WriteError (List UInt8) :=
  match convertEntries conv data format with
  | none => .error .formatEntryMismatch
  | some entries =>
      if 1 ≤ entries.length ∧ entries.length ≤ 4 then
        match packEntries format entries with
        | none => .error .formatEntryMismatch
        | some msg =>
            if s.isRun then
              if opened then .ok msg else .error .portNotWriteable
            else .error .notConnected
      else .error .dataLengthUnsupported

def SerialData.send (conv : Conversions) (s : SerialData) (opened : Bool)
    (boxes : List (OutFormat × List Char)) : Option (Except WriteError (List UInt8)) :=
  let filled := boxes.filter fun box => box.2 ≠ []
  if filled = [] then none
  else some (s.write conv opened (filled.map Prod.snd) (filled.map Prod.fst))

end ZumoDelivery
