import Mathlib.Algebra.Ring.Int.Defs
import Mathlib.Algebra.Ring.Nat
import ZumoDelivery.Lib.Ascii

set_option autoImplicit false

namespace ZumoDelivery

/-- The Python values that the reader handles. A `float` is kept as its bytes. -/
inductive PyVal where
  | int (value : ℤ)
  | bool (value : Bool)
  | float (raw : List UInt8)
  | bytes (raw : List UInt8)
  | str (chars : List Char)
deriving DecidableEq

namespace PyStruct

/-- The digit that `int` reads from a one-character string. -/
def digit? (char : Char) : Option ℕ :=
  if '0' ≤ char ∧ char ≤ '9' then some (char.toNat - '0'.toNat) else none

def isSpace (char : Char) : Bool :=
  char = ' ' || ('\t' ≤ char && char ≤ '\r')

/-- The standard sizes of the format characters. -/
def itemSize (code : Char) : Option ℕ :=
  match code with
  | 'x' => some 1
  | 'c' => some 1
  | 'b' => some 1
  | 'B' => some 1
  | '?' => some 1
  | 'h' => some 2
  | 'H' => some 2
  | 'i' => some 4
  | 'I' => some 4
  | 'l' => some 4
  | 'L' => some 4
  | 'q' => some 8
  | 'Q' => some 8
  | 'e' => some 2
  | 'f' => some 4
  | 'd' => some 8
  | 's' => some 1
  | 'p' => some 1
  | _ => none

/-- The items of a format, each with its repeat count, after the count read so far.
White space may stand between items; a count needs an item. -/
def items : Option ℕ → List Char → Option (List (ℕ × Char))
  | none, [] => some []
  | some _, [] => none
  | count, char :: rest =>
      match digit? char with
      | some digit => items (some (count.getD 0 * 10 + digit)) rest
      | none =>
          if count = none ∧ isSpace char then items none rest
          else
            match itemSize char with
            | none => none
            | some _ => (items none rest).map ((count.getD 1, char) :: ·)

def totalSize (list : List (ℕ × Char)) : ℕ :=
  (list.map fun item => item.1 * (itemSize item.2).getD 0).sum

def ssizeMax : ℕ := 2 ^ 63 - 1

/-- `struct.calcsize`, `none` if it raises. Only formats with the little-endian mark
occur. -/
def calcsize (format : List Char) : Option ℕ :=
  match format with
  | '<' :: rest =>
      match items none rest with
      | some list => if totalSize list ≤ ssizeMax then some (totalSize list) else none
      | none => none
  | _ => none

/-- The unsigned little-endian integer of some bytes. -/
def littleEndian : List UInt8 → ℕ
  | [] => 0
  | byte :: rest => byte.toNat + 256 * littleEndian rest

/-- The two's complement integer of some bytes. -/
def signedLittleEndian (raw : List UInt8) : ℤ :=
  if 2 * littleEndian raw < 256 ^ raw.length then littleEndian raw
  else littleEndian raw - 256 ^ raw.length

/-- One value of an item, from the bytes of its size. -/
def unpackOne (code : Char) (raw : List UInt8) : PyVal :=
  if code = 'c' then .bytes raw
  else if code = '?' then .bool (raw.any (· ≠ 0))
  else if code = 'e' ∨ code = 'f' ∨ code = 'd' then .float raw
  else if code = 'B' ∨ code = 'H' ∨ code = 'I' ∨ code = 'L' ∨ code = 'Q' then
    .int (littleEndian raw)
  else .int (signedLittleEndian raw)

def unpackMany (code : Char) (size : ℕ) : ℕ → List UInt8 → List PyVal
  | 0, _ => []
  | count + 1, raw => unpackOne code (raw.take size) :: unpackMany code size count (raw.drop size)

/-- The length byte of a 'p' item and the bytes it covers. -/
def pascalBytes (raw : List UInt8) : List UInt8 :=
  match raw with
  | [] => []
  | length :: rest => rest.take length.toNat

def unpackItem (count : ℕ) (code : Char) (raw : List UInt8) : List PyVal :=
  if code = 'x' then []
  else if code = 's' then [.bytes raw]
  else if code = 'p' then [.bytes (pascalBytes raw)]
  else unpackMany code ((itemSize code).getD 0) count raw

def unpackItems : List (ℕ × Char) → List UInt8 → List PyVal
  | [], _ => []
  | (count, code) :: rest, raw =>
      let size := count * (itemSize code).getD 0
      unpackItem count code (raw.take size) ++ unpackItems rest (raw.drop size)

/-- `struct.unpack`, `none` if it raises. -/
def unpack (format : List Char) (raw : List UInt8) : Option (List PyVal) :=
  match format with
  | '<' :: rest =>
      match items none rest with
      | some list =>
          if totalSize list ≤ ssizeMax ∧ totalSize list = raw.length then
            some (unpackItems list raw)
          else none
      | none => none
  | _ => none

example : unpack ['<', 'c', '2', 'h', ' ', 'B'] [65, 1, 0, 0xFF, 0xFF, 7] =
    some [.bytes [65], .int 1, .int (-1), .int 7] := by decide

/-- `.decode('ascii')`, `none` if it raises. -/
def decodeAscii : PyVal → Option (List Char)
  | .bytes raw => if raw.all (· < 128) then some (raw.map Ascii.toChar) else none
  | _ => none

/-- The decimal digits of an integer literal, with single underscores between them. -/
def digits : ℕ → Bool → List Char → Option (ℕ × List Char)
  | value, afterDigit, '_' :: rest =>
      if afterDigit then
        match rest with
        | next :: _ => if (digit? next).isSome then digits value false rest else none
        | [] => none
      else none
  | value, afterDigit, char :: rest =>
      match digit? char with
      | some digit => digits (value * 10 + digit) true rest
      | none => if afterDigit then some (value, char :: rest) else none
  | value, afterDigit, [] => if afterDigit then some (value, []) else none

/-- `int` of a bytes object, `none` if it raises. -/
def intOfText (text : List Char) : Option ℤ :=
  let unsigned (text : List Char) : Option ℕ :=
    match digits 0 false text with
    | some (value, rest) => if rest.all isSpace then some value else none
    | none => none
  match text.dropWhile isSpace with
  | '+' :: rest => (unsigned rest).map fun value => (value : ℤ)
  | '-' :: rest => (unsigned rest).map fun value => -(value : ℤ)
  | rest => (unsigned rest).map fun value => (value : ℤ)

/-- The widths of the exponent and the fraction of an IEEE format. -/
def floatWidths (size : ℕ) : ℕ × ℕ :=
  if size = 2 then (5, 10) else if size = 4 then (8, 23) else (11, 52)

/-- `int` of a float, truncated towards zero, `none` for an infinity or a NaN. -/
def intOfFloat (raw : List UInt8) : Option ℤ :=
  let (exponentWidth, fractionWidth) := floatWidths raw.length
  let bits := littleEndian raw
  let fraction := bits % 2 ^ fractionWidth
  let exponent := bits / 2 ^ fractionWidth % 2 ^ exponentWidth
  let negative := bits / 2 ^ (fractionWidth + exponentWidth) % 2 = 1
  let shift : ℤ := exponent - (2 ^ (exponentWidth - 1) - 1) - fractionWidth
  if exponent = 2 ^ exponentWidth - 1 then none
  else
    -- A subnormal number is less than one.
    let magnitude : ℕ :=
      if exponent = 0 then 0
      else if 0 ≤ shift then (2 ^ fractionWidth + fraction) * 2 ^ shift.toNat
      else (2 ^ fractionWidth + fraction) / 2 ^ (-shift).toNat
    some (if negative then -(magnitude : ℤ) else magnitude)

/-- `int(value)`, `none` if it raises. -/
def toInt : PyVal → Option ℤ
  | .int value => some value
  | .bool value => some (if value then 1 else 0)
  | .float raw => intOfFloat raw
  | .bytes raw => intOfText (raw.map Ascii.toChar)
  | .str _ => none

end PyStruct

end ZumoDelivery
