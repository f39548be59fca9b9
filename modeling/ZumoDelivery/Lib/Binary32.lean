import Mathlib.Data.Int.Log
import Mathlib.Data.Rat.Floor
import Mathlib.Algebra.Order.Field.Rat

set_option autoImplicit false

/- The single-precision interchange format: a sign bit, an 8-bit exponent and a
23-bit fraction. -/
namespace Binary32

/-- The value of an encoding. Infinities and NaNs have no rational value; they
read as zero. -/
def decodeBits (bits : ℕ) : ℚ :=
  let exponent : ℕ := bits / 2 ^ 23 % 256
  let fraction : ℕ := bits % 2 ^ 23
  let magnitude : ℚ :=
    if exponent = 255 then 0
    else if exponent = 0 then mkRat (fraction : ℤ) (2 ^ 149)
    else if exponent < 150 then mkRat ((2 ^ 23 + fraction : ℕ) : ℤ) (2 ^ (150 - exponent))
    else (((2 ^ 23 + fraction) * 2 ^ (exponent - 150) : ℕ) : ℚ)
  if bits / 2 ^ 31 % 2 = 1 then -magnitude else magnitude

def decode (b0 b1 b2 b3 : UInt8) : ℚ :=
  decodeBits (b0.toNat + 2 ^ 8 * b1.toNat + 2 ^ 16 * b2.toNat + 2 ^ 24 * b3.toNat)

def roundHalfEven (value : ℚ) : ℕ :=
  let below := ⌊value⌋.toNat
  let rest := value - below
  if rest < 1 / 2 then below
  else if 1 / 2 < rest then below + 1
  else below + below % 2

/-- Round to the nearest encoding. A significand rounded up to the next power of
two carries into the exponent field, and past the last exponent to infinity. -/
def encodeBits (value : ℚ) : ℕ :=
  let sign := if value < 0 then 2 ^ 31 else 0
  if value = 0 then 0
  else
    let exponent := max (Int.log 2 |value|) (-126)
    let significand := roundHalfEven (|value| / 2 ^ (exponent - 23))
    sign + min ((exponent + 126).toNat * 2 ^ 23 + significand) (255 * 2 ^ 23)

def encode (value : ℚ) : Vector UInt8 4 :=
  let bits := encodeBits value
  #v[UInt8.ofNat bits, UInt8.ofNat (bits / 2 ^ 8), UInt8.ofNat (bits / 2 ^ 16),
    UInt8.ofNat (bits / 2 ^ 24)]

example : decode 0 0 128 63 = 1 := by decide +kernel
example : decode 0xCD 0xCC 0x4C 0x3E = mkRat 13421773 67108864 := by decide +kernel
example : encode (1 / 5) = #v[0xCD, 0xCC, 0x4C, 0x3E] := by decide +kernel

end Binary32
