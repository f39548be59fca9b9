import ZumoDelivery.Lib.Binary32

set_option autoImplicit false

namespace ZumoDelivery

/-- What the firmware uses of `float`. The control flow is modelled over any
arithmetic, rounding and NaN included; `ℚ` is the exact one. -/
class FloatArith (F : Type) extends Zero F, Add F, Sub F, Mul F, Div F where
  /-- A literal of the source. -/
  lit : ℚ → F
  /-- The conversion `(float)n`. -/
  ofInt : ℤ → F
  /-- The conversion to an integer, before it is narrowed. -/
  trunc : F → ℤ
  lt : F → F → Bool
  le : F → F → Bool
  /-- The four bytes of a packed payload, lowest address first. -/
  ofBytes : UInt8 → UInt8 → UInt8 → UInt8 → F
  toBytes : F → Vector UInt8 4

namespace FloatArith

/-- Exact arithmetic. -/
instance : FloatArith ℚ where
  lit value := value
  ofInt value := value
  trunc value := if value < 0 then ⌈value⌉ else ⌊value⌋
  lt a b := decide (a < b)
  le a b := decide (a ≤ b)
  ofBytes := Binary32.decode
  toBytes := Binary32.encode

@[simp] theorem lit_eq (value : ℚ) : (lit value : ℚ) = value := rfl

theorem lt_iff (a b : ℚ) : lt a b = true ↔ a < b := decide_eq_true_iff

theorem le_iff (a b : ℚ) : le a b = true ↔ a ≤ b := decide_eq_true_iff

theorem trunc_intCast (n : ℤ) : trunc (n : ℚ) = n := by
  change (if (n : ℚ) < 0 then ⌈(n : ℚ)⌉ else ⌊(n : ℚ)⌋) = n
  rw [Int.ceil_intCast, Int.floor_intCast, ite_self]

end FloatArith

section Payload

variable {F : Type} [FloatArith F]

def byteAt (data : List UInt8) (offset : ℕ) : UInt8 := data.getD offset 0

/-- A `float` member of a packed struct. -/
def floatAt (data : List UInt8) (offset : ℕ) : F :=
  FloatArith.ofBytes (byteAt data offset) (byteAt data (offset + 1)) (byteAt data (offset + 2))
    (byteAt data (offset + 3))

/-- An `int` member of a packed struct, 16 bits wide on the target. -/
def intAt (data : List UInt8) (offset : ℕ) : Int16 :=
  Int16.ofInt ((byteAt data offset).toNat + 256 * (byteAt data (offset + 1)).toNat)

def floatBytes (value : F) : List UInt8 := (FloatArith.toBytes value).toList

@[simp] theorem length_floatBytes (value : F) : (floatBytes value).length = 4 :=
  Vector.length_toList

/-- An `int16_t` member of a reply. -/
def intBytes (value : Int16) : List UInt8 :=
  [value.toUInt16.toUInt8, (value.toUInt16 >>> 8).toUInt8]

end Payload

end ZumoDelivery
