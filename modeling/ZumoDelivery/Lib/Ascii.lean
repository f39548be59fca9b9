import Mathlib.Data.Nat.Notation
import Mathlib.Tactic.Common

set_option autoImplicit false

/- Bytes as characters: the code points below 256. -/
namespace Ascii

def toChar (byte : UInt8) : Char := Char.ofNat byte.toNat

def ofChar (char : Char) : UInt8 := UInt8.ofNat char.toNat

def bytes (text : List Char) : List UInt8 := text.map ofChar

@[simp] theorem length_bytes (text : List Char) : (bytes text).length = text.length :=
  List.length_map _

@[simp] theorem toNat_toChar (byte : UInt8) : (toChar byte).toNat = byte.toNat := by
  have below : byte.toNat < 256 := UInt8.toNat_lt byte
  have valid : byte.toNat.isValidChar := Or.inl (by omega)
  rw [toChar, Char.ofNat, dif_pos valid]
  rfl

@[simp] theorem ofChar_toChar (byte : UInt8) : ofChar (toChar byte) = byte := by
  rw [ofChar, toNat_toChar, UInt8.ofNat_toNat]

end Ascii
