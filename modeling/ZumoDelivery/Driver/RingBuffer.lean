import Mathlib.Algebra.Ring.Nat
import Mathlib.Data.Vector.Defs
import ZumoDelivery.Lib.BoundedQueue

set_option autoImplicit false

namespace ZumoDelivery

variable {α : Type} {k : ℕ}

/-- `RB_MASK`, for a buffer of `RB_LENGTH = 2 ^ k` elements. -/
def rbMask (k : ℕ) : UInt8 := UInt8.ofNat (2 ^ k - 1)

theorem and_rbMask_lt (index : UInt8) (k : ℕ) : (index &&& rbMask k).toNat < 2 ^ k := by
  have positive : 0 < 2 ^ k := Nat.two_pow_pos k
  have masked : (index &&& rbMask k).toNat ≤ (2 ^ k - 1) % 2 ^ 8 := by
    rw [UInt8.toNat_and, rbMask, UInt8.toNat_ofNat']
    exact Nat.and_le_right
  have reduced := Nat.mod_le (2 ^ k - 1) (2 ^ 8)
  omega

/-- `Ring_Buffer_C` and `Ring_Buffer_F`: 8-bit indices into `2 ^ k` elements. Every
function masks the indices it writes, so they stay inside the buffer. -/
structure RingBuffer (α : Type) (k : ℕ) where
  buffer : Vector α (2 ^ k)
  startIndex : UInt8
  endIndex : UInt8
  start_lt : startIndex.toNat < 2 ^ k
  end_lt : endIndex.toNat < 2 ^ k

/-- `RB_LENGTH_C` is 64. -/
abbrev RingBufferC := RingBuffer UInt8 6

/-- `RB_LENGTH_F` is 8. -/
abbrev RingBufferF (F : Type) := RingBuffer F 3

/-- The element `buffer[index & RB_MASK]`. -/
def rbSlot (buf : RingBuffer α k) (index : UInt8) : α :=
  buf.buffer.get ⟨(index &&& rbMask k).toNat, and_rbMask_lt index k⟩

def rbInitialize (buf : RingBuffer α k) : RingBuffer α k :=
  { buf with
    startIndex := 0
    endIndex := 0
    start_lt := Nat.two_pow_pos k
    end_lt := Nat.two_pow_pos k }

def rbLength (buf : RingBuffer α k) : UInt8 :=
  (buf.endIndex - buf.startIndex) &&& rbMask k

def rbPushBack (buf : RingBuffer α k) (value : α) : RingBuffer α k :=
  let buffer := buf.buffer.set buf.endIndex.toNat value buf.end_lt
  let endIndex := (buf.endIndex + 1) &&& rbMask k
  if endIndex = buf.startIndex then
    { buffer, endIndex, startIndex := (buf.startIndex + 1) &&& rbMask k
      start_lt := and_rbMask_lt _ k, end_lt := and_rbMask_lt _ k }
  else
    { buffer, endIndex, startIndex := buf.startIndex
      start_lt := buf.start_lt, end_lt := and_rbMask_lt _ k }

def rbPushFront (buf : RingBuffer α k) (value : α) : RingBuffer α k :=
  let startIndex := (buf.startIndex - 1) &&& rbMask k
  let buffer := buf.buffer.set startIndex.toNat value (and_rbMask_lt _ k)
  if startIndex = buf.endIndex then
    { buffer, startIndex, endIndex := (buf.endIndex - 1) &&& rbMask k
      start_lt := and_rbMask_lt _ k, end_lt := and_rbMask_lt _ k }
  else
    { buffer, startIndex, endIndex := buf.endIndex
      start_lt := and_rbMask_lt _ k, end_lt := buf.end_lt }

def rbPopBack [Zero α] (buf : RingBuffer α k) : α × RingBuffer α k :=
  if buf.startIndex ≠ buf.endIndex then
    (rbSlot buf (buf.endIndex - 1),
      { buf with endIndex := (buf.endIndex - 1) &&& rbMask k, end_lt := and_rbMask_lt _ k })
  else (0, buf)

def rbPopFront [Zero α] (buf : RingBuffer α k) : α × RingBuffer α k :=
  if buf.endIndex ≠ buf.startIndex then
    (rbSlot buf (((buf.startIndex + 1) &&& rbMask k) - 1),
      { buf with startIndex := (buf.startIndex + 1) &&& rbMask k, start_lt := and_rbMask_lt _ k })
  else (0, buf)

def rbGet (buf : RingBuffer α k) (index : UInt8) : α :=
  rbSlot buf (buf.startIndex + index)

/-- The extension loop of `rb_set`, `none` when `index` still lies outside after
all of its passes. -/
def rbExtend (index : UInt8) (value : α) : ℕ → RingBuffer α k → Option (RingBuffer α k)
  | 0, buf => if index ≥ rbLength buf then none else some buf
  | passes + 1, buf =>
      if index ≥ rbLength buf then rbExtend index value passes (rbPushBack buf value)
      else some buf

/-- `none` is a call that does not return: `RB_LENGTH` pushes fill the buffer, and
pushing onto a full buffer does not lengthen it. -/
def rbSet (buf : RingBuffer α k) (index : UInt8) (value : α) : Option (RingBuffer α k) :=
  if index ≥ rbLength buf then
    if index.toNat ≥ 2 ^ k then some buf else rbExtend index value (2 ^ k) buf
  else
    some { buf with
      buffer := buf.buffer.set ((buf.startIndex + index) &&& rbMask k).toNat value
        (and_rbMask_lt _ k) }

end ZumoDelivery
