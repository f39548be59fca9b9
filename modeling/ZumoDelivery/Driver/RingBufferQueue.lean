import Mathlib.Data.Nat.ModEq
import Mathlib.Data.Vector.Basic
import ZumoDelivery.Driver.RingBuffer

set_option autoImplicit false

namespace ZumoDelivery

variable {α : Type} {k : ℕ}

theorem mod_of_lt_two_mul {size index : ℕ} (below : index < 2 * size) :
    index % size = if index < size then index else index - size := by
  split
  · rename_i inside
    exact Nat.mod_eq_of_lt inside
  · rename_i wrapped
    rw [Nat.mod_eq_sub_mod (by omega), Nat.mod_eq_of_lt (by omega)]

/-- The mask reduces an index modulo the buffer length, 8-bit wrap included. -/
theorem and_rbMask_toNat (small : k ≤ 8) (index : UInt8) :
    (index &&& rbMask k).toNat = index.toNat % 2 ^ k := by
  have bound : 2 ^ k ≤ 2 ^ 8 := Nat.pow_le_pow_right (by decide) small
  have positive : 0 < 2 ^ k := Nat.two_pow_pos k
  rw [UInt8.toNat_and, rbMask, UInt8.toNat_ofNat', Nat.mod_eq_of_lt (by omega),
    Nat.and_two_pow_sub_one_eq_mod]

theorem mod_256_mod (small : k ≤ 8) (index : ℕ) : index % 2 ^ 8 % 2 ^ k = index % 2 ^ k :=
  Nat.mod_mod_of_dvd index (Nat.pow_dvd_pow 2 small)

theorem succ_and_rbMask (small : k ≤ 8) (index : UInt8) :
    ((index + 1) &&& rbMask k).toNat = (index.toNat + 1) % 2 ^ k := by
  rw [and_rbMask_toNat small, UInt8.toNat_add, mod_256_mod small]
  rfl

theorem pred_and_rbMask (small : k ≤ 8) (index : UInt8) :
    ((index - 1) &&& rbMask k).toNat = (index.toNat + (2 ^ 8 - 1)) % 2 ^ k := by
  rw [and_rbMask_toNat small, UInt8.toNat_sub, mod_256_mod small, Nat.add_comm]
  rfl

namespace RingBuffer

def count (buf : RingBuffer α k) : ℕ :=
  (buf.endIndex.toNat + 2 ^ k - buf.startIndex.toNat) % 2 ^ k

/-- The element `offset` places behind the front. -/
def cell (buf : RingBuffer α k) (offset : ℕ) : α :=
  buf.buffer.get ⟨(buf.startIndex.toNat + offset) % 2 ^ k, Nat.mod_lt _ (Nat.two_pow_pos k)⟩

/-- The stored elements, front first. -/
def toList (buf : RingBuffer α k) : List α :=
  (List.range buf.count).map buf.cell

theorem count_eq (buf : RingBuffer α k) :
    buf.count = if buf.startIndex.toNat ≤ buf.endIndex.toNat
      then buf.endIndex.toNat - buf.startIndex.toNat
      else buf.endIndex.toNat + 2 ^ k - buf.startIndex.toNat := by
  have first := buf.start_lt
  have last := buf.end_lt
  rw [count, mod_of_lt_two_mul (by omega)]
  split <;> split <;> omega

theorem count_lt (buf : RingBuffer α k) : buf.count < 2 ^ k :=
  Nat.mod_lt _ (Nat.two_pow_pos k)

@[simp] theorem length_toList (buf : RingBuffer α k) : buf.toList.length = buf.count := by
  simp only [toList, List.length_map, List.length_range]

theorem getElem_toList (buf : RingBuffer α k) (i : ℕ) (inside : i < buf.toList.length) :
    buf.toList[i] = buf.cell i := by
  simp only [toList, List.getElem_map, List.getElem_range]

theorem toList_eq_nil_iff (buf : RingBuffer α k) :
    buf.toList = [] ↔ buf.endIndex = buf.startIndex := by
  rw [← List.length_eq_zero_iff, length_toList, count_eq, ← UInt8.toNat_inj]
  have first := buf.start_lt
  have last := buf.end_lt
  split <;> omega

end RingBuffer

theorem rbLength_toNat (small : k ≤ 8) (buf : RingBuffer α k) :
    (rbLength buf).toNat = buf.toList.length := by
  have bound : 2 ^ k ≤ 2 ^ 8 := Nat.pow_le_pow_right (by decide) small
  have first := buf.start_lt
  have last := buf.end_lt
  have dvd := mod_256_mod small (buf.endIndex.toNat + 2 ^ 8 - buf.startIndex.toNat)
  obtain ⟨factor, split⟩ : 2 ^ k ∣ 2 ^ 8 - 2 ^ k :=
    Nat.dvd_sub (Nat.pow_dvd_pow 2 small) (Nat.dvd_refl _)
  have wrapped : buf.endIndex.toNat + 2 ^ 8 - buf.startIndex.toNat =
      buf.endIndex.toNat + 2 ^ k - buf.startIndex.toNat + 2 ^ k * factor := by
    omega
  rw [rbLength, and_rbMask_toNat small, UInt8.toNat_sub, RingBuffer.length_toList,
    RingBuffer.count, show 2 ^ 8 - buf.startIndex.toNat + buf.endIndex.toNat =
      buf.endIndex.toNat + 2 ^ 8 - buf.startIndex.toNat by omega, dvd, wrapped,
    Nat.add_mul_mod_self_left]

theorem rbSlot_eq_cell (small : k ≤ 8) (buf : RingBuffer α k) (index : UInt8) :
    rbSlot buf (buf.startIndex + index) = buf.cell index.toNat := by
  rw [rbSlot, RingBuffer.cell]
  congr 2
  rw [and_rbMask_toNat small, UInt8.toNat_add, mod_256_mod small]

theorem rbGet_eq (small : k ≤ 8) (buf : RingBuffer α k) (index : UInt8)
    (inside : index.toNat < buf.toList.length) :
    rbGet buf index = buf.toList[index.toNat] := by
  rw [rbGet, rbSlot_eq_cell small, RingBuffer.getElem_toList]

@[simp] theorem toList_rbInitialize (buf : RingBuffer α k) :
    (rbInitialize buf).toList = [] := by
  rw [RingBuffer.toList_eq_nil_iff]
  rfl

theorem RingBuffer.toList_eq_drop_append (buf after : RingBuffer α k) (values : List α)
    (shift : ℕ) (length : after.count + shift = buf.count + values.length)
    (kept : shift ≤ buf.count)
    (old : ∀ i, i + shift < buf.count → after.cell i = buf.cell (i + shift))
    (new : ∀ i, (inside : i < values.length) →
      after.cell (buf.count - shift + i) = values[i]) :
    after.toList = (buf.toList ++ values).drop shift := by
  apply List.ext_getElem
  · simp only [length_toList, List.length_drop, List.length_append]
    omega
  · intro i inside _
    rw [length_toList] at inside
    rw [getElem_toList, List.getElem_drop]
    by_cases before : i + shift < buf.count
    · rw [List.getElem_append_left (by simpa only [length_toList, Nat.add_comm] using before),
        getElem_toList, old i before, Nat.add_comm]
    · rw [List.getElem_append_right (by rw [length_toList]; omega)]
      simp only [length_toList]
      have same := new (i + shift - buf.count) (by omega)
      rw [show buf.count - shift + (i + shift - buf.count) = i by omega] at same
      rw [same]
      congr 1
      omega

theorem RingBuffer.end_eq (buf : RingBuffer α k) :
    buf.endIndex.toNat = (buf.startIndex.toNat + buf.count) % 2 ^ k := by
  have first := buf.start_lt
  have last := buf.end_lt
  have count := buf.count_eq
  rw [mod_of_lt_two_mul (by have := buf.count_lt; omega)]
  split at count <;> split <;> omega

theorem slot_ne {size start i j : ℕ} (before : i < j) (inside : j < size) :
    (start + j) % size ≠ (start + i) % size := by
  intro same
  have equal : j ≡ i [MOD size] := Nat.ModEq.add_left_cancel' start same
  rw [Nat.ModEq, Nat.mod_eq_of_lt inside, Nat.mod_eq_of_lt (by omega)] at equal
  omega

theorem RingBuffer.cell_of_unwritten (buf after : RingBuffer α k) (value : α) (i j : ℕ)
    (written : after.buffer = buf.buffer.set buf.endIndex.toNat value buf.end_lt)
    (same : (after.startIndex.toNat + i) % 2 ^ k = (buf.startIndex.toNat + j) % 2 ^ k)
    (stored : j < buf.count) : after.cell i = buf.cell j := by
  have apart : buf.endIndex.toNat ≠ (buf.startIndex.toNat + j) % 2 ^ k := by
    rw [buf.end_eq]
    exact slot_ne stored buf.count_lt
  simp only [cell, written, same]
  exact Vector.getElem_set_ne _ _ apart

theorem RingBuffer.cell_of_written (buf after : RingBuffer α k) (value : α) (i : ℕ)
    (written : after.buffer = buf.buffer.set buf.endIndex.toNat value buf.end_lt)
    (same : (after.startIndex.toNat + i) % 2 ^ k = (buf.startIndex.toNat + buf.count) % 2 ^ k) :
    after.cell i = value := by
  simp only [cell, written, same, ← buf.end_eq]
  exact Vector.getElem_set_self ..

theorem rbPushBack_buffer (buf : RingBuffer α k) (value : α) :
    (rbPushBack buf value).buffer = buf.buffer.set buf.endIndex.toNat value buf.end_lt := by
  unfold rbPushBack
  dsimp only
  split <;> rfl

theorem rbPushBack_endIndex (small : k ≤ 8) (buf : RingBuffer α k) (value : α) :
    (rbPushBack buf value).endIndex.toNat = (buf.endIndex.toNat + 1) % 2 ^ k := by
  rw [← succ_and_rbMask small]
  unfold rbPushBack
  dsimp only
  split <;> rfl

/-- The test `end_index == start_index` after the increment is a full buffer. -/
theorem end_succ_eq_start_iff (small : k ≤ 8) (buf : RingBuffer α k) :
    (buf.endIndex + 1) &&& rbMask k = buf.startIndex ↔ buf.count + 1 = 2 ^ k := by
  have first := buf.start_lt
  have last := buf.end_lt
  have count := buf.count_eq
  rw [← UInt8.toNat_inj, succ_and_rbMask small, mod_of_lt_two_mul (by omega)]
  split at count <;> split <;> omega

theorem rbPushBack_startIndex (small : k ≤ 8) (buf : RingBuffer α k) (value : α) :
    (rbPushBack buf value).startIndex.toNat =
      if buf.count + 1 = 2 ^ k then (buf.startIndex.toNat + 1) % 2 ^ k
      else buf.startIndex.toNat := by
  rw [← succ_and_rbMask small]
  unfold rbPushBack
  simp only [end_succ_eq_start_iff small]
  split <;> rfl

theorem rbPushBack_count (small : k ≤ 8) (buf : RingBuffer α k) (value : α) :
    (rbPushBack buf value).count =
      if buf.count + 1 = 2 ^ k then buf.count else buf.count + 1 := by
  have first := buf.start_lt
  have last := buf.end_lt
  have count := buf.count_eq
  rw [RingBuffer.count_eq, rbPushBack_startIndex small, rbPushBack_endIndex small,
    mod_of_lt_two_mul (by omega), mod_of_lt_two_mul (by omega)]
  split at count <;> grind

theorem toList_rbPushBack (small : k ≤ 8) (buf : RingBuffer α k) (value : α) :
    (rbPushBack buf value).toList = BoundedQueue.pushBack (2 ^ k - 1) buf.toList value := by
  have bound := buf.count_lt
  have written := rbPushBack_buffer buf value
  have started := rbPushBack_startIndex small buf value
  have counted := rbPushBack_count small buf value
  rw [BoundedQueue.pushBack, List.rtake, List.length_append, RingBuffer.length_toList,
    List.length_singleton]
  by_cases full : buf.count + 1 = 2 ^ k
  · rw [if_pos full] at started counted
    have next : ∀ i, ((rbPushBack buf value).startIndex.toNat + i) % 2 ^ k =
        (buf.startIndex.toNat + (i + 1)) % 2 ^ k := by
      intro i
      rw [started, Nat.mod_add_mod, Nat.add_assoc, Nat.add_comm 1 i]
    by_cases empty : buf.count = 0
    · rw [show buf.count + 1 - (2 ^ k - 1) = 1 by omega]
      have none : buf.toList = [] := List.eq_nil_of_length_eq_zero (by simpa using empty)
      have gone : (rbPushBack buf value).toList = [] :=
        List.eq_nil_of_length_eq_zero (by simpa [counted] using empty)
      rw [none, gone]
      rfl
    · rw [show buf.count + 1 - (2 ^ k - 1) = 1 by omega]
      apply RingBuffer.toList_eq_drop_append
      · rw [counted, List.length_singleton]
      · omega
      · intro i stored
        exact buf.cell_of_unwritten _ value i (i + 1) written (next i) stored
      · intro i inside
        have zero : i = 0 := by simpa using inside
        subst zero
        refine buf.cell_of_written _ value _ written ?_
        rw [next]
        congr 2
        omega
  · rw [if_neg full] at started counted
    rw [show buf.count + 1 - (2 ^ k - 1) = 0 by omega]
    apply RingBuffer.toList_eq_drop_append
    · rw [counted, List.length_singleton]
    · omega
    · intro i stored
      exact buf.cell_of_unwritten _ value i i written (by rw [started]) stored
    · intro i inside
      have zero : i = 0 := by simpa using inside
      subst zero
      exact buf.cell_of_written _ value _ written (by rw [started]; rfl)

/-- Pushing a run of bytes one at a time, as `usb_send_data` does. -/
theorem toList_foldl_rbPushBack (small : k ≤ 8) (buf : RingBuffer α k) (values : List α) :
    (values.foldl rbPushBack buf).toList =
      BoundedQueue.pushAll (2 ^ k - 1) buf.toList values := by
  induction values generalizing buf with
  | nil => rfl
  | cons value values ih =>
      rw [List.foldl_cons, ih, toList_rbPushBack small]
      rfl

theorem toList_foldl_rbPushBack_of_room (small : k ≤ 8) (buf : RingBuffer α k)
    (values : List α) (room : buf.toList.length + values.length < 2 ^ k) :
    (values.foldl rbPushBack buf).toList = buf.toList ++ values := by
  rw [toList_foldl_rbPushBack small]
  exact BoundedQueue.pushAll_of_room _ _ _ (by omega)

/-- A run of bytes moves `end_index` by its length, whatever the buffer holds. -/
theorem endIndex_foldl_rbPushBack (small : k ≤ 8) (buf : RingBuffer α k) (values : List α) :
    (values.foldl rbPushBack buf).endIndex.toNat =
      (buf.endIndex.toNat + values.length) % 2 ^ k := by
  induction values generalizing buf with
  | nil => exact (Nat.mod_eq_of_lt buf.end_lt).symm
  | cons value values ih =>
      rw [List.foldl_cons, ih, rbPushBack_endIndex small, Nat.mod_add_mod, List.length_cons,
        Nat.add_assoc, Nat.add_comm 1]

section Pop

variable [Zero α]

theorem rbPopFront_of_nil (buf : RingBuffer α k) (empty : buf.toList = []) :
    rbPopFront buf = (0, buf) := by
  rw [RingBuffer.toList_eq_nil_iff] at empty
  simp only [rbPopFront, empty, ne_eq, not_true_eq_false, ↓reduceIte]

theorem rbPopFront_of_cons (small : k ≤ 8) (buf : RingBuffer α k) (front : α) (rest : List α)
    (stored : buf.toList = front :: rest) :
    (rbPopFront buf).1 = front ∧ (rbPopFront buf).2.toList = rest := by
  have first := buf.start_lt
  have last := buf.end_lt
  have count := buf.count_eq
  have length := congrArg List.length stored
  rw [RingBuffer.length_toList, List.length_cons] at length
  have nonempty : buf.endIndex ≠ buf.startIndex := by
    rw [ne_eq, ← RingBuffer.toList_eq_nil_iff, stored]
    exact List.cons_ne_nil front rest
  have moved := succ_and_rbMask small buf.startIndex
  have popped : (rbPopFront buf).2.startIndex.toNat = (buf.startIndex.toNat + 1) % 2 ^ k := by
    simp only [rbPopFront, ne_eq, nonempty, not_false_eq_true, ↓reduceIte, moved]
  have kept : (rbPopFront buf).2.endIndex = buf.endIndex := by
    simp only [rbPopFront, ne_eq, nonempty, not_false_eq_true, ↓reduceIte]
  have buffer : (rbPopFront buf).2.buffer = buf.buffer := by
    simp only [rbPopFront, ne_eq, nonempty, not_false_eq_true, ↓reduceIte]
  have counted : (rbPopFront buf).2.count = rest.length := by
    rw [RingBuffer.count_eq, popped, kept, mod_of_lt_two_mul (by omega)]
    split at count <;> grind
  have cells : ∀ i, (rbPopFront buf).2.cell i = buf.cell (i + 1) := by
    intro i
    simp only [RingBuffer.cell, buffer, popped, Nat.mod_add_mod]
    congr 3
    omega
  constructor
  · -- Stepping forward and back by one returns to the old front slot.
    have back : (((buf.startIndex + 1) &&& rbMask k) - 1 &&& rbMask k).toNat =
        (buf.startIndex.toNat + 0) % 2 ^ k := by
      rw [pred_and_rbMask small, moved, Nat.mod_add_mod, Nat.add_assoc,
        show 1 + (2 ^ 8 - 1) = 2 ^ 8 by rfl, Nat.add_mod, Nat.mod_eq_zero_of_dvd
          (Nat.pow_dvd_pow 2 small), Nat.add_zero, Nat.mod_mod, Nat.add_zero]
    have head : buf.cell 0 = front := by
      rw [← RingBuffer.getElem_toList buf 0 (by rw [stored]; exact Nat.succ_pos _)]
      simp only [stored, List.getElem_cons_zero]
    rw [← head]
    simp only [rbPopFront, ne_eq, nonempty, not_false_eq_true, ↓reduceIte, rbSlot,
      RingBuffer.cell, back]
  · apply List.ext_getElem
    · rw [RingBuffer.length_toList, counted]
    · intro i inside _
      rw [RingBuffer.getElem_toList, cells,
        ← RingBuffer.getElem_toList buf (i + 1) (by
          rw [RingBuffer.length_toList, counted] at inside
          rw [RingBuffer.length_toList]; omega)]
      simp only [stored, List.getElem_cons_succ]

end Pop

end ZumoDelivery
