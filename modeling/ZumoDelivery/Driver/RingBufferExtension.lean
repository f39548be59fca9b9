import Mathlib.Logic.Function.Iterate
import ZumoDelivery.Driver.RingBufferDeque

set_option autoImplicit false

namespace ZumoDelivery

variable {α : Type} {k : ℕ}

/-- The buffer after a number of passes of the extension loop. -/
def rbPushed (value : α) (passes : ℕ) (buf : RingBuffer α k) : RingBuffer α k :=
  (fun buf => rbPushBack buf value)^[passes] buf

/-- A call of `rb_set` gets past its extension loop: it is rejected before the loop, or
some number of passes puts `index` inside. -/
def SetEnds (buf : RingBuffer α k) (index : UInt8) (value : α) : Prop :=
  2 ^ k ≤ index.toNat ∨ ∃ passes, index < rbLength (rbPushed value passes buf)

/-- The loop fills the buffer and then stays at its capacity. -/
theorem rbLength_rbPushed (small : k ≤ 8) (value : α) (passes : ℕ) (buf : RingBuffer α k) :
    (rbLength (rbPushed value passes buf)).toNat =
      min (2 ^ k - 1) (buf.toList.length + passes) := by
  have bound := buf.count_lt
  rw [rbLength_toNat small, RingBuffer.length_toList, RingBuffer.length_toList]
  induction passes with
  | zero =>
      change buf.count = _
      omega
  | succ passes ih =>
      rw [rbPushed, Function.iterate_succ_apply']
      have pushed := rbPushBack_count small (rbPushed value passes buf) value
      rw [rbPushed] at pushed ih
      rw [pushed, ih]
      split <;> omega

/-- The last index of the buffer is not rejected, and no number of elements that the
buffer can hold exceeds it. -/
theorem setEnds_iff (small : k ≤ 8) (buf : RingBuffer α k) (index : UInt8) (value : α) :
    SetEnds buf index value ↔ index.toNat ≠ 2 ^ k - 1 := by
  have positive : 0 < 2 ^ k := Nat.two_pow_pos k
  simp only [SetEnds, UInt8.lt_iff_toNat_lt, rbLength_rbPushed small]
  constructor
  · rintro (rejected | ⟨passes, inside⟩)
    · omega
    · omega
  · intro other
    by_cases rejected : 2 ^ k ≤ index.toNat
    · exact Or.inl rejected
    · right
      exists index.toNat + 1
      omega

theorem rbLength_le_last (small : k ≤ 8) (buf : RingBuffer α k) {index : UInt8}
    (last : index.toNat = 2 ^ k - 1) : index ≥ rbLength buf := by
  have bound := buf.count_lt
  rw [ge_iff_le, UInt8.le_iff_toNat_le, rbLength_toNat small, RingBuffer.length_toList]
  omega

theorem rbExtend_last (small : k ≤ 8) (buf : RingBuffer α k) {index : UInt8} (value : α)
    (passes : ℕ) (last : index.toNat = 2 ^ k - 1) : rbExtend index value passes buf = none := by
  induction passes generalizing buf with
  | zero => rw [rbExtend, if_pos (rbLength_le_last small buf last)]
  | succ passes ih => rw [rbExtend, if_pos (rbLength_le_last small buf last), ih]

/-- The passes that `rbSet` allows the loop are enough. -/
theorem rbSet_isSome_iff (small : k ≤ 8) (buf : RingBuffer α k) (index : UInt8) (value : α) :
    (rbSet buf index value).isSome ↔ SetEnds buf index value := by
  rw [setEnds_iff small]
  have positive : 0 < 2 ^ k := Nat.two_pow_pos k
  constructor
  · intro returned last
    rw [rbSet, if_pos (rbLength_le_last small buf last), if_neg (by omega),
      rbExtend_last small buf value _ last] at returned
    cases returned
  · intro other
    by_cases rejected : 2 ^ k ≤ index.toNat
    · rw [rbSet]
      split
      · rfl
      · rfl
    · by_cases inside : index.toNat < buf.toList.length
      · obtain ⟨after, set, -⟩ := rbSet_of_inside small buf index value inside
        rw [set, Option.isSome_some]
      · obtain ⟨after, set, -⟩ :=
          rbSet_of_outside small buf index value (by omega) (Nat.le_of_not_lt inside)
        rw [set, Option.isSome_some]

/-- Both buffers hang on their last index, and on no other. -/
theorem rb_set_ends_iff (F : Type) (index : UInt8) :
    (∀ (buf : RingBufferC) (value : UInt8), SetEnds buf index value ↔ index ≠ 63) ∧
      ∀ (buf : RingBufferF F) (value : F), SetEnds buf index value ↔ index ≠ 7 := by
  constructor
  · intro buf value
    rw [setEnds_iff (by decide), ne_eq, ne_eq, ← UInt8.toNat_inj]
    rfl
  · intro buf value
    rw [setEnds_iff (by decide), ne_eq, ne_eq, ← UInt8.toNat_inj]
    rfl

theorem not_rb_set_ends :
    ¬ ∀ (buf : RingBufferC) (index value : UInt8), SetEnds buf index value := by
  intro ends
  let fresh : RingBufferC := ⟨Vector.replicate 64 0, 0, 0, by decide, by decide⟩
  exact (setEnds_iff (by decide) fresh 63 1).mp (ends fresh 63 1) rfl

end ZumoDelivery
