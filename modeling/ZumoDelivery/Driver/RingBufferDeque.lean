import Mathlib.Data.UInt
import ZumoDelivery.Lib.BoundedDeque
import ZumoDelivery.Lib.CallSequence
import ZumoDelivery.Driver.RingBufferQueue

set_option autoImplicit false

namespace ZumoDelivery

variable {α : Type} {k : ℕ}

section PushFront

theorem pred_and_rbMask_eq (small : k ≤ 8) (index : UInt8) :
    ((index - 1) &&& rbMask k).toNat = (index.toNat + (2 ^ k - 1)) % 2 ^ k := by
  obtain ⟨factor, split⟩ : 2 ^ k ∣ 2 ^ 8 - 2 ^ k :=
    Nat.dvd_sub (Nat.pow_dvd_pow 2 small) (Nat.dvd_refl _)
  have bound : 2 ^ k ≤ 2 ^ 8 := Nat.pow_le_pow_right (by decide) small
  have positive : 0 < 2 ^ k := Nat.two_pow_pos k
  rw [pred_and_rbMask small, show index.toNat + (2 ^ 8 - 1) =
    index.toNat + (2 ^ k - 1) + 2 ^ k * factor by omega, Nat.add_mul_mod_self_left]

theorem rbPushFront_startIndex (small : k ≤ 8) (buf : RingBuffer α k) (value : α) :
    (rbPushFront buf value).startIndex.toNat =
      (buf.startIndex.toNat + (2 ^ k - 1)) % 2 ^ k := by
  rw [← pred_and_rbMask_eq small]
  unfold rbPushFront
  dsimp only
  split <;> rfl

theorem rbPushFront_buffer (buf : RingBuffer α k) (value : α) :
    (rbPushFront buf value).buffer = buf.buffer.set
      ((buf.startIndex - 1) &&& rbMask k).toNat value (and_rbMask_lt _ k) := by
  unfold rbPushFront
  dsimp only
  split <;> rfl

/-- The test `start_index == end_index` after the decrement is a full buffer. -/
theorem start_pred_eq_end_iff (small : k ≤ 8) (buf : RingBuffer α k) :
    (buf.startIndex - 1) &&& rbMask k = buf.endIndex ↔ buf.count + 1 = 2 ^ k := by
  have first := buf.start_lt
  have last := buf.end_lt
  have count := buf.count_eq
  rw [← UInt8.toNat_inj, pred_and_rbMask_eq small, mod_of_lt_two_mul (by omega)]
  split at count <;> split <;> omega

theorem rbPushFront_count (small : k ≤ 8) (buf : RingBuffer α k) (value : α) :
    (rbPushFront buf value).count =
      if buf.count + 1 = 2 ^ k then buf.count else buf.count + 1 := by
  have first := buf.start_lt
  have last := buf.end_lt
  have count := buf.count_eq
  have ended : (rbPushFront buf value).endIndex.toNat =
      if buf.count + 1 = 2 ^ k then (buf.endIndex.toNat + (2 ^ k - 1)) % 2 ^ k
      else buf.endIndex.toNat := by
    rw [← pred_and_rbMask_eq small]
    unfold rbPushFront
    simp only [start_pred_eq_end_iff small]
    split <;> rfl
  rw [RingBuffer.count_eq, rbPushFront_startIndex small, ended,
    mod_of_lt_two_mul (by omega), mod_of_lt_two_mul (by omega)]
  split at count <;> grind

/-- Every stored element moves one place back, the new one comes in front. -/
theorem rbPushFront_cell (small : k ≤ 8) (buf : RingBuffer α k) (value : α) (i : ℕ)
    (inside : i < 2 ^ k) :
    (rbPushFront buf value).cell i = if i = 0 then value else buf.cell (i - 1) := by
  have first := buf.start_lt
  have slot : (buf.startIndex.toNat + (2 ^ k - 1)) % 2 ^ k < 2 ^ k :=
    Nat.mod_lt _ (Nat.two_pow_pos k)
  simp only [RingBuffer.cell, rbPushFront_buffer, rbPushFront_startIndex small,
    pred_and_rbMask_eq small]
  by_cases front : i = 0
  · subst front
    simp only [Nat.add_zero, Nat.mod_mod, ↓reduceIte]
    exact Vector.getElem_set_self ..
  · have back : (buf.startIndex.toNat + (2 ^ k - 1)) % 2 ^ k + i =
        buf.startIndex.toNat + (i - 1) ∨
        (buf.startIndex.toNat + (2 ^ k - 1)) % 2 ^ k + i =
          buf.startIndex.toNat + (i - 1) + 2 ^ k := by
      rw [mod_of_lt_two_mul (by omega)]
      split <;> omega
    have same : ((buf.startIndex.toNat + (2 ^ k - 1)) % 2 ^ k + i) % 2 ^ k =
        (buf.startIndex.toNat + (i - 1)) % 2 ^ k := by
      rcases back with plain | wrapped
      · rw [plain]
      · rw [wrapped, Nat.add_mod_right]
    have apart : ((buf.startIndex.toNat + (2 ^ k - 1)) % 2 ^ k + i) % 2 ^ k ≠
        ((buf.startIndex.toNat + (2 ^ k - 1)) % 2 ^ k + 0) % 2 ^ k :=
      slot_ne (by omega) inside
    rw [Nat.add_zero, Nat.mod_mod] at apart
    simp only [front, same, ↓reduceIte] at apart ⊢
    exact Vector.getElem_set_ne _ _ (Ne.symm apart)

theorem toList_rbPushFront (small : k ≤ 8) (buf : RingBuffer α k) (value : α) :
    (rbPushFront buf value).toList = (value :: buf.toList).take (2 ^ k - 1) := by
  have bound := buf.count_lt
  have counted := rbPushFront_count small buf value
  apply List.ext_getElem
  · rw [RingBuffer.length_toList, counted, List.length_take, List.length_cons,
      RingBuffer.length_toList]
    split <;> omega
  · intro i inside below
    rw [List.length_take] at below
    rw [RingBuffer.getElem_toList, rbPushFront_cell small buf value i (by omega),
      List.getElem_take, List.getElem_cons]
    by_cases front : i = 0
    · simp only [front, ↓reduceIte, ↓reduceDIte]
    · simp only [front, ↓reduceIte, ↓reduceDIte, RingBuffer.getElem_toList]

end PushFront

section Pop

variable [Zero α]

theorem rbPopBack_of_nil (buf : RingBuffer α k) (empty : buf.toList = []) :
    rbPopBack buf = (0, buf) := by
  rw [RingBuffer.toList_eq_nil_iff] at empty
  simp only [rbPopBack, empty, ne_eq, not_true_eq_false, ↓reduceIte]

/-- A successful pop returns the last element and keeps the others. -/
theorem rbPopBack_of_ne_nil (small : k ≤ 8) (buf : RingBuffer α k) (stored : buf.toList ≠ []) :
    (rbPopBack buf).1 = buf.toList.getLast stored ∧
      (rbPopBack buf).2.toList = buf.toList.dropLast := by
  have first := buf.start_lt
  have last := buf.end_lt
  have count := buf.count_eq
  have positive : 0 < buf.count := by
    rw [← RingBuffer.length_toList]
    exact List.length_pos_of_ne_nil stored
  have nonempty : buf.startIndex ≠ buf.endIndex := by
    intro same
    exact stored (buf.toList_eq_nil_iff.mpr same.symm)
  have popped : (rbPopBack buf).2.endIndex.toNat = (buf.endIndex.toNat + (2 ^ k - 1)) % 2 ^ k := by
    simp only [rbPopBack, ne_eq, nonempty, not_false_eq_true, ↓reduceIte, pred_and_rbMask_eq small]
  have kept : (rbPopBack buf).2.startIndex = buf.startIndex := by
    simp only [rbPopBack, ne_eq, nonempty, not_false_eq_true, ↓reduceIte]
  have buffer : (rbPopBack buf).2.buffer = buf.buffer := by
    simp only [rbPopBack, ne_eq, nonempty, not_false_eq_true, ↓reduceIte]
  have counted : (rbPopBack buf).2.count = buf.count - 1 := by
    rw [RingBuffer.count_eq, popped, kept, mod_of_lt_two_mul (by omega)]
    split at count <;> grind
  constructor
  · have back : (buf.endIndex - 1 &&& rbMask k).toNat =
        (buf.startIndex.toNat + (buf.count - 1)) % 2 ^ k := by
      rw [pred_and_rbMask_eq small, buf.end_eq, Nat.mod_add_mod,
        show buf.startIndex.toNat + buf.count + (2 ^ k - 1) =
          buf.startIndex.toNat + (buf.count - 1) + 2 ^ k by omega, Nat.add_mod_right]
    rw [List.getLast_eq_getElem, RingBuffer.getElem_toList, RingBuffer.length_toList]
    simp only [rbPopBack, ne_eq, nonempty, not_false_eq_true, ↓reduceIte, rbSlot,
      RingBuffer.cell, back]
  · apply List.ext_getElem
    · rw [List.length_dropLast, RingBuffer.length_toList, RingBuffer.length_toList, counted]
    · intro i inside _
      rw [RingBuffer.getElem_toList, List.getElem_dropLast, RingBuffer.getElem_toList]
      simp only [RingBuffer.cell, buffer, kept]

end Pop

section Set

/-- Each pass of the extension loop appends one more copy. -/
theorem rbExtend_eq (small : k ≤ 8) (index : UInt8) (value : α)
    (fits : index.toNat < 2 ^ k - 1) (passes : ℕ) (buf : RingBuffer α k)
    (outside : buf.toList.length ≤ index.toNat + 1)
    (enough : index.toNat + 1 ≤ buf.toList.length + passes) :
    ∃ after, rbExtend index value passes buf = some after ∧
      after.toList =
        buf.toList ++ List.replicate (index.toNat + 1 - buf.toList.length) value := by
  induction passes generalizing buf with
  | zero =>
      refine ⟨buf, ?_, ?_⟩
      · rw [rbExtend, if_neg]
        rw [ge_iff_le, UInt8.le_iff_toNat_le, rbLength_toNat small]
        omega
      · rw [show index.toNat + 1 - buf.toList.length = 0 by omega, List.replicate_zero,
          List.append_nil]
  | succ passes ih =>
      rw [rbExtend]
      by_cases short : buf.toList.length ≤ index.toNat
      · have pushed : (rbPushBack buf value).toList = buf.toList ++ [value] := by
          rw [toList_rbPushBack small, BoundedQueue.pushBack, BoundedQueue.rtake_eq_self (by
            rw [List.length_append, List.length_singleton]
            omega)]
        have length : (rbPushBack buf value).toList.length = buf.toList.length + 1 := by
          rw [pushed, List.length_append, List.length_singleton]
        obtain ⟨after, extended, listed⟩ := ih (rbPushBack buf value) (by omega) (by omega)
        refine ⟨after, ?_, ?_⟩
        · rw [if_pos, extended]
          rwa [ge_iff_le, UInt8.le_iff_toNat_le, rbLength_toNat small]
        · rw [listed, length, pushed, List.append_assoc, List.singleton_append,
            ← List.replicate_succ,
            show index.toNat + 1 - (buf.toList.length + 1) + 1 =
              index.toNat + 1 - buf.toList.length by omega]
      · refine ⟨buf, ?_, ?_⟩
        · rw [if_neg]
          rwa [ge_iff_le, UInt8.le_iff_toNat_le, rbLength_toNat small]
        · rw [show index.toNat + 1 - buf.toList.length = 0 by omega, List.replicate_zero,
            List.append_nil]

theorem rbSet_of_outside (small : k ≤ 8) (buf : RingBuffer α k) (index : UInt8) (value : α)
    (fits : index.toNat < 2 ^ k - 1) (outside : buf.toList.length ≤ index.toNat) :
    ∃ after, rbSet buf index value = some after ∧
      after.toList =
        buf.toList ++ List.replicate (index.toNat + 1 - buf.toList.length) value := by
  rw [rbSet, if_pos (by rwa [ge_iff_le, UInt8.le_iff_toNat_le, rbLength_toNat small]),
    if_neg (by omega)]
  exact rbExtend_eq small index value fits (2 ^ k) buf (by omega) (by omega)

theorem rbSet_of_inside (small : k ≤ 8) (buf : RingBuffer α k) (index : UInt8) (value : α)
    (inside : index.toNat < buf.toList.length) :
    ∃ after, rbSet buf index value = some after ∧
      after.toList = buf.toList.set index.toNat value := by
  have bound := buf.count_lt
  rw [rbSet, if_neg (by
    rw [ge_iff_le, UInt8.le_iff_toNat_le, rbLength_toNat small]
    omega)]
  refine ⟨_, rfl, ?_⟩
  have slot : (buf.startIndex + index &&& rbMask k).toNat =
      (buf.startIndex.toNat + index.toNat) % 2 ^ k := by
    rw [and_rbMask_toNat small, UInt8.toNat_add, mod_256_mod small]
  apply List.ext_getElem
  · rw [List.length_set, RingBuffer.length_toList, RingBuffer.length_toList]
    rfl
  · intro i _ listed
    have stored : i < buf.count := by
      rwa [List.length_set, RingBuffer.length_toList] at listed
    rw [RingBuffer.length_toList] at inside
    rw [RingBuffer.getElem_toList, List.getElem_set, RingBuffer.getElem_toList]
    simp only [RingBuffer.cell, slot]
    by_cases same : index.toNat = i
    · simp only [same, ↓reduceIte]
      exact Vector.getElem_set_self ..
    · rw [if_neg same]
      have apart : (buf.startIndex.toNat + index.toNat) % 2 ^ k ≠
          (buf.startIndex.toNat + i) % 2 ^ k := by
        rcases Nat.lt_or_gt_of_ne same with before | behind
        · exact Ne.symm (slot_ne before (by omega))
        · exact slot_ne behind (by omega)
      exact Vector.getElem_set_ne _ _ apart

end Set

section Deque

inductive RbCall (α : Type) where
  | pushBack (value : α)
  | pushFront (value : α)
  | popBack
  | popFront
  | get (index : UInt8)
  | set (index : UInt8) (value : α)

/-- The deque operation a call stands for. -/
def RbCall.op : RbCall α → BoundedDeque.Op α
  | .pushBack value => .pushBack value
  | .pushFront value => .pushFront value
  | .popBack => .popBack
  | .popFront => .popFront
  | .get index => .get index.toNat
  | .set index value => .set index.toNat value

variable [Zero α]

def rbCall (buf : RingBuffer α k) : RbCall α → Option (Option α × RingBuffer α k)
  | .pushBack value => some (none, rbPushBack buf value)
  | .pushFront value => some (none, rbPushFront buf value)
  | .popBack => some (some (rbPopBack buf).1, (rbPopBack buf).2)
  | .popFront => some (some (rbPopFront buf).1, (rbPopFront buf).2)
  | .get index => some (some (rbGet buf index), buf)
  | .set index value => (rbSet buf index value).map fun after => (none, after)

/-- The call returns, answers as the deque does and leaves its contents. -/
def RbCall.Simulates (buf : RingBuffer α k) (call : RbCall α) : Prop :=
  ∃ after, rbCall buf call =
      some ((BoundedDeque.step (2 ^ k - 1) buf.toList call.op).1, after) ∧
    after.toList = (BoundedDeque.step (2 ^ k - 1) buf.toList call.op).2

theorem simulates_popBack (small : k ≤ 8) (buf : RingBuffer α k) :
    RbCall.popBack.Simulates buf := by
  by_cases empty : buf.toList = []
  · refine ⟨buf, ?_, ?_⟩
    · simp only [rbCall, rbPopBack_of_nil buf empty, RbCall.op, BoundedDeque.step, empty,
        List.getLast?_nil, Option.getD_none]
    · simp only [RbCall.op, BoundedDeque.step, empty, List.dropLast_nil]
  · obtain ⟨returned, kept⟩ := rbPopBack_of_ne_nil small buf empty
    refine ⟨(rbPopBack buf).2, ?_, kept⟩
    simp only [rbCall, returned, RbCall.op, BoundedDeque.step,
      List.getLast?_eq_some_getLast empty, Option.getD_some]

theorem simulates_popFront (small : k ≤ 8) (buf : RingBuffer α k) :
    RbCall.popFront.Simulates buf := by
  cases stored : buf.toList with
  | nil =>
      refine ⟨buf, ?_, ?_⟩
      · simp only [rbCall, rbPopFront_of_nil buf stored, RbCall.op, BoundedDeque.step, stored,
          List.head?_nil, Option.getD_none]
      · simp only [RbCall.op, BoundedDeque.step, stored, List.tail_nil]
  | cons front rest =>
      obtain ⟨returned, kept⟩ := rbPopFront_of_cons small buf front rest stored
      refine ⟨(rbPopFront buf).2, ?_, ?_⟩
      · simp only [rbCall, returned, RbCall.op, BoundedDeque.step, stored, List.head?_cons,
          Option.getD_some]
      · simp only [RbCall.op, BoundedDeque.step, stored, kept, List.tail_cons]

theorem simulates_set (small : k ≤ 8) (buf : RingBuffer α k) (index : UInt8) (value : α)
    (allowed : index.toNat < 2 ^ k - 1) : (RbCall.set index value).Simulates buf := by
  simp only [RbCall.Simulates, RbCall.op, BoundedDeque.step, BoundedDeque.set]
  by_cases inside : index.toNat < buf.toList.length
  · obtain ⟨after, called, listed⟩ := rbSet_of_inside small buf index value inside
    refine ⟨after, ?_, ?_⟩
    · simp only [rbCall, called, Option.map_some]
    · rw [listed, if_pos inside]
  · obtain ⟨after, called, listed⟩ := rbSet_of_outside small buf index value allowed (by omega)
    refine ⟨after, ?_, ?_⟩
    · simp only [rbCall, called, Option.map_some]
    · rw [listed, if_neg inside]

theorem rbCall_simulates (positive : 0 < k) (small : k ≤ 8) (buf : RingBuffer α k)
    (call : RbCall α) (allowed : BoundedDeque.Allowed (2 ^ k - 1) buf.toList call.op) :
    call.Simulates buf := by
  have bound := buf.count_lt
  have room : 0 < 2 ^ k - 1 := by
    have := Nat.one_lt_two_pow (n := k) (by omega)
    omega
  have fits : buf.toList.length ≤ 2 ^ k - 1 := by
    rw [RingBuffer.length_toList]
    omega
  cases call with
  | pushBack value =>
      refine ⟨rbPushBack buf value, rfl, ?_⟩
      rw [toList_rbPushBack small, ← BoundedDeque.pushBack_eq _ room _ fits]
      rfl
  | pushFront value =>
      refine ⟨rbPushFront buf value, rfl, ?_⟩
      rw [toList_rbPushFront small, ← BoundedDeque.pushFront_eq _ room _ fits]
      rfl
  | popBack => exact simulates_popBack small buf
  | popFront => exact simulates_popFront small buf
  | get index =>
      change index.toNat < buf.toList.length at allowed
      refine ⟨buf, ?_, rfl⟩
      simp only [rbCall, rbGet_eq small buf index allowed, RbCall.op, BoundedDeque.step,
        List.getElem?_eq_getElem allowed, Option.getD_some]
  | set index value => exact simulates_set small buf index value allowed

/-- What a deque of capacity `cap` does at a call. -/
def DequeStep (cap : ℕ) (queue : List α) (call : RbCall α) (answer : Option α)
    (after : List α) : Prop :=
  BoundedDeque.step cap queue call.op = (answer, after)

/-- Ring buffers of any power-of-two length up to 256 are bounded deques. -/
theorem rb_refines_deque (positive : 0 < k) (small : k ≤ 8) (buf : RingBuffer α k)
    (calls : List (RbCall α))
    (allowed : BoundedDeque.RunAllowed (2 ^ k - 1) [] (calls.map RbCall.op)) :
    ∃ answers final, CallSequence.run rbCall (rbInitialize buf) calls = some (answers, final) ∧
      CallSequence.Run (DequeStep (2 ^ k - 1)) [] calls answers final.toList ∧
      (rbLength final).toNat = final.toList.length ∧
      final.startIndex.toNat < 2 ^ k ∧ final.endIndex.toNat < 2 ^ k := by
  have one : ∀ (buf : RingBuffer α k) queue call calls, buf.toList = queue →
      BoundedDeque.RunAllowed (2 ^ k - 1) queue ((call :: calls).map RbCall.op) →
      ∃ answer after queue', rbCall buf call = some (answer, after) ∧
        DequeStep (2 ^ k - 1) queue call answer queue' ∧ after.toList = queue' ∧
        BoundedDeque.RunAllowed (2 ^ k - 1) queue' (calls.map RbCall.op) := by
    intro buf queue call calls listed proper
    subst listed
    obtain ⟨after, called, kept⟩ := rbCall_simulates positive small buf call proper.1
    exact ⟨_, after, _, called, rfl, kept, proper.2⟩
  obtain ⟨answers, final, last, ran, specified, listed⟩ := CallSequence.run_related rbCall
    (DequeStep (2 ^ k - 1)) (fun buf queue => buf.toList = queue)
    (fun queue calls => BoundedDeque.RunAllowed (2 ^ k - 1) queue (calls.map RbCall.op))
    one calls (rbInitialize buf) [] (toList_rbInitialize buf) allowed
  subst listed
  exact ⟨answers, final, ran, specified, rbLength_toNat small final, final.start_lt,
    final.end_lt⟩

/-- Four slots, three of them usable: the fourth push drops the 3 at the back. -/
theorem rb_refines_deque_four :
    ∃ answers final, CallSequence.run rbCall
        (rbInitialize (⟨Vector.replicate 4 9, 3, 1, by decide, by decide⟩ : RingBuffer UInt8 2))
        [.pushBack 1, .pushBack 2, .pushBack 3, .pushFront 4, .popBack, .set 2 7, .get 2] =
        some (answers, final) ∧
      CallSequence.Run (DequeStep 3) []
        [.pushBack 1, .pushBack 2, .pushBack 3, .pushFront 4, .popBack, .set 2 7, .get 2]
        answers final.toList := by
  obtain ⟨answers, final, ran, specified, -⟩ := rb_refines_deque (by decide) (by decide)
    (⟨Vector.replicate 4 9, 3, 1, by decide, by decide⟩ : RingBuffer UInt8 2)
    [.pushBack 1, .pushBack 2, .pushBack 3, .pushFront 4, .popBack, .set 2 7, .get 2]
    (by decide)
  exact ⟨answers, final, ran, specified⟩

end Deque

end ZumoDelivery
