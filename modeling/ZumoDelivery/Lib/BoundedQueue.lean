import Mathlib.Data.List.DropRight
import Mathlib.Tactic.Common

set_option autoImplicit false

/- A first-in first-out queue of bounded capacity that makes room for a new
element by losing its oldest one. -/
namespace BoundedQueue

variable {α : Type}

/-- Appending to a full queue loses the element at the front. -/
def pushBack (cap : ℕ) (queue : List α) (value : α) : List α :=
  (queue ++ [value]).rtake cap

def pushAll (cap : ℕ) (queue values : List α) : List α :=
  values.foldl (pushBack cap) queue

@[simp] theorem pushAll_nil (cap : ℕ) (queue : List α) : pushAll cap queue [] = queue := rfl

theorem rtake_eq_self {cap : ℕ} {queue : List α} (fits : queue.length ≤ cap) :
    queue.rtake cap = queue := by
  rw [List.rtake, Nat.sub_eq_zero_of_le fits, List.drop_zero]

theorem length_rtake (cap : ℕ) (queue : List α) :
    (queue.rtake cap).length = min cap queue.length := by
  simp only [List.rtake, List.length_drop]
  omega

/-- Losing old elements early or late keeps the same newest elements. -/
theorem rtake_append_rtake (cap : ℕ) (queue values : List α) :
    (queue.rtake cap ++ values).rtake cap = (queue ++ values).rtake cap := by
  simp only [List.rtake, List.length_append, List.length_drop, List.drop_append,
    List.drop_drop]
  congr 1
  · congr 1
    omega
  · congr 1
    omega

theorem length_pushBack_le (cap : ℕ) (queue : List α) (value : α) :
    (pushBack cap queue value).length ≤ cap := by
  rw [pushBack, length_rtake]
  exact Nat.min_le_left _ _

/-- A whole message pushed element by element leaves the newest elements. -/
theorem pushAll_eq_rtake (cap : ℕ) (queue values : List α) (fits : queue.length ≤ cap) :
    pushAll cap queue values = (queue ++ values).rtake cap := by
  induction values generalizing queue with
  | nil => rw [pushAll_nil, List.append_nil, rtake_eq_self fits]
  | cons value values ih =>
      change pushAll cap (pushBack cap queue value) values = _
      rw [ih _ (length_pushBack_le cap queue value), pushBack, rtake_append_rtake,
        List.append_assoc, List.singleton_append]

theorem pushAll_of_room (cap : ℕ) (queue values : List α)
    (room : queue.length + values.length ≤ cap) :
    pushAll cap queue values = queue ++ values := by
  rw [pushAll_eq_rtake cap queue values (by omega)]
  exact rtake_eq_self (by simpa only [List.length_append] using room)

end BoundedQueue
