import ZumoDelivery.Lib.BoundedQueue

set_option autoImplicit false

/- A double-ended queue of bounded capacity, as a list with its front first. -/
namespace BoundedDeque

variable {α : Type}

inductive Op (α : Type) where
  | pushBack (value : α)
  | pushFront (value : α)
  | popBack
  | popFront
  | get (index : ℕ)
  | set (index : ℕ) (value : α)

/-- A full queue makes room by losing the element at the other end. -/
def pushBack (cap : ℕ) (queue : List α) (value : α) : List α :=
  if queue.length < cap then queue ++ [value] else queue.tail ++ [value]

def pushFront (cap : ℕ) (queue : List α) (value : α) : List α :=
  if queue.length < cap then value :: queue else value :: queue.dropLast

/-- Writing behind the last element appends copies up to the index. -/
def set (queue : List α) (index : ℕ) (value : α) : List α :=
  if index < queue.length then queue.set index value
  else queue ++ List.replicate (index + 1 - queue.length) value

theorem pushBack_eq (cap : ℕ) (positive : 0 < cap) (queue : List α)
    (fits : queue.length ≤ cap) (value : α) :
    pushBack cap queue value = BoundedQueue.pushBack cap queue value := by
  rw [pushBack, BoundedQueue.pushBack]
  by_cases room : queue.length < cap
  · rw [if_pos room, BoundedQueue.rtake_eq_self (by
      rw [List.length_append, List.length_singleton]
      omega)]
  · rw [if_neg room, List.rtake, List.length_append, List.length_singleton,
      show queue.length + 1 - cap = 1 by omega, List.drop_append_of_le_length (by omega),
      List.drop_one]

theorem pushFront_eq (cap : ℕ) (positive : 0 < cap) (queue : List α)
    (fits : queue.length ≤ cap) (value : α) :
    pushFront cap queue value = (value :: queue).take cap := by
  rw [pushFront]
  by_cases room : queue.length < cap
  · rw [if_pos room, List.take_of_length_le (by rw [List.length_cons]; omega)]
  · rw [if_neg room, show cap = queue.length - 1 + 1 by omega, List.take_succ_cons,
      List.dropLast_eq_take]

section Operations

variable [Zero α]

/-- What an operation answers, if anything, and the queue it leaves. -/
def step (cap : ℕ) (queue : List α) : Op α → Option α × List α
  | .pushBack value => (none, pushBack cap queue value)
  | .pushFront value => (none, pushFront cap queue value)
  | .popBack => (some (queue.getLast?.getD 0), queue.dropLast)
  | .popFront => (some (queue.head?.getD 0), queue.tail)
  | .get index => (some (queue[index]?.getD 0), queue)
  | .set index value => (none, set queue index value)

/-- Only elements that are there are read, and only places that fit are written. -/
def Allowed (cap : ℕ) (queue : List α) : Op α → Prop
  | .get index => index < queue.length
  | .set index _ => index < cap
  | _ => True

instance (cap : ℕ) (queue : List α) : DecidablePred (Allowed cap queue)
  | .get index => inferInstanceAs (Decidable (index < queue.length))
  | .set index _ => inferInstanceAs (Decidable (index < cap))
  | .pushBack _ | .pushFront _ | .popBack | .popFront => .isTrue trivial

def RunAllowed (cap : ℕ) : List α → List (Op α) → Prop
  | _, [] => True
  | queue, op :: ops => Allowed cap queue op ∧ RunAllowed cap (step cap queue op).2 ops

instance decidableRunAllowed (cap : ℕ) :
    (queue : List α) → (ops : List (Op α)) → Decidable (RunAllowed cap queue ops)
  | _, [] => .isTrue trivial
  | queue, op :: ops =>
      have := decidableRunAllowed cap (step cap queue op).2 ops
      inferInstanceAs (Decidable (Allowed cap queue op ∧ _))

end Operations

end BoundedDeque
