import Mathlib.Data.List.Sublists
import ZumoDelivery.Lib.BoundedQueue

set_option autoImplicit false

/- Frames pushed whole into a bounded queue that loses its oldest elements, and taken
out of it one element at a time. -/
namespace FramedQueue

variable {α : Type}

structure State (α : Type) where
  /-- The frames pushed so far. -/
  frames : List (List α)
  queue : List α
  delivered : List α

def push (cap : ℕ) (frame : List α) (s : State α) : State α :=
  { s with frames := s.frames ++ [frame], queue := BoundedQueue.pushAll cap s.queue frame }

def pop (s : State α) : State α :=
  match s.queue with
  | [] => s
  | front :: rest => { s with queue := rest, delivered := s.delivered ++ [front] }

theorem pop_of_nil {s : State α} (empty : s.queue = []) : pop s = s := by
  simp only [pop, empty]

theorem pop_of_cons {s : State α} {front : α} {rest : List α} (stored : s.queue = front :: rest) :
    pop s = { s with queue := rest, delivered := s.delivered ++ [front] } := by
  simp only [pop, stored]

/-- A place in the stream of all pushed elements where a frame ends. -/
def Boundary (frames : List (List α)) (position : ℕ) : Prop :=
  ∃ j ≤ frames.length, (frames.take j).flatten.length = position

instance (frames : List (List α)) (position : ℕ) : Decidable (Boundary frames position) :=
  decidable_of_iff (∃ j < frames.length + 1, (frames.take j).flatten.length = position)
    (by simp only [Boundary, Nat.lt_succ_iff])

/-- The place in that stream of the front of the queue. -/
def State.front (s : State α) : ℕ := s.frames.flatten.length - s.queue.length

/-- Pushing the frame loses nothing, or loses whole frames none of which has been
delivered in part. -/
def Harmless (cap : ℕ) (frame : List α) (s : State α) : Prop :=
  s.queue.length + frame.length ≤ cap ∨
    Boundary s.frames s.front ∧
      Boundary (s.frames ++ [frame]) (s.frames.flatten.length + frame.length - cap)

instance (cap : ℕ) (frame : List α) (s : State α) : Decidable (Harmless cap frame s) :=
  inferInstanceAs (Decidable (_ ∨ _))

/-- What is delivered is the beginning of some of the frames, in order. -/
def Delivers (s : State α) : Prop :=
  ∃ kept : List (List α), kept.Sublist s.frames ∧ s.delivered <+: kept.flatten

instance [DecidableEq α] (s : State α) : Decidable (Delivers s) :=
  decidable_of_iff (∃ kept ∈ s.frames.sublists, s.delivered <+: kept.flatten)
    (by simp only [Delivers, List.mem_sublists])

/-- The queue holds the rest of the frame being delivered and all frames from `next`
on; the frames before it are `kept` or were lost whole. -/
structure Intact (cap : ℕ) (s : State α) (next : ℕ) (rest : List α) (kept : List (List α)) :
    Prop where
  nonempty : ∀ frame ∈ s.frames, frame ≠ []
  bounded : s.queue.length ≤ cap
  inside : next ≤ s.frames.length
  sublist : kept.Sublist (s.frames.take next)
  delivered : s.delivered ++ rest = kept.flatten
  queue : s.queue = rest ++ (s.frames.drop next).flatten
  partly : rest ≠ [] → ∃ before frame, next = before + 1 ∧ s.frames[before]? = some frame ∧
    rest.length < frame.length

theorem Intact.delivers {cap : ℕ} {s : State α} {next : ℕ} {rest : List α}
    {kept : List (List α)} (intact : Intact cap s next rest kept) : Delivers s :=
  ⟨kept, intact.sublist.trans (List.take_sublist _ _), rest, intact.delivered⟩

theorem length_flatten_take_add_drop (frames : List (List α)) (j : ℕ) :
    (frames.take j).flatten.length + (frames.drop j).flatten.length = frames.flatten.length := by
  rw [← List.length_append, ← List.flatten_append, List.take_append_drop]

theorem flatten_drop (frames : List (List α)) (j : ℕ) :
    frames.flatten.drop (frames.take j).flatten.length = (frames.drop j).flatten := by
  conv_lhs => rw [← List.take_append_drop j frames, List.flatten_append]
  rw [List.take_append_drop, List.drop_left]

theorem length_flatten_take_succ {frames : List (List α)} {j : ℕ} {frame : List α}
    (here : frames[j]? = some frame) :
    (frames.take (j + 1)).flatten.length = (frames.take j).flatten.length + frame.length := by
  rw [List.take_add_one, here, Option.toList_some, List.flatten_append, List.length_append,
    List.flatten_singleton]

theorem length_flatten_take_le (frames : List (List α)) {first last : ℕ}
    (ordered : first ≤ last) :
    (frames.take first).flatten.length ≤ (frames.take last).flatten.length := by
  have shorter : frames.take first = (frames.take last).take first := by
    rw [List.take_take, Nat.min_eq_left ordered]
  rw [shorter, ← length_flatten_take_add_drop (frames.take last) first]
  exact Nat.le_add_right _ _

section Front

variable {cap : ℕ} {s : State α} {next : ℕ} {rest : List α} {kept : List (List α)}

theorem Intact.front_add (intact : Intact cap s next rest kept) :
    s.front + rest.length = (s.frames.take next).flatten.length := by
  have split := length_flatten_take_add_drop s.frames next
  have partly : rest.length ≤ (s.frames.take next).flatten.length := by
    by_cases empty : rest = []
    · rw [empty]
      exact Nat.zero_le _
    · obtain ⟨before, frame, rfl, here, shorter⟩ := intact.partly empty
      rw [length_flatten_take_succ here]
      omega
  rw [State.front, intact.queue, List.length_append]
  omega

/-- At a boundary no frame has been delivered in part. -/
theorem Intact.rest_eq_nil (intact : Intact cap s next rest kept)
    (boundary : Boundary s.frames s.front) : rest = [] := by
  by_contra partial'
  obtain ⟨before, frame, rfl, here, shorter⟩ := intact.partly partial'
  obtain ⟨j, inside, position⟩ := boundary
  have front := intact.front_add
  have last := length_flatten_take_succ here
  have positive := List.length_pos_of_ne_nil partial'
  -- The front lies strictly between two neighbouring boundaries.
  rcases Nat.lt_or_ge before j with above | below
  · have beyond := length_flatten_take_le s.frames (Nat.succ_le_of_lt above)
    simp only [Nat.succ_eq_add_one] at beyond
    omega
  · have behind := length_flatten_take_le s.frames below
    omega

theorem Intact.push_of_room (intact : Intact cap s next rest kept) {frame : List α}
    (content : frame ≠ []) (room : s.queue.length + frame.length ≤ cap) :
    Intact cap (push cap frame s) next rest kept := by
  have queued : (push cap frame s).queue = s.queue ++ frame :=
    BoundedQueue.pushAll_of_room cap s.queue frame room
  have same : (push cap frame s).frames.take next = s.frames.take next :=
    List.take_append_of_le_length intact.inside
  refine ⟨?_, ?_, ?_, ?_, intact.delivered, ?_, ?_⟩
  · intro other member
    rcases List.mem_append.mp member with old | new
    · exact intact.nonempty other old
    · rw [List.mem_singleton.mp new]
      exact content
  · rw [queued, List.length_append]
    exact room
  · simp only [push, List.length_append]
    exact Nat.le_add_right_of_le intact.inside
  · rw [same]
    exact intact.sublist
  · rw [queued, intact.queue]
    simp only [push, List.drop_append_of_le_length intact.inside, List.flatten_append,
      List.flatten_singleton, List.append_assoc]
  · intro started
    obtain ⟨before, last, rfl, here, shorter⟩ := intact.partly started
    refine ⟨before, last, rfl, ?_, shorter⟩
    exact (List.getElem?_append_left intact.inside).trans here

/-- Frames that are lost whole leave the others intact. -/
theorem Intact.push_of_boundary (intact : Intact cap s next rest kept) {frame : List α}
    (content : frame ≠ []) (overflow : cap < s.queue.length + frame.length)
    (before : Boundary s.frames s.front)
    (after : Boundary (s.frames ++ [frame]) (s.frames.flatten.length + frame.length - cap)) :
    ∃ later, Intact cap (push cap frame s) later [] kept := by
  have whole := intact.rest_eq_nil before
  subst whole
  obtain ⟨later, inside, position⟩ := after
  have front := intact.front_add
  rw [List.length_nil, Nat.add_zero] at front
  have queued : (push cap frame s).queue = (s.queue ++ frame).rtake cap :=
    BoundedQueue.pushAll_eq_rtake cap s.queue frame intact.bounded
  have full : (push cap frame s).queue.length = cap := by
    rw [queued, BoundedQueue.length_rtake, List.length_append]
    omega
  have split := length_flatten_take_add_drop s.frames next
  have queue : s.queue = (s.frames.drop next).flatten := intact.queue
  have advanced : s.frames.flatten.length + frame.length - cap =
      s.front + (s.queue.length + frame.length - cap) := by
    rw [front]
    rw [queue] at overflow ⊢
    omega
  have taken : (push cap frame s).frames.take next = s.frames.take next :=
    List.take_append_of_le_length intact.inside
  have ordered : next ≤ later := by
    by_contra earlier
    have behind := length_flatten_take_le (push cap frame s).frames
      (Nat.le_of_not_le earlier)
    rw [taken] at behind
    change ((push cap frame s).frames.take later).flatten.length = _ at position
    omega
  refine ⟨later, ?_, ?_, inside, ?_, intact.delivered, ?_, ?_⟩
  · intro other member
    rcases List.mem_append.mp member with old | new
    · exact intact.nonempty other old
    · rw [List.mem_singleton.mp new]
      exact content
  · exact full.le
  · refine intact.sublist.trans ?_
    rw [← taken, ← Nat.min_eq_left ordered, ← List.take_take]
    exact List.take_sublist _ _
  · -- Both sides are what follows the new front in the stream of all pushed elements.
    have stream : s.queue ++ frame = (push cap frame s).frames.flatten.drop s.front := by
      rw [front, ← taken, flatten_drop, queue]
      simp only [push, List.drop_append_of_le_length intact.inside, List.flatten_append,
        List.flatten_singleton]
    rw [queued, List.rtake, List.length_append, stream, List.drop_drop, ← advanced, ← position]
    exact flatten_drop _ later
  · intro started
    contradiction

theorem Intact.push_of_harmless (intact : Intact cap s next rest kept) {frame : List α}
    (content : frame ≠ []) (harmless : Harmless cap frame s) :
    ∃ later rest, Intact cap (push cap frame s) later rest kept := by
  by_cases room : s.queue.length + frame.length ≤ cap
  · exact ⟨next, rest, intact.push_of_room content room⟩
  · rcases harmless with fits | ⟨before, after⟩
    · contradiction
    · obtain ⟨later, intact⟩ := intact.push_of_boundary content (by omega) before after
      exact ⟨later, [], intact⟩

theorem Intact.pop_of_partial {value : α} (intact : Intact cap s next (value :: rest) kept) :
    Intact cap (pop s) next rest kept := by
  have stored : s.queue = value :: (rest ++ (s.frames.drop next).flatten) := intact.queue
  have bound := intact.bounded
  rw [stored, List.length_cons] at bound
  rw [pop_of_cons stored]
  refine ⟨intact.nonempty, Nat.le_of_succ_le bound, intact.inside, intact.sublist, ?_, rfl, ?_⟩
  · rw [← intact.delivered, List.append_assoc]
    rfl
  · intro started
    obtain ⟨before, frame, position, here, shorter⟩ :=
      intact.partly (List.cons_ne_nil value rest)
    exact ⟨before, frame, position, here, Nat.lt_of_succ_lt shorter⟩

theorem Intact.pop_of_frame (intact : Intact cap s next [] kept) {value : α} {tail : List α}
    {later : List (List α)} (left : s.frames.drop next = (value :: tail) :: later) :
    Intact cap (pop s) (next + 1) tail (kept ++ [value :: tail]) := by
  have stored : s.queue = value :: (tail ++ later.flatten) := by
    rw [intact.queue, left]
    rfl
  have here : s.frames[next]? = some (value :: tail) := by
    rw [← List.head?_drop, left]
    rfl
  have behind : s.frames.drop (next + 1) = later := by
    rw [← List.drop_drop, left]
    rfl
  have bound := intact.bounded
  rw [stored, List.length_cons] at bound
  rw [pop_of_cons stored]
  refine ⟨intact.nonempty, Nat.le_of_succ_le bound, (List.getElem?_eq_some_iff.mp here).1,
    ?_, ?_, ?_, ?_⟩
  · rw [List.take_add_one, here]
    exact intact.sublist.append (List.Sublist.refl _)
  · have delivered := intact.delivered
    rw [List.append_nil] at delivered
    rw [delivered, List.append_assoc, List.flatten_append, List.flatten_singleton]
    rfl
  · rw [behind]
  · intro started
    exact ⟨next, value :: tail, rfl, here, Nat.lt_succ_self _⟩

/-- Taking an element delivers the next one of a frame, or the first of the next frame. -/
theorem Intact.pop (intact : Intact cap s next rest kept) :
    ∃ later rest kept, Intact cap (pop s) later rest kept := by
  cases rest with
  | cons value rest => exact ⟨next, rest, kept, intact.pop_of_partial⟩
  | nil =>
      cases left : s.frames.drop next with
      | nil =>
          have empty : s.queue = [] := by
            rw [intact.queue, left]
            rfl
          rw [pop_of_nil empty]
          exact ⟨next, [], kept, intact⟩
      | cons frame later =>
          cases frame with
          | nil =>
              have member : [] ∈ s.frames := List.mem_of_mem_drop (left ▸ List.mem_cons_self)
              exact absurd rfl (intact.nonempty [] member)
          | cons value tail => exact ⟨next + 1, tail, _, intact.pop_of_frame left⟩

end Front

end FramedQueue
