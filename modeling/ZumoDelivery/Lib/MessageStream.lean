import Mathlib.Data.List.Induction
import Mathlib.Tactic.Common

set_option autoImplicit false

/- A stream of messages whose first element tells their length, cut into messages.
The stream arrives in packets; an unknown first element spoils the rest of its packet. -/
namespace MessageStream

variable {α : Type}

/-- What a stream has been cut into. `lost` says that an unknown first element was met,
after which nothing is cut. -/
structure Cut (α : Type) where
  messages : List (List α)
  rest : List α
  lost : Bool
deriving DecidableEq

/-- Put messages in front of a cut. -/
def Cut.after (messages : List (List α)) (cut : Cut α) : Cut α :=
  { cut with messages := messages ++ cut.messages }

/-- At most `fuel` messages of a stream. -/
def cutMany (size : α → ℕ) : ℕ → List α → Cut α
  | 0, stream => ⟨[], stream, false⟩
  | _ + 1, [] => ⟨[], [], false⟩
  | fuel + 1, first :: others =>
      if size first = 0 then ⟨[], [], true⟩
      else if (first :: others).length < size first then ⟨[], first :: others, false⟩
      else (cutMany size fuel ((first :: others).drop (size first))).after
        [(first :: others).take (size first)]

def cut (size : α → ℕ) (stream : List α) : Cut α := cutMany size stream.length stream

/-- Some elements of one message, but not all of them, or nothing. -/
def Pending (size : α → ℕ) (stream : List α) : Prop :=
  ∀ first ∈ stream.head?, stream.length < size first

def Whole (size : α → ℕ) (message : List α) : Prop :=
  ∃ first others, message = first :: others ∧ message.length = size first

/-- The cut of a stream that arrives in packets. -/
def cutPackets (size : α → ℕ) (packets : List (List α)) : Cut α :=
  packets.foldl (fun sofar packet => (cut size (sofar.rest ++ packet)).after sofar.messages)
    ⟨[], [], false⟩

variable {size : α → ℕ}

theorem Cut.after_after (earlier later : List (List α)) (cut : Cut α) :
    (cut.after later).after earlier = cut.after (earlier ++ later) := by
  simp only [after, List.append_assoc]

/-- More fuel than elements changes nothing. -/
theorem cutMany_eq (fuel : ℕ) (stream : List α) (enough : stream.length ≤ fuel) :
    cutMany size fuel stream = cut size stream := by
  suffices same : ∀ first second : ℕ, ∀ stream : List α, stream.length ≤ first →
      stream.length ≤ second → cutMany size first stream = cutMany size second stream from
    same fuel stream.length stream enough (Nat.le_refl _)
  intro first
  induction first with
  | zero =>
      intro second stream short _
      have empty : stream = [] := List.eq_nil_of_length_eq_zero (Nat.le_zero.mp short)
      subst empty
      cases second <;> rfl
  | succ first ih =>
      intro second stream long longer
      cases stream with
      | nil => cases second <;> rfl
      | cons head tail =>
          cases second with
          | zero => cases longer
          | succ second =>
              simp only [cutMany]
              split
              · rfl
              split
              · rfl
              · rename_i known whole
                simp only [List.length_cons] at long longer
                rw [ih second _ (by simp only [List.length_drop, List.length_cons]; omega)
                  (by simp only [List.length_drop, List.length_cons]; omega)]

@[simp] theorem cut_nil : cut size [] = ⟨[], [], false⟩ := rfl

theorem cut_of_unknown (first : α) (others : List α) (unknown : size first = 0) :
    cut size (first :: others) = ⟨[], [], true⟩ := by
  simp only [cut, List.length_cons, cutMany, unknown, ↓reduceIte]

theorem cut_of_pending {stream : List α} (pending : Pending size stream) :
    cut size stream = ⟨[], stream, false⟩ := by
  cases stream with
  | nil => rfl
  | cons first others =>
      have short : (first :: others).length < size first := pending first rfl
      have known : size first ≠ 0 := by omega
      simp only [cut, List.length_cons, cutMany, known, ↓reduceIte]
      exact if_pos short

theorem cut_of_whole {message : List α} (whole : Whole size message) (others : List α) :
    cut size (message ++ others) = (cut size others).after [message] := by
  obtain ⟨first, tail, rfl, length⟩ := whole
  have known : size first ≠ 0 := by
    rw [← length]
    exact Nat.succ_ne_zero _
  have long : ¬ (first :: (tail ++ others)).length < size first := by
    simp only [List.length_cons, List.length_append] at length ⊢
    omega
  rw [cut, List.cons_append, List.length_cons, cutMany, if_neg known, if_neg long,
    ← List.cons_append, List.take_left' length, List.drop_left' length, cutMany_eq]
  simp only [List.length_append]
  omega

/-- A stream is empty, starts with an unknown element, is pending or starts with a
whole message. -/
theorem stream_cases (size : α → ℕ) (stream : List α) :
    Pending size stream ∨ (∃ first others, stream = first :: others ∧ size first = 0) ∨
      ∃ message others, stream = message ++ others ∧ Whole size message := by
  cases stream with
  | nil => exact Or.inl fun first head => by cases head
  | cons first tail =>
      by_cases unknown : size first = 0
      · exact Or.inr (Or.inl ⟨first, tail, rfl, unknown⟩)
      by_cases short : (first :: tail).length < size first
      · refine Or.inl fun front head => ?_
        cases head
        exact short
      · obtain ⟨known, size_eq⟩ : ∃ n, size first = n + 1 := ⟨size first - 1, by omega⟩
        have long : known ≤ tail.length := by
          simp only [List.length_cons] at short
          omega
        refine Or.inr (Or.inr ⟨first :: tail.take known, tail.drop known, ?_, first,
          tail.take known, rfl, ?_⟩)
        · rw [List.cons_append, List.take_append_drop]
        · simp only [List.length_cons, List.length_take]
          omega

theorem Whole.length_pos {message : List α} (whole : Whole size message) :
    0 < message.length := by
  obtain ⟨first, others, rfl, length⟩ := whole
  exact Nat.succ_pos _

variable (size) in
/-- Induction along the messages of a stream. -/
theorem stream_induction {motive : List α → Prop}
    (pending : ∀ stream, Pending size stream → motive stream)
    (unknown : ∀ first others, size first = 0 → motive (first :: others))
    (whole : ∀ message others, Whole size message → motive others → motive (message ++ others))
    (stream : List α) : motive stream := by
  induction length : stream.length using Nat.strongRecOn generalizing stream with
  | ind n ih =>
      subst length
      rcases stream_cases size stream with waits | ⟨first, others, rfl, none⟩ |
        ⟨message, others, rfl, fits⟩
      · exact pending stream waits
      · exact unknown first others none
      · apply whole message others fits
        apply ih others.length _ others rfl
        have positive := fits.length_pos
        simp only [List.length_append]
        omega

theorem pending_cut_rest (stream : List α) : Pending size (cut size stream).rest := by
  induction stream using stream_induction size with
  | pending stream waits =>
      rw [cut_of_pending waits]
      exact waits
  | unknown first others none =>
      rw [cut_of_unknown first others none]
      intro first head
      cases head
  | whole message others fits ih =>
      rw [cut_of_whole fits]
      exact ih

/-- Elements that follow a loss are lost too. -/
theorem cut_append_of_lost (stream others : List α) (lost : (cut size stream).lost = true) :
    cut size (stream ++ others) = cut size stream := by
  induction stream using stream_induction size with
  | pending stream waits =>
      rw [cut_of_pending waits] at lost
      cases lost
  | unknown first tail none =>
      rw [List.cons_append, cut_of_unknown _ _ none, cut_of_unknown _ _ none]
  | whole message tail fits ih =>
      rw [cut_of_whole fits] at lost ⊢
      rw [List.append_assoc, cut_of_whole fits, ih lost]

/-- Cutting goes on from what was left over. -/
theorem cut_append (stream others : List α) (kept : (cut size stream).lost = false) :
    cut size (stream ++ others) =
      (cut size ((cut size stream).rest ++ others)).after (cut size stream).messages := by
  induction stream using stream_induction size with
  | pending stream waits =>
      rw [cut_of_pending waits]
      rfl
  | unknown first tail none =>
      rw [cut_of_unknown _ _ none] at kept
      cases kept
  | whole message tail fits ih =>
      rw [cut_of_whole fits] at kept
      rw [List.append_assoc, cut_of_whole fits, cut_of_whole fits, ih kept, Cut.after_after]
      rfl

/-- Whole messages are cut exactly. -/
theorem cut_flatten (messages : List (List α)) (tail : List α)
    (whole : ∀ message ∈ messages, Whole size message) (pending : Pending size tail) :
    cut size (messages.flatten ++ tail) = ⟨messages, tail, false⟩ := by
  induction messages with
  | nil => exact cut_of_pending pending
  | cons message messages ih =>
      rw [List.flatten_cons, List.append_assoc, cut_of_whole (whole message List.mem_cons_self),
        ih fun other member => whole other (List.mem_cons_of_mem _ member)]
      rfl

/-- The beginning of a stream of messages ends within one of them. -/
theorem prefix_flatten (messages : List (List α))
    (whole : ∀ message ∈ messages, Whole size message) {stream : List α}
    (beginning : stream <+: messages.flatten) :
    ∃ k ≤ messages.length, ∃ tail, stream = (messages.take k).flatten ++ tail ∧
      Pending size tail ∧ (stream = messages.flatten → k = messages.length) := by
  induction messages generalizing stream with
  | nil =>
      rw [List.flatten_nil, List.prefix_nil] at beginning
      refine ⟨0, Nat.le_refl _, [], beginning, ?_, fun _ => rfl⟩
      intro first member
      cases member
  | cons message messages ih =>
      rw [List.flatten_cons] at beginning
      have own : Whole size message := whole message List.mem_cons_self
      by_cases arrived : message.length ≤ stream.length
      · have front : message <+: stream :=
          List.prefix_of_prefix_length_le (List.prefix_append _ _) beginning arrived
        obtain ⟨rest, rfl⟩ := front
        obtain ⟨k, bound, tail, split, pending, complete⟩ :=
          ih (fun other member => whole other (List.mem_cons_of_mem _ member))
            ((List.prefix_append_right_inj _).mp beginning)
        refine ⟨k + 1, Nat.succ_le_succ bound, tail, ?_, pending, ?_⟩
        · rw [List.take_succ_cons, List.flatten_cons, List.append_assoc, ← split]
        · intro all
          rw [complete (List.append_cancel_left all), List.length_cons]
      · refine ⟨0, Nat.zero_le _, stream, rfl, ?_, ?_⟩
        · have part : stream <+: message := List.prefix_of_prefix_length_le beginning
            (List.prefix_append _ _) (by omega)
          obtain ⟨first, others, rfl, sized⟩ := own
          intro head member
          obtain ⟨rest, joined⟩ := part
          cases stream with
          | nil => cases member
          | cons start others =>
              cases member
              cases joined
              omega
        · intro all
          rw [all, List.flatten_cons, List.length_append] at arrived
          omega

/-- Less than a message at the beginning of a stream is a part of its first message. -/
theorem Pending.part_of_first {stream : List α} (pending : Pending size stream)
    {messages : List (List α)} (whole : ∀ message ∈ messages, Whole size message)
    (beginning : stream <+: messages.flatten) :
    stream = [] ∨ ∃ message others, messages = message :: others ∧ stream <+: message ∧
      stream.length < message.length := by
  cases stream with
  | nil => exact Or.inl rfl
  | cons start rest =>
      cases messages with
      | nil => exact absurd (List.prefix_nil.mp beginning) (List.cons_ne_nil _ _)
      | cons message messages =>
          obtain ⟨first, others, rfl, sized⟩ := whole message List.mem_cons_self
          have same : start = first := by
            obtain ⟨more, joined⟩ := beginning
            exact (List.cons.inj joined).1
          have short : (start :: rest).length < (first :: others).length := by
            rw [sized, ← same]
            exact pending start rfl
          refine Or.inr ⟨_, messages, rfl, ?_, short⟩
          exact List.prefix_of_prefix_length_le beginning (List.prefix_append _ _)
            (Nat.le_of_lt short)

theorem cutPackets_concat (packets : List (List α)) (packet : List α) :
    cutPackets size (packets ++ [packet]) =
      (cut size ((cutPackets size packets).rest ++ packet)).after
        (cutPackets size packets).messages := by
  simp only [cutPackets, List.foldl_append, List.foldl_cons, List.foldl_nil]

theorem pending_cutPackets_rest (packets : List (List α)) :
    Pending size (cutPackets size packets).rest := by
  cases packets using List.reverseRecOn with
  | nil =>
      intro first head
      cases head
  | append_singleton packets packet =>
      rw [cutPackets_concat]
      exact pending_cut_rest _

theorem cutPackets_concat_append_of_lost (packets : List (List α)) (packet others : List α)
    (lost : (cutPackets size (packets ++ [packet])).lost = true) :
    cutPackets size (packets ++ [packet ++ others]) = cutPackets size (packets ++ [packet]) := by
  rw [cutPackets_concat] at lost ⊢
  rw [cutPackets_concat, ← List.append_assoc, cut_append_of_lost _ others lost]

/-- More elements of the last packet are cut from where it left off. -/
theorem cutPackets_concat_append (packets : List (List α)) (packet others : List α)
    (kept : (cutPackets size (packets ++ [packet])).lost = false) :
    cutPackets size (packets ++ [packet ++ others]) =
      (cut size ((cutPackets size (packets ++ [packet])).rest ++ others)).after
        (cutPackets size (packets ++ [packet])).messages := by
  rw [cutPackets_concat] at kept ⊢
  rw [cutPackets_concat, ← List.append_assoc, cut_append _ others kept, Cut.after_after]
  rfl

theorem prefix_cutPackets_concat_append (packets : List (List α)) (packet others : List α) :
    (cutPackets size (packets ++ [packet])).messages <+:
      (cutPackets size (packets ++ [packet ++ others])).messages := by
  cases lost : (cutPackets size (packets ++ [packet])).lost with
  | true =>
      have same := cutPackets_concat_append_of_lost packets packet others lost
      exact same ▸ List.prefix_refl _
  | false =>
      rw [cutPackets_concat_append packets packet others lost]
      exact List.prefix_append _ _

/-- The beginning of a new packet forgets the loss in the last one. -/
theorem cutPackets_concat_nil (packets : List (List α)) :
    cutPackets size (packets ++ [[]]) = { cutPackets size packets with lost := false } := by
  rw [cutPackets_concat, List.append_nil, cut_of_pending (pending_cutPackets_rest packets)]
  simp only [Cut.after, List.append_nil]

/-- Without a loss the packet boundaries do not matter. -/
theorem cutPackets_eq_cut (packets : List (List α))
    (kept : (cut size packets.flatten).lost = false) :
    cutPackets size packets = cut size packets.flatten := by
  induction packets using List.reverseRecOn with
  | nil => rfl
  | append_singleton packets packet ih =>
      rw [List.flatten_append, List.flatten_cons, List.flatten_nil, List.append_nil] at kept ⊢
      have before : (cut size packets.flatten).lost = false := by
        cases lost : (cut size packets.flatten).lost with
        | false => rfl
        | true => rw [← lost, ← cut_append_of_lost _ packet lost, kept]
      rw [cutPackets_concat, ih before, cut_append _ _ before]

end MessageStream
