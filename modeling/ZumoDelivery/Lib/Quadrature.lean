import Mathlib.Data.Int.ModEq
import Mathlib.Data.List.Chain
import Mathlib.Tactic.Common

set_option autoImplicit false

/- Counting the steps of two square waves that are a quarter of a period apart. -/
namespace Quadrature

/-- The two channels at one moment. -/
structure Sample where
  a : Bool
  b : Bool
deriving DecidableEq

/-- The place of a sample in the cycle 00, 10, 11, 01. -/
def Sample.phase : Sample → ℤ
  | ⟨false, false⟩ => 0
  | ⟨true, false⟩ => 1
  | ⟨true, true⟩ => 2
  | ⟨false, true⟩ => 3

def Sample.parity (s : Sample) : Bool := s.a ^^ s.b

/-- One quadrature step: exactly one of the channels changes. -/
def Adjacent (s t : Sample) : Prop := ¬ (s.a = t.a ↔ s.b = t.b)

instance (s t : Sample) : Decidable (Adjacent s t) := inferInstanceAs (Decidable (¬ _))

/-- The direction of the step from one sample to an adjacent one. -/
def turn (s t : Sample) : ℤ := if (t.phase - s.phase) % 4 = 1 then 1 else -1

/-- The signed steps of a run of adjacent samples. -/
def net : Sample → List Sample → ℤ
  | _, [] => 0
  | s, t :: samples => turn s t + net t samples

/-- The sample that a decoder holds on to: it takes a new one when the parity changes. -/
def latch (s t : Sample) : Sample := if s.parity = t.parity then s else t

def latched (s : Sample) (samples : List Sample) : Sample := samples.foldl latch s

/-- What a new sample adds to the count. -/
def edge (s t : Sample) : ℤ := if s.parity = t.parity then 0 else turn s t

/-- The count of a decoder that starts on `s`. -/
def counted : Sample → List Sample → ℤ
  | _, [] => 0
  | s, t :: samples => edge s t + counted (latch s t) samples

theorem adjacent_iff (s t : Sample) : Adjacent s t ↔ s.parity ≠ t.parity := by
  obtain ⟨a, b⟩ := s
  obtain ⟨c, d⟩ := t
  cases a <;> cases b <;> cases c <;> cases d <;> decide

theorem turn_cases (s t : Sample) : turn s t = 1 ∨ turn s t = -1 := by
  unfold turn
  split
  · exact Or.inl rfl
  · exact Or.inr rfl

/-- A step moves the phase by one, in its direction. -/
theorem turn_modEq {s t : Sample} (adjacent : s.parity ≠ t.parity) :
    turn s t ≡ t.phase - s.phase [ZMOD 4] := by
  obtain ⟨a, b⟩ := s
  obtain ⟨c, d⟩ := t
  revert adjacent
  cases a <;> cases b <;> cases c <;> cases d <;> decide

theorem edge_modEq (s t : Sample) : edge s t ≡ (latch s t).phase - s.phase [ZMOD 4] := by
  unfold edge latch
  split
  · rw [Int.sub_self]
  · rename_i changed
    exact turn_modEq changed

@[simp] theorem parity_latch (s t : Sample) : (latch s t).parity = t.parity := by
  unfold latch
  split
  · assumption
  · rfl

theorem counted_append (s : Sample) (before after : List Sample) :
    counted s (before ++ after) = counted s before + counted (latched s before) after := by
  induction before generalizing s with
  | nil => exact (Int.zero_add _).symm
  | cons t before ih =>
      rw [List.cons_append, counted, counted, ih, Int.add_assoc]
      rfl

/-- Whatever was missed, the count follows the phase of the sample held. -/
theorem counted_modEq (s : Sample) (samples : List Sample) :
    counted s samples ≡ (latched s samples).phase - s.phase [ZMOD 4] := by
  induction samples generalizing s with
  | nil =>
      change (0 : ℤ) ≡ s.phase - s.phase [ZMOD 4]
      rw [Int.sub_self]
  | cons t samples ih =>
      have step := (edge_modEq s t).add (ih (latch s t))
      have telescope : (latch s t).phase - s.phase +
          ((latched (latch s t) samples).phase - (latch s t).phase) =
          (latched s (t :: samples)).phase - s.phase := by
        change _ = (latched (latch s t) samples).phase - s.phase
        omega
      rwa [telescope] at step

theorem counted_eq_net {s : Sample} {samples : List Sample}
    (steps : List.IsChain Adjacent (s :: samples)) : counted s samples = net s samples := by
  induction samples generalizing s with
  | nil => rfl
  | cons t samples ih =>
      obtain ⟨first, rest⟩ := List.isChain_cons_cons.mp steps
      have changed := (adjacent_iff s t).mp first
      rw [counted, edge, latch, if_neg changed, if_neg changed, net, ih rest]

end Quadrature
