import Mathlib.Algebra.Order.Group.Basic
import Mathlib.Tactic.Abel
import Mathlib.Tactic.Common

set_option autoImplicit false

/- A way measured piece by piece: after each piece only the rest of the way and the
position at its end are kept. -/
namespace Odometer

variable {K : Type} [AddCommGroup K] [LinearOrder K]

/-- A displacement has reached a target: from below a positive one, from above any other. -/
def Reached (target displacement : K) : Prop :=
  if 0 < target then target ≤ displacement else displacement ≤ target

/-- The rest of the way, and the position from which it is left. -/
structure Tracker (K : Type) where
  remaining : K
  mark : K

/-- The tracker after the piece that ends at a position. -/
def Tracker.advance (tracker : Tracker K) (position : K) : Tracker K :=
  ⟨tracker.remaining - (position - tracker.mark), position⟩

/-- The tracker is on the way from `base` to the displacement `target`. -/
structure Tracker.Follows (tracker : Tracker K) (base target : K) : Prop where
  remaining : tracker.remaining = target - (tracker.mark - base)
  ahead : 0 < tracker.remaining ↔ 0 < target

namespace Tracker.Follows

variable {tracker : Tracker K} {base target : K}

theorem start (base target : K) : (Tracker.mk target base).Follows base target where
  remaining := by rw [sub_self, sub_zero]
  ahead := Iff.rfl

theorem remaining_advance (follows : tracker.Follows base target) (position : K) :
    (tracker.advance position).remaining = target - (position - base) := by
  change tracker.remaining - (position - tracker.mark) = target - (position - base)
  rw [follows.remaining]
  abel

variable [IsOrderedAddMonoid K]

/-- The rest of the way is reached by a piece exactly if the target is, measured from
the base. -/
theorem reached_iff (follows : tracker.Follows base target) (position : K) :
    Reached tracker.remaining (position - tracker.mark) ↔ Reached target (position - base) := by
  have shift : position - base - target = position - tracker.mark - tracker.remaining := by
    rw [follows.remaining]
    abel
  by_cases positive : 0 < target
  · rw [Reached, Reached, if_pos positive, if_pos (follows.ahead.mpr positive),
      ← sub_nonneg (b := target), ← sub_nonneg (b := tracker.remaining), shift]
  · rw [Reached, Reached, if_neg positive, if_neg (fun rest => positive (follows.ahead.mp rest)),
      ← sub_nonpos (b := target), ← sub_nonpos (b := tracker.remaining), shift]

/-- A piece that falls short of the target leaves a rest in the same direction. -/
theorem advance (follows : tracker.Follows base target) {position : K}
    (short : ¬ Reached target (position - base)) :
    (tracker.advance position).Follows base target where
  remaining := follows.remaining_advance position
  ahead := by
    rw [follows.remaining_advance position, sub_pos]
    by_cases positive : 0 < target
    · rw [Reached, if_pos positive, not_le] at short
      exact iff_of_true short positive
    · rw [Reached, if_neg positive, not_le] at short
      exact iff_of_false short.not_gt positive

end Tracker.Follows

end Odometer
