import Mathlib.Algebra.Order.Field.Basic
import Mathlib.Tactic.FieldSimp
import Mathlib.Tactic.Linarith

set_option autoImplicit false

/- The geometry of a car that steers with two driven wheels on one axle: the
distances, or the speeds, of its wheels against its heading, left turns positive. -/
namespace DifferentialDrive

structure Wheels (K : Type) where
  left : K
  right : K

/-- The same motion with left and right exchanged. -/
def Wheels.mirror {K : Type} (wheels : Wheels K) : Wheels K := ⟨wheels.right, wheels.left⟩

variable {K : Type} [Field K] [LinearOrder K] [IsStrictOrderedRing K]

/-- The change of heading, wheels `base` apart. -/
def heading (base : K) (wheels : Wheels K) : K := (wheels.right - wheels.left) / base

/-- A turn by `angle` around the inner wheel's circle, of which it covers `inner`. -/
def arc (base inner angle : K) : Wheels K :=
  if 0 < angle then ⟨inner, inner + base * angle⟩ else ⟨inner - base * angle, inner⟩

theorem heading_arc {base : K} (apart : 0 < base) (inner angle : K) :
    heading base (arc base inner angle) = angle := by
  rw [heading, div_eq_iff apart.ne', arc]
  split
  · linarith
  · linarith

theorem arc_neg (base inner : K) {angle : K} (turning : angle ≠ 0) :
    arc base inner (-angle) = (arc base inner angle).mirror := by
  rcases lt_or_gt_of_ne turning with right | left
  · rw [arc, arc, if_pos (by linarith), if_neg (by linarith), Wheels.mirror, mul_neg,
      sub_eq_add_neg]
  · rw [arc, arc, if_neg (by linarith), if_pos left, Wheels.mirror, mul_neg, sub_neg_eq_add]

/-- The car turns to the side of its slower wheel. -/
theorem left_lt_right_iff {base : K} (apart : 0 < base) (wheels : Wheels K) :
    wheels.left < wheels.right ↔ 0 < heading base wheels := by
  rw [heading, lt_div_iff₀ apart, zero_mul, sub_pos]

theorem right_lt_left_iff {base : K} (apart : 0 < base) (wheels : Wheels K) :
    wheels.right < wheels.left ↔ heading base wheels < 0 := by
  rw [heading, div_lt_iff₀ apart, zero_mul, sub_neg]

end DifferentialDrive
