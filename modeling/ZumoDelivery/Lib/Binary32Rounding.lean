import Mathlib.Algebra.Order.Floor.Semiring
import Mathlib.Algebra.Order.Archimedean.Basic
import Mathlib.Algebra.Order.Field.Power
import Mathlib.Tactic.Linarith
import Mathlib.Tactic.NormNum
import Mathlib.Tactic.Positivity
import Mathlib.Tactic.FieldSimp
import Mathlib.Tactic.Ring
import ZumoDelivery.Lib.Binary32

set_option autoImplicit false

namespace Binary32

theorem roundHalfEven_cases (value : ℚ) :
    (roundHalfEven value = ⌊value⌋₊ ∧ value - ⌊value⌋₊ ≤ 1 / 2) ∨
      (roundHalfEven value = ⌊value⌋₊ + 1 ∧ 1 / 2 ≤ value - ⌊value⌋₊) := by
  have floor : ⌊value⌋.toNat = ⌊value⌋₊ := Int.floor_toNat value
  unfold roundHalfEven
  dsimp only
  rw [floor]
  split
  · rename_i below
    exact Or.inl ⟨rfl, below.le⟩
  rename_i notBelow
  split
  · rename_i above
    exact Or.inr ⟨rfl, above.le⟩
  · rename_i notAbove
    -- The tie goes to the even neighbour.
    rcases Nat.mod_two_eq_zero_or_one ⌊value⌋₊ with even | odd
    · exact Or.inl ⟨by rw [even, Nat.add_zero], not_lt.mp notAbove⟩
    · exact Or.inr ⟨by rw [odd], not_lt.mp notBelow⟩

theorem roundHalfEven_natCast (n : ℕ) : roundHalfEven (n : ℚ) = n := by
  rcases roundHalfEven_cases (n : ℚ) with ⟨same, -⟩ | ⟨-, above⟩
  · rw [same, Nat.floor_natCast]
  · rw [Nat.floor_natCast, sub_self] at above
    norm_num at above

theorem roundHalfEven_error {value : ℚ} (positive : 0 ≤ value) :
    |(roundHalfEven value : ℚ) - value| ≤ 1 / 2 := by
  have lower := Nat.floor_le positive
  have upper := Nat.lt_floor_add_one value
  rw [abs_le]
  rcases roundHalfEven_cases value with ⟨same, below⟩ | ⟨same, above⟩
  · rw [same]
    constructor <;> linarith
  · rw [same, Nat.cast_add_one]
    constructor <;> linarith

theorem le_roundHalfEven {value : ℚ} {n : ℕ} (bound : (n : ℚ) ≤ value) :
    n ≤ roundHalfEven value := by
  have floor : n ≤ ⌊value⌋₊ := Nat.le_floor bound
  rcases roundHalfEven_cases value with ⟨same, -⟩ | ⟨same, -⟩
  · rw [same]
    exact floor
  · rw [same]
    omega

theorem roundHalfEven_lt {value : ℚ} {n : ℕ} (positive : 0 ≤ value)
    (bound : value < n - 1 / 2) : roundHalfEven value < n := by
  have lower := Nat.floor_le positive
  rcases roundHalfEven_cases value with ⟨same, -⟩ | ⟨same, above⟩
  · rw [same, ← Nat.cast_lt (α := ℚ)]
    linarith
  · rw [same, ← Nat.cast_lt (α := ℚ), Nat.cast_add_one]
    linarith

theorem roundHalfEven_le {value : ℚ} {n : ℕ} (positive : 0 ≤ value) (bound : value ≤ n) :
    roundHalfEven value ≤ n := by
  have lower := Nat.floor_le positive
  rcases roundHalfEven_cases value with ⟨same, -⟩ | ⟨same, above⟩
  · rw [same, ← Nat.cast_le (α := ℚ)]
    exact lower.trans bound
  · rw [same, Nat.add_one_le_iff, ← Nat.cast_lt (α := ℚ)]
    linarith

theorem decodeBits_fields (exponent fraction : ℕ) (finite : exponent < 255)
    (inside : fraction < 2 ^ 23) :
    decodeBits (exponent * 2 ^ 23 + fraction) =
      if exponent = 0 then (fraction : ℚ) * 2 ^ (-149 : ℤ)
      else ((2 ^ 23 + fraction : ℕ) : ℚ) * 2 ^ ((exponent : ℤ) - 150) := by
  have field : (exponent * 2 ^ 23 + fraction) / 2 ^ 23 % 256 = exponent := by omega
  have rest : (exponent * 2 ^ 23 + fraction) % 2 ^ 23 = fraction := by omega
  have positive : ¬ (exponent * 2 ^ 23 + fraction) / 2 ^ 31 % 2 = 1 := by omega
  unfold decodeBits
  dsimp only
  rw [field, rest, if_neg positive, if_neg finite.ne]
  by_cases zero : exponent = 0
  · rw [if_pos zero, if_pos zero, Rat.mkRat_eq_div, zpow_neg, div_eq_mul_inv]
    norm_cast
  · rw [if_neg zero, if_neg zero]
    split
    · rename_i small
      have shift : (exponent : ℤ) - 150 = -((150 - exponent : ℕ) : ℤ) := by omega
      rw [Rat.mkRat_eq_div, shift, zpow_neg, zpow_natCast, div_eq_mul_inv]
      norm_cast
    · rename_i large
      have shift : (exponent : ℤ) - 150 = ((exponent - 150 : ℕ) : ℤ) := by omega
      rw [shift, zpow_natCast]
      norm_cast

theorem decodeBits_significand (exponent significand : ℕ) (carried : significand ≤ 2 ^ 24)
    (normal : 0 < exponent → 2 ^ 23 ≤ significand)
    (finite : exponent * 2 ^ 23 + significand < 255 * 2 ^ 23) :
    decodeBits (exponent * 2 ^ 23 + significand) =
      (significand : ℚ) * 2 ^ ((exponent : ℤ) - 149) := by
  by_cases small : significand < 2 ^ 23
  · have lowest : exponent = 0 := by omega
    rw [decodeBits_fields exponent significand (by omega) small, if_pos lowest, lowest]
    norm_num
  by_cases whole : significand < 2 ^ 24
  · have fields : exponent * 2 ^ 23 + significand =
        (exponent + 1) * 2 ^ 23 + (significand - 2 ^ 23) := by omega
    have restored : 2 ^ 23 + (significand - 2 ^ 23) = significand := by omega
    have shift : ((exponent + 1 : ℕ) : ℤ) - 150 = (exponent : ℤ) - 149 := by omega
    rw [fields, decodeBits_fields _ _ (by omega) (by omega), if_neg (by omega), restored, shift]
  · obtain rfl : significand = 2 ^ 24 := by omega
    have fields : exponent * 2 ^ 23 + 2 ^ 24 = (exponent + 2) * 2 ^ 23 + 0 := by omega
    have shift : ((exponent + 2 : ℕ) : ℤ) - 150 = ((exponent : ℤ) - 149) + 1 := by omega
    rw [fields, decodeBits_fields _ _ (by omega) (by omega), if_neg (by omega), shift,
      zpow_add_one₀ (by norm_num)]
    push_cast
    ring

theorem decodeBits_negative (bits : ℕ) (inside : bits < 2 ^ 31) :
    decodeBits (2 ^ 31 + bits) = -decodeBits bits := by
  have exponent : (2 ^ 31 + bits) / 2 ^ 23 % 256 = bits / 2 ^ 23 % 256 := by omega
  have fraction : (2 ^ 31 + bits) % 2 ^ 23 = bits % 2 ^ 23 := by omega
  have set : (2 ^ 31 + bits) / 2 ^ 31 % 2 = 1 := by omega
  have clear : ¬ bits / 2 ^ 31 % 2 = 1 := by omega
  unfold decodeBits
  dsimp only
  rw [exponent, fraction, if_pos set, if_neg clear]

/-- The exponent of the last place of a value. -/
def quantum (value : ℚ) : ℤ := max (Int.log 2 |value|) (-126) - 23

/-- The multiple of the last place that a magnitude is rounded to. -/
def significand (value : ℚ) : ℕ := roundHalfEven (|value| / 2 ^ quantum value)

/-- The nearest value of the format, ties to even. -/
def rounded (value : ℚ) : ℚ :=
  let magnitude := (significand value : ℚ) * 2 ^ quantum value
  if value < 0 then -magnitude else magnitude

/-- Values that do not round to an infinity. -/
def InRange (value : ℚ) : Prop := |value| < 2 ^ 128 - 2 ^ 103

instance (value : ℚ) : Decidable (InRange value) := inferInstanceAs (Decidable (_ < _))

def Representable (value : ℚ) : Prop :=
  ∃ (m : ℕ) (e : ℤ), m < 2 ^ 24 ∧ -149 ≤ e ∧ |value| = m * 2 ^ e

theorem scaled_nonneg (value : ℚ) : 0 ≤ |value| / 2 ^ quantum value := by positivity

theorem scaled_lt (value : ℚ) : |value| / 2 ^ quantum value < 2 ^ 24 := by
  have log : |value| < 2 ^ (Int.log 2 |value| + 1) := Int.lt_zpow_succ_log_self (by norm_num) _
  have wider : (2 : ℚ) ^ (Int.log 2 |value| + 1) ≤ 2 ^ (24 + quantum value) :=
    zpow_le_zpow_right₀ (by norm_num) (by unfold quantum; omega)
  rw [div_lt_iff₀ (by positivity)]
  calc |value| < 2 ^ (24 + quantum value) := lt_of_lt_of_le log wider
    _ = 2 ^ 24 * 2 ^ quantum value := by rw [zpow_add₀ (by norm_num)]; norm_cast

theorem le_scaled {value : ℚ} (normal : -149 < quantum value) (nonzero : value ≠ 0) :
    2 ^ 23 ≤ |value| / 2 ^ quantum value := by
  have log : (2 : ℚ) ^ Int.log 2 |value| ≤ |value| :=
    Int.zpow_log_le_self (by norm_num) (abs_pos.mpr nonzero)
  have exponent : quantum value + 23 = Int.log 2 |value| := by
    unfold quantum at normal ⊢
    omega
  rw [le_div_iff₀ (by positivity)]
  calc (2 : ℚ) ^ 23 * 2 ^ quantum value = 2 ^ (quantum value + 23) := by
        rw [zpow_add₀ (by norm_num), mul_comm]; norm_cast
    _ ≤ |value| := by rw [exponent]; exact log

theorem significand_le (value : ℚ) : significand value ≤ 2 ^ 24 :=
  roundHalfEven_le (scaled_nonneg value) (by exact_mod_cast (scaled_lt value).le)

theorem le_significand {value : ℚ} (normal : -149 < quantum value) (nonzero : value ≠ 0) :
    2 ^ 23 ≤ significand value :=
  le_roundHalfEven (by exact_mod_cast le_scaled normal nonzero)

theorem quantum_ge (value : ℚ) : -149 ≤ quantum value := by
  unfold quantum
  omega

theorem quantum_of_inRange {value : ℚ} (inRange : InRange value) :
    quantum value < 104 ∨ quantum value = 104 ∧ significand value < 2 ^ 24 := by
  have bound : |value| < 2 ^ (128 : ℤ) := lt_of_lt_of_le inRange (by norm_num)
  have exponent : quantum value ≤ 104 := by
    by_cases zero : value = 0
    · rw [zero]
      decide +kernel
    · have log : Int.log 2 |value| < 128 :=
        (Int.lt_zpow_iff_log_lt (by norm_num) (abs_pos.mpr zero)).mp bound
      unfold quantum
      omega
  rcases exponent.lt_or_eq with below | last
  · exact Or.inl below
  · refine Or.inr ⟨last, roundHalfEven_lt (scaled_nonneg value) ?_⟩
    have inside : |value| < 2 ^ 128 - 2 ^ 103 := inRange
    rw [last, div_lt_iff₀ (by positivity)]
    norm_num at inside ⊢
    linarith

theorem encodeBits_of_nonzero {value : ℚ} (nonzero : value ≠ 0) (inRange : InRange value) :
    encodeBits value = (if value < 0 then 2 ^ 31 else 0) +
      ((quantum value + 149).toNat * 2 ^ 23 + significand value) := by
  have lower := quantum_ge value
  have upper := significand_le value
  have last := quantum_of_inRange inRange
  have exponent : (max (Int.log 2 |value|) (-126) + 126).toNat = (quantum value + 149).toNat := by
    unfold quantum
    omega
  unfold encodeBits
  rw [if_neg nonzero]
  dsimp only
  rw [exponent]
  congr 1
  apply Nat.min_eq_left
  change (quantum value + 149).toNat * 2 ^ 23 + significand value ≤ 255 * 2 ^ 23
  omega

theorem encodeBits_lt {value : ℚ} (inRange : InRange value) : encodeBits value < 2 ^ 32 := by
  by_cases zero : value = 0
  · rw [zero]
    decide +kernel
  · have upper := significand_le value
    have last := quantum_of_inRange inRange
    rw [encodeBits_of_nonzero zero inRange]
    split <;> omega

/-- What an encoding decodes to is the value rounded to the format. -/
theorem decodeBits_encodeBits {value : ℚ} (inRange : InRange value) :
    decodeBits (encodeBits value) = rounded value := by
  by_cases zero : value = 0
  · rw [zero]
    decide +kernel
  have lower := quantum_ge value
  have upper := significand_le value
  have last := quantum_of_inRange inRange
  have exponent : (((quantum value + 149).toNat : ℕ) : ℤ) - 149 = quantum value := by omega
  have magnitude : decodeBits ((quantum value + 149).toNat * 2 ^ 23 + significand value) =
      (significand value : ℚ) * 2 ^ quantum value := by
    rw [decodeBits_significand _ _ upper ?_ ?_, exponent]
    · exact fun normal => le_significand (by omega) zero
    · omega
  rw [encodeBits_of_nonzero zero inRange, rounded]
  split
  · rw [decodeBits_negative _ (by omega), magnitude]
  · rw [Nat.zero_add, magnitude]

theorem decode_encode {value : ℚ} (inRange : InRange value) :
    decode (encode value)[0] (encode value)[1] (encode value)[2] (encode value)[3] =
      rounded value := by
  have below := encodeBits_lt inRange
  rw [← decodeBits_encodeBits inRange]
  unfold decode
  congr 1
  simp only [encode, Vector.getElem_mk, List.getElem_toArray, List.getElem_cons_zero,
    List.getElem_cons_succ, UInt8.toNat_ofNat']
  omega

theorem abs_rounded_sub (value : ℚ) :
    |rounded value - value| = |(significand value : ℚ) - |value| / 2 ^ quantum value| *
      2 ^ quantum value := by
  have place : (0 : ℚ) < 2 ^ quantum value := by positivity
  have restored : |value| / 2 ^ quantum value * 2 ^ quantum value = |value| :=
    div_mul_cancel₀ _ place.ne'
  rw [← abs_of_pos place, ← abs_mul, abs_of_pos place, sub_mul, restored, rounded]
  split
  · rename_i negative
    rw [abs_of_neg negative, ← abs_neg]
    congr 1
    ring
  · rename_i positive
    rw [abs_of_nonneg (not_lt.mp positive)]

/-- The error is at most half a unit in the last place. -/
theorem abs_rounded_sub_le (value : ℚ) : |rounded value - value| ≤ 2 ^ quantum value / 2 := by
  have error := roundHalfEven_error (scaled_nonneg value)
  have place : (0 : ℚ) < 2 ^ quantum value := by positivity
  rw [abs_rounded_sub]
  calc |(significand value : ℚ) - |value| / 2 ^ quantum value| * 2 ^ quantum value
      ≤ 1 / 2 * 2 ^ quantum value := mul_le_mul_of_nonneg_right error place.le
    _ = 2 ^ quantum value / 2 := by ring

/-- Relative to a normal value the error is at most `2 ^ -24`. -/
theorem abs_rounded_sub_le_mul {value : ℚ} (normal : 2 ^ (-126 : ℤ) ≤ |value|) :
    |rounded value - value| ≤ |value| * 2 ^ (-24 : ℤ) := by
  have positive : 0 < |value| := lt_of_lt_of_le (by positivity) normal
  have exponent : -126 ≤ Int.log 2 |value| :=
    (Int.zpow_le_iff_le_log (by norm_num) positive).mp normal
  have place : quantum value = Int.log 2 |value| + -23 := by
    unfold quantum
    omega
  have log : (2 : ℚ) ^ Int.log 2 |value| ≤ |value| := Int.zpow_log_le_self (by norm_num) positive
  have unit : (2 : ℚ) ^ quantum value / 2 = 2 ^ Int.log 2 |value| * 2 ^ (-24 : ℤ) := by
    rw [place, zpow_add₀ (by norm_num)]
    norm_num
    ring
  calc |rounded value - value| ≤ 2 ^ quantum value / 2 := abs_rounded_sub_le value
    _ = 2 ^ Int.log 2 |value| * 2 ^ (-24 : ℤ) := unit
    _ ≤ |value| * 2 ^ (-24 : ℤ) := mul_le_mul_of_nonneg_right log (by positivity)

/-- A value of the format is not changed. -/
theorem rounded_of_representable {value : ℚ} (exact : Representable value) :
    rounded value = value := by
  obtain ⟨m, e, bound, lowest, value_eq⟩ := exact
  have whole : ∃ n : ℕ, |value| / 2 ^ quantum value = n := by
    have place : (0 : ℚ) < 2 ^ quantum value := by positivity
    by_cases zero : value = 0
    · exact ⟨0, by rw [zero, abs_zero, zero_div, Nat.cast_zero]⟩
    have below : |value| < 2 ^ (24 + e) := by
      rw [value_eq, zpow_add₀ (by norm_num)]
      have significand : (m : ℚ) < 2 ^ (24 : ℤ) := by exact_mod_cast bound
      exact mul_lt_mul_of_pos_right significand (by positivity)
    have log : Int.log 2 |value| < 24 + e :=
      (Int.lt_zpow_iff_log_lt (by norm_num) (abs_pos.mpr zero)).mp below
    have shift : e = ((e - quantum value).toNat : ℤ) + quantum value := by
      unfold quantum
      omega
    refine ⟨m * 2 ^ (e - quantum value).toNat, ?_⟩
    rw [div_eq_iff place.ne', value_eq]
    conv_lhs => rw [shift, zpow_add₀ (by norm_num), zpow_natCast]
    push_cast
    ring
  obtain ⟨n, scaled⟩ := whole
  have error : |rounded value - value| = 0 := by
    rw [abs_rounded_sub, significand, scaled, roundHalfEven_natCast, sub_self, abs_zero, zero_mul]
  exact sub_eq_zero.mp (abs_eq_zero.mp error)

end Binary32
