import Mathlib.Algebra.Ring.Nat
import Mathlib.Tactic.Common

set_option autoImplicit false

namespace ZumoDelivery

/-- The number with the given digits behind those of `n`. -/
def decimalFrom : ℕ → List (Fin 10) → ℕ
  | n, [] => n
  | n, digit :: digits => decimalFrom (n * 10 + digit) digits

def decimal (digits : List (Fin 10)) : ℕ := decimalFrom 0 digits

def digitSum (digits : List (Fin 10)) : ℕ := (digits.map Fin.val).sum

/-- What the loop of `parseData` makes of the digits: how many values it appends
meanwhile, and the `rep` it comes to the item with. -/
def scanDigits : ℕ → List (Fin 10) → ℕ × ℕ
  | rep, [] => (0, rep)
  | rep, digit :: digits =>
      if rep = 1 then scanDigits digit digits
      else (rep + (scanDigits 1 digits).1, (scanDigits 1 digits).2)

theorem scanDigits_one (digit : Fin 10) (digits : List (Fin 10)) :
    scanDigits 1 (digit :: digits) = scanDigits digit digits := rfl

theorem scanDigits_of_ne_one {rep : ℕ} (other : rep ≠ 1) (digit : Fin 10)
    (digits : List (Fin 10)) : scanDigits rep (digit :: digits) =
      (rep + (scanDigits 1 digits).1, (scanDigits 1 digits).2) :=
  if_neg other

theorem decimal_cons (digit : Fin 10) (digits : List (Fin 10)) :
    decimal (digit :: digits) = decimalFrom digit digits := by
  rw [decimal, decimalFrom, Nat.zero_mul, Nat.zero_add]

theorem digitSum_cons (digit : Fin 10) (digits : List (Fin 10)) :
    digitSum (digit :: digits) = digit + digitSum digits := by
  rw [digitSum, digitSum, List.map_cons, List.sum_cons]

theorem add_digitSum_le (n : ℕ) (digits : List (Fin 10)) :
    n + digitSum digits ≤ decimalFrom n digits := by
  induction digits generalizing n with
  | nil => exact Nat.le_refl n
  | cons digit digits ih =>
      have rest := ih (n * 10 + digit)
      rw [decimalFrom, digitSum_cons]
      omega

/-- In a number of several digits the first ones count for more than in the sum. -/
theorem digitSum_add_nine_le (digits : List (Fin 10)) (large : 10 ≤ decimal digits) :
    digitSum digits + 9 ≤ decimal digits := by
  induction digits with
  | nil => simp [decimal, decimalFrom] at large
  | cons first digits ih =>
      rw [decimal_cons] at large ⊢
      rw [digitSum_cons]
      by_cases zero : (first : ℕ) = 0
      · rw [zero] at large ⊢
        rw [Nat.zero_add]
        exact ih large
      · cases digits with
        | nil =>
            rw [decimalFrom] at large
            omega
        | cons second digits =>
            have rest := add_digitSum_le (first * 10 + second) digits
            rw [decimalFrom, digitSum_cons]
            omega

/-- The loop appends at most one value more than the sum of the digits. -/
theorem scanDigits_le (rep : ℕ) (digits : List (Fin 10)) :
    (scanDigits rep digits).1 + (scanDigits rep digits).2 ≤ rep + digitSum digits + 1 ∧
      (scanDigits 1 digits).1 + (scanDigits 1 digits).2 ≤ digitSum digits + 1 := by
  induction digits generalizing rep with
  | nil => simp [scanDigits, digitSum]
  | cons digit digits ih =>
      have read := (ih digit).1
      rw [scanDigits_one, digitSum_cons]
      constructor
      · by_cases one : rep = 1
        · rw [one, scanDigits_one]
          omega
        · have rest := (ih 0).2
          rw [scanDigits_of_ne_one one]
          dsimp only
          omega
      · omega

theorem scanDigits_lt_of_large {digits : List (Fin 10)} (large : 10 ≤ decimal digits) :
    (scanDigits 1 digits).1 + (scanDigits 1 digits).2 < decimal digits := by
  have scanned := (scanDigits_le 0 digits).2
  have size := digitSum_add_nine_le digits large
  omega

/-- A number of one digit, perhaps behind zeros. Two zeros leave the loop as it was. -/
theorem scanDigits_of_small (digits : List (Fin 10)) (some : digits ≠ [])
    (small : decimal digits ≤ 9) :
    scanDigits 1 digits = (0, if digits.length % 2 = 1 then decimal digits else 1) := by
  match digits with
  | [] => contradiction
  | [digit] => simp [scanDigits, decimal, decimalFrom]
  | [first, second] =>
      rw [decimal_cons, decimalFrom, decimalFrom] at small
      have zero : (first : ℕ) = 0 := by omega
      rw [scanDigits_one, scanDigits_of_ne_one (by omega), zero]
      simp [scanDigits]
  | first :: second :: third :: rest =>
      have bound := add_digitSum_le ((first * 10 + second) * 10 + third) rest
      rw [decimal_cons, decimalFrom, decimalFrom] at small
      have zero : (first : ℕ) = 0 := by omega
      have another : (second : ℕ) = 0 := by omega
      have same : decimal (first :: second :: third :: rest) = decimal (third :: rest) := by
        rw [decimal_cons, decimalFrom, zero, another]
        rfl
      have later := scanDigits_of_small (third :: rest) (List.cons_ne_nil _ _) (by
        rw [← same, decimal_cons]
        exact small)
      have parity : (first :: second :: third :: rest).length % 2 =
          (third :: rest).length % 2 := by
        simp only [List.length_cons]
        omega
      rw [same, parity, scanDigits_one, scanDigits_of_ne_one (by omega), zero, later, Nat.zero_add]

def repeatCount (digits : List (Fin 10)) : ℕ := if digits = [] then 1 else decimal digits

/-- The count is one digit. Only an even number of zeros may stand before it, unless it
is a 1. -/
def ReadsCount (digits : List (Fin 10)) : Prop :=
  repeatCount digits ≤ 9 ∧ (repeatCount digits = 1 ∨ digits.length % 2 = 1)

instance (digits : List (Fin 10)) : Decidable (ReadsCount digits) :=
  inferInstanceAs (Decidable (_ ∧ _))

theorem scanDigits_le_repeatCount (digits : List (Fin 10)) (positive : 1 ≤ repeatCount digits) :
    (scanDigits 1 digits).1 + (scanDigits 1 digits).2 ≤ repeatCount digits := by
  unfold repeatCount at positive ⊢
  split
  · rename_i none
    rw [none]
    exact Nat.le_refl 1
  · rename_i some
    rw [if_neg some] at positive
    by_cases small : decimal digits ≤ 9
    · rw [scanDigits_of_small digits some small]
      dsimp only
      split <;> omega
    · exact Nat.le_of_lt (scanDigits_lt_of_large (by omega))

theorem readsCount_of_sum {digits : List (Fin 10)}
    (sum : (scanDigits 1 digits).1 + (scanDigits 1 digits).2 = repeatCount digits) :
    ReadsCount digits := by
  unfold ReadsCount repeatCount at *
  by_cases none : digits = []
  · simp [none]
  · rw [if_neg none] at sum ⊢
    by_cases small : decimal digits ≤ 9
    · rw [scanDigits_of_small digits none small] at sum
      dsimp only at sum
      split at sum <;> omega
    · have below := scanDigits_lt_of_large (show 10 ≤ decimal digits by omega)
      omega

theorem scanDigits_of_readsCount {digits : List (Fin 10)} (reads : ReadsCount digits) :
    scanDigits 1 digits = (0, repeatCount digits) := by
  unfold ReadsCount repeatCount at *
  by_cases none : digits = []
  · simp [none, scanDigits]
  · rw [if_neg none] at reads ⊢
    rw [scanDigits_of_small digits none reads.1]
    split
    · rfl
    · rw [reads.2.resolve_right ‹_›]

/-- The count of an 's' item, of which the loop only asks that it is not read as 0. -/
def ReadsOnce : List (Fin 10) → Prop
  | [] => True
  | [digit] => digit ≠ 0
  | first :: second :: digits =>
      (first = 0 ∧ ReadsOnce digits) ∨ (first = 1 ∧ ReadsOnce (second :: digits))

theorem readsOnce_iff (digits : List (Fin 10)) :
    ReadsOnce digits ↔ (scanDigits 1 digits).1 = 0 ∧ (scanDigits 1 digits).2 ≠ 0 := by
  match digits with
  | [] => simp [ReadsOnce, scanDigits]
  | [digit] => simp [ReadsOnce, scanDigits]
  | first :: second :: digits =>
      rw [ReadsOnce, readsOnce_iff digits, readsOnce_iff (second :: digits), scanDigits_one first]
      by_cases one : (first : ℕ) = 1
      · have here : first = 1 := Fin.ext one
        simp [here]
      · have other : first ≠ 1 := fun here => one (congrArg Fin.val here)
        rw [scanDigits_of_ne_one one]
        simp [other]
        omega

end ZumoDelivery
