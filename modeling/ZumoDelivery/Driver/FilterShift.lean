import ZumoDelivery.Lib.ShiftedInput
import ZumoDelivery.Driver.FilterHistory

set_option autoImplicit false

namespace ZumoDelivery

open DifferenceEquation (History Op)

variable {a b : ℕ → ℚ} {order : ℕ}

/-- Two filters with the same coefficients, the second with every stored value shifted. -/
def ShiftedFilters (a b : ℕ → ℚ) (order : ℕ) (amount : ℚ) (filt shifted : FilterData ℚ) : Prop :=
  ∃ history, filt.Represents a b (order + 1) history ∧
    shifted.Represents a b (order + 1) (history.shift amount)

theorem filterCall_shift {amount : ℚ} {filt shifted : FilterData ℚ} (fits : order + 1 ≤ 7)
    (leading : a 0 ≠ 0)
    (balanced : amount *
      (∑ i ∈ Finset.range (order + 1), b i - ∑ i ∈ Finset.range (order + 1), a i) = 0)
    (related : ShiftedFilters a b order amount filt shifted) (op : Op ℚ) :
    ∃ answer after after', filterCall filt op = some (answer, after) ∧
      filterCall shifted (op.shift amount) = some (answer.map (· + amount), after') ∧
      ShiftedFilters a b order amount after after' := by
  obtain ⟨history, first, second⟩ := related
  cases op with
  | value input =>
      obtain ⟨returned, after⟩ := filterValue_eq first fits input
      obtain ⟨returned', after'⟩ := filterValue_eq second fits (input + amount)
      have through :=
        (DifferenceEquation.output_shift_iff leading history input amount).mpr balanced
      rw [through] at returned' after'
      refine ⟨some (filterValue filt input).1, (filterValue filt input).2,
        (filterValue shifted (input + amount)).2, rfl, ?_, _, after, ?_⟩
      · rw [returned, Option.map_some, ← returned']
        rfl
      · rw [← History.shift_push]
        exact after'
  | setTo level =>
      obtain ⟨after, called, held⟩ := represents_filterSetTo first fits level
      obtain ⟨after', called', held'⟩ := represents_filterSetTo second fits (level + amount)
      refine ⟨none, after, after', ?_, ?_, _, held, held'⟩
      · simp only [filterCall, called, Option.map_some]
      · simp only [filterCall, Op.shift, called', Option.map_some, Option.map_none]
  | shiftBy step =>
      obtain ⟨after, called, held⟩ := represents_filterShiftBy first fits step
      obtain ⟨after', called', held'⟩ := represents_filterShiftBy second fits step
      refine ⟨none, after, after', ?_, ?_, history.shift step, held, ?_⟩
      · simp only [filterCall, called, Option.map_some]
      · simp only [filterCall, Op.shift, called', Option.map_some, Option.map_none]
      · rw [History.shift_shift]
        exact held'

/-- Every later call on shifted values answers as before, shifted. -/
def Commutes (amount : ℚ) (filt shifted : FilterData ℚ) : Prop :=
  ∀ later : List (Op ℚ), ∃ answers final final',
    CallSequence.run filterCall filt later = some (answers, final) ∧
      CallSequence.run filterCall shifted (later.map (Op.shift amount)) =
        some (answers.map (Option.map (· + amount)), final')

theorem commutes_iff {amount : ℚ} {filt shifted : FilterData ℚ} (fits : order + 1 ≤ 7)
    (leading : a 0 ≠ 0) (related : ShiftedFilters a b order amount filt shifted) :
    Commutes amount filt shifted ↔ amount *
      (∑ i ∈ Finset.range (order + 1), b i - ∑ i ∈ Finset.range (order + 1), a i) = 0 := by
  constructor
  · intro commutes
    obtain ⟨answers, final, final', ran, ran'⟩ := commutes [.value 0]
    obtain ⟨history, first, second⟩ := related
    rw [← DifferenceEquation.output_shift_iff leading history 0 amount,
      ← (filterValue_eq first fits 0).1, ← (filterValue_eq second fits (0 + amount)).1]
    cases ran
    exact Option.some.inj (List.head_eq_of_cons_eq (congrArg Prod.fst (Option.some.inj ran')))
  · intro balanced later
    obtain ⟨answers, final, final', ran, ran', -⟩ :=
      CallSequence.run_parallel filterCall filterCall (Op.shift amount) (Option.map (· + amount))
        (ShiftedFilters a b order amount)
        (fun _ _ op related => filterCall_shift fits leading balanced related op) later filt shifted
        related
    exact ⟨answers, final, final', ran, ran'⟩

/-- `Filter_ShiftBy` moves any filter to another zero exactly if a constant signal passes it
unchanged: then every later call on shifted values answers shifted. -/
theorem filter_shift_iff (filt : FilterData ℚ) (order : UInt8) (fits : order.toNat + 1 ≤ 7)
    (a b : ℕ → ℚ) (leading : a 0 ≠ 0) (before : List (Op ℚ)) (amount : ℚ) :
    ∃ answers reached shifted,
      CallSequence.run filterCall (filterInit filt b a order) before = some (answers, reached) ∧
      filterShiftBy reached amount = some shifted ∧
      (Commutes amount reached shifted ↔
        amount = 0 ∨
          ∑ i ∈ Finset.range (order.toNat + 1), b i =
            ∑ i ∈ Finset.range (order.toNat + 1), a i) := by
  obtain ⟨answers, reached, history, ran, -, represents⟩ :=
    CallSequence.run_related filterCall (DifferenceEquation.Step a b order.toNat)
      (fun filt history => filt.Represents a b (order.toNat + 1) history) (fun _ _ => True)
      (by
        intro filt history op calls represents _
        obtain ⟨answer, after, history', called, stepped, kept⟩ :=
          filterCall_eq represents fits leading op
        exact ⟨answer, after, history', called, stepped, kept, trivial⟩)
      before (filterInit filt b a order) History.zero
      (represents_filterInit filt a b order fits) trivial
  obtain ⟨shifted, called, held⟩ := represents_filterShiftBy represents fits amount
  refine ⟨answers, reached, shifted, ran, called, ?_⟩
  rw [commutes_iff fits leading ⟨history, represents, held⟩, mul_eq_zero, sub_eq_zero]

/-- The battery filter does not keep its frame. -/
theorem filter_shift_iff_battery :
    ∃ answers reached shifted,
      CallSequence.run filterCall
        (filterInit (filterStatic : FilterData ℚ) batteryBCoeff batteryACoeff 2)
        [.setTo 7, .value 8] = some (answers, reached) ∧
      filterShiftBy reached 1 = some shifted ∧ ¬ Commutes 1 reached shifted := by
  have leading : (batteryACoeff 0 : ℚ) ≠ 0 := by decide +kernel
  obtain ⟨answers, reached, shifted, ran, called, commutes⟩ :=
    filter_shift_iff filterStatic 2 (by decide) batteryACoeff batteryBCoeff leading
      [.setTo 7, .value 8] 1
  refine ⟨answers, reached, shifted, ran, called, ?_⟩
  rw [commutes]
  decide +kernel

end ZumoDelivery
