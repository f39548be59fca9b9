import ZumoDelivery.Lib.DifferenceEquation
import ZumoDelivery.Driver.Filter
import ZumoDelivery.Driver.RingBufferDeque

set_option autoImplicit false

namespace ZumoDelivery

open DifferenceEquation (History push)

section Holds

variable {α : Type}

/-- The list holds the newest `length` values of a sequence, newest in front. -/
def RingBuffer.Holds (buf : RingBufferF α) (values : ℕ → α) (length : ℕ) : Prop :=
  buf.toList = (List.range length).map values

namespace RingBuffer.Holds

variable {buf : RingBufferF α} {values : ℕ → α} {length : ℕ}

theorem length_eq (holds : buf.Holds values length) : buf.toList.length = length := by
  rw [holds, List.length_map, List.length_range]

theorem rbLength (holds : buf.Holds values length) : (rbLength buf).toNat = length := by
  rw [rbLength_toNat (by decide), holds.length_eq]

theorem rbGet (holds : buf.Holds values length) (index : UInt8) (inside : index.toNat < length) :
    rbGet buf index = values index.toNat := by
  rw [rbGet_eq (by decide) buf index (by rwa [holds.length_eq])]
  simp only [show buf.toList = (List.range length).map values from holds, List.getElem_map,
    List.getElem_range]

theorem rbPushBack (holds : buf.Holds values length) (room : length < 7) (value : α)
    (next : values length = value) : (rbPushBack buf value).Holds values (length + 1) := by
  have fits : (buf.toList ++ [value]).length ≤ 2 ^ 3 - 1 := by
    rw [List.length_append, List.length_singleton, holds.length_eq]
    omega
  rw [Holds, toList_rbPushBack (by decide), BoundedQueue.pushBack,
    BoundedQueue.rtake_eq_self fits, holds, List.range_succ, List.map_append, List.map_singleton,
    next]

theorem rbPopBack [Zero α] (holds : buf.Holds values (length + 1)) :
    (rbPopBack buf).2.Holds values length := by
  have stored : buf.toList ≠ [] := by
    rw [holds]
    simp
  rw [Holds, (rbPopBack_of_ne_nil (by decide) buf stored).2, holds, List.range_succ,
    List.map_append, List.map_singleton, List.dropLast_concat]

theorem rbPushFront (holds : buf.Holds values length) (room : length < 7) (value : α) :
    (rbPushFront buf value).Holds (push value values) (length + 1) := by
  have fits : (value :: buf.toList).length ≤ 2 ^ 3 - 1 := by
    rw [List.length_cons, holds.length_eq]
    omega
  rw [Holds, toList_rbPushFront (by decide), List.take_of_length_le fits, holds,
    List.range_succ_eq_map, List.map_cons, List.map_map]
  rfl

theorem rbSet (holds : buf.Holds values length) (index : UInt8) (inside : index.toNat < length)
    (value : α) : ∃ after, rbSet buf index value = some after ∧
      after.Holds (Function.update values index.toNat value) length := by
  obtain ⟨after, called, listed⟩ := rbSet_of_inside (by decide) buf index value
    (by rwa [holds.length_eq])
  refine ⟨after, called, ?_⟩
  rw [Holds, listed, holds]
  apply List.ext_getElem
  · simp
  · intro i below _
    rw [List.getElem_set]
    by_cases same : index.toNat = i
    · simp [same]
    · simp [same, Function.update_of_ne (Ne.symm same)]

theorem congr (holds : buf.Holds values length) (other : ℕ → α)
    (same : ∀ i < length, values i = other i) : buf.Holds other length := by
  rw [Holds, holds]
  apply List.map_congr_left
  intro i member
  exact same i (List.mem_range.mp member)

end RingBuffer.Holds

end Holds

section Represents

variable {F : Type}

/-- The four buffers hold the coefficients and the newest values of the histories. -/
structure FilterData.Represents (filt : FilterData F) (a b : ℕ → F) (length : ℕ)
    (history : History F) : Prop where
  numerator : filt.numerator.Holds b length
  denominator : filt.denominator.Holds a length
  inList : filt.inList.Holds history.inputs length
  outList : filt.outList.Holds history.outputs length

variable {filt : FilterData F} {a b : ℕ → F} {length : ℕ} {history : History F}

theorem represents_filterRewrite (represents : filt.Represents a b length history)
    (fits : length ≤ 7) (value : RingBufferF F → UInt8 → F) (change : F → F)
    (changes : ∀ (list : RingBufferF F) (values : ℕ → F) (index : UInt8),
      list.Holds values length → index.toNat < length →
        value list index = change (values index.toNat)) (i : ℕ) (inside : i < length) :
    ∃ after, filterRewrite value filt i = some after ∧
      after.Represents a b length
        ⟨Function.update history.inputs i (change (history.inputs i)),
          Function.update history.outputs i (change (history.outputs i))⟩ := by
  have index : (UInt8.ofNat i).toNat = i := UInt8.toNat_ofNat_of_lt (by
    rw [UInt8.size]
    omega)
  have within : (UInt8.ofNat i).toNat < length := by omega
  obtain ⟨inList, setIn, heldIn⟩ := represents.inList.rbSet _ within
    (value filt.inList (UInt8.ofNat i))
  obtain ⟨outList, setOut, heldOut⟩ := represents.outList.rbSet _ within
    (value filt.outList (UInt8.ofNat i))
  rw [changes _ _ _ represents.inList within, index] at heldIn
  rw [changes _ _ _ represents.outList within, index] at heldOut
  refine ⟨{ filt with inList, outList }, ?_, ?_⟩
  · simp only [filterRewrite, setIn, setOut, Option.bind_eq_bind, Option.bind_some]
    rfl
  · exact ⟨represents.numerator, represents.denominator, heldIn, heldOut⟩

theorem represents_rewrite (represents : filt.Represents a b length history)
    (fits : length ≤ 7) (value : RingBufferF F → UInt8 → F) (change : F → F)
    (changes : ∀ (list : RingBufferF F) (values : ℕ → F) (index : UInt8),
      list.Holds values length → index.toNat < length →
        value list index = change (values index.toNat)) (passes : ℕ) (within : passes ≤ length) :
    ∃ after, (List.range passes).foldlM (filterRewrite value) filt = some after ∧
      after.Represents a b length
        ⟨fun i => if i < passes then change (history.inputs i) else history.inputs i,
          fun i => if i < passes then change (history.outputs i) else history.outputs i⟩ := by
  induction passes with
  | zero =>
      refine ⟨filt, rfl, ?_⟩
      simpa only [Nat.not_lt_zero, ↓reduceIte] using represents
  | succ passes ih =>
      obtain ⟨before, looped, held⟩ := ih (by omega)
      obtain ⟨after, passed, done⟩ :=
        represents_filterRewrite held fits value change changes passes (by omega)
      refine ⟨after, ?_, ?_⟩
      · rw [List.range_succ, List.foldlM_append, looped]
        simpa using passed
      · have next : ∀ values : ℕ → F, Function.update
            (fun i => if i < passes then change (values i) else values i) passes
            (change (if passes < passes then change (values passes) else values passes)) =
            fun i => if i < passes + 1 then change (values i) else values i := by
          intro values
          funext i
          by_cases same : i = passes
          · subst same
            simp
          · rw [Function.update_of_ne same]
            simp only [show i < passes + 1 ↔ i < passes by omega]
        simpa only [next] using done

/-- A whole loop changes every stored value of both histories. -/
theorem represents_rewrite_all (represents : filt.Represents a b length history)
    (fits : length ≤ 7) (value : RingBufferF F → UInt8 → F) (change : F → F)
    (changes : ∀ (list : RingBufferF F) (values : ℕ → F) (index : UInt8),
      list.Holds values length → index.toNat < length →
        value list index = change (values index.toNat)) :
    ∃ after, (List.range (rbLength filt.inList).toNat).foldlM (filterRewrite value) filt =
        some after ∧
      after.Represents a b length
        ⟨fun i => change (history.inputs i), fun i => change (history.outputs i)⟩ := by
  rw [represents.inList.rbLength]
  obtain ⟨after, looped, held⟩ :=
    represents_rewrite represents fits value change changes length (Nat.le_refl length)
  refine ⟨after, looped, held.numerator, held.denominator, ?_, ?_⟩
  · exact held.inList.congr _ fun i below => if_pos below
  · exact held.outList.congr _ fun i below => if_pos below

theorem filterLastOutput_eq (represents : filt.Represents a b (length + 1) history) :
    filterLastOutput filt = history.outputs 0 :=
  represents.outList.rbGet 0 (Nat.succ_pos length)

theorem represents_filterSetTo (represents : filt.Represents a b length history)
    (fits : length ≤ 7) (amount : F) :
    ∃ after, filterSetTo filt amount = some after ∧
      after.Represents a b length (.const amount) :=
  represents_rewrite_all represents fits _ (fun _ => amount) (fun _ _ _ _ _ => rfl)

variable [FloatArith F]

theorem represents_filterInit (filt : FilterData F) (a b : ℕ → F) (order : UInt8)
    (fits : order.toNat + 1 ≤ 7) :
    (filterInit filt b a order).Represents a b (order.toNat + 1) (.const 0) := by
  rw [filterInit]
  generalize order.toNat + 1 = length at fits ⊢
  induction length with
  | zero =>
      constructor <;> exact toList_rbInitialize _
  | succ length ih =>
      have before := ih (by omega)
      rw [List.range_succ, List.foldl_append]
      exact {
        numerator := before.numerator.rbPushBack (by omega) _ rfl
        denominator := before.denominator.rbPushBack (by omega) _ rfl
        inList := before.inList.rbPushBack (by omega) _ rfl
        outList := before.outList.rbPushBack (by omega) _ rfl }

theorem represents_filterShiftBy (represents : filt.Represents a b length history)
    (fits : length ≤ 7) (amount : F) :
    ∃ after, filterShiftBy filt amount = some after ∧
      after.Represents a b length
        ⟨fun i => history.inputs i + amount, fun i => history.outputs i + amount⟩ := by
  apply represents_rewrite_all represents fits _ (fun value => value + amount)
  intro list values index holds inside
  rw [holds.rbGet index inside]

end Represents

section Exact

variable {filt : FilterData ℚ} {a b : ℕ → ℚ} {order : ℕ} {history : History ℚ}

/-- The loop of `Filter_Value` sums over the new input and the old outputs. -/
theorem filterValue_sums {inList outList : RingBufferF ℚ} {inputs outputs : ℕ → ℚ}
    (numerator : filt.numerator.Holds b (order + 1))
    (denominator : filt.denominator.Holds a (order + 1))
    (held : inList.Holds inputs (order + 1)) (past : outList.Holds outputs order)
    (fits : order + 1 ≤ 7) :
    (List.range (order + 1)).foldl
        (fun sums i =>
          (sums.1 + rbGet filt.numerator (UInt8.ofNat i) * rbGet inList (UInt8.ofNat i),
            if i < order + 1 - 1 then
              sums.2 + rbGet filt.denominator (UInt8.ofNat i + 1) * rbGet outList (UInt8.ofNat i)
            else sums.2)) ((0, 0) : ℚ × ℚ) =
      (∑ i ∈ Finset.range (order + 1), b i * inputs i,
        ∑ i ∈ Finset.range order, a (i + 1) * outputs i) := by
  have both := DifferenceEquation.foldl_sums (fun i => b i * inputs i)
    (fun i => a (i + 1) * outputs i) order (order + 1)
  rw [Nat.min_eq_left (Nat.le_succ order)] at both
  rw [← both]
  apply List.foldl_ext
  intro sums i member
  have below := List.mem_range.mp member
  have index : (UInt8.ofNat i).toNat = i := by
    apply UInt8.toNat_ofNat_of_lt
    rw [UInt8.size]
    omega
  rw [numerator.rbGet _ (by omega), held.rbGet _ (by omega), index, Nat.add_sub_cancel]
  by_cases fed : i < order
  · have next : (UInt8.ofNat i + 1).toNat = i + 1 := by
      rw [UInt8.toNat_add, index]
      exact Nat.mod_eq_of_lt (show i + 1 < 2 ^ 8 by omega)
    rw [if_pos fed, if_pos fed, denominator.rbGet _ (by omega), past.rbGet _ (by omega), index,
      next]
  · rw [if_neg fed, if_neg fed]

theorem filterValue_eq (represents : filt.Represents a b (order + 1) history)
    (fits : order + 1 ≤ 7) (input : ℚ) :
    (filterValue filt input).1 = DifferenceEquation.output a b order history input ∧
      (filterValue filt input).2.Represents a b (order + 1)
        ⟨push input history.inputs,
          push (DifferenceEquation.output a b order history input) history.outputs⟩ := by
  have inList := represents.inList.rbPopBack.rbPushFront (by omega) input
  have outList := represents.outList.rbPopBack
  have sums := filterValue_sums represents.numerator represents.denominator inList outList fits
  have leading := represents.denominator.rbGet 0 (Nat.succ_pos order)
  have pushed := outList.rbPushFront (by omega)
    (DifferenceEquation.output a b order history input)
  have value : filterValue filt input =
      (rbGet (rbPushFront (rbPopBack filt.outList).2
          (DifferenceEquation.output a b order history input)) 0,
        { filt with
          inList := rbPushFront (rbPopBack filt.inList).2 input
          outList := rbPushFront (rbPopBack filt.outList).2
            (DifferenceEquation.output a b order history input) }) := by
    unfold filterValue
    simp only [represents.inList.rbLength]
    change (rbGet (rbPushFront _ ((Prod.fst (List.foldl _ ((0, 0) : ℚ × ℚ) _) -
      Prod.snd (List.foldl _ ((0, 0) : ℚ × ℚ) _)) / rbGet filt.denominator 0)) 0, _) = _
    rw [sums, leading]
    rfl
  rw [value]
  exact ⟨pushed.rbGet 0 (Nat.succ_pos order),
    represents.numerator, represents.denominator, inList, pushed⟩

/-- One call of the filter, `none` when it does not return. -/
def filterCall {F : Type} [FloatArith F] (filt : FilterData F) :
    DifferenceEquation.Op F → Option (Option F × FilterData F)
  | .value input => some (some (filterValue filt input).1, (filterValue filt input).2)
  | .setTo amount => (filterSetTo filt amount).map fun after => (none, after)
  | .shiftBy amount => (filterShiftBy filt amount).map fun after => (none, after)

theorem filterCall_eq (represents : filt.Represents a b (order + 1) history)
    (fits : order + 1 ≤ 7) (leading : a 0 ≠ 0) (op : DifferenceEquation.Op ℚ) :
    ∃ answer after history', filterCall filt op = some (answer, after) ∧
      DifferenceEquation.Step a b order history op answer history' ∧
      after.Represents a b (order + 1) history' := by
  cases op with
  | value input =>
      obtain ⟨returned, after⟩ := filterValue_eq represents fits input
      refine ⟨some (filterValue filt input).1, _, _, rfl, ?_, after⟩
      rw [returned]
      exact .value input _ (DifferenceEquation.solves_output order leading history input)
  | setTo amount =>
      obtain ⟨after, called, held⟩ := represents_filterSetTo represents fits amount
      refine ⟨none, after, _, ?_, .setTo amount, held⟩
      simp only [filterCall, called, Option.map_some]
  | shiftBy amount =>
      obtain ⟨after, called, held⟩ := represents_filterShiftBy represents fits amount
      refine ⟨none, after, _, ?_, .shiftBy amount, held⟩
      simp only [filterCall, called, Option.map_some]

/-- Every output solves the difference equation over the filter's whole past. -/
theorem filter_solves_difference_equation (filt : FilterData ℚ) (order : UInt8)
    (fits : order.toNat + 1 ≤ 7) (a b : ℕ → ℚ) (leading : a 0 ≠ 0)
    (calls : List (DifferenceEquation.Op ℚ)) :
    ∃ answers final history,
      CallSequence.run filterCall (filterInit filt b a order) calls = some (answers, final) ∧
      CallSequence.Run (DifferenceEquation.Step a b order.toNat) History.zero calls answers
        history ∧
      (rbLength final.numerator).toNat = order.toNat + 1 ∧
      (rbLength final.denominator).toNat = order.toNat + 1 ∧
      (rbLength final.inList).toNat = order.toNat + 1 ∧
      (rbLength final.outList).toNat = order.toNat + 1 ∧
      filterLastOutput final = history.outputs 0 := by
  obtain ⟨answers, final, history, ran, specified, represents⟩ :=
    CallSequence.run_related filterCall (DifferenceEquation.Step a b order.toNat)
      (fun filt history => filt.Represents a b (order.toNat + 1) history) (fun _ _ => True)
      (by
        intro filt history op calls represents _
        obtain ⟨answer, after, history', called, stepped, kept⟩ :=
          filterCall_eq represents fits leading op
        exact ⟨answer, after, history', called, stepped, kept, trivial⟩)
      calls (filterInit filt b a order) History.zero
      (represents_filterInit filt a b order fits) trivial
  exact ⟨answers, final, history, ran, specified, represents.numerator.rbLength,
    represents.denominator.rbLength, represents.inList.rbLength, represents.outList.rbLength,
    filterLastOutput_eq represents⟩

/-- A second-order run of every kind of call. -/
theorem filter_solves_difference_equation_second_order :
    ∃ answers final history,
      CallSequence.run filterCall
        (filterInit (filterStatic : FilterData ℚ) batteryBCoeff batteryACoeff 2)
        [.setTo 7, .value 8, .shiftBy (-1), .value 6] = some (answers, final) ∧
      CallSequence.Run (DifferenceEquation.Step batteryACoeff batteryBCoeff 2) History.zero
        [.setTo 7, .value 8, .shiftBy (-1), .value 6] answers history ∧
      filterLastOutput final = history.outputs 0 := by
  have leading : (batteryACoeff 0 : ℚ) ≠ 0 := by decide +kernel
  obtain ⟨answers, final, history, ran, specified, -, -, -, -, newest⟩ :=
    filter_solves_difference_equation filterStatic 2 (by decide) batteryACoeff batteryBCoeff
      leading [.setTo 7, .value 8, .shiftBy (-1), .value 6]
  exact ⟨answers, final, history, ran, specified, newest⟩

end Exact

end ZumoDelivery
