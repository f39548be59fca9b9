import ZumoDelivery.Host.DynamicMode

set_option autoImplicit false

namespace ZumoDelivery

open PyStruct

/-- The fields of `SerialData` that `setDataFormat` assigns. -/
structure FrameFields where
  definedDataMode : Bool
  dataFormat : List Char
  dataNumBytes : ℤ
  /-- `none` is `None`. -/
  rawData : Option (List UInt8)
deriving DecidableEq

def dynamicText : List Char := ['D', 'y', 'n', 'a', 'm', 'i', 'c']

/-- `setDataFormat`, with its answer. A `bytearray` is allocated or raises `MemoryError`. -/
def setDataFormat (allocates : ℕ → Bool) (newFormat : List Char) (s : FrameFields) :
    Bool × FrameFields :=
  if newFormat ≠ dynamicText then
    let s := { s with definedDataMode := true, dataFormat := '<' :: newFormat }
    match calcsize s.dataFormat with
    | none => (false, s)
    | some size =>
        let s := { s with dataNumBytes := size }
        if allocates size then (true, { s with rawData := some (List.replicate size 0) })
        else (false, s)
  else (true, ⟨false, ['<'], -1, none⟩)

/-- The format and the number of bytes belong to one frame. -/
def FrameFields.Described (s : FrameFields) : Prop :=
  ∃ size : ℕ, calcsize s.dataFormat = some size ∧ s.dataNumBytes = size

/-- The fields after a fixed format has been taken. -/
structure FrameFields.Fixed (s : FrameFields) (format : List Char) : Prop where
  dataFormat : s.dataFormat = '<' :: format
  described : s.Described
  rawData : ∃ raw, s.rawData = some raw ∧ s.dataNumBytes = raw.length

/-- A call that assigns all four fields or none. -/
structure AtomicCall (allocates : ℕ → Bool) (newFormat : List Char) (s : FrameFields) :
    Prop where
  refused : (setDataFormat allocates newFormat s).1 = false →
    (setDataFormat allocates newFormat s).2 = s
  taken : (setDataFormat allocates newFormat s).1 = true → newFormat ≠ dynamicText →
    (setDataFormat allocates newFormat s).2.Fixed newFormat
  described : (setDataFormat allocates newFormat s).2.definedDataMode = true →
    (setDataFormat allocates newFormat s).2.Described

def AtomicCalls (allocates : ℕ → Bool) : FrameFields → List (List Char) → Prop
  | _, [] => True
  | s, newFormat :: later =>
      AtomicCall allocates newFormat s ∧
        AtomicCalls allocates (setDataFormat allocates newFormat s).2 later

/-- A string that `setDataFormat` takes. -/
def TakesFormat (allocates : ℕ → Bool) (newFormat : List Char) : Prop :=
  newFormat = dynamicText ∨
    ∃ size, calcsize ('<' :: newFormat) = some size ∧ allocates size = true

variable {allocates : ℕ → Bool} {newFormat : List Char}

theorem setDataFormat_dynamic (allocates : ℕ → Bool) (s : FrameFields) :
    setDataFormat allocates dynamicText s = (true, ⟨dynamicStart.definedDataMode,
      dynamicStart.dataFormat, dynamicStart.dataNumBytes, none⟩) :=
  if_neg (not_not.mpr rfl)

theorem setDataFormat_of_sized {size : ℕ} (sized : calcsize ('<' :: newFormat) = some size)
    (allocated : allocates size = true) (fixed : newFormat ≠ dynamicText) (s : FrameFields) :
    setDataFormat allocates newFormat s =
      (true, ⟨true, '<' :: newFormat, size, some (List.replicate size 0)⟩) := by
  simp only [setDataFormat, fixed, ne_eq, not_false_eq_true, sized, allocated, ↓reduceIte]

/-- A call that raises has already assigned the mode and the format. -/
theorem setDataFormat_of_not_takes (raises : ¬ TakesFormat allocates newFormat)
    (s : FrameFields) :
    (setDataFormat allocates newFormat s).1 = false ∧
      (setDataFormat allocates newFormat s).2.definedDataMode = true ∧
      (setDataFormat allocates newFormat s).2.dataFormat = '<' :: newFormat := by
  have fixed : newFormat ≠ dynamicText := fun same => raises (Or.inl same)
  cases sized : calcsize ('<' :: newFormat) with
  | none => simp [setDataFormat, fixed, sized]
  | some size =>
      have unallocated : allocates size = false :=
        Bool.eq_false_iff.mpr fun allocated => raises (Or.inr ⟨size, sized, allocated⟩)
      simp [setDataFormat, fixed, sized, unallocated]

theorem atomicCall_of_takes (takes : TakesFormat allocates newFormat) (s : FrameFields) :
    AtomicCall allocates newFormat s := by
  by_cases dynamic : newFormat = dynamicText
  · rw [dynamic]
    have call := setDataFormat_dynamic allocates s
    constructor
    · rw [call]
      exact fun refused => absurd refused.symm Bool.false_ne_true
    · exact fun _ fixed => absurd rfl fixed
    · rw [call]
      exact fun fixed => absurd fixed Bool.false_ne_true
  · obtain ⟨size, sized, allocated⟩ := takes.resolve_left dynamic
    have call := setDataFormat_of_sized sized allocated dynamic s
    have described : (setDataFormat allocates newFormat s).2.Described := by
      rw [call]
      exact ⟨size, sized, rfl⟩
    refine ⟨?_, ?_, fun _ => described⟩
    · rw [call]
      exact fun refused => absurd refused.symm Bool.false_ne_true
    · intro _ _
      refine ⟨?_, described, List.replicate size 0, ?_, ?_⟩
      · rw [call]
      · rw [call]
      · rw [call, List.length_replicate]

/-- The fields before a call, if no exception has touched them. -/
def Untouched (allocates : ℕ → Bool) (s : FrameFields) : Prop :=
  s.definedDataMode = false ∨
    ∃ format, TakesFormat allocates format ∧ s.dataFormat = '<' :: format

theorem untouched_setDataFormat (takes : TakesFormat allocates newFormat) (s : FrameFields) :
    Untouched allocates (setDataFormat allocates newFormat s).2 := by
  by_cases dynamic : newFormat = dynamicText
  · left
    rw [dynamic, setDataFormat_dynamic]
    rfl
  · obtain ⟨size, sized, allocated⟩ := takes.resolve_left dynamic
    right
    refine ⟨newFormat, takes, ?_⟩
    rw [setDataFormat_of_sized sized allocated dynamic]

/-- An exception is never without a trace in untouched fields. -/
theorem takesFormat_of_atomicCall {s : FrameFields} (untouched : Untouched allocates s)
    (atomic : AtomicCall allocates newFormat s) : TakesFormat allocates newFormat := by
  by_contra raises
  obtain ⟨refused, mode, format⟩ := setDataFormat_of_not_takes raises s
  have same := atomic.refused refused
  rw [same] at mode format
  rcases untouched with dynamic | ⟨earlier, takes, before⟩
  · rw [dynamic] at mode
    cases mode
  · rw [before] at format
    cases format
    exact raises takes

theorem takesFormat_of_atomicCalls {s : FrameFields} (formats : List (List Char))
    (untouched : Untouched allocates s) (atomic : AtomicCalls allocates s formats) :
    ∀ format ∈ formats, TakesFormat allocates format := by
  induction formats generalizing s with
  | nil =>
      intro format inside
      cases inside
  | cons first later ih =>
      have takes := takesFormat_of_atomicCall untouched atomic.1
      exact List.forall_mem_cons.mpr ⟨takes, ih (untouched_setDataFormat takes s) atomic.2⟩

theorem atomicCalls_of_takes (formats : List (List Char))
    (takes : ∀ format ∈ formats, TakesFormat allocates format) (s : FrameFields) :
    AtomicCalls allocates s formats := by
  induction formats generalizing s with
  | nil => exact trivial
  | cons first later ih =>
      obtain ⟨here, others⟩ := List.forall_mem_cons.mp takes
      exact ⟨atomicCall_of_takes here s, ih others _⟩

theorem atomic_calls_iff (allocates : ℕ → Bool) (formats : List (List Char)) :
    (∀ s, AtomicCalls allocates s formats) ↔
      ∀ format ∈ formats, TakesFormat allocates format := by
  constructor
  · intro atomic
    exact takesFormat_of_atomicCalls formats (Or.inl rfl) (atomic ⟨false, ['<'], -1, none⟩)
  · exact atomicCalls_of_takes formats

/-- A half-typed format: the count of the item is there, its character is not. -/
theorem not_atomic_calls :
    ¬ ∀ (formats : List (List Char)) (s : FrameFields),
      AtomicCalls (fun _ => true) s formats := by
  intro atomic
  have call := (atomic [['1']] ⟨true, ['<', 'c'], 1, some [0]⟩).1
  exact absurd (call.refused (by decide)) (by decide)

end ZumoDelivery
