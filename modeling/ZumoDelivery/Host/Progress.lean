import ZumoDelivery.Host.DynamicMode

set_option autoImplicit false

namespace ZumoDelivery

open PyStruct

/-- The byte behind a count that has not run out is safe: a character of the format is
ASCII, and the terminator finds a format with a size and, if that is the size of the
data, values that the walk of `parseData` over the format can be made from. -/
def SafeByte (s : SerialData) (first : UInt8) (rest : List UInt8) : Prop :=
  if first = 0 then
    ∃ size, calcsize s.dataFormat = some size ∧
      ((size : ℤ) = s.dataNumBytes - 1 → ∀ value,
        unpack s.dataFormat (rest.take size) = some value →
        parseFormat value s.dataFormat 1 [] 0 ≠ none)
  else first < 128

/-- What a pass must find waiting: a length byte that is a count or -1 as a signed
byte, or a safe byte of a message. -/
def SafePass (s : SerialData) : List UInt8 → Prop
  | [] => True
  | first :: rest =>
      (s.dataNumBytes = -1 → first < 128 ∨ first = 255) ∧
      (0 < s.dataNumBytes ∧ s.dataNumBytes ≤ rest.length + 1 → SafeByte s first rest)

/-- The thread runs, its count is in order, and with 127 bytes waiting it takes one. -/
structure Progressing (now : SerialData × List UInt8) : Prop where
  running : now.1.isRun = true
  counted : -1 ≤ now.1.dataNumBytes
  moves : ∀ more, 127 ≤ (now.2 ++ more).length →
    ∃ passes, (serialReader.passes passes (now.1, now.2 ++ more)).2.length <
      (now.2 ++ more).length

/-- The states that safe passes lead to. -/
structure SerialData.Counting (s : SerialData) : Prop extends s.Listening where
  counted : -1 ≤ s.dataNumBytes
  bounded : s.dataNumBytes ≤ 127

variable {s : SerialData}

theorem SerialData.Idle.counting (idle : s.Idle) : s.Counting :=
  have between := idle.between
  ⟨idle.toListening, by omega, by omega⟩

theorem signedLittleEndian_single (first : UInt8) :
    signedLittleEndian [first] =
      if first.toNat < 128 then (first.toNat : ℤ) else first.toNat - 256 := by
  simp only [signedLittleEndian, littleEndian, List.length_singleton, Nat.mul_zero, Nat.add_zero,
    Nat.pow_one]
  split <;> split <;> omega

/-- A length byte is a count, or -1. -/
theorem counted_length_iff (first : UInt8) :
    -1 ≤ signedLittleEndian [first] ↔ first < 128 ∨ first = 255 := by
  have below := first.toNat_lt
  rw [signedLittleEndian_single, UInt8.lt_iff_toNat_lt, ← UInt8.toNat_inj]
  change _ ↔ first.toNat < 128 ∨ first.toNat = 255
  split <;> omega

/-- A message byte is safe exactly if the thread survives it. -/
theorem isRun_readFormatByte_iff (running : s.isRun = true) (first : UInt8)
    (rest : List UInt8) :
    (readFormatByte first s rest).1.isRun = true ↔ SafeByte s first rest := by
  unfold SafeByte readFormatByte
  by_cases zero : first = 0
  · simp only [zero, ne_eq, not_true_eq_false, ↓reduceIte]
    cases sized : calcsize s.dataFormat with
    | none => simp [connectionLost]
    | some size =>
        by_cases same : (size : ℤ) = s.dataNumBytes - 1
        · cases unpacked : unpack s.dataFormat (rest.take size) with
          | none => simp [same, parseData, unpacked, resetFrame, running]
          | some value =>
              cases walked : parseFormat value s.dataFormat 1 [] 0 with
              | none => simp [same, parseData, unpacked, walked, connectionLost]
              | some data => simp [same, parseData, unpacked, walked, resetFrame, running]
        · simp [same, resetFrame, running]
  · by_cases ascii : first < 128
    · simp only [zero, ascii, ne_eq, not_false_eq_true, decodeAscii_single ascii, ↓reduceIte,
        iff_true]
      split
      · exact running
      · exact running
    · simp only [zero, ascii, ne_eq, not_false_eq_true, decodeAscii_single_of_ge ascii,
        ↓reduceIte, iff_false]
      exact Bool.false_ne_true

theorem calls_of_parseData {after : SerialData} (done : parseData s = some after) :
    ∃ calls, after = { s with calls } := by
  unfold parseData at done
  cases unpacked : unpack s.dataFormat s.rawData with
  | none =>
      rw [unpacked] at done
      cases done
      exact ⟨s.calls, rfl⟩
  | some value =>
      simp only [unpacked, Option.bind_eq_bind] at done
      obtain ⟨data, -, ended⟩ := Option.bind_eq_some_iff.mp done
      cases ended
      exact ⟨_, rfl⟩

/-- A thread that survives a byte counts down, or starts anew. -/
theorem counting_readFormatByte (counting : s.Counting) (some : 0 < s.dataNumBytes)
    (first : UInt8) (rest : List UInt8)
    (running : (readFormatByte first s rest).1.isRun = true) :
    (readFormatByte first s rest).1.Counting := by
  have bounded := counting.bounded
  have next : ∀ after : SerialData, after.isRun = true → after.portOpen = s.portOpen →
      after.definedDataMode = s.definedDataMode →
      after.dataNumBytes = s.dataNumBytes - 1 ∨ after.dataNumBytes = -1 → after.Counting := by
    intro after running opened dynamic count
    exact {
      running
      opened := by rw [opened, counting.opened]
      dynamic := by rw [dynamic, counting.dynamic]
      counted := by omega
      bounded := by omega }
  revert running
  unfold readFormatByte
  dsimp only
  split
  · split
    · intro lost
      cases lost
    · split
      · exact fun running => next _ running rfl rfl (Or.inl rfl)
      · exact fun running => next _ running rfl rfl (Or.inr rfl)
  · split
    · intro lost
      cases lost
    · split
      · split
        · intro lost
          cases lost
        · rename_i parsed
          obtain ⟨calls, rfl⟩ := calls_of_parseData parsed
          exact fun running => next _ running rfl rfl (Or.inr rfl)
      · exact fun running => next _ running rfl rfl (Or.inr rfl)

/-- One pass is safe exactly if the count is in order behind it. -/
theorem counting_pass_iff (counting : s.Counting) (inWaiting : List UInt8) :
    SafePass s inWaiting ↔
      (serialReader.pass (s, inWaiting)).1.isRun = true ∧
        -1 ≤ (serialReader.pass (s, inWaiting)).1.dataNumBytes := by
  cases step : serialReader.step s inWaiting with
  | none =>
      rw [StreamReader.pass_of_none step]
      simp only [counting.running, counting.counted, and_self, iff_true]
      cases inWaiting with
      | nil => trivial
      | cons first rest =>
          constructor
          · intro between
            have pass := ThreadPass.length first rest counting.running counting.dynamic between
            exact absurd (step.symm.trans pass.eq) nofun
          · rintro ⟨some, waiting⟩
            have pass := ThreadPass.byte first rest counting.running counting.dynamic some waiting
            exact absurd (step.symm.trans pass.eq) nofun
  | some next =>
      rw [StreamReader.pass_of_step step]
      have pass := threadPass_of_eq step
      cases pass with
      | defined running defined some waiting =>
          rw [counting.dynamic] at defined
          cases defined
      | length first rest running dynamic between =>
          simp only [SafePass, between, running, counted_length_iff, true_and, forall_const,
            and_iff_left_iff_imp]
          intro _ counting
          omega
      | byte first rest running dynamic some waiting =>
          have survives := isRun_readFormatByte_iff running first rest
          have started : s.dataNumBytes ≠ -1 := by omega
          simp only [SafePass, started, some, waiting, false_implies, true_and, and_self,
            forall_const]
          rw [← survives]
          constructor
          · intro runs
            exact ⟨runs, (counting_readFormatByte counting some first rest runs).counted⟩
          · exact And.left
      | zero running zero =>
          simp only [running, Int.le_refl, and_self, iff_true]
          cases inWaiting with
          | nil => trivial
          | cons first rest =>
              simp only [SafePass, zero]
              constructor
              · intro between
                omega
              · intro counting
                omega

theorem counting_pass (counting : s.Counting) {inWaiting : List UInt8}
    (safe : SafePass s inWaiting) : (serialReader.pass (s, inWaiting)).1.Counting := by
  obtain ⟨runs, counted⟩ := (counting_pass_iff counting inWaiting).mp safe
  cases step : serialReader.step s inWaiting with
  | none =>
      rw [StreamReader.pass_of_none step]
      exact counting
  | some next =>
      rw [StreamReader.pass_of_step step] at runs counted ⊢
      have pass := threadPass_of_eq step
      cases pass with
      | defined running defined some waiting =>
          rw [counting.dynamic] at defined
          cases defined
      | length first rest running dynamic between =>
          have below := first.toNat_lt
          refine ⟨⟨running, counting.opened, dynamic⟩, counted, ?_⟩
          change signedLittleEndian [first] ≤ 127
          rw [signedLittleEndian_single]
          split <;> omega
      | byte first rest running dynamic some waiting =>
          exact counting_readFormatByte counting some first rest runs
      | zero running zero =>
          exact ⟨⟨running, counting.opened, counting.dynamic⟩, counted,
            show (-1 : ℤ) ≤ 127 by decide⟩

theorem SerialData.Counting.moves (counting : s.Counting) (inWaiting : List UInt8)
    (enough : 127 ≤ inWaiting.length) :
    ∃ passes, (serialReader.passes passes (s, inWaiting)).2.length < inWaiting.length := by
  have counted := counting.counted
  have bounded := counting.bounded
  cases inWaiting with
  | nil => simp at enough
  | cons first rest =>
      rw [List.length_cons] at enough ⊢
      have takes : ∀ state : SerialData, state.Counting → state.dataNumBytes ≠ 0 →
          (serialReader.pass (state, first :: rest)).2.length < rest.length + 1 := by
        intro state counting started
        have bounded := counting.bounded
        have counted := counting.counted
        by_cases between : state.dataNumBytes = -1
        · have pass := ThreadPass.length first rest counting.running counting.dynamic between
          have moved : serialReader.pass (state, first :: rest) = _ :=
            StreamReader.pass_of_step pass.eq
          rw [moved]
          exact Nat.lt_succ_self _
        · have pass := ThreadPass.byte first rest counting.running counting.dynamic
            (by omega) (by omega)
          have moved : serialReader.pass (state, first :: rest) = _ :=
            StreamReader.pass_of_step pass.eq
          rw [moved]
          exact Nat.lt_succ_of_le (length_readFormatByte_le first state rest)
      by_cases zero : s.dataNumBytes = 0
      · have reset : serialReader.pass (s, first :: rest) =
            ({ s with dataNumBytes := -1 }, first :: rest) :=
          StreamReader.pass_of_step (ThreadPass.zero counting.running zero).eq
        refine ⟨2, ?_⟩
        rw [StreamReader.passes, reset]
        exact takes _ ⟨⟨counting.running, counting.opened, counting.dynamic⟩, Int.le_refl _,
          show (-1 : ℤ) ≤ 127 by decide⟩ (show (-1 : ℤ) ≠ 0 by decide)
      · exact ⟨1, takes s counting zero⟩

theorem SerialData.Counting.progressing (counting : s.Counting) (inWaiting : List UInt8) :
    Progressing (s, inWaiting) :=
  ⟨counting.running, counting.counted, fun more => counting.moves (inWaiting ++ more)⟩

/-- The thread after some passes, before each of which some bytes arrive. -/
def readerAt (s : SerialData) (arrivals : ℕ → List UInt8) : ℕ → SerialData × List UInt8
  | 0 => (s, [])
  | time + 1 =>
      serialReader.pass
        ((readerAt s arrivals time).1, (readerAt s arrivals time).2 ++ arrivals time)

/-- Every state of a run makes progress exactly if every pass of it is safe. -/
theorem progressing_iff (s : SerialData) (idle : s.Idle) (arrivals : ℕ → List UInt8) :
    (∀ time, Progressing (readerAt s arrivals time)) ↔
      ∀ time, SafePass (readerAt s arrivals time).1
        ((readerAt s arrivals time).2 ++ arrivals time) := by
  constructor
  · intro progressing
    suffices both : ∀ time, (readerAt s arrivals time).1.Counting ∧
        SafePass (readerAt s arrivals time).1
          ((readerAt s arrivals time).2 ++ arrivals time) from
      fun time => (both time).2
    have safe : ∀ time, (readerAt s arrivals time).1.Counting →
        SafePass (readerAt s arrivals time).1
          ((readerAt s arrivals time).2 ++ arrivals time) := by
      intro time counting
      rw [counting_pass_iff counting]
      exact ⟨(progressing (time + 1)).running, (progressing (time + 1)).counted⟩
    intro time
    induction time with
    | zero => exact ⟨idle.counting, safe 0 idle.counting⟩
    | succ time ih =>
        have counting : (readerAt s arrivals (time + 1)).1.Counting := counting_pass ih.1 ih.2
        exact ⟨counting, safe (time + 1) counting⟩
  · intro safe time
    have counting : (readerAt s arrivals time).1.Counting := by
      induction time with
      | zero => exact idle.counting
      | succ time ih => exact counting_pass ih (safe time)
    exact counting.progressing _

/-- A whole message with a 'c', a byte at a time. -/
theorem progressing_iff_message :
    (∀ time, Progressing (readerAt dynamicStart (fun time => [3, 99, 0, 65].drop time |>.take 1)
        time)) ↔
      ∀ time, SafePass
        (readerAt dynamicStart (fun time => [3, 99, 0, 65].drop time |>.take 1) time).1
        ((readerAt dynamicStart (fun time => [3, 99, 0, 65].drop time |>.take 1) time).2 ++
          ([3, 99, 0, 65].drop time |>.take 1)) :=
  progressing_iff dynamicStart idle_dynamicStart _

theorem sleeps_negative (below : s.dataNumBytes < -1) (inWaiting : List UInt8) :
    serialReader.step s inWaiting = none := by
  cases step : serialReader.step s inWaiting with
  | none => rfl
  | some next =>
      cases threadPass_of_eq step with
      | defined running defined some waiting => omega
      | length first rest running dynamic between => omega
      | byte first rest running dynamic some waiting => omega
      | zero running zero => omega

/-- The length byte 200 is -56, and the thread sleeps for ever. -/
theorem not_progressing :
    ¬ ∀ (s : SerialData), s.Idle → ∀ (arrivals : ℕ → List UInt8) (time : ℕ),
      Progressing (readerAt s arrivals time) := by
  intro progressing
  have stuck := (progressing dynamicStart idle_dynamicStart (fun _ => [200]) 1).moves
  have count : readerAt dynamicStart (fun _ => [200]) 1 =
      ({ dynamicStart with dataNumBytes := -56 }, []) := by decide
  rw [count] at stuck
  obtain ⟨passes, moved⟩ := stuck (List.replicate 127 0) (by simp)
  have sleeps : serialReader.step { dynamicStart with dataNumBytes := -56 }
      (List.replicate 127 0) = none := sleeps_negative (show (-56 : ℤ) < -1 by decide) _
  rw [List.nil_append, StreamReader.passes_of_none sleeps] at moved
  exact Nat.lt_irrefl _ moved

end ZumoDelivery
