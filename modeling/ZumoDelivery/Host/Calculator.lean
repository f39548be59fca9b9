import ZumoDelivery.Application.Reception
import ZumoDelivery.Lib.Binary32Rounding
import ZumoDelivery.Host.Telemetry

set_option autoImplicit false

namespace ZumoDelivery

open PyStruct FloatArith Binary32

def reportLetters : List Char := ['t', 'T', 'f', 'e', 'E', 'b', 'B', 'q', 'Q', 'i', 'I', '!']

section letters

variable {F : Type} [FloatArith F]

theorem letter_report (once : Bool) (report : Report) :
    Report.letter once report ∈ reportLetters := by
  cases report <;> cases once <;> decide

/-- The other statements send under letters of their own. -/
theorem letter_outgoing (env : Env) (s : State F) (stage : Stage)
    (notTask : stage ≠ .messageHandling) :
    ∀ message ∈ stage.outgoing env s, ∃ letter ∈ reportLetters,
      message.cmd = Ascii.ofChar letter := by
  have when {due : Bool} {reply : UsbMessage} (letter : Char) (own : letter ∈ reportLetters)
      (cmd : reply.cmd = Ascii.ofChar letter) :
      ∀ message ∈ (if due then some reply else none), ∃ letter ∈ reportLetters,
        message.cmd = Ascii.ofChar letter := by
    intro message member
    cases due with
    | true =>
        cases member
        exact ⟨letter, own, cmd⟩
    | false => cases member
  have choice (c : Bool) {first second : Char} (left : first ∈ reportLetters)
      (right : second ∈ reportLetters) : (if c then first else second) ∈ reportLetters := by
    cases c
    · exact right
    · exact left
  cases stage with
  | messageHandling => exact absurd rfl notTask
  | sendTime => exact when _ (letter_report _ .time) rfl
  | sendEncoder => exact when _ (letter_report _ .encoder) rfl
  | sendBattery => exact when _ (letter_report _ .battery) rfl
  | sysData => exact when _ (letter_report _ .system) rfl
  | timeFloatSend =>
      unfold Stage.outgoing
      dsimp only
      repeat' split
      · intro message member
        cases member
        exact ⟨'f', by decide, rfl⟩
      · intro message member
        cases member
        exact ⟨_, choice _ (by decide) (by decide), rfl⟩
      all_goals
        intro message member
        cases member
  | loopTimer => exact when _ (choice _ (by decide) (by decide)) rfl
  | lowBattery => exact when '!' (by decide) rfl
  | irProximity => exact when _ (choice _ (by decide) (by decide)) rfl
  | _ =>
      intro message member
      cases member

/-- No message of the selection is sent outside the message task. -/
def Answering (select : UInt8 → Bool) : Prop :=
  ∀ letter ∈ reportLetters, select (Ascii.ofChar letter) = false

variable {select : UInt8 → Bool}

theorem answering_of_all
    (others : reportLetters.all (fun letter => !select (Ascii.ofChar letter)) = true) :
    Answering select := by
  intro letter report
  have other := List.all_eq_true.mp others letter report
  simpa only [Bool.not_eq_true'] using other

theorem filter_sentAt (env : Env) (time : ℕ) (own : Answering select)
    (notTask : stageAt time ≠ some .messageHandling) :
    (sentAt F env time).toList.filter (fun message => select message.cmd) = [] := by
  rw [List.filter_eq_nil_iff]
  intro message member
  obtain ⟨stage, here, outgoing⟩ := Option.bind_eq_some_iff.mp (Option.mem_toList.mp member)
  have other : stage ≠ .messageHandling := by
    rintro rfl
    exact notTask here
  obtain ⟨letter, inside, cmd⟩ := letter_outgoing env _ stage other message outgoing
  rw [cmd, own letter inside]
  exact Bool.false_ne_true

theorem filter_outbox (env : Env) (own : Answering select) {first last : ℕ}
    (ordered : first ≤ last)
    (notTask : ∀ time, first ≤ time → time < last → stageAt time ≠ some .messageHandling) :
    (outbox F env last).filter (fun message => select message.cmd) =
      (outbox F env first).filter (fun message => select message.cmd) := by
  induction ordered with
  | refl => rfl
  | @step last ordered ih =>
      rw [outbox_succ, List.filter_append,
        filter_sentAt env last own (notTask last ordered (Nat.lt_succ_self last)),
        List.append_nil]
      exact ih fun time lower upper => notTask time lower (Nat.lt_succ_of_lt upper)

theorem sentAt_task (env : Env) (n : ℕ) :
    sentAt F env (17 * n + 1) = taskAnswer env (deviceTrace (F := F) env (17 * n + 1)) := by
  have here : stageAt (17 * n + 1) = some .messageHandling := stageAt_iteration n 1 (by decide)
  rw [sentAt, here, Option.bind_some]
  rfl

theorem filter_taskAnswer (env : Env) (s : State F)
    (known : ∀ command, select command = true → messageSize command ≠ 0) :
    (taskAnswer env s).toList.filter (fun message => select message.cmd) =
      ((messageHandlingTask env s).2.bind (answer s)).toList.filter
        fun message => select message.cmd := by
  cases stored : s.usb.received with
  | nil =>
      rw [task_of_nil env s stored, taskAnswer]
      simp only [stored, Option.bind_none]
  | cons command rest =>
      rw [taskAnswer]
      simp only [stored]
      split
      · rename_i unknown
        have unselected : select command = false := by
          rw [← Bool.not_eq_true]
          exact fun selected => known command selected unknown
        rw [task_of_unknown env s command rest stored unknown]
        exact List.filter_cons_of_neg (by
          rw [show (badInput command).cmd = command from rfl, unselected]
          exact Bool.false_ne_true)
      · rfl

theorem filter_outbox_iteration (env : Env) (n : ℕ) (own : Answering select)
    (known : ∀ command, select command = true → messageSize command ≠ 0) :
    (outbox F env (17 * (n + 1))).filter (fun message => select message.cmd) =
      (outbox F env (17 * n)).filter (fun message => select message.cmd) ++
        ((messageHandlingTask env (deviceTrace (F := F) env (17 * n + 1))).2.bind
          (answer (deviceTrace (F := F) env (17 * n + 1)))).toList.filter
            fun message => select message.cmd := by
  have elsewhere (offset : ℕ) (inside : offset < 17) (other : offset ≠ 1) :
      stageAt (17 * n + offset) ≠ some .messageHandling := by
    have quiet : ∀ offset, (inside : offset < loopBody.length) → offset ≠ 1 →
        loopBody[offset] ≠ .messageHandling := by decide
    rw [stageAt_iteration n offset inside]
    exact fun same => quiet offset inside other (Option.some.inj same)
  have before : (outbox F env (17 * n + 1)).filter (fun message => select message.cmd) =
      (outbox F env (17 * n)).filter (fun message => select message.cmd) := by
    apply filter_outbox env own (Nat.le_succ _)
    intro time lower upper
    obtain rfl : time = 17 * n := by omega
    exact elsewhere 0 (by decide) (by decide)
  have after : (outbox F env (17 * (n + 1))).filter (fun message => select message.cmd) =
      (outbox F env (17 * n + 2)).filter (fun message => select message.cmd) := by
    apply filter_outbox env own (by omega)
    intro time lower upper
    obtain ⟨offset, rfl⟩ := Nat.exists_eq_add_of_le (show 17 * n ≤ time by omega)
    exact elsewhere offset (by omega) (by omega)
  rw [after, outbox_succ, List.filter_append, before, sentAt_task, filter_taskAnswer env _ known]

end letters

def isCalculation (command : UInt8) : Bool :=
  Ascii.toChar command ∈ ['*', '/', '+', '-']

/-- The exact result, `none` for a division by 0. -/
def exactResult (command : UInt8) (first second : ℚ) : Option ℚ :=
  match Ascii.toChar command with
  | '*' => some (first * second)
  | '/' => if second = 0 then none else some (first / second)
  | '+' => some (first + second)
  | _ => some (first - second)

def finiteAt (data : List UInt8) (offset : ℕ) : Prop :=
  (byteAt data (offset + 3)).toNat % 128 * 2 + (byteAt data (offset + 2)).toNat / 128 < 255

/-- A `float` that is the correctly rounded result. -/
structure CorrectResult (raw : List UInt8) (result : ℚ) : Prop where
  length : raw.length = 4
  nearest : InRange result → floatAt raw 0 = rounded result
  error : InRange result → 2 ^ (-126 : ℤ) ≤ |result| →
    |floatAt raw 0 - result| ≤ |result| * 2 ^ (-24 : ℤ)
  exact : InRange result → Representable result → floatAt raw 0 = result

/-- What the host reads in a reply to a calculation. -/
def CalculatedBy (message : Dispatch) (reply : UsbMessage) : Prop :=
  finiteAt message.payload 0 → finiteAt message.payload 4 →
    match exactResult message.command (floatAt message.payload 0) (floatAt message.payload 4) with
    | none => reply.values = [.str [Ascii.toChar message.command], .str ['?']]
    | some result => ∃ raw,
        reply.values = [.str [Ascii.toChar message.command], .float raw] ∧
          CorrectResult raw result

theorem correctResult_floatBytes (result : ℚ) : CorrectResult (floatBytes result) result := by
  have back (inRange : InRange result) : floatAt (floatBytes result) 0 = rounded result :=
    decode_encode inRange
  refine ⟨length_floatBytes result, back, ?_, ?_⟩
  · intro inRange normal
    rw [back inRange]
    exact abs_rounded_sub_le_mul normal
  · intro inRange representable
    rw [back inRange]
    exact rounded_of_representable representable

theorem values_result (command : UInt8) (result : ℚ) :
    (report command [] 1 (floatBytes result)).values =
      [.str [Ascii.toChar command], .float (floatBytes result)] := by
  have whole : (floatBytes result).take 4 = floatBytes result :=
    List.take_of_length_le (by rw [length_floatBytes])
  change [PyVal.str [Ascii.toChar command], PyVal.float ((floatBytes result).take 4)] = _
  rw [whole]

theorem calculated_result (message : Dispatch) {result : ℚ}
    (value : exactResult message.command (floatAt message.payload 0)
      (floatAt message.payload 4) = some result) :
    CalculatedBy message (report message.command [] 1 (floatBytes result)) := by
  intro finite0 finite4
  rw [value]
  exact ⟨_, values_result message.command result, correctResult_floatBytes result⟩

theorem calculatedBy_answer (s : State ℚ) (message : Dispatch)
    (calculation : isCalculation message.command = true) :
    ∃ reply, answer s message = some reply ∧ reply.cmd = message.command ∧
      CalculatedBy message reply := by
  have letters : Ascii.toChar message.command ∈ ['*', '/', '+', '-'] :=
    of_decide_eq_true calculation
  simp only [List.mem_cons, List.not_mem_nil, or_false] at letters
  rcases letters with times | quotient | plus | minus
  · refine ⟨_, by simp only [answer, times]; rfl, rfl, ?_⟩
    exact calculated_result message (by simp only [exactResult, times])
  · have zero : (!(le (floatAt message.payload 4 : ℚ) (lit 0) &&
        le (lit 0) (floatAt message.payload 4 : ℚ))) = true ↔
        (floatAt message.payload 4 : ℚ) ≠ 0 := by
      rw [Bool.not_eq_true', Bool.and_eq_false_iff, ← Bool.not_eq_true, ← Bool.not_eq_true,
        le_iff, le_iff, lit_eq, ← not_and_or, ← le_antisymm_iff]
    by_cases divides : (floatAt message.payload 4 : ℚ) = 0
    · refine ⟨badInput message.command, ?_, rfl, ?_⟩
      · simp only [answer, quotient]
        rw [if_neg (fun nonzero => zero.mp nonzero divides)]
      · intro finite0 finite4
        have values : (badInput message.command).values =
            [.str [Ascii.toChar message.command], .str ['?']] := rfl
        simp only [exactResult, quotient, divides, ↓reduceIte, values]
    · refine ⟨_, ?_, rfl, calculated_result message (by
        simp only [exactResult, quotient, divides, ↓reduceIte]
        rfl)⟩
      simp only [answer, quotient]
      rw [if_pos (zero.mpr divides)]
  · refine ⟨_, by simp only [answer, plus]; rfl, rfl, ?_⟩
    exact calculated_result message (by simp only [exactResult, plus])
  · refine ⟨_, by simp only [answer, minus]; rfl, rfl, ?_⟩
    exact calculated_result message (by simp only [exactResult, minus]; rfl)

/-- A message is answered under its own letter or with a notice. -/
theorem cmd_answer (s : State ℚ) (message : Dispatch) :
    ∀ reply ∈ answer s message, reply.cmd = message.command ∨ reply.cmd = Ascii.ofChar '!' := by
  have pwm (volts : ℚ) : (pwmNotice volts).cmd = Ascii.ofChar '!' := by
    unfold pwmNotice
    split <;> rfl
  have drive (volts : ℚ) : (driveNotice volts).cmd = Ascii.ofChar '!' := by
    unfold driveNotice
    split <;> rfl
  unfold answer
  dsimp only
  split
  all_goals repeat' split
  all_goals intro reply member
  all_goals cases member
  all_goals first
    | exact Or.inl rfl
    | exact Or.inr (pwm _)
    | exact Or.inr (drive _)

theorem known_of_isCalculation (command : UInt8) (calculation : isCalculation command = true) :
    messageSize command ≠ 0 := by
  have letters : Ascii.toChar command ∈ ['*', '/', '+', '-'] := of_decide_eq_true calculation
  simp only [List.mem_cons, List.not_mem_nil, or_false] at letters
  rcases letters with char | char | char | char
  all_goals
    simp only [messageSize, messageLen, char]
    decide

/-- The replies to calculations are the results of the calculations, in order and each
once, whatever else the device does. -/
theorem calculations_answered (env : Env) (n : ℕ) :
    List.Forall₂ CalculatedBy
      ((dispatchedBefore ℚ env n).filter fun message => isCalculation message.command)
      ((outbox ℚ env (17 * n)).filter fun message => isCalculation message.cmd) := by
  have own : Answering isCalculation := answering_of_all rfl
  induction n with
  | zero => exact List.Forall₂.nil
  | succ n ih =>
      rw [filter_outbox_iteration env n own known_of_isCalculation, dispatchedBefore,
        List.filter_append]
      refine List.rel_append ih ?_
      cases (messageHandlingTask env (deviceTrace (F := ℚ) env (17 * n + 1))).2 with
      | none => exact List.Forall₂.nil
      | some message =>
          generalize deviceTrace (F := ℚ) env (17 * n + 1) = s
          cases calculation : isCalculation message.command with
          | true =>
              obtain ⟨reply, answered, cmd, calculated⟩ :=
                calculatedBy_answer s message calculation
              have selected : isCalculation reply.cmd = true := cmd ▸ calculation
              simpa [answered, calculation, selected] using calculated
          | false =>
              have silent : (answer s message).toList.filter
                  (fun message => isCalculation message.cmd) = [] := by
                rw [List.filter_eq_nil_iff]
                intro reply member
                rcases cmd_answer s message reply (Option.mem_toList.mp member) with same | notice
                · rw [same, calculation]
                  exact Bool.false_ne_true
                · rw [notice]
                  decide
              simp [silent, calculation]

end ZumoDelivery
