import ZumoDelivery.Driver.MotorDuty
import ZumoDelivery.Application.Requests
import ZumoDelivery.Host.Decoding

set_option autoImplicit false

namespace ZumoDelivery

open FloatArith PyStruct

theorem signedLittleEndian_intBytes (value : Int16) :
    signedLittleEndian (intBytes value) = value.toInt := by
  have bound := value.toUInt16.toNat_lt
  have joined : littleEndian (intBytes value) = value.toUInt16.toNat := by
    have low : value.toUInt16.toUInt8.toNat = value.toUInt16.toNat % 256 :=
      UInt16.toNat_toUInt8 _
    have high : (value.toUInt16 >>> 8).toUInt8.toNat = value.toUInt16.toNat / 256 := by
      rw [UInt16.toNat_toUInt8, UInt16.toNat_shiftRight]
      change value.toUInt16.toNat >>> 8 % 256 = _
      rw [Nat.shiftRight_eq_div_pow]
      omega
    rw [intBytes, littleEndian, littleEndian, littleEndian, low, high]
    omega
  have signed : value.toInt =
      if 2 * value.toUInt16.toNat < 2 ^ 16 then (value.toUInt16.toNat : ℤ)
      else value.toUInt16.toNat - (2 ^ 16 : ℕ) :=
    BitVec.toInt_eq_toNat_cond value.toBitVec
  have two : (intBytes value).length = 2 := rfl
  rw [signedLittleEndian, joined, signed, two]
  split <;> split <;> omega

/-- The counts that a 16-bit number can carry. -/
def Narrow (counts : Int32) : Prop := -32768 ≤ counts.toInt ∧ counts.toInt ≤ 32767

instance (counts : Int32) : Decidable (Narrow counts) := inferInstanceAs (Decidable (_ ∧ _))

theorem toInt_toInt16_iff (counts : Int32) :
    counts.toInt16.toInt = counts.toInt ↔ Narrow counts := by
  rw [Int32.toInt_toInt16, Narrow]
  constructor
  · intro same
    have lower := Int.le_bmod (x := counts.toInt) (m := 2 ^ 16) (by decide)
    have upper := Int.bmod_lt (x := counts.toInt) (m := 2 ^ 16) (by decide)
    omega
  · rintro ⟨lower, upper⟩
    exact Int.bmod_eq_of_le (by omega) (by omega)

def systemFormat : List Char := ['c', 'f', 'h', 'h', 'h', 'h']

def systemLetter (s : State ℚ) : Char :=
  if le s.flags.mfSysData.duration (lit 0) then 'q' else 'Q'

/-- The message that the handler sends, from what it reads. -/
def systemReport (env : Env) (s : State ℚ) : UsbMessage :=
  ⟨systemFormat, Ascii.ofChar (systemLetter s),
    floatBytes ((getTime env s.looked).1.seconds : ℚ) ++ intBytes (getMotorPwmLeft ℚ s.motors) ++
      intBytes (getMotorPwmRight ℚ s.motors) ++
      intBytes (sysDataHandler env s).encoders.leftCounts.toInt16 ++
      intBytes (sysDataHandler env s).encoders.rightCounts.toInt16⟩

theorem encoders_sysDataHandler {env : Env} {s : State ℚ}
    (due : s.flags.mfSysData.due env s = true) :
    (sysDataHandler env s).encoders = countedAt env (s.looks + 2) s.encoders := by
  have execution := Execution.sysDataHandler due
  generalize sysDataHandler env s = after at execution ⊢
  cases execution with
  | systemOnce | systemAgain => rfl

theorem systemReport_eq {env : Env} {s : State ℚ} (due : s.flags.mfSysData.due env s = true) :
    systemReport env s = Report.system.message env s := by
  have letter : systemLetter s =
      Report.letter (Report.system.once s.flags.mfSysData.duration) .system := by
    change systemLetter s = Report.letter (le s.flags.mfSysData.duration (lit 0)) .system
    rw [systemLetter]
    cases le s.flags.mfSysData.duration (lit 0) <;> rfl
  rw [systemReport, encoders_sysDataHandler due, letter]
  rfl

theorem usb_sysDataHandler (env : Env) (s : State ℚ) (due : s.flags.mfSysData.due env s = true) :
    (sysDataHandler env s).usb = (systemReport env s).send s.usb := by
  rw [systemReport_eq due]
  exact (Report.system.usb_run env s).trans (if_pos due)

theorem fieldValues_append {code : Char} {own : List UInt8} (sized : own.length = fieldSize code)
    (format : List Char) (rest : List UInt8) :
    fieldValues (code :: format) (own ++ rest) =
      fieldValue code own :: fieldValues format rest := by
  rw [fieldValues, ← sized, List.take_left, List.drop_left]

theorem asciiFields_append {code : Char} {own : List UInt8} (sized : own.length = fieldSize code)
    (format : List Char) (rest : List UInt8) :
    asciiFields (code :: format) (own ++ rest) =
      ((code ≠ 'c' || own.all (· < 128)) && asciiFields format rest) := by
  rw [asciiFields, ← sized, List.take_left, List.drop_left]

theorem parsed_systemFormat (letter : Char) (ascii : Ascii.ofChar letter < 128)
    (same : Ascii.toChar (Ascii.ofChar letter) = letter) (time : ℚ) (a b c d : Int16) :
    parsed systemFormat (Ascii.ofChar letter ::
        (floatBytes time ++ intBytes a ++ intBytes b ++ intBytes c ++ intBytes d)) =
      some [.str [letter], .float (floatBytes time), .int a.toInt, .int b.toInt, .int c.toInt,
        .int d.toInt] := by
  have float : (floatBytes time).length = fieldSize 'f' := length_floatBytes time
  have short (value : Int16) : (intBytes value).length = fieldSize 'h' := rfl
  have bytes : Ascii.ofChar letter ::
        (floatBytes time ++ intBytes a ++ intBytes b ++ intBytes c ++ intBytes d) =
      [Ascii.ofChar letter] ++ (floatBytes time ++ (intBytes a ++ (intBytes b ++ (intBytes c ++
        (intBytes d ++ []))))) := by
    simp
  rw [bytes, parsed_plain (by decide) (by decide)]
  · rw [systemFormat, fieldValues_append rfl, fieldValues_append float,
      fieldValues_append (short a), fieldValues_append (short b), fieldValues_append (short c),
      fieldValues_append (short d)]
    simp [fieldValues, fieldValue, signedLittleEndian_intBytes, same]
  · simp only [totalFieldSize, systemFormat, List.map_cons, List.map_nil, List.sum_cons,
      List.sum_nil, List.length_append, List.length_singleton, List.length_nil, float, short]
    rfl
  · rw [systemFormat, asciiFields_append rfl, asciiFields_append float,
      asciiFields_append (short a), asciiFields_append (short b), asciiFields_append (short c),
      asciiFields_append (short d)]
    simp [asciiFields, ascii]

/-- The report shows the duties and the counts as they are. -/
structure SystemReported (env : Env) (s : State ℚ) (left right : Int16)
    (leftCounts rightCounts : Int32) : Prop where
  sent : (sysDataHandler env s).usb = (systemReport env s).send s.usb
  format : (systemReport env s).format = systemFormat
  decoded : ∃ letter time, (letter = 'q' ∨ letter = 'Q') ∧
    parsed systemFormat ((systemReport env s).cmd :: (systemReport env s).data) =
      some [.str [letter], .float time, .int (limitedDuty left), .int (limitedDuty right),
        .int leftCounts.toInt, .int rightCounts.toInt]

theorem systemLetter_cases (s : State ℚ) : systemLetter s = 'q' ∨ systemLetter s = 'Q' := by
  unfold systemLetter
  split
  · exact Or.inl rfl
  · exact Or.inr rfl

theorem parsed_systemReport (env : Env) (s : State ℚ) :
    parsed systemFormat ((systemReport env s).cmd :: (systemReport env s).data) =
      some [.str [systemLetter s], .float (floatBytes ((getTime env s.looked).1.seconds : ℚ)),
        .int (getMotorPwmLeft ℚ s.motors).toInt, .int (getMotorPwmRight ℚ s.motors).toInt,
        .int (sysDataHandler env s).encoders.leftCounts.toInt16.toInt,
        .int (sysDataHandler env s).encoders.rightCounts.toInt16.toInt] := by
  have letter : Ascii.ofChar (systemLetter s) < 128 ∧
      Ascii.toChar (Ascii.ofChar (systemLetter s)) = systemLetter s := by
    rcases systemLetter_cases s with h | h
    all_goals
      rw [h]
      decide
  exact parsed_systemFormat _ letter.1 letter.2 _ _ _ _ _

theorem system_report_iff (env : Env) (s : State ℚ) (calls : List MotorCall)
    (left right : Int16) (leftCounts rightCounts : Int32)
    (due : s.flags.mfSysData.due env s = true) (motors : s.motors = motorRun calls)
    (lastLeft : lastDuty MotorCall.leftDuty calls = some left)
    (lastRight : lastDuty MotorCall.rightDuty calls = some right)
    (counts : (sysDataHandler env s).encoders = ⟨leftCounts, rightCounts⟩) :
    SystemReported env s left right leftCounts rightCounts ↔
      (0 ≤ left ∧ 0 ≤ right) ∧ Narrow leftCounts ∧ Narrow rightCounts := by
  have set := motorSet_motorRun calls
  have shown := parsed_systemReport env s
  rw [counts, getMotorPwmLeft, getMotorPwmRight, motors, set.top, set.left left lastLeft,
    set.right right lastRight] at shown
  rw [← getMotorPwm_compareOf_iff left, ← getMotorPwm_compareOf_iff right,
    ← toInt_toInt16_iff leftCounts, ← toInt_toInt16_iff rightCounts]
  constructor
  · rintro ⟨-, -, letter, time, -, decoded⟩
    rw [shown] at decoded
    simp only [Option.some.injEq, List.cons.injEq, PyVal.int.injEq, and_true] at decoded
    obtain ⟨-, -, leftDuty, rightDuty, leftCount, rightCount⟩ := decoded
    exact ⟨⟨leftDuty, rightDuty⟩, leftCount, rightCount⟩
  · rintro ⟨⟨leftDuty, rightDuty⟩, leftCount, rightCount⟩
    dsimp only at shown
    rw [leftDuty, rightDuty, leftCount, rightCount] at shown
    exact ⟨usb_sysDataHandler env s due, rfl, _, _, systemLetter_cases s, shown⟩

def benchRobot (calls : List MotorCall) (encoders : Encoders) : State ℚ :=
  { mainInit (F := ℚ) (Env.bench [] id) with
    flags.mfSysData := ⟨true, -1, ⟨0, 0⟩⟩
    motors := motorRun calls
    encoders := encoders }

theorem system_report_iff_forward :
    SystemReported (Env.bench [] id)
        (benchRobot [.left (-20), .right 30, .left 120, .enable true] ⟨1500, -40⟩)
        120 30 1500 (-40) ↔
      ((0 : Int16) ≤ 120 ∧ (0 : Int16) ≤ 30) ∧ Narrow 1500 ∧ Narrow (-40) :=
  system_report_iff _ _ [.left (-20), .right 30, .left 120, .enable true] _ _ _ _
    (by decide +kernel) rfl (by decide) (by decide) (by decide +kernel)

/-- The report of a robot that goes backward reads like that of one that goes forward. -/
theorem not_system_reported :
    ¬ ∀ (env : Env) (s : State ℚ) (calls : List MotorCall) (left right : Int16)
        (leftCounts rightCounts : Int32), s.flags.mfSysData.due env s = true →
      s.motors = motorRun calls → lastDuty MotorCall.leftDuty calls = some left →
      lastDuty MotorCall.rightDuty calls = some right →
      (sysDataHandler env s).encoders = ⟨leftCounts, rightCounts⟩ →
      SystemReported env s left right leftCounts rightCounts := by
  intro reported
  obtain ⟨-, -, letter, time, -, decoded⟩ := reported (Env.bench [] id)
    (benchRobot [.left (-50), .right (-50)] ⟨0, 0⟩) [.left (-50), .right (-50)] (-50) (-50) 0 0
    (by decide +kernel) rfl (by decide) (by decide) (by decide +kernel)
  rw [parsed_systemReport] at decoded
  simp only [Option.some.injEq, List.cons.injEq, PyVal.int.injEq] at decoded
  exact absurd decoded.2.2.1 (by decide +kernel)

end ZumoDelivery
