import ZumoDelivery.Application.Dispatching
import ZumoDelivery.Driver.BatteryMonitor
import ZumoDelivery.Driver.Sending

set_option autoImplicit false

namespace ZumoDelivery

/-- The verdict of a drive command on a battery that is too low for it. -/
inductive Diagnosis where
  | batLow
  | powerOff
deriving DecidableEq

def driveLetters : List Char := ['p', 'P', 'd', 'D', 'v', 'V', 'O']

section Diagnosed

variable {F : Type} [FloatArith F]

open FloatArith

def Diagnosis.send : Diagnosis → F → State F → State F
  | .batLow => sendBatLow
  | .powerOff => sendPowerOff

/-- The task removes a command and sends the diagnosis with the voltage. -/
def Diagnosed (env : Env) (s : State F) (diagnosis : Diagnosis) : Prop :=
  ∃ receiveBuffer, (messageHandlingTask env s).1 =
    diagnosis.send (batteryVoltage s.batteryFilter) { s with usb := { s.usb with receiveBuffer } }

/-- A complete command of this letter is next. -/
def NextCommand (letter : Char) (s : State F) : Prop :=
  ∃ command rest, s.usb.received = command :: rest ∧ Ascii.toChar command = letter ∧
    messageSize command ≤ s.usb.received.length

/-- The comparison that the case of the letter makes. -/
def diagnosisFor (letter : Char) (voltage : F) : Diagnosis :=
  if letter = 'p' ∨ letter = 'P' then
    if lt (lit 3.5) voltage then .batLow else .powerOff
  else if lt voltage (lit 3.0) then .batLow else .powerOff

theorem pwmBatteryNotice_eq (voltage : F) (s : State F) :
    pwmBatteryNotice voltage s = (diagnosisFor 'p' voltage).send voltage s := by
  rw [pwmBatteryNotice, diagnosisFor, if_pos (Or.inl rfl)]
  split <;> rfl

theorem driveBatteryNotice_eq (voltage : F) (s : State F) :
    driveBatteryNotice voltage s = (diagnosisFor 'd' voltage).send voltage s := by
  have other : ¬ ('d' = 'p' ∨ 'd' = 'P') := by decide
  rw [driveBatteryNotice, diagnosisFor, if_neg other]
  split <;> rfl

/-- Below 4.75 V every drive command ends in its diagnosis, its arguments unread. -/
theorem diagnosed_of_low (env : Env) (s : State F) {letter : Char}
    (drives : letter ∈ driveLetters) (next : NextCommand letter s) (low : batteryGood s = false) :
    Diagnosed env s (diagnosisFor letter (batteryVoltage s.batteryFilter)) := by
  obtain ⟨command, rest, stored, char, whole⟩ := next
  simp only [driveLetters, List.mem_cons, List.not_mem_nil, or_false] at drives
  have lowFor : ∀ receiveBuffer,
      batteryGood { s with usb := { s.usb with receiveBuffer } } = false := fun _ => low
  have inCase : ∀ {guard : Char} {dataLen : ℕ} {body : List UInt8 → State F → State F},
      switchCase env command = some (.read guard dataLen body) →
      (∀ receiveBuffer, body (rest.take dataLen) { s with usb := { s.usb with receiveBuffer } } =
        (diagnosisFor letter (batteryVoltage s.batteryFilter)).send
          (batteryVoltage s.batteryFilter) { s with usb := { s.usb with receiveBuffer } }) →
      Diagnosed env s (diagnosisFor letter (batteryVoltage s.batteryFilter)) := by
    intro guard dataLen body found ends
    obtain ⟨receiveBuffer, result, -⟩ := task_of_case found stored whole
    exact ⟨receiveBuffer, by rw [result, ends]⟩
  rcases drives with rfl | rfl | rfl | rfl | rfl | rfl | rfl
  all_goals refine inCase (by simp only [switchCase, char]; rfl) fun receiveBuffer => ?_
  · rw [casePwm, lowFor]
    exact pwmBatteryNotice_eq _ _
  · rw [casePwmTimed, lowFor]
    exact pwmBatteryNotice_eq _ _
  · rw [caseDistance, lowFor]
    exact driveBatteryNotice_eq _ _
  · rw [caseDistanceTimed, lowFor]
    exact driveBatteryNotice_eq _ _
  · rw [caseVelocity, lowFor]
    exact driveBatteryNotice_eq _ _
  · rw [caseVelocityTimed, lowFor]
    exact driveBatteryNotice_eq _ _
  · rw [caseObjAvoidance, lowFor]
    exact driveBatteryNotice_eq _ _

omit [FloatArith F] in
theorem endIndex_sendMsg (format : List Char) (cmd : UInt8) (data : List UInt8) (s : State F) :
    (sendMsg format cmd data s).usb.sendBuffer.endIndex.toNat =
      (s.usb.sendBuffer.endIndex.toNat + (3 + format.length + data.length)) % 2 ^ 6 := by
  rw [sendMsg, State.mapUsb, usbSendMsg_eq, endIndex_foldl_rbPushBack (by decide),
    length_usbFrame, Ascii.length_bytes]

def Diagnosis.frameLength : Diagnosis → ℕ
  | .batLow => 23
  | .powerOff => 27

theorem endIndex_send (diagnosis : Diagnosis) (volts : F) (s : State F) :
    (diagnosis.send volts s).usb.sendBuffer.endIndex.toNat =
      (s.usb.sendBuffer.endIndex.toNat + diagnosis.frameLength) % 2 ^ 6 := by
  cases diagnosis with
  | batLow =>
      simp only [Diagnosis.send, sendBatLow, endIndex_sendMsg, List.length_append,
        Ascii.length_bytes, length_floatBytes]
      rfl
  | powerOff =>
      simp only [Diagnosis.send, sendPowerOff, endIndex_sendMsg, List.length_append,
        Ascii.length_bytes, length_floatBytes]
      rfl

/-- The notices differ in length, so a device sends at most one of them. -/
theorem Diagnosed.unique {env : Env} {s : State F} {first second : Diagnosis}
    (one : Diagnosed env s first) (other : Diagnosed env s second) : first = second := by
  obtain ⟨receiveBuffer, sent⟩ := one
  obtain ⟨_, sent'⟩ := other
  have same := congrArg (fun t : State F => t.usb.sendBuffer.endIndex.toNat) (sent.symm.trans sent')
  simp only [endIndex_send] at same
  cases first with
  | batLow =>
      cases second with
      | batLow => rfl
      | powerOff =>
          simp only [Diagnosis.frameLength] at same
          omega
  | powerOff =>
      cases second with
      | batLow =>
          simp only [Diagnosis.frameLength] at same
          omega
      | powerOff => rfl

theorem diagnosed_iff (env : Env) (s : State F) {letter : Char} (drives : letter ∈ driveLetters)
    (next : NextCommand letter s) (low : batteryGood s = false) (diagnosis : Diagnosis) :
    Diagnosed env s diagnosis ↔
      diagnosisFor letter (batteryVoltage s.batteryFilter) = diagnosis := by
  have own := diagnosed_of_low env s drives next low
  constructor
  · exact own.unique
  · intro same
    rwa [← same]

/-- The diagnosis of the battery task, by the flag that it leaves. -/
def taskDiagnosis (env : Env) (s : State F) : Diagnosis :=
  if (batteryTaskHandler env s).flags.mfLowBattery.active then .batLow else .powerOff

theorem taskDiagnosis_eq (env : Env) (s : State F)
    (due : s.flags.mfBatteryTask.due env s = true) :
    taskDiagnosis env s =
      if lt (batteryTask env s.looked).1 (lit 4.75) && lt (lit 3.0) (batteryTask env s.looked).1
      then .batLow else .powerOff := by
  have flag : (batteryTaskHandler env s).flags.mfLowBattery.active =
      (lt (batteryTask env s.looked).1 (lit 4.75) &&
        lt (lit 3.0) (batteryTask env s.looked).1) := by
    rw [batteryTaskHandler, whenDue_of_due _ due]
    generalize batteryTask env s.looked = read
    cases low : (lt read.1 (lit 4.75) && lt (lit 3.0) read.1) with
    | true =>
        simp only [low, ↓reduceIte]
        rfl
    | false =>
        simp only [low, Bool.false_eq_true, ↓reduceIte]
        rfl
  rw [taskDiagnosis, flag]

end Diagnosed

section Exact

open FloatArith

theorem taskDiagnosis_iff (env : Env) (main : State ℚ) {voltage : ℚ} (low : voltage < 4.75)
    (due : main.flags.mfBatteryTask.due env main = true)
    (read : (batteryTask env main.looked).1 = voltage) :
    taskDiagnosis env main = .batLow ↔ 3.0 < voltage ∧ voltage < 4.75 := by
  rw [taskDiagnosis_eq env main due, read]
  by_cases above : 3.0 < voltage
  · simp [lt_iff, above, low]
  · simp [lt_iff, above]

theorem diagnosisFor_pwm_iff (voltage : ℚ) :
    diagnosisFor 'p' voltage = .batLow ↔ 3.5 < voltage := by
  simp [diagnosisFor, lt_iff]

theorem diagnosisFor_drive_iff (voltage : ℚ) :
    diagnosisFor 'd' voltage = .batLow ↔ voltage < 3.0 := by
  simp [diagnosisFor, lt_iff]

/-- The eight copies of the classification agree at 3.0 V only. -/
theorem diagnoses_agree_iff (env : Env) (devices : Char → State ℚ) (main : State ℚ)
    (voltage : ℚ) (low : voltage < 4.75)
    (next : ∀ letter ∈ driveLetters, NextCommand letter (devices letter))
    (reads : ∀ letter ∈ driveLetters, batteryVoltage (devices letter).batteryFilter = voltage)
    (due : main.flags.mfBatteryTask.due env main = true)
    (read : (batteryTask env main.looked).1 = voltage) :
    ((∀ letter ∈ driveLetters, Diagnosed env (devices letter) (taskDiagnosis env main)) ∧
        (taskDiagnosis env main = .batLow ↔ 3.0 < voltage ∧ voltage < 4.75)) ↔
      voltage = 3.0 := by
  have lowBattery := taskDiagnosis_iff env main low due read
  have agrees : ∀ letter ∈ driveLetters,
      Diagnosed env (devices letter) (taskDiagnosis env main) ↔
        diagnosisFor letter voltage = taskDiagnosis env main := by
    intro letter drives
    have bad : batteryGood (devices letter) = false := by
      rw [batteryGood, reads letter drives, ← Bool.not_eq_true, le_iff]
      exact not_le.mpr low
    rw [diagnosed_iff env (devices letter) drives (next letter drives) bad, reads letter drives]
  constructor
  · rintro ⟨agree, -⟩
    have pwm := diagnosisFor_pwm_iff voltage
    have drive := diagnosisFor_drive_iff voltage
    rw [(agrees 'p' (by decide)).mp (agree 'p' (by decide)), lowBattery] at pwm
    rw [(agrees 'd' (by decide)).mp (agree 'd' (by decide)), lowBattery] at drive
    rcases lt_trichotomy voltage 3.0 with below | same | above
    · have := (drive.mpr below).1
      linarith
    · exact same
    · have := drive.mp ⟨above, low⟩
      linarith
  · intro same
    refine ⟨?_, lowBattery⟩
    intro letter drives
    have off : taskDiagnosis env main = .powerOff := by
      rw [taskDiagnosis_eq env main due, read, same]
      decide +kernel
    rw [agrees letter drives, off, diagnosisFor, same]
    split
    · decide +kernel
    · decide +kernel

/-- A device whose battery filter has settled at a voltage. -/
def deviceAt (voltage : ℚ) (bytes : List UInt8) : State ℚ :=
  { deviceReceived bytes with
    batteryFilter :=
      (filterSetTo (filterInit filterStatic batteryBCoeff batteryACoeff 2) voltage).getD
        filterStatic }

def deviceSampling (voltage : ℚ) : State ℚ :=
  { deviceAt voltage [] with flags.mfBatteryTask := ⟨true, -1, ⟨0, 0⟩⟩ }

/-- Three floats of 1.0, valid for every drive command. -/
def onePayload : List UInt8 := [0, 0, 128, 63, 0, 0, 128, 63, 0, 0, 128, 63]

theorem nextCommand_deviceAt (voltage : ℚ) {letter : Char} (drives : letter ∈ driveLetters) :
    NextCommand letter (deviceAt voltage (Ascii.ofChar letter :: onePayload)) := by
  change NextCommand letter (deviceReceived (Ascii.ofChar letter :: onePayload) : State ℚ)
  refine ⟨Ascii.ofChar letter, onePayload, ?_⟩
  simp only [driveLetters, List.mem_cons, List.not_mem_nil, or_false] at drives
  rcases drives with rfl | rfl | rfl | rfl | rfl | rfl | rfl
  all_goals decide +kernel

/-- The device that samples reads exactly 3.0 V with the ADC at 1023. -/
theorem diagnoses_agree_iff_three :
    ((∀ letter ∈ driveLetters,
        Diagnosed (Env.bench [] id) (deviceAt 3 (Ascii.ofChar letter :: onePayload))
          (taskDiagnosis (Env.bench [] id)
            (deviceSampling ((3 - 9.4469e-4 * (1023 * 0.004887585533)) / 0.99903407)))) ∧
        (taskDiagnosis (Env.bench [] id)
            (deviceSampling ((3 - 9.4469e-4 * (1023 * 0.004887585533)) / 0.99903407)) =
            .batLow ↔ 3.0 < (3 : ℚ) ∧ (3 : ℚ) < 4.75)) ↔
      (3 : ℚ) = 3.0 :=
  diagnoses_agree_iff (Env.bench [] id)
    (fun letter => deviceAt 3 (Ascii.ofChar letter :: onePayload))
    (deviceSampling ((3 - 9.4469e-4 * (1023 * 0.004887585533)) / 0.99903407)) 3 (by norm_num)
    (fun _ drives => nextCommand_deviceAt 3 drives)
    (fun _ _ => show batteryVoltage (deviceAt 3 []).batteryFilter = 3 by decide +kernel)
    (by decide +kernel) (by decide +kernel)

/-- At 4.0 V the battery is low for 'p' and off for 'd'. -/
theorem not_diagnoses_agree :
    ¬ ∀ (env : Env) (devices : Char → State ℚ) (main : State ℚ) (voltage : ℚ), voltage < 4.75 →
      (∀ letter ∈ driveLetters, NextCommand letter (devices letter)) →
      (∀ letter ∈ driveLetters, batteryVoltage (devices letter).batteryFilter = voltage) →
      main.flags.mfBatteryTask.due env main = true →
      (batteryTask env main.looked).1 = voltage →
      (∀ letter ∈ driveLetters, Diagnosed env (devices letter) (taskDiagnosis env main)) ∧
        (taskDiagnosis env main = .batLow ↔ 3.0 < voltage ∧ voltage < 4.75) := by
  intro agree
  have four : batteryVoltage (deviceAt 4 []).batteryFilter = 4 := by decide +kernel
  have same := (agree (Env.bench [] id)
    (fun letter => deviceAt 4 (Ascii.ofChar letter :: onePayload))
    (deviceSampling ((4 - 9.4469e-4 * (1023 * 0.004887585533)) / 0.99903407)) 4 (by norm_num)
    (fun _ drives => nextCommand_deviceAt 4 drives) (fun _ _ => four)
    (by decide +kernel) (by decide +kernel)).1
  have low := diagnosed_of_low (Env.bench [] id)
    (deviceAt 4 (Ascii.ofChar 'p' :: onePayload)) (show 'p' ∈ driveLetters by decide)
    (nextCommand_deviceAt 4 (by decide)) (by decide +kernel)
  have off := diagnosed_of_low (Env.bench [] id)
    (deviceAt 4 (Ascii.ofChar 'd' :: onePayload)) (show 'd' ∈ driveLetters by decide)
    (nextCommand_deviceAt 4 (by decide)) (by decide +kernel)
  have lowIsTask := low.unique (same 'p' (by decide))
  have offIsTask := off.unique (same 'd' (by decide))
  exact absurd (lowIsTask.trans offIsTask.symm) (by decide +kernel)

end Exact

end ZumoDelivery
