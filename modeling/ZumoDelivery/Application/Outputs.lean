import ZumoDelivery.Application.DriveModes
import ZumoDelivery.Application.Motors
import ZumoDelivery.Application.Reception
import ZumoDelivery.Driver.DutyFraction

set_option autoImplicit false

namespace ZumoDelivery

open FloatArith

section step

variable {F : Type} [FloatArith F]

/-- What a statement of the loop can do to the registers of the motors. -/
inductive MotorStep (F : Type) [FloatArith F] (pwm : MotorPwm) : MotorPwm → Prop where
  | kept : MotorStep F pwm pwm
  | drive (left right : Int16) : MotorStep F pwm (driveMotors (F := F) left right pwm)
  | off : MotorStep F pwm (motorsOff (F := F) pwm)
  /-- 's' and 'S' disable the outputs first. -/
  | stop : MotorStep F pwm (motorPwmRight F 0 (motorPwmLeft F 0 (motorPwmEnable false pwm)))
  /-- The lights of the proximity sensor share the port of the direction pins. -/
  | lights : MotorStep F pwm { pwm with portB := pwm.portB &&& 0b01111111 }

theorem DriveCommand.motorStep (motor : DriveCommand F) (payload : List UInt8) (pwm : MotorPwm) :
    MotorStep F pwm (motor.motors payload pwm) := by
  cases motor with
  | pwm => exact .drive _ _
  | pwmTimed => exact .drive _ _
  | stop => exact .stop
  | _ => exact .kept

theorem Execution.motors {env : Env} {s after : State F} {stage : Stage}
    (execution : Execution env s stage after) : MotorStep F s.motors after.motors := by
  cases execution with
  | timedPwm | distDone | motorStop => exact .off
  | distStep | velStep => exact .drive _ _
  | irLeft | irOnce | irAgain | oaLeft | oaRight => exact .lights
  | oaDecided _ _ _ decision => cases decision <;> exact .kept
  | _ => exact .kept

theorem motorStep_run (env : Env) (stage : Stage) (s : State F) :
    MotorStep F s.motors (stage.run env s).motors := by
  by_cases task : stage = .messageHandling
  · subst task
    change MotorStep F s.motors (messageHandlingTask env s).1.motors
    cases accepts : accepted env s with
    | none =>
        rw [motors_of_quiet accepts]
        exact .kept
    | some motor =>
        obtain ⟨message, -, same⟩ := motors_of_accepted accepts
        rw [same]
        exact motor.motorStep _ _
  · exact run_rule env stage s (fun t => MotorStep F s.motors t.motors) task
      (fun _ _ _ => .kept) fun _ _ execution => execution.motors

end step

/-- The registers of Timer 1 as every call of the driver leaves them. -/
structure MotorPwm.Configured (pwm : MotorPwm) : Prop where
  top : pwm.icr1 = 400
  clock : pwm.tccr1b = 0x11
  /-- Both outputs are driven or neither is. -/
  mode : pwm.tccr1a = 0b00000010 ∨ pwm.tccr1a = 0b11110010
  left : pwm.ocr1b ≤ 400
  right : pwm.ocr1a ≤ 400
  /-- Only the direction pins are high. -/
  pins : pwm.portB &&& 0b11111001 = 0

/-- Even the duty whose negation overflows gives a compare value within the period. -/
theorem motorPwmCompare_le (duty : Int16) : motorPwmCompare ℚ (magnitude duty) 400 ≤ 400 := by
  rw [UInt16.le_iff_toNat_le]
  by_cases least : duty = -32768
  · rw [least, toNat_compare_least]
    decide
  · rw [toNat_compare_of_ne 400 least]
    change (100 - percentage duty) * 400 / 100 ≤ 400
    omega

theorem pins_motorPwmLeft {duty : Int16} {pwm : MotorPwm} (pins : pwm.portB &&& 0b11111001 = 0) :
    (motorPwmLeft ℚ duty pwm).portB &&& 0b11111001 = 0 := by
  have set : ∀ port : BitVec 8, port &&& 0b11111001 = 0 →
      (port ||| 0b00000100) &&& 0b11111001 = 0 := by decide
  have clear : ∀ port : BitVec 8, port &&& 0b11111001 = 0 →
      (port &&& 0b11111011) &&& 0b11111001 = 0 := by decide
  have start := congrArg UInt8.toBitVec pins
  unfold motorPwmLeft
  split
  · exact UInt8.toBitVec_inj.mp (set _ start)
  · exact UInt8.toBitVec_inj.mp (clear _ start)

theorem pins_motorPwmRight {duty : Int16} {pwm : MotorPwm}
    (pins : pwm.portB &&& 0b11111001 = 0) :
    (motorPwmRight ℚ duty pwm).portB &&& 0b11111001 = 0 := by
  have set : ∀ port : BitVec 8, port &&& 0b11111001 = 0 →
      (port ||| 0b00000010) &&& 0b11111001 = 0 := by decide
  have clear : ∀ port : BitVec 8, port &&& 0b11111001 = 0 →
      (port &&& 0b11111101) &&& 0b11111001 = 0 := by decide
  have start := congrArg UInt8.toBitVec pins
  unfold motorPwmRight
  split
  · exact UInt8.toBitVec_inj.mp (set _ start)
  · exact UInt8.toBitVec_inj.mp (clear _ start)

namespace MotorPwm.Configured

variable {pwm : MotorPwm}

theorem motorPwmLeft (configured : pwm.Configured) (duty : Int16) :
    (motorPwmLeft ℚ duty pwm).Configured where
  top := (icr1_motorPwmLeft ℚ duty pwm).trans configured.top
  clock := by
    rw [← configured.clock]
    unfold ZumoDelivery.motorPwmLeft
    split <;> rfl
  mode := by
    rw [motorPwmLeft_tccr1a]
    exact configured.mode
  left := by
    rw [ocr1b_motorPwmLeft, configured.top]
    exact motorPwmCompare_le duty
  right := by
    rw [ocr1a_motorPwmLeft]
    exact configured.right
  pins := pins_motorPwmLeft configured.pins

theorem motorPwmRight (configured : pwm.Configured) (duty : Int16) :
    (motorPwmRight ℚ duty pwm).Configured where
  top := (icr1_motorPwmRight ℚ duty pwm).trans configured.top
  clock := by
    rw [← configured.clock]
    unfold ZumoDelivery.motorPwmRight
    split <;> rfl
  mode := by
    rw [motorPwmRight_tccr1a]
    exact configured.mode
  left := by
    rw [ocr1b_motorPwmRight]
    exact configured.left
  right := by
    rw [ocr1a_motorPwmRight, configured.top]
    exact motorPwmCompare_le duty
  pins := pins_motorPwmRight configured.pins

theorem motorPwmEnable (configured : pwm.Configured) (enable : Bool) :
    (motorPwmEnable enable pwm).Configured := by
  have mode : (ZumoDelivery.motorPwmEnable enable pwm).tccr1a = 0b00000010 ∨
      (ZumoDelivery.motorPwmEnable enable pwm).tccr1a = 0b11110010 := by
    cases enable with
    | true =>
        refine Or.inr ?_
        change pwm.tccr1a ||| 0b11110000 = 0b11110010
        rcases configured.mode with mode | mode
        · rw [mode]
          rfl
        · rw [mode]
          rfl
    | false =>
        refine Or.inl ?_
        change pwm.tccr1a &&& 0b00001111 = 0b00000010
        rcases configured.mode with mode | mode
        · rw [mode]
          rfl
        · rw [mode]
          rfl
  cases enable
  · exact ⟨configured.top, configured.clock, mode, configured.left, configured.right,
      configured.pins⟩
  · exact ⟨configured.top, configured.clock, mode, configured.left, configured.right,
      configured.pins⟩

theorem step {after : MotorPwm} (configured : pwm.Configured) (step : MotorStep ℚ pwm after) :
    after.Configured := by
  cases step with
  | kept => exact configured
  | drive left right =>
      exact ((configured.motorPwmLeft left).motorPwmRight right).motorPwmEnable true
  | off => exact ((configured.motorPwmLeft 0).motorPwmRight 0).motorPwmEnable false
  | stop => exact ((configured.motorPwmEnable false).motorPwmLeft 0).motorPwmRight 0
  | lights =>
      have masked : ∀ port : BitVec 8, port &&& 0b11111001 = 0 →
          (port &&& 0b01111111) &&& 0b11111001 = 0 := by decide
      exact ⟨configured.top, configured.clock, configured.mode, configured.left,
        configured.right,
        UInt8.toBitVec_inj.mp (masked _ (congrArg UInt8.toBitVec configured.pins))⟩

end MotorPwm.Configured

theorem configured_motorPwmInit : (motorPwmInit 0x190 motorPwmReset).Configured :=
  ⟨rfl, rfl, Or.inl rfl, by decide, by decide, by decide⟩

theorem configured_deviceTrace (env : Env) (time : ℕ) :
    (deviceTrace (F := ℚ) env time).motors.Configured := by
  induction time with
  | zero => exact configured_motorPwmInit
  | succ time ih =>
      obtain ⟨stage, here⟩ := stageAt_isSome time
      rw [deviceTrace_succ here]
      exact ih.step (motorStep_run env stage _)

/-- What the registers mean for the motors and for the reports. -/
structure MotorPwm.Sound (pwm : MotorPwm) : Prop extends pwm.Configured where
  enabled : isMotorPwmEnabled pwm = true ↔ ¬ pwm.Disabled
  leftOn : 0 ≤ onTime pwm.icr1 pwm.ocr1b ∧ onTime pwm.icr1 pwm.ocr1b ≤ 1
  rightOn : 0 ≤ onTime pwm.icr1 pwm.ocr1a ∧ onTime pwm.icr1 pwm.ocr1a ≤ 1
  leftReport : 0 ≤ getMotorPwmLeft ℚ pwm ∧ getMotorPwmLeft ℚ pwm ≤ 100
  rightReport : 0 ≤ getMotorPwmRight ℚ pwm ∧ getMotorPwmRight ℚ pwm ≤ 100

theorem onTime_bounds {compare : UInt16} (inside : compare ≤ 400) :
    0 ≤ onTime 400 compare ∧ onTime 400 compare ≤ 1 := by
  have bound : (compare.toNat : ℚ) ≤ 400 := by exact_mod_cast UInt16.le_iff_toNat_le.mp inside
  have positive : (0 : ℚ) ≤ compare.toNat := Nat.cast_nonneg _
  have top : ((400 : UInt16).toNat : ℚ) = 400 := rfl
  rw [onTime, top]
  constructor
  · apply div_nonneg <;> linarith
  · rw [div_le_one (by norm_num)]
    linarith

theorem getMotorPwm_bounds {compare : UInt16} (inside : compare ≤ 400) :
    0 ≤ getMotorPwm ℚ compare 400 ∧ getMotorPwm ℚ compare 400 ≤ 100 := by
  have bound : compare.toNat ≤ 400 := UInt16.le_iff_toNat_le.mp inside
  have percent : lit (-100) * (ofInt compare.toNat / ofInt ((400 : UInt16).toNat : ℤ)) + lit 100 =
      ((400 - compare.toNat : ℕ) : ℚ) / (4 : ℕ) := by
    change (-100 : ℚ) * (((compare.toNat : ℤ) : ℚ) / ((400 : ℤ) : ℚ)) + 100 = _
    rw [Nat.cast_sub bound]
    push_cast
    ring
  rw [getMotorPwm, percent, trunc_natCast_div]
  have value : (Int16.ofInt ((400 - compare.toNat) / 4 : ℕ)).toInt =
      ((400 - compare.toNat) / 4 : ℕ) := Int16.toInt_ofInt_of_le (by omega) (by omega)
  rw [Int16.le_iff_toInt_le, Int16.le_iff_toInt_le, value]
  change (0 : ℤ) ≤ _ ∧ _ ≤ (100 : ℤ)
  omega

theorem MotorPwm.Configured.sound {pwm : MotorPwm} (configured : pwm.Configured) : pwm.Sound where
  toConfigured := configured
  enabled := by
    rcases configured.mode with mode | mode
    · simp only [isMotorPwmEnabled, MotorPwm.Disabled, mode]
      decide
    · simp only [isMotorPwmEnabled, MotorPwm.Disabled, mode]
      decide
  leftOn := configured.top ▸ onTime_bounds configured.left
  rightOn := configured.top ▸ onTime_bounds configured.right
  leftReport := by
    rw [getMotorPwmLeft, configured.top]
    exact getMotorPwm_bounds configured.left
  rightReport := by
    rw [getMotorPwmRight, configured.top]
    exact getMotorPwm_bounds configured.right

/-- Whatever the host sends, the registers of the motors keep their mode and period, both
outputs are driven or neither, no duty passes 100 %, and the port shows directions only. -/
theorem motors_sound (env : Env) (time : ℕ) : (deviceTrace (F := ℚ) env time).motors.Sound :=
  (configured_deviceTrace env time).sound

def GripperState.after (state : GripperState) (message : Dispatch) : GripperState :=
  if Ascii.toChar message.command = 'G' then
    if Ascii.toChar (byteAt message.payload 0) = 'O' then .opened
    else if Ascii.toChar (byteAt message.payload 0) = 'C' then .closed
    else state
  else state

def GripperState.output : GripperState → UInt8 × Led
  | .opened => (10, .green)
  | .closed => (13, .blue)

/-- The registers of Timer 4 and the green and the blue light, for a state of the gripper. -/
structure Gripper.Shows (gripper : Gripper) (state : GripperState) : Prop where
  duty : gripper.ocr4a = state.output.1
  top : gripper.ocr4c = 156
  lights : gripper.portD &&& 0b00001001 = state.output.2.pin

theorem Gripper.Shows.red {gripper : Gripper} {state : GripperState} (shows : gripper.Shows state)
    (on : Bool) : Gripper.Shows { gripper with portD := setLed .red on gripper.portD } state := by
  have set : ∀ port : BitVec 8, (port ||| 0b00100000) &&& 0b00001001 = port &&& 0b00001001 := by
    decide
  have clear : ∀ port : BitVec 8,
      (port &&& 0b11011111) &&& 0b00001001 = port &&& 0b00001001 := by decide
  have same : setLed .red on gripper.portD &&& 0b00001001 = gripper.portD &&& 0b00001001 := by
    cases on with
    | true => exact UInt8.toBitVec_inj.mp (set gripper.portD.toBitVec)
    | false => exact UInt8.toBitVec_inj.mp (clear gripper.portD.toBitVec)
  exact ⟨shows.duty, shows.top, same.trans shows.lights⟩

theorem shows_servoPwmInit (state : GripperState) (gripper : Gripper) :
    (servoPwmInit state gripper).Shows state := by
  have opened : ∀ port : BitVec 8,
      ((port ||| 0b00000001) &&& 0b11110111) &&& 0b00001001 = 0b00000001 := by decide
  have closed : ∀ port : BitVec 8,
      ((port ||| 0b00001000) &&& 0b11111110) &&& 0b00001001 = 0b00001000 := by decide
  cases state with
  | opened => exact ⟨rfl, rfl, UInt8.toBitVec_inj.mp (opened gripper.portD.toBitVec)⟩
  | closed => exact ⟨rfl, rfl, UInt8.toBitVec_inj.mp (closed gripper.portD.toBitVec)⟩

section gripper

variable {F : Type} [FloatArith F]

/-- Messages other than 'G', and bad arguments, ask for nothing. -/
theorem GripperState.after_of_refused (state : GripperState) {message : Dispatch}
    (refused : Ascii.toChar message.command = 'G' →
      ¬ (Ascii.toChar (byteAt message.payload 0) = 'O' ∨
        Ascii.toChar (byteAt message.payload 0) = 'C')) : state.after message = state := by
  unfold GripperState.after
  split
  · rename_i char
    obtain ⟨notOpened, notClosed⟩ := not_or.mp (refused char)
    rw [if_neg notOpened, if_neg notClosed]
  · rfl

theorem CaseStep.shows {env : Env} {s after : State F} {message : Dispatch}
    (step : CaseStep env s message after) {state : GripperState}
    (shows : s.gripper.Shows state) : after.gripper.Shows (state.after message) := by
  have off : Gripper.Shows { s.gripper with portD := setLed .red false s.gripper.portD } state :=
    shows.red false
  have driven {motor : DriveCommand F}
      (accepts : acceptedBy (batteryVoltage s.batteryFilter) message = some motor) :
      state.after message = state := by
    apply state.after_of_refused
    intro char
    rw [acceptedBy_of_other char (by decide)] at accepts
    cases accepts
  cases step with
  | replied reply sends =>
      rw [state.after_of_refused]
      · exact shows
      · intro char good
        simp only [answer, char] at sends
        rw [if_pos good] at sends
        cases sends
  | asked request _ letter =>
      have other : Ascii.toChar message.command ≠ 'G' := by
        intro char
        rw [char] at letter
        cases request <;> simp [Request.letters] at letter
      rw [state.after_of_refused (absurd · other)]
      cases request <;> exact shows
  | gripper chosen letter argument =>
      rw [GripperState.after, if_pos letter, argument]
      cases chosen
      · exact shows_servoPwmInit .opened s.gripper
      · exact shows_servoPwmInit .closed s.gripper
  | pwm _ accepts | pwmTimed _ _ accepts =>
      rw [driven accepts]
      exact shows
  | stop _ accepts | distance _ _ _ accepts | distanceTimed _ _ _ _ accepts
  | velocity _ _ _ accepts | velocityTimed _ _ _ _ accepts | avoidance _ _ accepts =>
      rw [driven accepts]
      exact off

theorem shows_messageHandlingTask (env : Env) (s : State F) {state : GripperState}
    (shows : s.gripper.Shows state) :
    (messageHandlingTask env s).1.gripper.Shows
      ((messageHandlingTask env s).2.elim state state.after) := by
  apply task_rule env s (fun t message => t.gripper.Shows
    (message.elim state state.after))
  · exact fun _ => shows
  · intro command char
    have same : state.after ⟨command, []⟩ = state := by
      rw [GripperState.after, if_neg]
      rw [char]
      decide
    rw [Option.elim_some, same]
    exact shows
  · exact fun _ _ _ step => step.shows shows

/-- The other statements only switch the red light. -/
theorem shows_run (env : Env) (stage : Stage) (s : State F) (notTask : stage ≠ .messageHandling)
    {state : GripperState} (shows : s.gripper.Shows state) :
    (stage.run env s).gripper.Shows state := by
  apply run_rule env stage s (fun t => t.gripper.Shows state) notTask
  · exact fun _ _ _ => shows
  · intro after _ execution
    cases execution with
    | oaDecided _ _ _ decision =>
        cases decision with
        | start => exact shows.red true
        | steer => exact shows
        | keep => exact shows
    | _ => exact shows

/-- Between two iterations the gripper and its lights show the last good 'G' command, 'O'
before the first. -/
theorem gripper_follows (env : Env) (n : ℕ) :
    (deviceTrace (F := F) env (17 * n)).gripper.Shows
      ((dispatchedBefore F env n).foldl GripperState.after .opened) := by
  induction n with
  | zero => exact shows_servoPwmInit .opened _
  | succ n ih =>
      rw [dispatchedBefore, List.foldl_append]
      have upkeep : deviceTrace (F := F) env (17 * n + 1) =
          Stage.usbUpkeep.run env (deviceTrace (F := F) env (17 * n)) :=
        deviceTrace_succ (stageAt_iteration n 0 (by decide))
      have task : deviceTrace (F := F) env (17 * n + 2) =
          (messageHandlingTask env (deviceTrace (F := F) env (17 * n + 1))).1 :=
        deviceTrace_succ (stageAt_iteration n 1 (by decide))
      have arrived := shows_run env .usbUpkeep _ (by decide) ih
      rw [← upkeep] at arrived
      have handled := shows_messageHandlingTask env _ arrived
      have folded (state : GripperState) (message : Option Dispatch) :
          message.toList.foldl GripperState.after state = message.elim state state.after := by
        cases message <;> rfl
      rw [← task, ← folded] at handled
      refine CyclicProgram.trace_since (fun s : State F => s.gripper.Shows _) (17 * n + 2)
        (17 * (n + 1)) (by omega) handled ?_
      · intro time stage lower upper here shows
        refine shows_run env stage _ ?_ shows
        rintro rfl
        have position := mod_of_stageAt here
        omega

end gripper

end ZumoDelivery
