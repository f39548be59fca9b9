import ZumoDelivery.Host.Outgoing

set_option autoImplicit false

namespace ZumoDelivery

open PyStruct FloatArith

variable {F : Type} [FloatArith F]

theorem fitting_of_format {format : List Char} {cmd : UInt8} {data : List UInt8} (size : ℕ)
    (command : format.head? = some 'c') (plain : Plain format)
    (sized : calcsize ('<' :: format) = some (1 + size)) (length : data.length = size)
    (ascii : asciiFields format (cmd :: data) = true) (short : 3 + format.length + size ≤ 63) :
    (⟨format, cmd, data⟩ : UsbMessage).Fitting where
  wellFormed := ⟨command, plain, length ▸ sized, ascii⟩
  fits := by
    rw [UsbMessage.length_frame]
    exact length ▸ short

theorem fitting_time {letter : Char} (ascii : Ascii.ofChar letter < 128) {arg : UInt8}
    (small : arg < 128) (seconds : F) :
    (⟨['c', 'c', 'f'], Ascii.ofChar letter, arg :: floatBytes seconds⟩ : UsbMessage).Fitting :=
  fitting_of_format 5 rfl (by decide) (by decide)
    (by rw [List.length_cons, length_floatBytes])
    (by simp [asciiFields, fieldSize, itemSize, ascii, small]) (by decide)

theorem fitting_reportMessage (env : Env) (s : State F) (report : Report) :
    (report.message env s).Fitting := by
  have ascii (single : Bool) : Ascii.ofChar (Report.letter single report) < 128 := by
    cases report <;> cases single <;> decide
  cases report with
  | time => exact fitting_time (ascii _) (by decide) _
  | encoder =>
      exact fitting_of_format 8 rfl (by decide) (by decide)
        (by simp [Report.data])
        (by simp [Report.data, Report.format, asciiFields, fieldSize, itemSize, ascii])
        (by decide)
  | battery =>
      exact fitting_of_format 4 rfl (by decide) (by decide)
        (by simp [Report.data])
        (by simp [Report.data, Report.format, asciiFields, fieldSize, itemSize, ascii])
        (by decide)
  | system =>
      exact fitting_of_format 12 rfl (by decide) (by decide)
        (by simp [Report.data, intBytes])
        (by simp [Report.data, Report.format, asciiFields, fieldSize, itemSize, ascii])
        (by decide)

theorem fitting_measured (meter : Meter F) (small : meter.arg < 128) (env : Env) (s : State F) :
    (meter.message env s).Fitting := by
  unfold Meter.message
  split
  · exact fitting_time (by decide) small _
  · exact fitting_time (by decide) small _

theorem fitting_proximityMessage (env : Env) (s : State F) : (proximityMessage env s).Fitting := by
  have fitting (letter side : Char) (count : Int16) (ascii : Ascii.ofChar letter < 128)
      (letters : Ascii.ofChar side < 128) :
      (⟨['c', 'h', 'c'], Ascii.ofChar letter, intBytes count ++ [Ascii.ofChar side]⟩ :
        UsbMessage).Fitting :=
    fitting_of_format 3 rfl (by decide) (by decide) rfl
      (by simp [asciiFields, fieldSize, itemSize, intBytes, ascii, letters]) (by decide)
  unfold proximityMessage
  dsimp only
  split
  · split
    · exact fitting 'i' 'L' _ (by decide) (by decide)
    · exact fitting 'i' 'R' _ (by decide) (by decide)
  · split
    · exact fitting 'I' 'L' _ (by decide) (by decide)
    · exact fitting 'I' 'R' _ (by decide) (by decide)

theorem fitting_outgoing (env : Env) (s : State F) (stage : Stage)
    (echoes : stage = .messageHandling → EchoesAscii s) :
    ∀ message ∈ stage.outgoing env s, message.Fitting := by
  have when {due : Bool} {reply : UsbMessage} (fitting : reply.Fitting) :
      ∀ message ∈ (if due then some reply else none), message.Fitting := by
    intro message member
    cases due with
    | true =>
        cases member
        exact fitting
    | false => cases member
  have nothing : ∀ message ∈ (none : Option UsbMessage), message.Fitting := by
    intro message member
    cases member
  cases stage with
  | messageHandling => exact fitting_taskAnswer env s (echoes rfl)
  | sendTime => exact when (fitting_reportMessage env s .time)
  | sendEncoder => exact when (fitting_reportMessage env s .encoder)
  | sendBattery => exact when (fitting_reportMessage env s .battery)
  | sysData => exact when (fitting_reportMessage env s .system)
  | timeFloatSend =>
      unfold Stage.outgoing
      dsimp only
      repeat' split
      · intro message member
        cases member
        exact fitting_of_format 4 rfl (by decide) (by decide) (length_floatBytes _)
          (by simp [asciiFields, fieldSize, itemSize, Ascii.ofChar]) (by decide)
      · intro message member
        cases member
        exact fitting_measured (floatSendMeter F) (show (0x01 : UInt8) < 128 by decide) env s
      · exact nothing
      · exact nothing
  | loopTimer =>
      exact when (fitting_measured (loopTimeMeter F) (show (0x02 : UInt8) < 128 by decide) env s)
  | lowBattery => exact when (fitting_batLow _)
  | irProximity => exact when (fitting_proximityMessage env s)
  | _ => exact nothing

end ZumoDelivery
