import ZumoDelivery.Application.LoopSteps

set_option autoImplicit false

namespace ZumoDelivery

/-- The part of SerialIO.c that only receiving touches. -/
structure Intake where
  receiveBuffer : RingBufferC
  clearBuffer : Bool
  reading : Bool
  out : OutEndpoint

def SerialIO.intake (usb : SerialIO) : Intake :=
  ⟨usb.receiveBuffer, usb.clearBuffer, usb.reading, usb.out⟩

theorem intake_queueMessage (message? : Option UsbMessage) (usb : SerialIO) :
    (queueMessage message? usb).intake = usb.intake := by
  cases message? with
  | none => rfl
  | some message =>
      rw [queueMessage_some, message.send_eq]
      rfl

theorem intake_usbWriteNextByte (inReady : Bool) (usb : SerialIO) :
    (usbWriteNextByte inReady usb).intake = usb.intake := by
  unfold usbWriteNextByte
  dsimp only
  split
  · split <;> rfl
  split
  · split <;> rfl
  · rfl

variable {F : Type} [FloatArith F]

open FloatArith

/-- Code that reads no byte from the host and takes none from the receive buffer. -/
structure Quiet (before after : State F) : Prop where
  looks : before.looks ≤ after.looks
  intake : after.usb.intake = before.usb.intake

omit [FloatArith F] in
theorem intake_sendBadInput (command : UInt8) (s : State F) :
    (sendBadInput command s).usb.intake = s.usb.intake := by
  rw [usb_sendBadInput, intake_queueMessage]

/-- No case reads further than its payload. -/
theorem CaseStep.quiet {env : Env} {s after : State F} {message : Dispatch}
    (step : CaseStep env s message after) : Quiet s after where
  looks := by rcases step.looks with same | next <;> omega
  intake := by rw [step.usb, intake_queueMessage]

theorem Execution.quiet {env : Env} {s after : State F} {stage : Stage}
    (execution : Execution env s stage after) : Quiet s after where
  looks := Nat.le_of_lt execution.looks
  intake := by
    obtain ⟨message?, sent⟩ := execution.usb
    rw [sent, intake_queueMessage]

/-- Only the first two statements of the loop receive. -/
theorem quiet_run (env : Env) (stage : Stage) (s : State F) (notUpkeep : stage ≠ .usbUpkeep)
    (notTask : stage ≠ .messageHandling) : Quiet s (stage.run env s) := by
  have step := loopStep env stage s
  generalize stage.run env s = after at step
  cases step with
  | upkeep => contradiction
  | task => contradiction
  | waiting stage _ looks forward => exact ⟨forward, rfl⟩
  | executed stage _ after execution => exact execution.quiet

theorem looks_run (env : Env) (stage : Stage) (s : State F) :
    s.looks ≤ (stage.run env s).looks := by
  have step := loopStep env stage s
  generalize stage.run env s = after at step
  cases step with
  | upkeep => exact Nat.le_succ _
  | task ran after same step =>
      cases step with
      | idle => exact Nat.le_refl _
      | restart => exact Nat.le_refl _
      | case message usb after step => exact step.quiet.looks
  | waiting stage _ looks forward => exact forward
  | executed stage _ after execution => exact execution.quiet.looks

theorem looks_deviceTrace_mono (env : Env) {first last : ℕ} (ordered : first ≤ last) :
    (deviceTrace (F := F) env first).looks ≤ (deviceTrace (F := F) env last).looks := by
  apply CyclicProgram.trace_since (fun s : State F => (deviceTrace env first).looks ≤ s.looks)
    first last ordered
  · exact Nat.le_refl _
  · intro time stage lower upper here before
    exact Nat.le_trans before (looks_run env stage _)

end ZumoDelivery
