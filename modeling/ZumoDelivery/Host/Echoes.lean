import ZumoDelivery.Host.Replies

set_option autoImplicit false

namespace ZumoDelivery

open PyStruct

variable {F : Type} [FloatArith F]

def replies (env : Env) (states : List (State F)) : List (List UInt8) :=
  (states.map (reply env)).filter (· ≠ [])

theorem replies_cons (env : Env) (s : State F) (states : List (State F)) :
    replies env (s :: states) =
      if reply env s = [] then replies env states else reply env s :: replies env states := by
  by_cases silent : reply env s = []
  · simp [replies, silent]
  · simp [replies, silent]

theorem replies_of_known (env : Env) (states : List (State F))
    (echoes : ∀ s ∈ states, EchoesAscii s) :
    ∃ messages : List UsbMessage,
      (∀ message ∈ messages, message.WellFormed ∧ message.frame.length ≤ 63) ∧
      replies env states = messages.map UsbMessage.frame := by
  induction states with
  | nil => exact ⟨[], fun _ member => absurd member List.not_mem_nil, rfl⟩
  | cons s states ih =>
      obtain ⟨here, others⟩ := List.forall_mem_cons.mp echoes
      obtain ⟨messages, wellFormed, same⟩ := ih others
      have fitting := fitting_taskAnswer env (s.withSend rbStatic) here
      rw [replies_cons]
      cases answers : taskAnswer env (s.withSend rbStatic) with
      | none =>
          rw [if_pos (reply_of_silent answers)]
          exact ⟨messages, wellFormed, same⟩
      | some message =>
          have good := fitting message answers
          have first : reply env s = message.frame := reply_of_answer answers good.fits
          have filled : message.frame ≠ [] := usbFrame_ne_nil _ _ _
          rw [first, if_neg filled, same]
          exact ⟨message :: messages,
            List.forall_mem_cons.mpr ⟨⟨good.wellFormed, good.fits⟩, wellFormed⟩, rfl⟩

/-- A byte that is not ASCII is no 'c' field. -/
theorem parsed_badInput_of_wide {command : UInt8} (wide : ¬ command < 128) :
    parsed (badInput command).format (command :: (badInput command).data) = none := by
  have value : unpack ['<', 'c', 'c'] [command, 63] = some [.bytes [command], .bytes [63]] :=
    unpack_plain (by decide) (by decide) [command, 63] rfl
  have raises : decodeAscii (.bytes [command]) = none := decodeAscii_single_of_ge wide
  have digit : digit? 'c' = none := by decide
  change parsed ['c', 'c'] [command, 63] = none
  simp [parsed, value, parseFormat, parseRepeat, digit, raises]

/-- The echo of a byte that is not ASCII ends the thread and closes the port. -/
theorem reaches_lost_badInput {s : SerialData} (idle : s.Idle) {command : UInt8}
    (wide : ¬ command < 128) :
    ∃ last, serialReader.Reaches (s, (badInput command).frame) last ∧ last.1.Lost := by
  have plain : Plain (badInput command).format := (by decide : Plain ['c', 'c'])
  have sized : calcsize ('<' :: (badInput command).format) =
      some (command :: (badInput command).data).length :=
    (by decide : calcsize ['<', 'c', 'c'] = some 2)
  have fits := length_badInput command
  obtain ⟨last, read, lost⟩ := reaches_lost idle.toListening
    (UsbMessage.raisesOn plain fits sized (parsed_badInput_of_wide wide))
  exact ⟨last, (UsbMessage.reaches_body idle fits).trans read, lost⟩

theorem reaches_lost_replies (env : Env) (states : List (State F)) (s : SerialData)
    (idle : s.Idle) (silent : ¬ ∀ state ∈ states, EchoesAscii state) :
    ∃ last, serialReader.Reaches (s, (replies env states).flatten) last ∧ last.1.Lost := by
  induction states generalizing s with
  | nil => exact absurd (fun _ member => absurd member List.not_mem_nil) silent
  | cons state states ih =>
      rw [replies_cons]
      by_cases here : EchoesAscii state
      · have others : ¬ ∀ state ∈ states, EchoesAscii state := by
          intro all
          exact silent (List.forall_mem_cons.mpr ⟨here, all⟩)
        have fitting := fitting_taskAnswer env (state.withSend rbStatic) here
        cases answers : taskAnswer env (state.withSend rbStatic) with
        | none =>
            rw [if_pos (reply_of_silent answers)]
            exact ih s idle others
        | some message =>
            obtain ⟨wellFormed, fits⟩ := fitting message answers
            have first : reply env state = message.frame := reply_of_answer answers fits
            have filled : message.frame ≠ [] := usbFrame_ne_nil _ _ _
            obtain ⟨raw, read⟩ := UsbMessage.reaches idle wellFormed fits
            obtain ⟨last, rest, lost⟩ := ih _ (idle.called raw _) others
            rw [first, if_neg filled, List.flatten_cons]
            exact ⟨last, (read.extend _).trans rest, lost⟩
      · simp only [EchoesAscii, not_forall] at here
        obtain ⟨command, rest, stored, unknown, wide⟩ := here
        have answers : taskAnswer env (state.withSend rbStatic) = some (badInput command) := by
          have same : (state.withSend rbStatic).usb.received = command :: rest := stored
          rw [taskAnswer, same]
          exact if_pos unknown
        have first : reply env state = (badInput command).frame :=
          reply_of_answer answers (length_badInput command)
        have filled : (badInput command).frame ≠ [] := usbFrame_ne_nil _ _ _
        obtain ⟨last, read, lost⟩ := reaches_lost_badInput idle wide
        rw [first, if_neg filled, List.flatten_cons]
        exact ⟨_, read.extend _, lost⟩

/-- The frames are messages whose values reach the callbacks, in order and each once, when
an idle thread gets them whole, at any pace, and the thread goes on. -/
def Decoded (frames : List (List UInt8)) : Prop :=
  ∃ messages : List UsbMessage, frames = messages.map UsbMessage.frame ∧
    ∀ s : SerialData, s.Idle → ∀ (arrivals : List (List UInt8)) (n : ℕ),
      arrivals.flatten = frames.flatten → 2 * frames.flatten.length ≤ n →
      let last := serialReader.run (arrivals ++ List.replicate n []) (s, [])
      last.1.isRun = true ∧ last.1.portOpen = true ∧ last.2 = [] ∧
        last.1.calls = s.calls ++ messages.map UsbMessage.values

def taskStates (F : Type) [FloatArith F] (env : Env) (iterations : ℕ) : List (State F) :=
  (List.range iterations).map fun k => deviceTrace env (17 * k + 1)

/-- The thread survives the replies of a run exactly if every byte that the task does not
recognise is ASCII. -/
theorem replies_decoded_iff (env : Env) (iterations : ℕ) :
    Decoded (replies env (taskStates F env iterations)) ↔
      ∀ k < iterations, ∀ command rest,
        (deviceTrace (F := F) env (17 * k + 1)).usb.received = command :: rest →
        messageSize command = 0 → command < 128 := by
  have known : (∀ s ∈ taskStates F env iterations, EchoesAscii s) ↔
      ∀ k < iterations, EchoesAscii (deviceTrace (F := F) env (17 * k + 1)) := by
    simp only [taskStates, List.forall_mem_map, List.mem_range]
  refine Iff.trans ?_ known
  constructor
  · rintro ⟨messages, -, decoded⟩
    by_contra silent
    obtain ⟨⟨last, unread⟩, reaches, lost⟩ :=
      reaches_lost_replies env _ dynamicStart idle_dynamicStart silent
    have stream : [(replies env (taskStates F env iterations)).flatten].flatten =
        (replies env (taskStates F env iterations)).flatten := by
      rw [List.flatten_singleton]
    have running := (decoded dynamicStart idle_dynamicStart _ _ stream (Nat.le_refl _)).1
    have ended : last.isRun = false := lost.ended
    rw [run_of_idle idle_dynamicStart _ _ (Nat.le_of_eq (by rw [stream])), stream,
      reaches.settle, StreamReader.settle_of_none (sleeps_ended ended unread)] at running
    rw [ended] at running
    cases running
  · intro echoes
    obtain ⟨messages, wellFormed, same⟩ := replies_of_known env _ echoes
    refine ⟨messages, same, ?_⟩
    intro s idle arrivals n stream enough
    obtain ⟨raw, reaches⟩ := reaches_frames messages s idle
      (fun message member => (wellFormed message member).1)
      (fun message member => (wellFormed message member).2)
    have back := idle.called raw (messages.map UsbMessage.values)
    rw [← stream] at enough
    rw [run_of_idle idle arrivals n enough, stream, same, reaches.settle, settle_of_idle back]
    exact ⟨back.running, back.opened, rfl, rfl⟩

set_option maxRecDepth 20000 in
/-- The byte 200 comes back as a character, and the port is closed. -/
theorem not_replies_decoded :
    ¬ ∀ (env : Env) (iterations : ℕ), Decoded (replies env (taskStates ℚ env iterations)) := by
  intro decoded
  have echo : replies (Env.bench [200] id) (taskStates ℚ (Env.bench [200] id) 1) =
      [[5, 99, 99, 0, 200, 63]] := by decide +kernel
  obtain ⟨messages, -, running⟩ := decoded (Env.bench [200] id) 1
  rw [echo] at running
  have last := (running dynamicStart idle_dynamicStart [[5, 99, 99, 0, 200, 63]] 12 rfl
    (by decide)).1
  exact absurd last (by decide +kernel)

end ZumoDelivery
