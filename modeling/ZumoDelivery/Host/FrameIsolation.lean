import ZumoDelivery.Host.Framing

set_option autoImplicit false

namespace ZumoDelivery

open PyStruct

/-- Two threads that differ in `rawData` and in what their callbacks were called with
before. -/
def Alike (before before' : List (List PyVal)) (s t : SerialData) : Prop :=
  ∃ raw new, s.calls = before ++ new ∧ t = { s with rawData := raw, calls := before' ++ new }

variable {before before' : List (List PyVal)} {s t : SerialData}

theorem Alike.symm (alike : Alike before before' s t) : Alike before' before t s := by
  obtain ⟨raw, new, calls, rfl⟩ := alike
  refine ⟨s.rawData, new, rfl, ?_⟩
  rw [← calls]

theorem Alike.parseData (alike : Alike before before' s t) (raw : List UInt8) :
    (parseData { s with rawData := raw } = none ∧ parseData { t with rawData := raw } = none) ∨
      ∃ s' t', parseData { s with rawData := raw } = some s' ∧
        parseData { t with rawData := raw } = some t' ∧ Alike before before' s' t' := by
  obtain ⟨other, new, calls, rfl⟩ := alike
  simp only [ZumoDelivery.parseData]
  cases unpack s.dataFormat raw with
  | none => exact Or.inr ⟨_, _, rfl, rfl, raw, new, calls, rfl⟩
  | some value =>
      dsimp only
      cases parseFormat value s.dataFormat 1 [] 0 with
      | none => exact Or.inl ⟨rfl, rfl⟩
      | some data =>
          refine Or.inr ⟨_, _, rfl, rfl, raw, new ++ [data], ?_, ?_⟩
          · change s.calls ++ [data] = _
            rw [calls, List.append_assoc]
          · simp only [List.append_assoc]

theorem Alike.readFormatByte (alike : Alike before before' s t) (tmp : UInt8)
    (inWaiting : List UInt8) :
    Alike before before' (readFormatByte tmp s inWaiting).1 (readFormatByte tmp t inWaiting).1 ∧
      (readFormatByte tmp s inWaiting).2 = (readFormatByte tmp t inWaiting).2 := by
  have counted : Alike before before' { s with dataNumBytes := s.dataNumBytes - 1 }
      { t with dataNumBytes := t.dataNumBytes - 1 } := by
    obtain ⟨raw, new, calls, rfl⟩ := alike
    exact ⟨raw, new, calls, rfl⟩
  have parses := counted.parseData
  obtain ⟨raw, new, calls, rfl⟩ := alike
  unfold ZumoDelivery.readFormatByte
  dsimp only at parses ⊢
  split
  · split
    · exact ⟨⟨raw, new, calls, rfl⟩, rfl⟩
    · split
      all_goals exact ⟨⟨raw, new, calls, rfl⟩, rfl⟩
  · split
    · exact ⟨⟨raw, new, calls, rfl⟩, rfl⟩
    · rename_i size sized
      split
      · rcases parses (inWaiting.take size) with ⟨here, there⟩ | ⟨s', t', here, there, still⟩
        · rw [here, there]
          exact ⟨⟨inWaiting.take size, new, calls, rfl⟩, rfl⟩
        · rw [here, there]
          obtain ⟨raw', new', calls', rfl⟩ := still
          exact ⟨⟨raw', new', calls', rfl⟩, rfl⟩
      · exact ⟨⟨raw, new, calls, rfl⟩, rfl⟩

theorem Alike.threadPass (alike : Alike before before' s t) {inWaiting : List UInt8}
    {next : SerialData × List UInt8} (pass : ThreadPass s inWaiting next) :
    ∃ state, ThreadPass t inWaiting (state, next.2) ∧ Alike before before' next.1 state := by
  cases pass with
  | defined running defined some waiting =>
      have parses := alike.parseData (inWaiting.take s.dataNumBytes.toNat)
      obtain ⟨raw, new, calls, rfl⟩ := alike
      refine ⟨_, .defined running defined some waiting, ?_⟩
      rcases parses with ⟨here, there⟩ | ⟨s', t', here, there, still⟩
      · simp only [here, there, Option.getD_none]
        exact ⟨inWaiting.take s.dataNumBytes.toNat, new, calls, rfl⟩
      · simp only [here, there, Option.getD_some]
        exact still
  | length first rest running dynamic between =>
      obtain ⟨raw, new, calls, rfl⟩ := alike
      exact ⟨_, .length first rest running dynamic between, raw, new, calls, rfl⟩
  | byte first rest running dynamic some waiting =>
      have read := alike.readFormatByte first rest
      obtain ⟨raw, new, calls, rfl⟩ := alike
      refine ⟨_, ?_, read.1⟩
      rw [read.2]
      exact .byte first rest running dynamic some waiting
  | zero running zero =>
      obtain ⟨raw, new, calls, rfl⟩ := alike
      exact ⟨_, .zero running zero, raw, new, calls, rfl⟩

theorem Alike.settle (alike : Alike before before' s t) (input : List UInt8) :
    Alike before before' (serialReader.settle (s, input)).1 (serialReader.settle (t, input)).1 ∧
      (serialReader.settle (s, input)).2 = (serialReader.settle (t, input)).2 := by
  have follows : ∀ {before before' : List (List PyVal)} (first second : SerialData)
      (input : List UInt8) (next : SerialData × List UInt8), Alike before before' first second →
      serialReader.step first input = some next →
      ∃ state, serialReader.step second input = some (state, next.2) ∧
        Alike before before' next.1 state := by
    intro before before' first second input next alike step
    obtain ⟨state, pass, still⟩ := alike.threadPass (threadPass_of_eq step)
    exact ⟨state, pass.eq, still⟩
  refine StreamReader.settle_related follows ?_ s t input alike
  intro first second input alike sleeps
  cases step : serialReader.step second input with
  | none => rfl
  | some next =>
      obtain ⟨state, moved, -⟩ := follows second first input next alike.symm step
      rw [sleeps] at moved
      cases moved

/-- Read by an idle thread at any pace, the bytes are consumed with at most one round of
callbacks, the thread is idle again, and what follows is read as if they had not been
there. -/
def Skipped (bytes : List UInt8) : Prop :=
  ∀ s : SerialData, s.Idle → ∃ raw calls, calls.length ≤ 1 ∧
    (∀ (arrivals : List (List UInt8)) (n : ℕ), arrivals.flatten = bytes →
      2 * bytes.length ≤ n →
      serialReader.run (arrivals ++ List.replicate n []) (s, []) = (s.called raw calls, [])) ∧
    ∀ (following : List UInt8) (arrivals : List (List UInt8)) (n : ℕ),
      arrivals.flatten = bytes ++ following → 2 * (bytes ++ following).length ≤ n →
      let alone := serialReader.settle (s, following)
      let after := serialReader.run (arrivals ++ List.replicate n []) (s, [])
      Alike s.calls (s.calls ++ calls) alone.1 after.1 ∧ alone.2 = after.2

/-- The byte strings that are, from a format on, a sequence of whole messages whose last
one leaves the format empty; what a body leaves is read as further messages. -/
inductive Resyncs : List Char → List (List PyVal) → List UInt8 → Prop where
  | done : Resyncs [] [] []
  | message {format format' : List Char} {calls more : List (List PyVal)} {length : UInt8}
      {body left bytes : List UInt8} (short : length < 128) (whole : body.length = length.toNat)
      (reads : ReadsBody format body format' calls left)
      (rest : Resyncs format' more (left ++ bytes)) :
      Resyncs format (calls ++ more) (length :: (body ++ bytes))

theorem reaches_of_resyncs {format : List Char} {calls : List (List PyVal)}
    {bytes : List UInt8} (resyncs : Resyncs format calls bytes) (s : SerialData)
    (listening : s.Listening) :
    ∃ raw, serialReader.Reaches (s.inFrame (-1) format, bytes)
      ((s.called raw calls).inFrame (-1) [], []) := by
  induction resyncs generalizing s with
  | done =>
      refine ⟨s.rawData, ?_⟩
      simp only [SerialData.called, List.append_nil]
      exact .refl _
  | @message format format' calls more length body left bytes short whole reads rest ih =>
      have start := reaches_length listening format length (body ++ bytes) short
      obtain ⟨raw, read⟩ := reaches_body listening reads
      obtain ⟨last, ends⟩ := ih (s.called raw calls) (listening.called raw calls)
      rw [← whole] at start
      rw [called_called] at ends
      exact ⟨last, (start.trans (read.extend bytes)).trans ends⟩

/-- Only such strings take the thread back to the start. -/
theorem resyncs_of_idle (format : List Char) (bytes : List UInt8) (s last : SerialData)
    (ascii : ∀ byte ∈ bytes, byte < 128) (listening : s.Listening) (idle : last.Idle)
    (ends : serialReader.settle (s.inFrame (-1) format, bytes) = (last, [])) :
    ∃ calls, last.calls = s.calls ++ calls ∧ Resyncs format calls bytes := by
  induction size : bytes.length using Nat.strongRecOn generalizing format bytes s with
  | ind n ih =>
      cases bytes with
      | nil =>
          rw [StreamReader.settle_of_none (sleeps_idle s format)] at ends
          cases ends
          have fresh : format = [] := (List.cons.inj idle.fresh).2
          rw [fresh]
          exact ⟨[], (List.append_nil _).symm, .done⟩
      | cons length rest =>
          have short : length < 128 := ascii length List.mem_cons_self
          have start := reaches_length listening format length rest short
          rw [start.settle] at ends
          by_cases whole : length.toNat ≤ rest.length
          · obtain ⟨body, bytes, rfl, fits⟩ : ∃ body bytes, rest = body ++ bytes ∧
                body.length = length.toNat :=
              ⟨rest.take length.toNat, rest.drop length.toNat, (List.take_append_drop _ _).symm,
                List.length_take_of_le whole⟩
            rw [← fits] at ends
            rcases body_cases format body with ⟨format', calls, left, reads⟩ | raises
            · obtain ⟨raw, read⟩ := reaches_body listening reads
              rw [(read.extend bytes).settle] at ends
              have fewer : (left ++ bytes).length < n := by
                have kept := reads.left_le
                simp only [List.length_cons, List.length_append] at size ⊢
                omega
              have narrow : ∀ byte ∈ left ++ bytes, byte < 128 := by
                intro byte member
                refine ascii byte ?_
                rcases List.mem_append.mp member with inLeft | inBytes
                · exact List.mem_cons_of_mem _ (List.mem_append_left _ (reads.left_subset inLeft))
                · exact List.mem_cons_of_mem _ (List.mem_append_right _ inBytes)
              obtain ⟨more, called, resyncs⟩ := ih _ fewer format' (left ++ bytes)
                (s.called raw calls) narrow (listening.called raw calls) ends rfl
              refine ⟨calls ++ more, ?_, .message short fits reads resyncs⟩
              rw [called, SerialData.called, List.append_assoc]
            · obtain ⟨⟨lost, unread⟩, read, gone⟩ := reaches_lost listening raises
              have after : serialReader.Reaches (s.inFrame body.length format, body ++ bytes)
                  (lost, unread ++ bytes) := read.extend bytes
              have ended : lost.isRun = false := gone.ended
              rw [after.settle, StreamReader.settle_of_none (sleeps_ended ended _)] at ends
              have same : lost = last := congrArg Prod.fst ends
              have running := idle.running
              rw [← same, ended] at running
              cases running
          · rw [StreamReader.settle_of_none (sleeps_short s format _ rest (by omega))] at ends
            cases ends
            have between : (length.toNat : ℤ) = -1 := idle.between
            omega

/-- Exactly those bad messages are skipped whose bytes are, with at most one round of
callbacks, messages that leave an empty format. -/
theorem skipped_iff_resyncs (length : UInt8) (body : List UInt8) (short : length < 128)
    (whole : body.length = length.toNat) (ascii : ∀ byte ∈ body, byte < 128) :
    Skipped (length :: body) ↔
      ∃ calls, calls.length ≤ 1 ∧ Resyncs [] calls (length :: body) := by
  constructor
  · intro skipped
    obtain ⟨raw, calls, once, consumed, -⟩ := skipped dynamicStart idle_dynamicStart
    have stream : [length :: body].flatten = length :: body := by simp
    have run := run_of_idle idle_dynamicStart [length :: body] (2 * (length :: body).length)
      (Nat.le_of_eq (by rw [stream]))
    rw [consumed _ _ stream (Nat.le_refl _), stream] at run
    have narrow : ∀ byte ∈ length :: body, byte < 128 := by
      intro byte member
      rcases List.mem_cons.mp member with rfl | inBody
      · exact short
      · exact ascii byte inBody
    rw [← idle_dynamicStart.eq] at run
    obtain ⟨calls', called, resyncs⟩ := resyncs_of_idle [] (length :: body) _ _ narrow
      idle_dynamicStart.toListening (idle_dynamicStart.called raw calls) run.symm
    have same : calls = calls' := called
    exact ⟨calls, once, same ▸ resyncs⟩
  · rintro ⟨calls, once, resyncs⟩ s idle
    obtain ⟨raw, reaches⟩ := reaches_of_resyncs resyncs s idle.toListening
    have back : (s.called raw calls).Idle := idle.called raw calls
    rw [idle.eq, back.eq] at reaches
    refine ⟨raw, calls, once, ?_, ?_⟩
    · rintro arrivals n stream enough
      rw [run_of_idle idle arrivals n (by rw [stream]; exact enough), stream, reaches.settle,
        settle_of_idle back]
    · intro following arrivals n stream enough
      have alike : Alike s.calls (s.calls ++ calls) s (s.called raw calls) :=
        ⟨raw, [], (List.append_nil _).symm, by rw [List.append_nil]; rfl⟩
      rw [run_of_idle idle arrivals n (by rw [stream]; exact enough), stream,
        (reaches.extend following).settle]
      exact alike.settle following

/-- A format whose data is missing is dropped. -/
theorem skipped_iff_resyncs_missing :
    Skipped [2, 99, 0] ↔ ∃ calls, calls.length ≤ 1 ∧ Resyncs [] calls [2, 99, 0] :=
  skipped_iff_resyncs 2 [99, 0] (by decide) rfl (by simp)

/-- After a character that is no format the next byte is taken for a length. -/
theorem not_skipped :
    ¬ ∀ (length : UInt8) (body : List UInt8), 0 < length → length < 128 →
      body.length = length.toNat → (∀ byte ∈ body, byte < 128) → Skipped (length :: body) := by
  intro skipped
  obtain ⟨raw, calls, -, consumed, -⟩ :=
    skipped 2 [33, 5] (by decide) (by decide) rfl (by simp) dynamicStart idle_dynamicStart
  have last := congrArg (fun now : SerialData × List UInt8 => now.1.dataNumBytes)
    (consumed [[2, 33, 5]] 6 rfl (by decide))
  have five : (serialReader.run ([[2, 33, 5]] ++ List.replicate 6 [])
      (dynamicStart, [])).1.dataNumBytes = 5 := by decide +kernel
  rw [five] at last
  cases last

end ZumoDelivery
