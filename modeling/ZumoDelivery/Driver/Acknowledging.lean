import ZumoDelivery.Driver.Receiving

set_option autoImplicit false

namespace ZumoDelivery

/-- An empty packet is only looked at while the flag is down. -/
theorem usbReadNextByte_of_stuck {offered : Option (List UInt8)} {usb : SerialIO}
    (here : presented offered usb = some []) (idle : usb.reading = false) :
    usbReadNextByte offered usb = { usb with out.unread := some [] } := by
  simp only [usbReadNextByte, endpointIsOutReceived_of_some here, endpointBytesInEndpoint,
    Option.getD_some, List.length_nil, ne_eq, not_true_eq_false, idle, Bool.false_eq_true,
    ↓reduceIte]

/-- All that one call can do. -/
inductive ReadStep (offered : Option (List UInt8)) (usb : SerialIO) : SerialIO → Prop where
  | idle (nothing : presented offered usb = none) : ReadStep offered usb usb
  | byte (byte : UInt8) (rest : List UInt8) (here : presented offered usb = some (byte :: rest)) :
      ReadStep offered usb { usb with
        reading := true
        out := ⟨some rest, usb.out.read ++ [byte], usb.out.cleared⟩
        receiveBuffer :=
          if usb.clearBuffer then usb.receiveBuffer else rbPushBack usb.receiveBuffer byte }
  | acknowledge (here : presented offered usb = some []) (reading : usb.reading = true) :
      ReadStep offered usb { usb with
        out := ⟨none, [], usb.out.cleared ++ [usb.out.read]⟩
        clearBuffer := false
        reading := true }
  | stuck (here : presented offered usb = some []) (idle : usb.reading = false) :
      ReadStep offered usb { usb with out.unread := some [] }

theorem readStep (offered : Option (List UInt8)) (usb : SerialIO) :
    ReadStep offered usb (usbReadNextByte offered usb) := by
  cases here : presented offered usb with
  | none =>
      rw [usbReadNextByte_of_none here]
      exact .idle here
  | some packet =>
      cases packet with
      | nil =>
          cases reading : usb.reading with
          | true =>
              rw [usbReadNextByte_of_nil here reading]
              exact .acknowledge here reading
          | false =>
              rw [usbReadNextByte_of_stuck here reading]
              exact .stuck here reading
      | cons byte rest =>
          rw [usbReadNextByte_of_byte here]
          exact .byte byte rest here

def OutEndpoint.fresh : OutEndpoint := ⟨none, [], []⟩

/-- Calls of `usb_read_next_byte` from start-up while the host presents `packets` in
order, each as late as it likes. Between two calls the rest of the firmware works on
the buffers and on `clear_buffer`; only these calls use the endpoint and `reading`. -/
structure ReceiveRun (packets : List (List UInt8)) where
  state : ℕ → SerialIO
  /-- The packet that the host has ready at a call. -/
  offered : ℕ → Option (List UInt8)
  start_reading : (state 0).reading = (usbSetupHardware serialStatic).reading
  start_out : (state 0).out = (usbSetupHardware serialStatic).out
  next_reading : ∀ call, (state (call + 1)).reading =
    (usbReadNextByte (offered call) (state call)).reading
  next_out : ∀ call, (state (call + 1)).out = (usbReadNextByte (offered call) (state call)).out
  inOrder : ∀ call, (state call).out.unread = none →
    offered call = none ∨ offered call = packets[(state call).out.cleared.length]?

namespace ReceiveRun

variable {packets : List (List UInt8)} (run : ReceiveRun packets)

/-- The packet is presented to the free endpoint at this call. -/
def Presents (call : ℕ) (packet : List UInt8) : Prop :=
  (run.state call).out.unread = none ∧ run.offered call = some packet

/-- A packet of `n` bytes is pushed in the first `n` calls and acknowledged in the next. -/
structure Acknowledges (call : ℕ) (packet : List UInt8) : Prop where
  notBefore : ∀ later ≤ packet.length,
    (run.state (call + later)).out.cleared = (run.state call).out.cleared
  acknowledged : (run.state (call + packet.length + 1)).out =
    ⟨none, [], (run.state call).out.cleared ++ [packet]⟩
  pushed : ∀ later, (inside : later < packet.length) →
    (usbReadNextByte (run.offered (call + later)) (run.state (call + later))).receiveBuffer =
      if (run.state (call + later)).clearBuffer then (run.state (call + later)).receiveBuffer
      else rbPushBack (run.state (call + later)).receiveBuffer packet[later]
  nothingElse :
    (usbReadNextByte (run.offered (call + packet.length))
      (run.state (call + packet.length))).receiveBuffer =
      (run.state (call + packet.length)).receiveBuffer
  inSequence : (run.state call).out.cleared ++ [packet] <+: packets

variable {run}

/-- Before anything is read the flag is down, and a free endpoint has read nothing. -/
theorem invariant (call : ℕ) :
    ((run.state call).out.unread = none → (run.state call).out.read = []) ∧
      ((run.state call).out = .fresh → (run.state call).reading = false) := by
  induction call with
  | zero =>
      rw [run.start_out, run.start_reading]
      exact ⟨fun _ => rfl, fun _ => rfl⟩
  | succ call ih =>
      rw [run.next_out, run.next_reading]
      have step := readStep (run.offered call) (run.state call)
      generalize usbReadNextByte (run.offered call) (run.state call) = after at step ⊢
      cases step with
      | idle nothing => exact ih
      | byte byte rest here =>
          constructor
          · intro free
            cases free
          · intro fresh
            cases fresh
      | acknowledge here reading =>
          constructor
          · exact fun _ => rfl
          · intro fresh
            have empty := congrArg (fun out : OutEndpoint => out.cleared) fresh
            exact absurd empty (List.append_ne_nil_of_right_ne_nil _ (List.cons_ne_nil _ _))
      | stuck here idle =>
          constructor
          · intro free
            cases free
          · exact fun _ => idle

theorem fresh_or_reading
    (nonempty : ∀ call, (run.state call).out = .fresh → run.offered call ≠ some [])
    (call : ℕ) : (run.state call).out = .fresh ∨ (run.state call).reading = true := by
  induction call with
  | zero => exact Or.inl run.start_out
  | succ call ih =>
      rw [run.next_out, run.next_reading]
      have step := readStep (run.offered call) (run.state call)
      generalize usbReadNextByte (run.offered call) (run.state call) = after at step ⊢
      cases step with
      | idle nothing => exact ih
      | byte byte rest here => exact Or.inr rfl
      | acknowledge here reading => exact Or.inr rfl
      | stuck here idle =>
          rcases ih with fresh | reading
          · rw [presented, fresh] at here
            exact absurd here (nonempty call fresh)
          · rw [idle] at reading
            cases reading

theorem prefix_concat_of_next {α : Type} {done list : List α} {next : α}
    (begun : done <+: list) (following : list[done.length]? = some next) :
    done ++ [next] <+: list := by
  obtain ⟨left, rfl⟩ := begun
  rw [List.getElem?_append_right (Nat.le_refl _), Nat.sub_self,
    ← List.head?_eq_getElem?] at following
  obtain ⟨rest, rfl⟩ := List.head?_eq_some_iff.mp following
  exact ⟨rest, by rw [List.append_assoc, List.singleton_append]⟩

theorem sequence (call : ℕ) :
    (run.state call).out.cleared <+: packets ∧
      ∀ rest, (run.state call).out.unread = some rest →
        packets[(run.state call).out.cleared.length]? =
          some ((run.state call).out.read ++ rest) := by
  induction call with
  | zero =>
      rw [run.start_out]
      exact ⟨List.nil_prefix, fun _ some => nomatch some⟩
  | succ call ih =>
      have current : ∀ rest, presented (run.offered call) (run.state call) = some rest →
          packets[(run.state call).out.cleared.length]? =
            some ((run.state call).out.read ++ rest) := by
        intro rest here
        cases unread : (run.state call).out.unread with
        | some left =>
            rw [presented, unread] at here
            cases here
            exact ih.2 rest unread
        | none =>
            rw [presented, unread, Option.none_or] at here
            rcases run.inOrder call unread with nothing | next
            · rw [nothing] at here
              cases here
            · rw [(invariant call).1 unread, ← next, here, List.nil_append]
      rw [run.next_out]
      have step := readStep (run.offered call) (run.state call)
      generalize usbReadNextByte (run.offered call) (run.state call) = after at step ⊢
      cases step with
      | idle nothing => exact ih
      | byte byte rest here =>
          refine ⟨ih.1, ?_⟩
          intro left unread
          cases unread
          rw [List.append_assoc]
          exact current _ here
      | acknowledge here reading =>
          have whole := current _ here
          rw [List.append_nil] at whole
          exact ⟨prefix_concat_of_next ih.1 whole, fun _ some => nomatch some⟩
      | stuck here idle =>
          refine ⟨ih.1, ?_⟩
          intro left unread
          cases unread
          exact current _ here

theorem reading_packet {call : ℕ} {packet : List UInt8} (presents : run.Presents call packet)
    (later : ℕ) (within : later ≤ packet.length) :
    presented (run.offered (call + later)) (run.state (call + later)) =
        some (packet.drop later) ∧
      (run.state (call + later)).out.read = packet.take later ∧
      (run.state (call + later)).out.cleared = (run.state call).out.cleared ∧
      (0 < later → (run.state (call + later)).reading = true) := by
  obtain ⟨free, offers⟩ := presents
  induction later with
  | zero =>
      refine ⟨?_, (invariant call).1 free, rfl, fun late => absurd late (Nat.lt_irrefl 0)⟩
      rw [presented, Nat.add_zero, free, offers]
      rfl
  | succ later ih =>
      obtain ⟨here, read, cleared, -⟩ := ih (by omega)
      have inside : later < packet.length := by omega
      rw [List.drop_eq_getElem_cons inside] at here
      have step := usbReadNextByte_of_byte here
      have out := run.next_out (call + later)
      have reading := run.next_reading (call + later)
      rw [step] at out reading
      rw [← Nat.add_assoc]
      refine ⟨?_, ?_, ?_, fun _ => reading⟩
      · rw [presented, out]
        rfl
      · rw [out, List.take_succ_eq_append_getElem inside, ← read]
      · rw [out, ← cleared]

theorem acknowledges {call : ℕ} {packet : List UInt8} (presents : run.Presents call packet)
    (reading : packet = [] → (run.state call).reading = true) : run.Acknowledges call packet := by
  have last := reading_packet presents packet.length (Nat.le_refl _)
  obtain ⟨here, read, cleared, later⟩ := last
  have nothing : presented (run.offered (call + packet.length))
      (run.state (call + packet.length)) = some [] := by
    rw [here, List.drop_length]
  have flag : (run.state (call + packet.length)).reading = true := by
    cases packet with
    | nil => exact reading rfl
    | cons byte rest => exact later (Nat.succ_pos _)
  have step := usbReadNextByte_of_nil nothing flag
  exact {
    notBefore := fun later within => (reading_packet presents later within).2.2.1
    acknowledged := by
      rw [run.next_out, step, read, cleared, List.take_length]
    pushed := by
      intro later inside
      have here := (reading_packet presents later (Nat.le_of_lt inside)).1
      rw [List.drop_eq_getElem_cons inside] at here
      rw [usbReadNextByte_of_byte here]
    nothingElse := by rw [step]
    inSequence := by
      have after : (run.state (call + packet.length + 1)).out.cleared <+: packets :=
        (sequence _).1
      rwa [run.next_out, step, read, cleared, List.take_length] at after }

/-- Every packet is acknowledged exactly if the first one presented is not empty. -/
theorem acknowledges_iff (run : ReceiveRun packets) :
    (∀ call packet, run.Presents call packet → run.Acknowledges call packet) ↔
      ∀ call, (run.state call).out = .fresh → run.offered call ≠ some [] := by
  constructor
  · intro every call fresh empty
    have free : (run.state call).out.unread = none := by
      rw [fresh]
      rfl
    have acknowledged := (every call [] ⟨free, empty⟩).acknowledged
    have idle := (invariant call).2 fresh
    have here : presented (run.offered call) (run.state call) = some [] := by
      rw [presented, free, empty]
      rfl
    have out := run.next_out call
    rw [usbReadNextByte_of_stuck here idle] at out
    rw [List.length_nil, Nat.add_zero, out] at acknowledged
    cases acknowledged
  · intro nonempty call packet presents
    apply acknowledges presents
    rintro rfl
    rcases fresh_or_reading nonempty call with fresh | reading
    · exact absurd presents.2 (nonempty call fresh)
    · exact reading

end ReceiveRun

/-- A host that always has the next packet ready. -/
def promptState (packets : List (List UInt8)) : ℕ → SerialIO
  | 0 => usbSetupHardware serialStatic
  | call + 1 =>
      usbReadNextByte packets[(promptState packets call).out.cleared.length]?
        (promptState packets call)

def promptRun (packets : List (List UInt8)) : ReceiveRun packets where
  state := promptState packets
  offered call := packets[(promptState packets call).out.cleared.length]?
  start_reading := rfl
  start_out := rfl
  next_reading _ := rfl
  next_out _ := rfl
  inOrder _ _ := Or.inr rfl

example : ((promptRun [[7, 8], []]).state 4).out.cleared = [[7, 8], []] := by decide

/-- A zero-length packet that comes first stays in the endpoint. -/
theorem not_acknowledges :
    ¬ ∀ (packets : List (List UInt8)) (run : ReceiveRun packets) (call : ℕ)
      (packet : List UInt8), run.Presents call packet → run.Acknowledges call packet := by
  intro every
  have acknowledged := (every [[]] (promptRun [[]]) 0 [] ⟨rfl, rfl⟩).acknowledged
  have cleared := congrArg OutEndpoint.cleared acknowledged
  exact absurd cleared (by decide)

end ZumoDelivery
