import ZumoDelivery.Host.SerialMonitor

set_option autoImplicit false

namespace ZumoDelivery

open PyStruct

theorem length_readFormatByte_le (tmp : UInt8) (s : SerialData) (inWaiting : List UInt8) :
    (readFormatByte tmp s inWaiting).2.length ≤ inWaiting.length := by
  unfold readFormatByte
  dsimp only
  split
  · split
    · exact Nat.le_refl _
    · split
      all_goals exact Nat.le_refl _
  · split
    · exact Nat.le_refl _
    · split
      · split
        all_goals
          rw [List.length_drop]
          omega
      · exact Nat.le_refl _

theorem readFormatByte_append (tmp : UInt8) (s : SerialData) (inWaiting more : List UInt8)
    (enough : s.dataNumBytes - 1 ≤ inWaiting.length) :
    readFormatByte tmp s (inWaiting ++ more) =
      ((readFormatByte tmp s inWaiting).1, (readFormatByte tmp s inWaiting).2 ++ more) := by
  unfold readFormatByte
  dsimp only
  split
  · split
    · rfl
    · split
      all_goals rfl
  · split
    · rfl
    · rename_i size sized
      split
      · rename_i same
        have here : size ≤ inWaiting.length := by omega
        rw [List.take_append_of_le_length here, List.drop_append_of_le_length here]
        split
        all_goals rfl
      · rfl

/-- What one pass of the thread can do. -/
inductive ThreadPass (s : SerialData) : List UInt8 → SerialData × List UInt8 → Prop where
  | defined {inWaiting : List UInt8} (running : s.isRun = true)
      (defined : s.definedDataMode = true) (some : 0 < s.dataNumBytes)
      (waiting : s.dataNumBytes ≤ inWaiting.length) :
      ThreadPass s inWaiting
        ((parseData { s with rawData := inWaiting.take s.dataNumBytes.toNat }).getD
          (connectionLost { s with rawData := inWaiting.take s.dataNumBytes.toNat }),
          inWaiting.drop s.dataNumBytes.toNat)
  | length (first : UInt8) (rest : List UInt8) (running : s.isRun = true)
      (dynamic : s.definedDataMode = false) (between : s.dataNumBytes = -1) :
      ThreadPass s (first :: rest) ({ s with dataNumBytes := signedLittleEndian [first] }, rest)
  | byte (first : UInt8) (rest : List UInt8) (running : s.isRun = true)
      (dynamic : s.definedDataMode = false) (some : 0 < s.dataNumBytes)
      (waiting : s.dataNumBytes ≤ rest.length + 1) :
      ThreadPass s (first :: rest) (readFormatByte first s rest)
  | zero {inWaiting : List UInt8} (running : s.isRun = true) (zero : s.dataNumBytes = 0) :
      ThreadPass s inWaiting ({ s with dataNumBytes := -1 }, inWaiting)

theorem ThreadPass.eq {s : SerialData} {inWaiting : List UInt8} {next : SerialData × List UInt8}
    (pass : ThreadPass s inWaiting next) : backgroundThread s inWaiting = some next := by
  cases pass with
  | defined running defined some waiting =>
      simp [backgroundThread, running, defined, some, waiting]
  | length first rest running dynamic between =>
      simp [backgroundThread, running, dynamic, between]
  | byte first rest running dynamic some waiting =>
      have started : s.dataNumBytes ≠ -1 := by omega
      simp [backgroundThread, running, dynamic, some, started]
      intro beyond
      omega
  | zero running zero =>
      simp [backgroundThread, running, zero]

theorem threadPass_of_eq {s : SerialData} {inWaiting : List UInt8}
    {next : SerialData × List UInt8} (step : backgroundThread s inWaiting = some next) :
    ThreadPass s inWaiting next := by
  unfold backgroundThread at step
  dsimp only at step
  split at step
  · cases step
  rename_i running
  have running : s.isRun = true := by simpa using running
  split at step
  · rename_i waiting
    cases step
    exact .defined running waiting.1 waiting.2.2 waiting.2.1
  split at step
  · rename_i waiting
    cases step
    obtain ⟨first, rest, rfl⟩ := List.exists_cons_of_ne_nil waiting.2.1
    exact .length first rest running (by simpa using waiting.1) waiting.2.2
  split at step
  · rename_i waiting
    cases step
    cases inWaiting with
    | nil =>
        simp only [List.length_nil] at waiting
        omega
    | cons first rest =>
        simp only [List.length_cons] at waiting
        exact .byte first rest running (by simpa using waiting.1) waiting.2.2 (by omega)
  split at step
  · rename_i zero
    cases step
    exact .zero running zero
  · cases step

theorem extend_backgroundThread (s : SerialData) (inWaiting : List UInt8) (next : SerialData)
    (rest more : List UInt8) (step : backgroundThread s inWaiting = some (next, rest)) :
    backgroundThread s (inWaiting ++ more) = some (next, rest ++ more) := by
  have pass := threadPass_of_eq step
  clear step
  apply ThreadPass.eq
  generalize last : (next, rest) = after at pass
  cases pass with
  | defined running defined some waiting =>
      cases last
      have here : s.dataNumBytes.toNat ≤ inWaiting.length := by omega
      rw [← List.drop_append_of_le_length here, ← List.take_append_of_le_length here]
      refine .defined running defined some ?_
      rw [List.length_append]
      omega
  | length first tail running dynamic between =>
      cases last
      exact .length first (rest ++ more) running dynamic between
  | byte first tail running dynamic some waiting =>
      have read := readFormatByte_append first s tail more (by omega)
      rw [← last] at read
      change ThreadPass s (first :: (tail ++ more)) _
      rw [← read]
      refine .byte first (tail ++ more) running dynamic some ?_
      rw [List.length_append]
      omega
  | zero running zero =>
      cases last
      exact .zero running zero

/-- Every pass takes a byte, or resets a count of 0. -/
def passesLeft (s : SerialData) (inWaiting : List UInt8) : ℕ :=
  2 * inWaiting.length + if s.dataNumBytes = 0 then 1 else 0

theorem passesLeft_decreases (s : SerialData) (inWaiting : List UInt8) (next : SerialData)
    (rest : List UInt8) (step : backgroundThread s inWaiting = some (next, rest)) :
    passesLeft next rest < passesLeft s inWaiting := by
  have pass := threadPass_of_eq step
  clear step
  generalize last : (next, rest) = after at pass
  unfold passesLeft
  cases pass with
  | defined running defined some waiting =>
      cases last
      rw [List.length_drop]
      split <;> split <;> omega
  | length first tail running dynamic between =>
      cases last
      rw [List.length_cons]
      split <;> split <;> omega
  | byte first tail running dynamic some waiting =>
      have taken := length_readFormatByte_le first s tail
      rw [← last] at taken
      rw [List.length_cons]
      change rest.length ≤ _ at taken
      split <;> split <;> omega
  | zero running zero =>
      cases last
      simp [zero]

def serialReader : StreamReader SerialData UInt8 where
  step := backgroundThread
  measure := passesLeft
  extend := extend_backgroundThread
  decreases := passesLeft_decreases

/-- The thread runs in Dynamic mode on an open port. -/
structure SerialData.Listening (s : SerialData) : Prop where
  running : s.isRun = true
  opened : s.portOpen = true
  dynamic : s.definedDataMode = false

structure SerialData.Idle (s : SerialData) : Prop extends s.Listening where
  between : s.dataNumBytes = -1
  fresh : s.dataFormat = ['<']

/-- The thread at its start, after `setDataFormat("Dynamic")`. -/
def dynamicStart : SerialData := ⟨true, true, false, -1, ['<'], [], []⟩

theorem idle_dynamicStart : dynamicStart.Idle := ⟨⟨rfl, rfl, rfl⟩, rfl, rfl⟩

/-- With so many bytes of a message to come and the format read so far. -/
def SerialData.inFrame (s : SerialData) (numBytes : ℤ) (format : List Char) : SerialData :=
  { s with dataNumBytes := numBytes, dataFormat := '<' :: format }

/-- After some rounds of callbacks, the last of them on `raw`. -/
def SerialData.called (s : SerialData) (raw : List UInt8) (calls : List (List PyVal)) :
    SerialData :=
  { s with rawData := raw, calls := s.calls ++ calls }

variable {s : SerialData} {format : List Char}

theorem SerialData.Idle.eq (idle : s.Idle) : s.inFrame (-1) [] = s := by
  have between := idle.between
  have fresh := idle.fresh
  cases s
  simp only at between fresh
  rw [between, fresh]
  rfl

theorem SerialData.Listening.called (listening : s.Listening) (raw : List UInt8)
    (calls : List (List PyVal)) : (s.called raw calls).Listening :=
  ⟨listening.running, listening.opened, listening.dynamic⟩

theorem SerialData.Idle.called (idle : s.Idle) (raw : List UInt8) (calls : List (List PyVal)) :
    (s.called raw calls).Idle :=
  ⟨idle.toListening.called raw calls, idle.between, idle.fresh⟩

theorem SerialData.Listening.idle (listening : s.Listening) : (s.inFrame (-1) []).Idle :=
  ⟨⟨listening.running, listening.opened, listening.dynamic⟩, rfl, rfl⟩

theorem called_called (s : SerialData) (first second : List UInt8)
    (calls more : List (List PyVal)) :
    (s.called first calls).called second more = s.called second (calls ++ more) := by
  simp only [SerialData.called, List.append_assoc]

theorem reaches_length (listening : s.Listening) (format : List Char) (length : UInt8)
    (rest : List UInt8) (short : length < 128) :
    serialReader.Reaches (s.inFrame (-1) format, length :: rest)
      (s.inFrame length.toNat format, rest) := by
  have pass : ThreadPass (s.inFrame (-1) format) (length :: rest) _ :=
    .length length rest listening.running listening.dynamic rfl
  have positive : signedLittleEndian [length] = length.toNat := by
    have small : length.toNat < 128 := UInt8.lt_iff_toNat_lt.mp short
    simp [signedLittleEndian, littleEndian]
    omega
  rw [positive] at pass
  exact .single pass.eq

theorem reaches_byte (listening : s.Listening) (format : List Char) (byte : UInt8)
    (rest : List UInt8) :
    serialReader.Reaches (s.inFrame (rest.length + 1 : ℕ) format, byte :: rest)
      (readFormatByte byte (s.inFrame (rest.length + 1 : ℕ) format) rest) := by
  have pass : ThreadPass (s.inFrame (rest.length + 1 : ℕ) format) (byte :: rest) _ :=
    .byte byte rest listening.running listening.dynamic (Int.natCast_pos.mpr (by omega))
      (Int.le_refl _)
  exact .single pass.eq

theorem reaches_zero (listening : s.Listening) (format : List Char) (rest : List UInt8) :
    serialReader.Reaches (s.inFrame 0 format, rest) (s.inFrame (-1) format, rest) := by
  have pass : ThreadPass (s.inFrame 0 format) rest _ := .zero listening.running rfl
  exact .single pass.eq

theorem sleeps_idle (s : SerialData) (format : List Char) :
    serialReader.step (s.inFrame (-1) format) [] = none := by
  cases step : serialReader.step (s.inFrame (-1) format) [] with
  | none => rfl
  | some next =>
      have pass := threadPass_of_eq step
      generalize between : s.inFrame (-1) format = now at pass
      have count : now.dataNumBytes = -1 := by
        rw [← between]
        rfl
      cases pass with
      | defined running defined some waiting => omega
      | zero running zero => omega

theorem sleeps_short (s : SerialData) (format : List Char) (size : ℕ) (rest : List UInt8)
    (short : rest.length < size) :
    serialReader.step (s.inFrame size format) rest = none := by
  cases step : serialReader.step (s.inFrame size format) rest with
  | none => rfl
  | some next =>
      have pass := threadPass_of_eq step
      generalize between : s.inFrame size format = now at pass
      have count : now.dataNumBytes = size := by
        rw [← between]
        rfl
      cases pass with
      | defined running defined some waiting => omega
      | length first rest running dynamic between => omega
      | byte first rest running dynamic some waiting =>
          rw [List.length_cons] at short
          omega
      | zero running zero => omega

theorem sleeps_ended (ended : s.isRun = false) (rest : List UInt8) :
    serialReader.step s rest = none := by
  change backgroundThread s rest = none
  simp only [backgroundThread, ended, Bool.not_false, ↓reduceIte]

/-- An idle thread ends where it would end with the whole stream waiting, whatever the pace
of arrival, after two passes for each byte. -/
theorem run_of_idle (idle : s.Idle) (arrivals : List (List UInt8)) (n : ℕ)
    (enough : 2 * arrivals.flatten.length ≤ n) :
    serialReader.run (arrivals ++ List.replicate n []) (s, []) =
      serialReader.settle (s, arrivals.flatten) := by
  refine StreamReader.run_eq_settle arrivals s n ?_
  have between := idle.between
  change passesLeft s arrivals.flatten ≤ n
  rw [passesLeft, between, if_neg (by decide)]
  exact enough

theorem settle_of_idle (idle : s.Idle) : serialReader.settle (s, []) = (s, []) := by
  have sleeps := sleeps_idle s []
  rw [idle.eq] at sleeps
  exact StreamReader.settle_of_none sleeps

/-- The formats that are not refused while they are read: the prefixes that end in a digit
and those that `calcsize` takes. -/
def acceptable (format : List Char) : Bool :=
  endsInDigit ('<' :: format) || (calcsize ('<' :: format)).isSome

/-- Bytes that are all appended to the format. -/
inductive FormatText : List Char → List UInt8 → Prop where
  | nil (format : List Char) : FormatText format []
  | cons {format : List Char} {byte : UInt8} {text : List UInt8} (nonzero : byte ≠ 0)
      (ascii : byte < 128) (acceptable : acceptable (format ++ [Ascii.toChar byte]) = true)
      (rest : FormatText (format ++ [Ascii.toChar byte]) text) : FormatText format (byte :: text)

theorem decodeAscii_single {byte : UInt8} (ascii : byte < 128) :
    decodeAscii (.bytes [byte]) = some [Ascii.toChar byte] := by
  simp [decodeAscii, ascii]

theorem decodeAscii_single_of_ge {byte : UInt8} (wide : ¬ byte < 128) :
    decodeAscii (.bytes [byte]) = none := by
  simp [decodeAscii, wide]

theorem readFormatByte_of_acceptable {byte : UInt8} {rest : List UInt8} (nonzero : byte ≠ 0)
    (ascii : byte < 128) (taken : acceptable (format ++ [Ascii.toChar byte]) = true) :
    readFormatByte byte (s.inFrame (rest.length + 1 : ℕ) format) rest =
      (s.inFrame rest.length (format ++ [Ascii.toChar byte]), rest) := by
  have goes : endsInDigit (('<' :: format) ++ [Ascii.toChar byte]) ||
      (calcsize (('<' :: format) ++ [Ascii.toChar byte])).isSome := taken
  have count : ((rest.length + 1 : ℕ) : ℤ) - 1 = rest.length := by omega
  simp only [readFormatByte, SerialData.inFrame, nonzero, decodeAscii_single ascii, goes, count,
    ne_eq, not_false_eq_true, ↓reduceIte]
  rfl

theorem readFormatByte_of_refused {byte : UInt8} {rest : List UInt8} (nonzero : byte ≠ 0)
    (ascii : byte < 128) (refused : acceptable (format ++ [Ascii.toChar byte]) = false) :
    readFormatByte byte (s.inFrame (rest.length + 1 : ℕ) format) rest =
      (s.inFrame (-1) [], rest) := by
  have stops : (endsInDigit (('<' :: format) ++ [Ascii.toChar byte]) ||
      (calcsize (('<' :: format) ++ [Ascii.toChar byte])).isSome) = false := refused
  simp only [readFormatByte, SerialData.inFrame, nonzero, decodeAscii_single ascii, stops,
    ne_eq, not_false_eq_true, Bool.false_eq_true, ↓reduceIte]
  rfl

theorem reaches_text (listening : s.Listening) {text : List UInt8} (read : FormatText format text)
    (tail : List UInt8) :
    serialReader.Reaches (s.inFrame (text ++ tail).length format, text ++ tail)
      (s.inFrame tail.length (format ++ text.map Ascii.toChar), tail) := by
  induction read with
  | nil format =>
      rw [List.map_nil, List.append_nil, List.nil_append]
      exact .refl _
  | @cons format byte text nonzero ascii acceptable rest ih =>
      have first := reaches_byte listening format byte (text ++ tail)
      rw [readFormatByte_of_acceptable nonzero ascii acceptable] at first
      have same : format ++ (byte :: text).map Ascii.toChar =
          format ++ [Ascii.toChar byte] ++ text.map Ascii.toChar := by
        rw [List.map_cons, List.append_assoc, List.singleton_append]
      rw [same]
      exact first.trans ih

end ZumoDelivery
