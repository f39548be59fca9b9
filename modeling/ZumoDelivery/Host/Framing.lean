import ZumoDelivery.Host.DynamicMode

set_option autoImplicit false

namespace ZumoDelivery

open PyStruct

/-- What the callbacks get for a format and its data, `none` if the data has another size
or `parseData` raises. -/
def parsed (format : List Char) (raw : List UInt8) : Option (List PyVal) := do
  let value ← unpack ('<' :: format) raw
  parseFormat value ('<' :: format) 1 [] 0

/-- The format after some more bytes of it. -/
def formatAfter (format : List Char) (text : List UInt8) : List Char :=
  format ++ text.map Ascii.toChar

@[simp] theorem formatAfter_cons (format : List Char) (byte : UInt8) (text : List UInt8) :
    formatAfter format (byte :: text) = formatAfter (format ++ [Ascii.toChar byte]) text := by
  simp [formatAfter]

/-- The bodies that a thread with the given format reads without an exception, with the
format it goes on with, the data it passes to the callbacks and the bytes it leaves. -/
inductive ReadsBody : List Char → List UInt8 → List Char → List (List PyVal) → List UInt8 →
    Prop where
  /-- The count runs out within the format. -/
  | unfinished {format : List Char} {text : List UInt8} (fits : FormatText format text) :
      ReadsBody format text (formatAfter format text) [] []
  /-- A character is refused. -/
  | refused {format : List Char} {text : List UInt8} {byte : UInt8} {left : List UInt8}
      (fits : FormatText format text) (nonzero : byte ≠ 0) (ascii : byte < 128)
      (stops : acceptable (formatAfter format text ++ [Ascii.toChar byte]) = false) :
      ReadsBody format (text ++ byte :: left) [] [] left
  /-- The data has another size than the format. -/
  | mismatch {format : List Char} {text left : List UInt8} {size : ℕ}
      (fits : FormatText format text)
      (sized : calcsize ('<' :: formatAfter format text) = some size)
      (differs : size ≠ left.length) : ReadsBody format (text ++ 0 :: left) [] [] left
  | whole {format : List Char} {text payload : List UInt8} {data : List PyVal}
      (fits : FormatText format text)
      (done : parsed (formatAfter format text) payload = some data) :
      ReadsBody format (text ++ 0 :: payload) [] [data] []

/-- The bodies on which the thread raises. -/
inductive RaisesOn : List Char → List UInt8 → Prop where
  | wide {format : List Char} {text : List UInt8} {byte : UInt8} {left : List UInt8}
      (fits : FormatText format text) (wide : ¬ byte < 128) :
      RaisesOn format (text ++ byte :: left)
  /-- Only a format that ends in a digit gets here without a size. -/
  | unsized {format : List Char} {text left : List UInt8} (fits : FormatText format text)
      (unsized : calcsize ('<' :: formatAfter format text) = none) :
      RaisesOn format (text ++ 0 :: left)
  | unparsed {format : List Char} {text payload : List UInt8} (fits : FormatText format text)
      (sized : calcsize ('<' :: formatAfter format text) = some payload.length)
      (unparsed : parsed (formatAfter format text) payload = none) :
      RaisesOn format (text ++ 0 :: payload)

theorem ReadsBody.cons {format format' : List Char} {byte : UInt8} {body left : List UInt8}
    {calls : List (List PyVal)} (nonzero : byte ≠ 0) (ascii : byte < 128)
    (taken : acceptable (format ++ [Ascii.toChar byte]) = true)
    (rest : ReadsBody (format ++ [Ascii.toChar byte]) body format' calls left) :
    ReadsBody format (byte :: body) format' calls left := by
  cases rest with
  | unfinished text =>
      rw [← formatAfter_cons]
      exact .unfinished (.cons nonzero ascii taken text)
  | refused text here narrow refused =>
      rw [← formatAfter_cons] at refused
      exact .refused (.cons nonzero ascii taken text) here narrow refused
  | mismatch text sized differs =>
      rw [← formatAfter_cons] at sized
      exact .mismatch (.cons nonzero ascii taken text) sized differs
  | whole text parsed =>
      rw [← formatAfter_cons] at parsed
      exact .whole (.cons nonzero ascii taken text) parsed

theorem RaisesOn.cons {format : List Char} {byte : UInt8} {body : List UInt8}
    (nonzero : byte ≠ 0) (ascii : byte < 128)
    (taken : acceptable (format ++ [Ascii.toChar byte]) = true)
    (rest : RaisesOn (format ++ [Ascii.toChar byte]) body) : RaisesOn format (byte :: body) := by
  cases rest with
  | wide text wide => exact .wide (.cons nonzero ascii taken text) wide
  | unsized text unsized =>
      rw [← formatAfter_cons] at unsized
      exact .unsized (.cons nonzero ascii taken text) unsized
  | unparsed text sized unparsed =>
      rw [← formatAfter_cons] at sized unparsed
      exact .unparsed (.cons nonzero ascii taken text) sized unparsed

theorem body_cases (format : List Char) (body : List UInt8) :
    (∃ format' calls left, ReadsBody format body format' calls left) ∨ RaisesOn format body := by
  induction body generalizing format with
  | nil => exact Or.inl ⟨_, _, _, .unfinished (.nil format)⟩
  | cons byte body ih =>
      by_cases wide : ¬ byte < 128
      · exact Or.inr (.wide (.nil format) wide)
      have ascii : byte < 128 := Decidable.of_not_not wide
      by_cases zero : byte = 0
      · subst zero
        cases sized : calcsize ('<' :: formatAfter format []) with
        | none => exact Or.inr (.unsized (.nil format) sized)
        | some size =>
            by_cases differs : size = body.length
            · cases result : parsed (formatAfter format []) body with
              | none => exact Or.inr (.unparsed (.nil format) (differs ▸ sized) result)
              | some data => exact Or.inl ⟨_, _, _, .whole (.nil format) result⟩
            · exact Or.inl ⟨_, _, _, .mismatch (.nil format) sized differs⟩
      · cases taken : acceptable (format ++ [Ascii.toChar byte]) with
        | false =>
            refine Or.inl ⟨_, _, _, .refused (.nil format) zero ascii ?_⟩
            rw [formatAfter, List.map_nil, List.append_nil]
            exact taken
        | true =>
            rcases ih (format ++ [Ascii.toChar byte]) with ⟨format', calls, left, reads⟩ | raises
            · exact Or.inl ⟨format', calls, left, reads.cons zero ascii taken⟩
            · exact Or.inr (raises.cons zero ascii taken)

theorem ReadsBody.left_le {format format' : List Char} {body left : List UInt8}
    {calls : List (List PyVal)} (reads : ReadsBody format body format' calls left) :
    left.length ≤ body.length := by
  cases reads
  all_goals
    simp
    try omega

theorem ReadsBody.left_subset {format format' : List Char} {body left : List UInt8}
    {calls : List (List PyVal)} (reads : ReadsBody format body format' calls left) :
    left ⊆ body := by
  cases reads with
  | refused fits nonzero ascii stops =>
      intro byte member
      exact List.mem_append_right _ (List.mem_cons_of_mem _ member)
  | mismatch fits sized differs =>
      intro byte member
      exact List.mem_append_right _ (List.mem_cons_of_mem _ member)
  | unfinished fits => exact List.nil_subset _
  | whole fits done => exact List.nil_subset _

variable {s : SerialData} {format : List Char}

theorem isSome_unpack_iff (format : List Char) (raw : List UInt8) :
    (unpack format raw).isSome = true ↔ calcsize format = some raw.length := by
  unfold unpack calcsize
  split
  · split
    · split <;> split <;> simp <;> omega
    · simp
  · simp

theorem parseData_inFrame (n : ℤ) (format : List Char) (raw : List UInt8)
    (sized : calcsize ('<' :: format) = some raw.length) :
    parseData { s.inFrame n format with rawData := raw } =
      (parsed format raw).map fun data => (s.called raw [data]).inFrame n format := by
  obtain ⟨value, unpacked⟩ := Option.isSome_iff_exists.mp ((isSome_unpack_iff _ _).mpr sized)
  simp only [parseData, parsed, SerialData.inFrame, unpacked, Option.bind_eq_bind,
    Option.bind_some]
  cases parseFormat value ('<' :: format) 1 [] 0 with
  | none => rfl
  | some data => rfl

theorem calcsize_of_parsed {raw : List UInt8} {data : List PyVal}
    (done : parsed format raw = some data) : calcsize ('<' :: format) = some raw.length := by
  rw [← isSome_unpack_iff]
  cases unpacked : unpack ('<' :: format) raw with
  | none =>
      rw [parsed, unpacked] at done
      cases done
  | some value => rfl

theorem readFormatByte_of_whole {payload : List UInt8} {data : List PyVal}
    (done : parsed format payload = some data) :
    readFormatByte 0 (s.inFrame (payload.length + 1 : ℕ) format) payload =
      ((s.called payload [data]).inFrame (-1) [], []) := by
  have sized := calcsize_of_parsed done
  have count : ((payload.length + 1 : ℕ) : ℤ) - 1 = payload.length := by omega
  have result := parseData_inFrame (s := s) payload.length format payload sized
  rw [done, Option.map_some] at result
  simp only [SerialData.inFrame] at result
  simp only [readFormatByte, SerialData.inFrame, sized, count, ne_eq, not_true_eq_false,
    List.take_length, List.drop_length, result, ↓reduceIte]
  rfl

theorem readFormatByte_of_unparsed {payload : List UInt8}
    (sized : calcsize ('<' :: format) = some payload.length)
    (raises : parsed format payload = none) :
    (readFormatByte 0 (s.inFrame (payload.length + 1 : ℕ) format) payload).1.isRun = false ∧
      (readFormatByte 0 (s.inFrame (payload.length + 1 : ℕ) format) payload).1.portOpen =
        false := by
  have count : ((payload.length + 1 : ℕ) : ℤ) - 1 = payload.length := by omega
  have result := parseData_inFrame (s := s) payload.length format payload sized
  rw [raises, Option.map_none] at result
  simp only [SerialData.inFrame] at result
  simp only [readFormatByte, SerialData.inFrame, sized, count, ne_eq, not_true_eq_false,
    List.take_length, result, ↓reduceIte]
  exact ⟨rfl, rfl⟩

theorem readFormatByte_of_mismatch {left : List UInt8} {size : ℕ}
    (sized : calcsize ('<' :: format) = some size) (differs : size ≠ left.length) :
    readFormatByte 0 (s.inFrame (left.length + 1 : ℕ) format) left =
      (s.inFrame (-1) [], left) := by
  have count : ((left.length + 1 : ℕ) : ℤ) - 1 = left.length := by omega
  have other : ¬ (size : ℤ) = left.length := by omega
  simp only [readFormatByte, SerialData.inFrame, sized, count, other, ne_eq, not_true_eq_false,
    ↓reduceIte]
  rfl

theorem reaches_body (listening : s.Listening) {body left : List UInt8} {format' : List Char}
    {calls : List (List PyVal)} (reads : ReadsBody format body format' calls left) :
    ∃ raw, serialReader.Reaches (s.inFrame body.length format, body)
      ((s.called raw calls).inFrame (-1) format', left) := by
  have unchanged : s.called s.rawData [] = s := by simp [SerialData.called]
  cases reads with
  | unfinished text =>
      have read := reaches_text listening text []
      rw [List.append_nil] at read
      refine ⟨s.rawData, ?_⟩
      rw [unchanged]
      exact read.trans (reaches_zero listening _ [])
  | @refused text byte left fits nonzero ascii refused =>
      have read := reaches_text listening fits (byte :: left)
      have last := reaches_byte listening (formatAfter format text) byte left
      rw [readFormatByte_of_refused nonzero ascii refused] at last
      refine ⟨s.rawData, ?_⟩
      rw [unchanged]
      exact read.trans last
  | @mismatch text left size fits sized differs =>
      have read := reaches_text listening fits (0 :: left)
      have last := reaches_byte listening (formatAfter format text) 0 left
      rw [readFormatByte_of_mismatch sized differs] at last
      refine ⟨s.rawData, ?_⟩
      rw [unchanged]
      exact read.trans last
  | @whole text payload data fits done =>
      have read := reaches_text listening fits (0 :: payload)
      have last := reaches_byte listening (formatAfter format text) 0 payload
      rw [readFormatByte_of_whole done] at last
      exact ⟨payload, read.trans last⟩

/-- The outermost `except` has run. -/
structure SerialData.Lost (s : SerialData) : Prop where
  ended : s.isRun = false
  closed : s.portOpen = false

theorem reaches_lost (listening : s.Listening) {body : List UInt8}
    (raises : RaisesOn format body) :
    ∃ last, serialReader.Reaches (s.inFrame body.length format, body) last ∧ last.1.Lost := by
  cases raises with
  | @wide text byte left fits wide =>
      have read := reaches_text listening fits (byte :: left)
      have last := reaches_byte listening (formatAfter format text) byte left
      have nonzero : byte ≠ 0 := by
        rintro rfl
        exact wide (by decide)
      refine ⟨_, read.trans last, ?_⟩
      simp only [readFormatByte, decodeAscii_single_of_ge wide, nonzero, ne_eq,
        not_false_eq_true, ↓reduceIte]
      exact ⟨rfl, rfl⟩
  | @unsized text left fits unsized =>
      have read := reaches_text listening fits (0 :: left)
      have last := reaches_byte listening (formatAfter format text) 0 left
      refine ⟨_, read.trans last, ?_⟩
      simp only [readFormatByte, SerialData.inFrame, unsized, ne_eq, not_true_eq_false,
        ↓reduceIte]
      exact ⟨rfl, rfl⟩
  | @unparsed text payload fits sized unparsed =>
      have read := reaches_text listening fits (0 :: payload)
      have last := reaches_byte listening (formatAfter format text) 0 payload
      have lost := readFormatByte_of_unparsed (s := s) sized unparsed
      exact ⟨_, read.trans last, ⟨lost.1, lost.2⟩⟩

end ZumoDelivery
