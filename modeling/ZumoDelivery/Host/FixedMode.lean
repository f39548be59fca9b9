import Mathlib.Data.List.ReduceOption
import ZumoDelivery.Host.DataFormat
import ZumoDelivery.Host.Fields

set_option autoImplicit false

namespace ZumoDelivery

open PyStruct

def records (size : ℕ) (stream : List UInt8) : List (List UInt8) :=
  (List.range (stream.length / size)).map fun i => (stream.drop (size * i)).take size

theorem records_of_short {size : ℕ} {stream : List UInt8} (short : stream.length < size) :
    records size stream = [] := by
  rw [records, Nat.div_eq_of_lt short]
  rfl

theorem records_of_whole {size : ℕ} {stream : List UInt8} (positive : 0 < size)
    (whole : size ≤ stream.length) :
    records size stream = stream.take size :: records size (stream.drop size) := by
  have count : stream.length / size = (stream.drop size).length / size + 1 := by
    rw [List.length_drop, Nat.div_eq_sub_div positive whole]
  rw [records, count, List.range_succ_eq_map, List.map_cons, List.map_map, records]
  congr 1
  apply List.map_congr_left
  intro i _
  rw [Function.comp_apply, List.drop_drop, Nat.mul_succ, Nat.add_comm]

theorem length_of_mem_records {size : ℕ} {stream record : List UInt8}
    (member : record ∈ records size stream) : record.length = size := by
  obtain ⟨i, inside, rfl⟩ := List.mem_map.mp member
  have below := List.mem_range.mp inside
  have room : size * (i + 1) ≤ stream.length :=
    Nat.le_trans (Nat.mul_le_mul_left size below) (Nat.mul_div_le _ _)
  rw [Nat.mul_succ] at room
  rw [List.length_take, List.length_drop]
  omega

/-- What the callbacks get: the data of the records before the first that cannot be parsed. -/
def recordData (format : List Char) (size : ℕ) (stream : List UInt8) : List (List PyVal) :=
  (((records size stream).map (parsed format)).takeWhile Option.isSome).reduceOption

/-- The thread runs with a fixed format. -/
structure SerialData.Reading (s : SerialData) (format : List Char) (size : ℕ) : Prop where
  running : s.isRun = true
  defined : s.definedDataMode = true
  dataFormat : s.dataFormat = '<' :: format
  numBytes : s.dataNumBytes = size
  sized : calcsize ('<' :: format) = some size

structure FixedRead (format : List Char) (size : ℕ) (s : SerialData) (stream : List UInt8)
    (final : SerialData × List UInt8) : Prop where
  calls : final.1.calls = s.calls ++ recordData format size stream
  running : final.1.isRun = true ↔
    ∀ record ∈ records size stream, (parsed format record).isSome = true
  /-- The record that cannot be parsed is the last one taken. -/
  rest : final.2 = stream.drop
    (size * min (stream.length / size) ((recordData format size stream).length + 1))

namespace SerialData.Reading

variable {s : SerialData} {format : List Char} {size : ℕ}

theorem called (reading : s.Reading format size) (raw : List UInt8)
    (calls : List (List PyVal)) : (s.called raw calls).Reading format size :=
  ⟨reading.running, reading.defined, reading.dataFormat, reading.numBytes, reading.sized⟩

theorem sleeps (reading : s.Reading format size) {stream : List UInt8}
    (short : stream.length < size) : backgroundThread s stream = none := by
  have running := reading.running
  have defined := reading.defined
  have numBytes := reading.numBytes
  have long : ¬ size ≤ stream.length := Nat.not_le_of_lt short
  have some : size ≠ 0 := by omega
  simp [backgroundThread, running, defined, numBytes, long, some]

theorem parseData_eq (reading : s.Reading format size) {raw : List UInt8}
    (length : raw.length = size) :
    parseData { s with rawData := raw } =
      (parsed format raw).map fun data => s.called raw [data] := by
  have dataFormat := reading.dataFormat
  obtain ⟨value, unpacked⟩ := Option.isSome_iff_exists.mp
    ((isSome_unpack_iff ('<' :: format) raw).mpr (by rw [length]; exact reading.sized))
  simp only [parseData, parsed, dataFormat, unpacked, Option.bind_eq_bind, Option.bind_some]
  cases parseFormat value ('<' :: format) 1 [] 0 with
  | none => rfl
  | some data =>
      rw [← dataFormat]
      rfl

theorem step (reading : s.Reading format size) (positive : 0 < size) {stream : List UInt8}
    (whole : size ≤ stream.length) :
    backgroundThread s stream = some
      ((parsed format (stream.take size)).elim
        (connectionLost { s with rawData := stream.take size })
        (fun data => s.called (stream.take size) [data]), stream.drop size) := by
  have numBytes := reading.numBytes
  have pass : ThreadPass s stream _ := .defined reading.running reading.defined
    (by rw [numBytes]; exact_mod_cast positive) (by rw [numBytes]; exact_mod_cast whole)
  have count : s.dataNumBytes.toNat = size := by
    rw [numBytes, Int.toNat_natCast]
  rw [count, reading.parseData_eq (List.length_take_of_le whole)] at pass
  rw [pass.eq]
  cases parsed format (stream.take size) with
  | none => rfl
  | some data => rfl

end SerialData.Reading

theorem fixedRead_settle {format : List Char} {size : ℕ} (positive : 0 < size) (s : SerialData)
    (reading : s.Reading format size) (stream : List UInt8) :
    FixedRead format size s stream (serialReader.settle (s, stream)) := by
  induction length : stream.length using Nat.strong_induction_on generalizing s stream with
  | _ bytes ih =>
      by_cases whole : size ≤ stream.length
      · have step := reading.step positive whole
        have settled : serialReader.settle (s, stream) = serialReader.settle _ :=
          StreamReader.settle_of_step step
        have split := records_of_whole positive whole
        rw [settled]
        cases parses : parsed format (stream.take size) with
        | none =>
            have lost : recordData format size stream = [] := by
              rw [recordData, split, List.map_cons, parses]
              rfl
            have one : min (stream.length / size) (0 + 1) = 1 :=
              Nat.min_eq_right (Nat.div_pos whole positive)
            rw [Option.elim_none, StreamReader.settle_of_none rfl]
            constructor
            · rw [lost, List.append_nil]
              rfl
            · refine iff_of_false Bool.false_ne_true fun all => ?_
              have first := all (stream.take size) (by rw [split]; exact List.mem_cons_self)
              rw [parses] at first
              cases first
            · rw [lost, List.length_nil, one, Nat.mul_one]
        | some data =>
            have shorter : (stream.drop size).length < bytes := by
              rw [List.length_drop]
              omega
            have read := ih _ shorter (s.called (stream.take size) [data])
              (reading.called _ _) (stream.drop size) rfl
            have more : recordData format size stream =
                data :: recordData format size (stream.drop size) := by
              rw [recordData, split, List.map_cons, parses]
              rfl
            rw [Option.elim_some]
            constructor
            · rw [read.calls, more]
              exact List.append_assoc _ _ _
            · rw [read.running, split, List.forall_mem_cons, parses]
              exact (and_iff_right rfl).symm
            · rw [read.rest, more, List.length_cons, List.drop_drop, List.length_drop]
              congr 1
              rw [Nat.div_eq_sub_div positive whole, Nat.succ_min_succ, Nat.mul_succ, Nat.add_comm]
      · have short : stream.length < size := Nat.lt_of_not_le whole
        have none := records_of_short short
        have nothing : recordData format size stream = [] := by
          rw [recordData, none]
          rfl
        rw [StreamReader.settle_of_none (reading.sleeps short)]
        constructor
        · rw [nothing, List.append_nil]
        · rw [none]
          exact iff_of_true reading.running (by simp)
        · rw [Nat.div_eq_of_lt short, Nat.zero_min, Nat.mul_zero, List.drop_zero]

/-- Records of plain fields with ASCII characters are all passed on. -/
theorem recordData_plain {format : List Char} (plain : Plain format)
    {size : ℕ} (sized : calcsize ('<' :: format) = some size)
    {stream : List UInt8}
    (ascii : ∀ record ∈ records size stream, asciiFields format record = true) :
    recordData format size stream = (records size stream).map (fieldValues format) := by
  obtain ⟨total, small⟩ := totalFieldSize_of_calcsize plain sized
  have parses : (records size stream).map (parsed format) =
      (records size stream).map fun record => some (fieldValues format record) := by
    apply List.map_congr_left
    intro record member
    exact parsed_plain plain small record (by rw [total, length_of_mem_records member])
      (ascii record member)
  rw [recordData, parses]
  generalize records size stream = all
  induction all with
  | nil => rfl
  | cons record all ih =>
      rw [List.map_cons, List.takeWhile_cons_of_pos rfl, List.reduceOption_cons_of_some, ih,
        List.map_cons]

theorem settle_of_empty {format : List Char} (s : SerialData) (reading : s.Reading format 0)
    (stream : List UInt8) :
    serialReader.settle (s, stream) = ({ s with dataNumBytes := -1 }, stream) := by
  have zero : s.dataNumBytes = 0 := reading.numBytes
  have step : serialReader.step s stream = some ({ s with dataNumBytes := -1 }, stream) :=
    (ThreadPass.zero reading.running zero).eq
  have defined := reading.defined
  rw [@StreamReader.settle_of_step _ _ serialReader (s, stream) _ step, StreamReader.settle_of_none]
  change backgroundThread { s with dataNumBytes := -1 } stream = none
  simp [backgroundThread, defined]

/-- What a thread reads after a fixed format has been taken. -/
structure ReadsFixed (format : List Char) (size : ℕ) (s : SerialData) (stream : List UInt8)
    (final : SerialData × List UInt8) : Prop where
  read : 0 < size → FixedRead format size s stream final
  plain : 0 < size → Plain format →
    (∀ record ∈ records size stream, asciiFields format record = true) →
    final.1.calls = s.calls ++ (records size stream).map (fieldValues format)
  stuck : size = 0 → final.1.calls = s.calls ∧ final.2 = stream

/-- After `setDataFormat` has taken a fixed format of some size, whatever the pace at which the
bytes arrive, the thread cuts them into records of this size and passes the data of each on, in
order, up to the first record that cannot be parsed; there it ends. -/
theorem fixed_mode_reads (allocates : ℕ → Bool) (format : List Char) (before : FrameFields)
    (fixed : format ≠ dynamicText) (taken : (setDataFormat allocates format before).1 = true)
    (s : SerialData) (running : s.isRun = true)
    (defined : s.definedDataMode = (setDataFormat allocates format before).2.definedDataMode)
    (dataFormat : s.dataFormat = (setDataFormat allocates format before).2.dataFormat)
    (numBytes : s.dataNumBytes = (setDataFormat allocates format before).2.dataNumBytes)
    (arrivals : List (List UInt8)) (n : ℕ)
    (enough : serialReader.measure s arrivals.flatten ≤ n) :
    ∃ size, calcsize ('<' :: format) = some size ∧
      ReadsFixed format size s arrivals.flatten
        (serialReader.run (arrivals ++ List.replicate n []) (s, [])) := by
  have takes : TakesFormat allocates format := by
    by_contra raises
    rw [(setDataFormat_of_not_takes raises before).1] at taken
    cases taken
  obtain ⟨size, sized, allocated⟩ := takes.resolve_left fixed
  rw [setDataFormat_of_sized sized allocated fixed before] at defined dataFormat numBytes
  have reading : s.Reading format size := ⟨running, defined, dataFormat, numBytes, sized⟩
  rw [StreamReader.run_eq_settle arrivals s n enough]
  refine ⟨size, sized, ?_, ?_, ?_⟩
  · intro positive
    exact fixedRead_settle positive s reading arrivals.flatten
  · intro positive plain ascii
    rw [(fixedRead_settle positive s reading arrivals.flatten).calls,
      recordData_plain plain sized ascii]
  · rintro rfl
    rw [settle_of_empty s reading]
    exact ⟨rfl, rfl⟩

/-- Two records of one number and one letter, in three pieces. -/
theorem fixed_mode_reads_records :
    ∃ size, calcsize ['<', 'h', 'c'] = some size ∧
      ReadsFixed ['h', 'c'] size ⟨true, true, true, 3, ['<', 'h', 'c'], [], []⟩
        [1, 0, 65, 2, 0, 66, 3]
        (serialReader.run ([[1], [0, 65, 2, 0], [66, 3]] ++ List.replicate 14 [])
          (⟨true, true, true, 3, ['<', 'h', 'c'], [], []⟩, [])) :=
  fixed_mode_reads (fun _ => true) ['h', 'c'] ⟨false, ['<'], -1, none⟩ (by decide) (by decide)
    ⟨true, true, true, 3, ['<', 'h', 'c'], [], []⟩ rfl (by decide) (by decide) (by decide)
    [[1], [0, 65, 2, 0], [66, 3]] 14 (by decide)

end ZumoDelivery
