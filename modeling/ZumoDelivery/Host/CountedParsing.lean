import ZumoDelivery.Host.CountedFormat

set_option autoImplicit false

namespace ZumoDelivery

open PyStruct

theorem length_unpackMany (code : Char) (size count : ℕ) (raw : List UInt8) :
    (unpackMany code size count raw).length = count := by
  induction count generalizing raw with
  | zero => rfl
  | succ count ih => rw [unpackMany, List.length_cons, ih]

theorem int_of_mem_unpackMany {code : Char} (signed : code = 'b' ∨ code = 'h') (size count : ℕ)
    (raw : List UInt8) : ∀ value ∈ unpackMany code size count raw, ∃ n, value = .int n := by
  induction count generalizing raw with
  | zero =>
      intro value inside
      cases inside
  | succ count ih =>
      rw [unpackMany]
      refine List.forall_mem_cons.mpr ⟨?_, ih _⟩
      rcases signed with rfl | rfl
      · exact ⟨_, rfl⟩
      · exact ⟨_, rfl⟩

theorem unpackMany_chars (raw : List UInt8) : unpackMany 'c' 1 raw.length raw = charValues raw := by
  induction raw with
  | nil => rfl
  | cons byte raw ih =>
      rw [List.length_cons, unpackMany, List.drop_one, List.tail_cons, ih]
      rfl

namespace Item

theorem values_number (item : Item) (number : item.code ≠ 'c' ∧ item.code ≠ 's')
    (raw : List UInt8) : item.values raw =
      unpackMany item.code ((itemSize item.code).getD 0) item.count raw := by
  have ordinary : item.code ≠ 'x' ∧ item.code ≠ 'p' := by
    rcases code_cases item with h | h | h | h | h | h
    all_goals
      rw [h]
      decide
  simp only [values, unpackItem, ordinary, number, ↓reduceIte]

theorem values_chars (item : Item) (chars : item.code = 'c') (raw : List UInt8)
    (sized : raw.length = item.size) :
    raw.length = item.count ∧ item.values raw = charValues raw := by
  have whole : raw.length = item.count := by
    rw [sized, size, chars]
    exact Nat.mul_one _
  rw [values, chars, ← whole]
  exact ⟨rfl, unpackMany_chars raw⟩

theorem values_string (item : Item) (string : item.code = 's') (raw : List UInt8) :
    item.values raw = [.bytes raw] := by
  rw [values, string]
  rfl

end Item

/-- The bytes `raw` of an item, whose values come next. -/
structure AtItem (value : List PyVal) (ind : ℕ) (item : Item) (raw : List UInt8) : Prop where
  start : ind ≤ value.length
  values : item.values raw <+: value.drop ind
  sized : raw.length = item.size
  ascii : item.code = 'c' ∨ item.code = 's' → raw.all (· < 128) = true

namespace AtItem

variable {value : List PyVal} {ind : ℕ} {item : Item} {raw : List UInt8}

theorem taken_eq (here : AtItem value ind item raw) {n : ℕ}
    (inside : n ≤ (item.values raw).length) : taken value ind n = (item.values raw).take n := by
  obtain ⟨later, split⟩ := here.values
  rw [taken, ← split, List.take_append_of_le_length inside]

theorem fits (here : AtItem value ind item raw) :
    ind + (item.values raw).length ≤ value.length := by
  have bound := here.values.length_le
  have start := here.start
  rw [List.length_drop] at bound
  omega

/-- A numeric item appends its first values, all of them if the count is read right. -/
theorem foldlM_number (here : AtItem value ind item raw)
    (number : item.code ≠ 'c' ∧ item.code ≠ 's') {emitted rep : ℕ}
    (scan : scanDigits 1 item.digits = (emitted, rep)) (data : List PyVal) :
    item.text.foldlM (parseChar value) ⟨1, data, ind⟩ =
      some ⟨1, data ++ (item.values raw).take (emitted + rep), ind + (emitted + rep)⟩ := by
  have few := scanDigits_le_repeatCount item.digits item.positive
  have whole : (item.values raw).length = repeatCount item.digits := by
    rw [item.values_number number, length_unpackMany, Item.count]
  have fits := here.fits
  rw [scan] at few
  dsimp only at few
  have all := here.taken_eq (show emitted + rep ≤ (item.values raw).length by omega)
  have signed : item.code = 'b' ∨ item.code = 'h' →
      ∀ later ∈ taken value (ind + emitted) rep, ∃ n, later = .int n := by
    intro signed later inside
    have among : later ∈ (item.values raw).take (emitted + rep) := by
      rw [← all, taken_add]
      exact List.mem_append_right _ inside
    have own := List.mem_of_mem_take among
    rw [item.values_number number] at own
    exact int_of_mem_unpackMany signed _ _ _ later own
  rw [foldlM_text scan data ind here.start, if_pos (by omega),
    parseRepeat_numbers number _ _ _ _ (by omega) signed, if_pos (by omega), List.append_assoc,
    ← taken_add, all, Nat.add_assoc]
  rfl

theorem taken_chars (here : AtItem value ind item raw) (chars : item.code = 'c') {n : ℕ}
    (inside : n ≤ raw.length) : taken value ind n = charValues (raw.take n) := by
  obtain ⟨-, values⟩ := item.values_chars chars raw here.sized
  have length : (item.values raw).length = raw.length := by
    rw [values, charValues, List.length_map]
  rw [here.taken_eq (by omega), values, charValues, charValues, List.map_take]

theorem taken_chars_after (here : AtItem value ind item raw) (chars : item.code = 'c')
    {emitted rep : ℕ} (inside : emitted + rep ≤ raw.length) :
    taken value (ind + emitted) rep = charValues ((raw.drop emitted).take rep) := by
  have all := here.taken_chars chars inside
  rw [taken_add, here.taken_chars chars (show emitted ≤ raw.length by omega), charValues,
    charValues, List.take_add, List.map_append] at all
  exact List.append_cancel_left all

theorem foldlM_chars (here : AtItem value ind item raw) (chars : item.code = 'c')
    {emitted rep : ℕ} (scan : scanDigits 1 item.digits = (emitted, rep)) (data : List PyVal) :
    item.text.foldlM (parseChar value) ⟨1, data, ind⟩ =
      some ⟨1, data ++ charValues (raw.take emitted) ++ (if rep = 0 then []
        else [.str (((raw.drop emitted).take rep).map Ascii.toChar)]), ind + (emitted + rep)⟩ := by
  have few := scanDigits_le_repeatCount item.digits item.positive
  obtain ⟨whole, values⟩ := item.values_chars chars raw here.sized
  have fits := here.fits
  rw [Item.count] at whole
  rw [values, charValues, List.length_map] at fits
  rw [scan] at few
  dsimp only at few
  have own : ((raw.drop emitted).take rep).length = rep := by
    rw [List.length_take, List.length_drop]
    omega
  rw [foldlM_text scan data ind here.start, if_pos (by omega),
    here.taken_chars chars (show emitted ≤ raw.length by omega), chars]
  by_cases zero : rep = 0
  · subst zero
    simp [parseRepeat, charValues]
  · have ascii : ((raw.drop emitted).take rep).all (· < 128) = true := by
      rw [List.all_eq_true]
      intro byte inside
      exact List.all_eq_true.mp (here.ascii (Or.inl chars)) byte
        (List.mem_of_mem_drop (List.mem_of_mem_take inside))
    have some : (raw.drop emitted).take rep ≠ [] := by
      rw [← List.length_pos_iff, own]
      omega
    have text : taken value (ind + emitted) ((raw.drop emitted).take rep).length =
        charValues ((raw.drop emitted).take rep) := by
      rw [own]
      exact here.taken_chars_after chars (by omega)
    have read := parseRepeat_chars (data ++ charValues (raw.take emitted)) _ _ some text ascii
    rw [own] at read
    rw [if_neg zero, read, Nat.add_assoc]
    rfl

/-- An 's' item appends its string, unless its digits take values or make the count 0. -/
theorem foldlM_string (here : AtItem value ind item raw) (string : item.code = 's')
    {rep : ℕ} (scan : scanDigits 1 item.digits = (0, rep)) (data : List PyVal) :
    item.text.foldlM (parseChar value) ⟨1, data, ind⟩ =
      if rep = 0 then some ⟨1, data, ind⟩
      else some ⟨1, data ++ [.str (raw.map Ascii.toChar)], ind + 1⟩ := by
  have fits := here.fits
  have next := here.taken_eq (Nat.le_refl _)
  rw [item.values_string string] at fits next
  rw [List.length_singleton] at fits
  rw [foldlM_text scan data ind here.start, if_pos (by omega), string, taken, List.take_zero,
    List.append_nil, Nat.add_zero]
  cases rep with
  | zero => rfl
  | succ rep =>
      rw [parseRepeat_string data raw ind rep (taken_eq_cons next).1 (here.ascii (Or.inr string))]
      rfl

theorem data_of_foldlM (here : AtItem value ind item raw) {emitted rep : ℕ}
    (scan : scanDigits 1 item.digits = (emitted, rep)) (string : item.code = 's')
    {data : List PyVal} {state : LoopState}
    (result : item.text.foldlM (parseChar value) ⟨1, data, ind⟩ = some state) :
    data ++ taken value ind emitted <+: state.data := by
  rw [foldlM_text scan data ind here.start, string] at result
  split at result
  · obtain ⟨next, read, rfl⟩ := Option.map_eq_some_iff.mp result
    exact prefix_of_parseRepeat read
  · cases result

theorem foldlM_of_readsRight (here : AtItem value ind item raw) (reads : item.ReadsRight)
    (data : List PyVal) : item.text.foldlM (parseChar value) ⟨1, data, ind⟩ =
      some ⟨1, data ++ item.shown raw, ind + (item.values raw).length⟩ := by
  by_cases string : item.code = 's'
  · rw [Item.ReadsRight, if_pos string, readsOnce_iff] at reads
    rw [here.foldlM_string string (Prod.ext reads.1 rfl), if_neg reads.2, Item.shown,
      if_pos (Or.inr string), item.values_string string, List.length_singleton]
  · rw [Item.ReadsRight, if_neg string] at reads
    have scan := scanDigits_of_readsCount reads
    by_cases chars : item.code = 'c'
    · obtain ⟨whole, values⟩ := item.values_chars chars raw here.sized
      have positive := item.positive
      rw [Item.count] at whole
      rw [here.foldlM_chars chars scan, if_neg (by omega), Item.shown, if_pos (Or.inl chars),
        values, charValues, charValues, ← whole, List.length_map]
      simp
    · have whole : (item.values raw).length = repeatCount item.digits := by
        rw [item.values_number ⟨chars, string⟩, length_unpackMany, Item.count]
      rw [here.foldlM_number ⟨chars, string⟩ scan, Item.shown,
        if_neg (not_or.mpr ⟨chars, string⟩), Nat.zero_add, ← whole, List.take_length]

/-- A string that is appended whole: no digit has taken a value, and the count is not 0. -/
theorem scan_of_string (here : AtItem value ind item raw) (string : item.code = 's')
    {emitted rep : ℕ} (scan : scanDigits 1 item.digits = (emitted, rep)) {data : List PyVal}
    {state : LoopState}
    (result : item.text.foldlM (parseChar value) ⟨1, data, ind⟩ = some state)
    (right : state.data = data ++ item.shown raw) : emitted = 0 ∧ rep ≠ 0 := by
  rw [Item.shown, if_pos (Or.inr string)] at right
  cases emitted with
  | zero =>
      refine ⟨rfl, ?_⟩
      rintro rfl
      rw [here.foldlM_string string scan, if_pos rfl] at result
      cases result
      simp at right
  | succ emitted =>
      have stays := here.data_of_foldlM scan string result
      have next := here.taken_eq (Nat.le_refl _)
      have fits := here.fits
      rw [item.values_string string, List.length_singleton] at next fits
      have inside : ind < value.length := fits
      have first := (taken_eq_cons next).1
      rw [List.getElem?_eq_getElem inside, Option.some_inj] at first
      rw [right, List.prefix_append_right_inj, taken_succ inside, first] at stays
      cases (List.cons_prefix_cons.mp stays).1

/-- Characters that are appended as one string: the digits have taken none of them. -/
theorem scan_of_chars (here : AtItem value ind item raw) (chars : item.code = 'c')
    {emitted rep : ℕ} (scan : scanDigits 1 item.digits = (emitted, rep)) {data : List PyVal}
    {state : LoopState}
    (result : item.text.foldlM (parseChar value) ⟨1, data, ind⟩ = some state)
    (right : state.data = data ++ item.shown raw) : emitted + rep = repeatCount item.digits := by
  have few := scanDigits_le_repeatCount item.digits item.positive
  have positive := item.positive
  obtain ⟨whole, -⟩ := item.values_chars chars raw here.sized
  rw [Item.count] at whole
  rw [scan] at few
  rw [here.foldlM_chars chars scan] at result
  rw [Item.shown, if_pos (Or.inl chars)] at right
  cases result
  rw [List.append_assoc] at right
  have shown := List.append_cancel_left right
  cases emitted with
  | zero =>
      by_cases none : rep = 0
      · simp [none, charValues] at shown
      · simp only [none, ↓reduceIte, charValues, List.take_zero, List.map_nil, List.nil_append,
          List.drop_zero, List.cons.injEq, PyVal.str.injEq, and_true] at shown
        have lengths := congrArg List.length shown
        rw [List.length_map, List.length_map, List.length_take] at lengths
        omega
  | succ emitted =>
      cases raw with
      | nil =>
          rw [List.length_nil] at whole
          omega
      | cons byte raw => simp [charValues] at shown

theorem scan_of_number (here : AtItem value ind item raw)
    (number : item.code ≠ 'c' ∧ item.code ≠ 's') {emitted rep : ℕ}
    (scan : scanDigits 1 item.digits = (emitted, rep)) {data : List PyVal} {state : LoopState}
    (result : item.text.foldlM (parseChar value) ⟨1, data, ind⟩ = some state)
    (right : state.data = data ++ item.shown raw) : emitted + rep = repeatCount item.digits := by
  have few := scanDigits_le_repeatCount item.digits item.positive
  rw [scan] at few
  rw [here.foldlM_number number scan] at result
  rw [Item.shown, if_neg (not_or.mpr number)] at right
  cases result
  have lengths := congrArg List.length (List.append_cancel_left right)
  rw [item.values_number number, List.length_take, length_unpackMany, Item.count] at lengths
  omega

/-- An item that appends what it should has a count that is read right. -/
theorem readsRight_of_foldlM (here : AtItem value ind item raw) {data : List PyVal}
    {state : LoopState}
    (result : item.text.foldlM (parseChar value) ⟨1, data, ind⟩ = some state)
    (right : state.data = data ++ item.shown raw) : item.ReadsRight := by
  cases scan : scanDigits 1 item.digits with
  | mk emitted rep =>
      by_cases string : item.code = 's'
      · rw [Item.ReadsRight, if_pos string, readsOnce_iff, scan]
        exact here.scan_of_string string scan result right
      · rw [Item.ReadsRight, if_neg string]
        apply readsCount_of_sum
        rw [scan]
        by_cases chars : item.code = 'c'
        · exact here.scan_of_chars chars scan result right
        · exact here.scan_of_number ⟨chars, string⟩ scan result right

end AtItem

def countedItems (format : List Item) : List (ℕ × Char) :=
  format.map fun item => (item.count, item.code)

/-- A format and its data, whose values come next. -/
structure AtFormat (value : List PyVal) (ind : ℕ) (format : List Item) (raw : List UInt8) :
    Prop where
  start : ind ≤ value.length
  values : value.drop ind = unpackItems (countedItems format) raw
  sized : totalSize (countedItems format) = raw.length
  ascii : AsciiItems format raw

theorem totalSize_cons (item : Item) (format : List Item) :
    totalSize (countedItems (item :: format)) = item.size + totalSize (countedItems format) := rfl

theorem unpackItems_cons (item : Item) (format : List Item) (raw : List UInt8) :
    unpackItems (countedItems (item :: format)) raw =
      item.values (raw.take item.size) ++
        unpackItems (countedItems format) (raw.drop item.size) := rfl

namespace AtFormat

variable {value : List PyVal} {ind : ℕ} {item : Item} {format : List Item} {raw : List UInt8}

theorem head (here : AtFormat value ind (item :: format) raw) :
    AtItem value ind item (raw.take item.size) := by
  have sized := here.sized
  rw [totalSize_cons] at sized
  refine ⟨here.start, ?_, ?_, here.ascii.1⟩
  · rw [here.values, unpackItems_cons]
    exact List.prefix_append _ _
  · rw [List.length_take]
    omega

theorem tail (here : AtFormat value ind (item :: format) raw) :
    AtFormat value (ind + (item.values (raw.take item.size)).length) format
      (raw.drop item.size) := by
  have sized := here.sized
  rw [totalSize_cons] at sized
  refine ⟨here.head.fits, ?_, ?_, here.ascii.2⟩
  · rw [← List.drop_drop, here.values, unpackItems_cons, List.drop_left]
  · rw [List.length_drop]
    omega

/-- What the loop has in its data after some items is what they are to show. -/
def Attributed (value : List PyVal) (data : List PyVal) (ind : ℕ) (format : List Item)
    (raw : List UInt8) : Prop :=
  ∀ pre post, format = pre ++ post → ∃ state,
    (formatText pre).foldlM (parseChar value) ⟨1, data, ind⟩ = some state ∧
      state.data = data ++ shownItems pre raw

theorem formatText_cons (item : Item) (format : List Item) :
    formatText (item :: format) = item.text ++ formatText format :=
  List.flatMap_cons

theorem attributed_cons_iff (here : AtFormat value ind (item :: format) raw)
    (reads : item.ReadsRight) (data : List PyVal) :
    Attributed value data ind (item :: format) raw ↔
      Attributed value (data ++ item.shown (raw.take item.size))
        (ind + (item.values (raw.take item.size)).length) format (raw.drop item.size) := by
  have step := here.head.foldlM_of_readsRight reads data
  have after (pre : List Item) :
      (formatText (item :: pre)).foldlM (parseChar value) ⟨1, data, ind⟩ =
        (formatText pre).foldlM (parseChar value) ⟨1, data ++ item.shown (raw.take item.size),
          ind + (item.values (raw.take item.size)).length⟩ := by
    rw [formatText_cons, List.foldlM_append, step]
    rfl
  constructor
  · intro attributed pre post split
    obtain ⟨state, run, right⟩ := attributed (item :: pre) post (by rw [split]; rfl)
    rw [after] at run
    refine ⟨state, run, ?_⟩
    rw [right, shownItems, List.append_assoc]
  · intro attributed pre post split
    cases pre with
    | nil => exact ⟨⟨1, data, ind⟩, rfl, by simp [shownItems]⟩
    | cons first pre =>
        rw [List.cons_append, List.cons_eq_cons] at split
        obtain ⟨rfl, split⟩ := split
        obtain ⟨state, run, right⟩ := attributed pre post split
        refine ⟨state, by rw [after, run], ?_⟩
        rw [right, shownItems, List.append_assoc]

theorem attributed_iff (here : AtFormat value ind format raw) (data : List PyVal) :
    Attributed value data ind format raw ↔ ∀ item ∈ format, item.ReadsRight := by
  induction format generalizing data ind raw with
  | nil =>
      refine iff_of_true ?_ (by simp)
      intro pre post split
      obtain ⟨rfl, -⟩ := List.append_eq_nil_iff.mp split.symm
      exact ⟨⟨1, data, ind⟩, rfl, by simp [shownItems]⟩
  | cons item format ih =>
      rw [List.forall_mem_cons]
      constructor
      · intro attributed
        obtain ⟨state, run, right⟩ := attributed [item] format rfl
        rw [formatText_cons, formatText, List.flatMap_nil, List.append_nil] at run
        have reads : item.ReadsRight := by
          apply here.head.readsRight_of_foldlM run
          rw [right, shownItems, shownItems, List.append_nil]
        exact ⟨reads, (ih here.tail _).mp ((here.attributed_cons_iff reads data).mp attributed)⟩
      · rintro ⟨reads, others⟩
        exact (here.attributed_cons_iff reads data).mpr ((ih here.tail _).mpr others)

end AtFormat

/-- `parseData` hands on the strings and numbers of the items, and makes each of them from
the item that it belongs to. -/
structure ParsesItems (format : List Item) (raw : List UInt8) : Prop where
  handed : ∀ s : SerialData, s.dataFormat = '<' :: formatText format → s.rawData = raw →
    parseData s = some { s with calls := s.calls ++ [shownItems format raw] }
  attributed : ∀ pre post, format = pre ++ post → ∃ value,
    unpack ('<' :: formatText format) raw = some value ∧
      parseFormat value ('<' :: formatText pre) 1 [] 0 = some (shownItems pre raw)

theorem unpack_formatText {format : List Item} {raw : List UInt8}
    (sized : calcsize ('<' :: formatText format) = some raw.length) :
    totalSize (countedItems format) = raw.length ∧
      unpack ('<' :: formatText format) raw = some (unpackItems (countedItems format) raw) := by
  have parsed : items none (formatText format) = some (countedItems format) :=
    items_formatText format
  simp only [calcsize, parsed] at sized
  split at sized
  · rename_i small
    have whole := Option.some.inj sized
    rw [whole] at small
    refine ⟨whole, ?_⟩
    simp only [unpack, parsed, small, whole, and_self, ↓reduceIte]
  · cases sized

theorem parseFormat_mark (value : List PyVal) (format : List Char) :
    parseFormat value ('<' :: format) 1 [] 0 =
      (format.foldlM (parseChar value) ⟨1, [], 0⟩).map LoopState.data := by
  rw [parseFormat, if_pos rfl, parseFormat_eq_foldlM]

theorem parse_data_iff (format : List Item) (raw : List UInt8)
    (sized : calcsize ('<' :: formatText format) = some raw.length)
    (ascii : AsciiItems format raw) :
    ParsesItems format raw ↔ ∀ item ∈ format, item.ReadsRight := by
  obtain ⟨whole, unpacked⟩ := unpack_formatText sized
  have here : AtFormat (unpackItems (countedItems format) raw) 0 format raw :=
    ⟨Nat.zero_le _, List.drop_zero, whole, ascii⟩
  rw [← here.attributed_iff []]
  constructor
  · intro parses pre post split
    obtain ⟨value, same, shown⟩ := parses.attributed pre post split
    rw [unpacked, Option.some_inj] at same
    rw [← same, parseFormat_mark, Option.map_eq_some_iff] at shown
    exact shown
  · intro attributed
    have shown (pre post : List Item) (split : format = pre ++ post) :
        parseFormat (unpackItems (countedItems format) raw) ('<' :: formatText pre) 1 [] 0 =
          some (shownItems pre raw) := by
      rw [parseFormat_mark, Option.map_eq_some_iff]
      exact attributed pre post split
    constructor
    · intro s dataFormat rawData
      rw [parseData, dataFormat, rawData, unpacked]
      dsimp only
      rw [shown format [] (List.append_nil format).symm]
      rfl
    · intro pre post split
      exact ⟨_, unpacked, shown pre post split⟩

/-- Two numbers, a letter and a text of twelve letters. -/
theorem parse_data_iff_text :
    let format : List Item := [⟨[2], 'h', by decide, by decide⟩, ⟨[], 'c', by decide, by decide⟩,
      ⟨[1, 2], 's', by decide, by decide⟩]
    let raw : List UInt8 := [1, 0, 0xFF, 0xFF, 90] ++ List.replicate 12 65
    ParsesItems format raw ↔ ∀ item ∈ format, item.ReadsRight :=
  parse_data_iff _ _ (by decide) ⟨by decide, by decide, by decide, trivial⟩

/-- Of twelve letters in one string the callbacks get two. -/
theorem not_parses_items :
    ¬ ∀ (format : List Item) (raw : List UInt8),
      calcsize ('<' :: formatText format) = some raw.length → AsciiItems format raw →
        ParsesItems format raw := by
  intro parses
  have twelve := parses [⟨[1, 2], 'c', by decide, by decide⟩] (List.replicate 12 65) (by decide)
    ⟨by decide, trivial⟩
  have handed := twelve.handed
    ⟨true, true, true, 12, ['<', '1', '2', 'c'], List.replicate 12 65, []⟩ rfl rfl
  exact absurd handed (by decide)

end ZumoDelivery
