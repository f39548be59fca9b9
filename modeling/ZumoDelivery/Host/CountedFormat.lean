import ZumoDelivery.Host.Framing
import ZumoDelivery.Host.RepeatCount

set_option autoImplicit false

namespace ZumoDelivery

open PyStruct

/-- An item of a format: the digits of its repeat count, if it has one, and its character. -/
structure Item where
  digits : List (Fin 10)
  code : Char
  known : code ∈ ['c', 's', 'b', 'B', 'h', 'f']
  positive : 1 ≤ repeatCount digits

def digitChar (digit : Fin 10) : Char := Nat.digitChar digit

namespace Item

def text (item : Item) : List Char := item.digits.map digitChar ++ [item.code]

def count (item : Item) : ℕ := repeatCount item.digits

def size (item : Item) : ℕ := item.count * (itemSize item.code).getD 0

def values (item : Item) (raw : List UInt8) : List PyVal := unpackItem item.count item.code raw

/-- What the callbacks are to get for an item: one string, or its numbers. -/
def shown (item : Item) (raw : List UInt8) : List PyVal :=
  if item.code = 'c' ∨ item.code = 's' then [.str (raw.map Ascii.toChar)] else item.values raw

/-- The loop takes the count for what it is. -/
def ReadsRight (item : Item) : Prop :=
  if item.code = 's' then ReadsOnce item.digits else ReadsCount item.digits

end Item

def formatText (format : List Item) : List Char := format.flatMap Item.text

def shownItems : List Item → List UInt8 → List PyVal
  | [], _ => []
  | item :: format, raw => item.shown (raw.take item.size) ++ shownItems format (raw.drop item.size)

/-- The bytes of the strings are ASCII. -/
def AsciiItems : List Item → List UInt8 → Prop
  | [], _ => True
  | item :: format, raw =>
      (item.code = 'c' ∨ item.code = 's' → (raw.take item.size).all (· < 128) = true) ∧
        AsciiItems format (raw.drop item.size)

theorem code_cases (item : Item) : item.code = 'c' ∨ item.code = 's' ∨ item.code = 'b' ∨
    item.code = 'B' ∨ item.code = 'h' ∨ item.code = 'f' := by
  simpa using item.known

theorem digit?_digitChar (digit : Fin 10) : digit? (digitChar digit) = some digit.val := by
  revert digit
  decide

/-- A digit is none of the characters that `parseData` treats in a way of their own. -/
theorem digitChar_ne (digit : Fin 10) : digitChar digit ≠ '<' ∧ digitChar digit ≠ 'c' ∧
    digitChar digit ≠ 's' ∧ digitChar digit ≠ 'b' ∧ digitChar digit ≠ 'h' := by
  revert digit
  decide

theorem code_plain (item : Item) : item.code ≠ '<' ∧ digit? item.code = none ∧
    isSpace item.code = false ∧ (itemSize item.code).isSome = true := by
  rcases code_cases item with h | h | h | h | h | h
  all_goals
    rw [h]
    decide

theorem items_digits (digits : List (Fin 10)) (n : ℕ) (rest : List Char) :
    items (some n) (digits.map digitChar ++ rest) = items (some (decimalFrom n digits)) rest := by
  induction digits generalizing n with
  | nil => rfl
  | cons digit digits ih =>
      rw [List.map_cons, List.cons_append, items, digit?_digitChar, decimalFrom, ← ih]
      rfl

theorem items_item (item : Item) (rest : List Char) :
    items none (item.text ++ rest) =
      (items none rest).map ((item.count, item.code) :: ·) := by
  obtain ⟨-, undigit, unspaced, known⟩ := code_plain item
  obtain ⟨size, sized⟩ := Option.isSome_iff_exists.mp known
  rw [Item.text, List.append_assoc, Item.count, repeatCount]
  cases item.digits with
  | nil => simp [items, undigit, unspaced, sized]
  | cons digit digits =>
      rw [List.map_cons, List.cons_append, items, digit?_digitChar]
      change items (some (0 * 10 + digit.val)) _ = _
      rw [items_digits, if_neg (List.cons_ne_nil _ _), decimal_cons]
      simp [items, undigit, sized]

theorem items_formatText (format : List Item) :
    items none (formatText format) = some (format.map fun item => (item.count, item.code)) := by
  induction format with
  | nil => rfl
  | cons item format ih =>
      rw [formatText, List.flatMap_cons, items_item, ← formatText, ih]
      rfl

structure LoopState where
  rep : ℕ
  data : List PyVal
  ind : ℕ

/-- One round of the loop, for one character of the format. -/
def parseChar (value : List PyVal) (state : LoopState) (fmt : Char) : Option LoopState :=
  if fmt = '<' then some state
  else
    match if state.rep = 1 then digit? fmt else none with
    | some digit => some { state with rep := digit }
    | none =>
        (parseRepeat value fmt state.rep state.rep state.data state.ind).map
          fun (data, ind) => ⟨1, data, ind⟩

theorem parseFormat_eq_foldlM (value : List PyVal) (format : List Char) (rep : ℕ)
    (data : List PyVal) (ind : ℕ) : parseFormat value format rep data ind =
      (format.foldlM (parseChar value) ⟨rep, data, ind⟩).map LoopState.data := by
  induction format generalizing rep data ind with
  | nil => rfl
  | cons fmt format ih =>
      rw [parseFormat, List.foldlM_cons, parseChar]
      by_cases mark : fmt = '<'
      · rw [if_pos mark, if_pos mark]
        exact ih rep data ind
      · rw [if_neg mark, if_neg mark]
        dsimp only
        cases (if rep = 1 then digit? fmt else none) with
        | some digit => exact ih digit data ind
        | none =>
            cases parseRepeat value fmt rep rep data ind with
            | none => rfl
            | some next => exact ih 1 next.1 next.2

def taken (value : List PyVal) (ind n : ℕ) : List PyVal := (value.drop ind).take n

theorem taken_succ {value : List PyVal} {ind : ℕ} (inside : ind < value.length) (n : ℕ) :
    taken value ind (n + 1) = value[ind] :: taken value (ind + 1) n := by
  rw [taken, List.drop_eq_getElem_cons inside, List.take_succ_cons, taken]

theorem taken_add (value : List PyVal) (ind m n : ℕ) :
    taken value ind (m + n) = taken value ind m ++ taken value (ind + m) n := by
  rw [taken, taken, taken, List.take_add, List.drop_drop]

theorem mem_taken_succ {value : List PyVal} {ind n : ℕ} {item : PyVal} (later : item ∈
    taken value (ind + 1) n) (inside : ind < value.length) : item ∈ taken value ind (n + 1) := by
  rw [taken_succ inside]
  exact List.mem_cons_of_mem _ later

theorem parseRepeat_numbers {fmt : Char} (number : fmt ≠ 'c' ∧ fmt ≠ 's')
    {value : List PyVal} (rep left : ℕ) (data : List PyVal) (ind : ℕ) (start : ind ≤ value.length)
    (ints : fmt = 'b' ∨ fmt = 'h' → ∀ item ∈ taken value ind left, ∃ n, item = .int n) :
    parseRepeat value fmt rep left data ind =
      if ind + left ≤ value.length then some (data ++ taken value ind left, ind + left)
      else none := by
  induction left generalizing data ind with
  | zero => simp [parseRepeat, taken, start]
  | succ left ih =>
      by_cases inside : ind < value.length
      · have here : value[ind]? = some value[ind] := List.getElem?_eq_getElem inside
        have rest := ih (data ++ [value[ind]]) (ind + 1) inside
          fun signed item later => ints signed item (mem_taken_succ later inside)
        have step : parseRepeat value fmt rep (left + 1) data ind =
            parseRepeat value fmt rep left (data ++ [value[ind]]) (ind + 1) := by
          rw [parseRepeat, here]
          simp only [Option.bind_eq_bind, Option.bind_some, number, ↓reduceIte]
          split
          · rename_i signed
            obtain ⟨n, int⟩ := ints signed value[ind] (by
              rw [taken_succ inside]
              exact List.mem_cons_self)
            rw [int]
            rfl
          · rfl
        rw [step, rest, taken_succ inside, List.append_assoc, List.singleton_append,
          Nat.add_assoc, Nat.add_comm 1 left]
      · have beyond : value[ind]? = none := List.getElem?_eq_none (Nat.le_of_not_lt inside)
        rw [parseRepeat, beyond, if_neg (by omega)]
        rfl

/-- The digits of a count. Those that are not read as a count append values. -/
theorem foldlM_digits {value : List PyVal} (digits : List (Fin 10)) (rep : ℕ)
    (data : List PyVal) (ind : ℕ) (start : ind ≤ value.length) :
    (digits.map digitChar).foldlM (parseChar value) ⟨rep, data, ind⟩ =
      if ind + (scanDigits rep digits).1 ≤ value.length then
        some ⟨(scanDigits rep digits).2, data ++ taken value ind (scanDigits rep digits).1,
          ind + (scanDigits rep digits).1⟩
      else none := by
  induction digits generalizing rep data ind with
  | nil => simp [scanDigits, taken, start]
  | cons digit digits ih =>
      obtain ⟨mark, char, string, byte, short⟩ := digitChar_ne digit
      rw [List.map_cons, List.foldlM_cons, parseChar, if_neg mark]
      dsimp only
      by_cases one : rep = 1
      · rw [if_pos one, digit?_digitChar, one, scanDigits_one]
        exact ih digit data ind start
      · rw [if_neg one, scanDigits_of_ne_one one]
        have raw := parseRepeat_numbers ⟨char, string⟩ rep rep data ind start
          fun signed => absurd signed (by simp [byte, short])
        dsimp only
        rw [raw]
        by_cases fits : ind + rep ≤ value.length
        · rw [if_pos fits]
          change (digits.map digitChar).foldlM (parseChar value)
            ⟨1, data ++ taken value ind rep, ind + rep⟩ = _
          rw [ih 1 _ _ fits, List.append_assoc, Nat.add_assoc, ← taken_add]
        · rw [if_neg fits, if_neg (by omega)]
          rfl

theorem foldlM_text {value : List PyVal} {item : Item} {emitted rep : ℕ}
    (scan : scanDigits 1 item.digits = (emitted, rep)) (data : List PyVal) (ind : ℕ)
    (start : ind ≤ value.length) : item.text.foldlM (parseChar value) ⟨1, data, ind⟩ =
      if ind + emitted ≤ value.length then
        (parseRepeat value item.code rep rep (data ++ taken value ind emitted)
          (ind + emitted)).map fun (data, ind) => ⟨1, data, ind⟩
      else none := by
  obtain ⟨mark, undigit, -, -⟩ := code_plain item
  rw [Item.text, List.foldlM_append, foldlM_digits item.digits 1 data ind start, scan]
  dsimp only
  split
  · simp only [Option.bind_eq_bind, Option.bind_some, List.foldlM_cons, List.foldlM_nil,
      parseChar, mark, undigit, ite_self, ↓reduceIte]
    cases parseRepeat value item.code _ _ _ _ with
    | none => rfl
    | some next => rfl
  · rfl

def charValues (raw : List UInt8) : List PyVal := raw.map fun byte => .bytes [byte]

theorem taken_eq_cons {value : List PyVal} {ind n : ℕ} {item : PyVal} {rest : List PyVal}
    (here : taken value ind (n + 1) = item :: rest) :
    value[ind]? = some item ∧ taken value (ind + 1) n = rest := by
  by_cases inside : ind < value.length
  · rw [taken_succ inside] at here
    cases here
    exact ⟨List.getElem?_eq_getElem inside, rfl⟩
  · rw [taken, List.drop_eq_nil_of_le (Nat.le_of_not_lt inside), List.take_nil] at here
    cases here

theorem appendText_append (data : List PyVal) (chars text : List Char) :
    appendText (data ++ [.str chars]) text = data ++ [.str (chars ++ text)] := by
  simp [appendText]

theorem parseRepeat_more {value : List PyVal} {rep : ℕ} (data : List PyVal) (raw : List UInt8)
    (chars : List Char) (ind : ℕ) (behind : raw.length < rep)
    (here : taken value ind raw.length = charValues raw) (ascii : raw.all (· < 128) = true) :
    parseRepeat value 'c' rep raw.length (data ++ [.str chars]) ind =
      some (data ++ [.str (chars ++ raw.map Ascii.toChar)], ind + raw.length) := by
  induction raw generalizing chars ind with
  | nil => simp [parseRepeat]
  | cons byte raw ih =>
      obtain ⟨first, rest⟩ := taken_eq_cons here
      rw [List.all_cons, Bool.and_eq_true] at ascii
      have text : decodeAscii (.bytes [byte]) = some [Ascii.toChar byte] := by
        simp [decodeAscii, ascii.1]
      have later : ¬ (rep = 1 ∨ raw.length + 1 = rep) := by
        rw [List.length_cons] at behind
        omega
      rw [List.length_cons, parseRepeat, first]
      simp only [Option.bind_eq_bind, Option.bind_some, text, later, ↓reduceIte]
      rw [appendText_append, ih _ _ (by rw [List.length_cons] at behind; omega) rest ascii.2]
      simp only [List.map_cons, List.append_assoc, List.singleton_append, Nat.add_assoc,
        Nat.add_comm 1]

theorem parseRepeat_chars {value : List PyVal} (data : List PyVal) (raw : List UInt8) (ind : ℕ)
    (some : raw ≠ []) (here : taken value ind raw.length = charValues raw)
    (ascii : raw.all (· < 128) = true) :
    parseRepeat value 'c' raw.length raw.length data ind =
      .some (data ++ [.str (raw.map Ascii.toChar)], ind + raw.length) := by
  cases raw with
  | nil => contradiction
  | cons byte raw =>
      obtain ⟨first, rest⟩ := taken_eq_cons here
      rw [List.all_cons, Bool.and_eq_true] at ascii
      have text : decodeAscii (.bytes [byte]) = .some [Ascii.toChar byte] := by
        simp [decodeAscii, ascii.1]
      rw [List.length_cons, parseRepeat, first]
      simp only [Option.bind_eq_bind, Option.bind_some, text, or_true, ↓reduceIte]
      rw [parseRepeat_more data raw _ _ (Nat.lt_succ_self _) rest ascii.2]
      simp only [List.map_cons, List.singleton_append, Nat.add_assoc, Nat.add_comm 1]

theorem parseRepeat_string {value : List PyVal} (data : List PyVal) (raw : List UInt8) (ind : ℕ)
    (rep : ℕ) (here : value[ind]? = some (.bytes raw)) (ascii : raw.all (· < 128) = true) :
    parseRepeat value 's' (rep + 1) (rep + 1) data ind =
      some (data ++ [.str (raw.map Ascii.toChar)], ind + 1) := by
  have text : decodeAscii (.bytes raw) = some (raw.map Ascii.toChar) := if_pos ascii
  rw [parseRepeat, here]
  simp [text]

/-- An 's' item only appends. -/
theorem prefix_of_parseRepeat {value : List PyVal} {rep : ℕ} {data : List PyVal} {ind : ℕ}
    {next : List PyVal × ℕ} (result : parseRepeat value 's' rep rep data ind = some next) :
    data <+: next.1 := by
  cases rep with
  | zero =>
      cases result
      exact List.prefix_refl data
  | succ rep =>
      simp only [parseRepeat, Option.bind_eq_bind, Option.bind_eq_some_iff, Char.reduceEq,
        ↓reduceIte, pure, Option.some.injEq] at result
      obtain ⟨item, -, text, -, rfl⟩ := result
      exact List.prefix_append data _

end ZumoDelivery
