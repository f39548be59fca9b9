import ZumoDelivery.Host.Framing

set_option autoImplicit false

namespace ZumoDelivery

open PyStruct

/-- The format characters that the messages of the robot are made of. -/
def fieldCodes : List Char := ['c', 'b', 'B', 'h', 'f']

def fieldSize (code : Char) : ℕ := (itemSize code).getD 0

/-- What the user is to see of one field. -/
def fieldValue (code : Char) (raw : List UInt8) : PyVal :=
  match code with
  | 'c' => .str (raw.map Ascii.toChar)
  | 'B' => .int (littleEndian raw)
  | 'f' => .float raw
  | _ => .int (signedLittleEndian raw)

def fieldValues : List Char → List UInt8 → List PyVal
  | [], _ => []
  | code :: format, raw =>
      fieldValue code (raw.take (fieldSize code)) ::
        fieldValues format (raw.drop (fieldSize code))

/-- The bytes of the characters are ASCII. -/
def asciiFields : List Char → List UInt8 → Bool
  | [], _ => true
  | code :: format, raw =>
      (code ≠ 'c' || (raw.take (fieldSize code)).all (· < 128)) &&
        asciiFields format (raw.drop (fieldSize code))

/-- Only the characters of `fieldCodes` occur in the format. -/
def Plain (format : List Char) : Prop := ∀ code ∈ format, code ∈ fieldCodes

theorem fieldCode_cases {code : Char} (plain : code ∈ fieldCodes) :
    code = 'c' ∨ code = 'b' ∨ code = 'B' ∨ code = 'h' ∨ code = 'f' := by
  simpa [fieldCodes] using plain

instance (format : List Char) : Decidable (Plain format) :=
  List.decidableBAll (· ∈ fieldCodes) format

theorem Plain.of_cons {code : Char} {format : List Char} (plain : Plain (code :: format)) :
    code ∈ fieldCodes ∧ Plain format :=
  List.forall_mem_cons.mp plain

def totalFieldSize (format : List Char) : ℕ := (format.map fieldSize).sum

theorem fieldSize_bounds {code : Char} (plain : code ∈ fieldCodes) :
    1 ≤ fieldSize code ∧ fieldSize code ≤ 4 := by
  rcases fieldCode_cases plain with rfl | rfl | rfl | rfl | rfl
  all_goals decide

theorem items_plain {format : List Char} (plain : Plain format) :
    items none format = some (format.map fun code => (1, code)) := by
  induction format with
  | nil => rfl
  | cons code format ih =>
      obtain ⟨here, rest⟩ := plain.of_cons
      have one : digit? code = none ∧ isSpace code = false ∧ itemSize code ≠ none := by
        rcases fieldCode_cases here with rfl | rfl | rfl | rfl | rfl
        all_goals decide
      obtain ⟨size, sized⟩ := Option.ne_none_iff_exists'.mp one.2.2
      rw [items]
      simp only [one.1, one.2.1, sized, ih rest, Bool.false_eq_true, and_false, ↓reduceIte,
        Option.map_some, Option.getD_none, List.map_cons]

theorem totalSize_plain (format : List Char) :
    totalSize (format.map fun code => (1, code)) = totalFieldSize format := by
  rw [totalSize, totalFieldSize, List.map_map]
  congr 2
  funext code
  simp only [Function.comp_apply, fieldSize, Nat.one_mul]

theorem totalFieldSize_le {format : List Char} (plain : Plain format) :
    totalFieldSize format ≤ 4 * format.length := by
  induction format with
  | nil => exact Nat.le_refl _
  | cons code format ih =>
      obtain ⟨here, rest⟩ := plain.of_cons
      have bound := fieldSize_bounds here
      have others := ih rest
      simp only [totalFieldSize, List.map_cons, List.sum_cons, List.length_cons] at others ⊢
      omega

theorem calcsize_of_plain {format : List Char} (plain : Plain format) :
    calcsize ('<' :: format) =
      if totalFieldSize format ≤ ssizeMax then some (totalFieldSize format) else none := by
  simp only [calcsize, items_plain plain, totalSize_plain]

theorem totalFieldSize_le_ssizeMax {format : List Char} (plain : Plain format)
    (short : format.length < 256) : totalFieldSize format ≤ ssizeMax := by
  have bound := totalFieldSize_le plain
  rw [ssizeMax]
  omega

theorem calcsize_plain {format : List Char} (plain : Plain format) (short : format.length < 256) :
    calcsize ('<' :: format) = some (totalFieldSize format) := by
  rw [calcsize_of_plain plain, if_pos (totalFieldSize_le_ssizeMax plain short)]

theorem totalFieldSize_of_calcsize {format : List Char} (plain : Plain format) {size : ℕ}
    (sized : calcsize ('<' :: format) = some size) :
    totalFieldSize format = size ∧ totalFieldSize format ≤ ssizeMax := by
  rw [calcsize_of_plain plain, Option.ite_none_right_eq_some] at sized
  exact ⟨Option.some.inj sized.2, sized.1⟩

/-- The values that `unpack` gives for the fields. -/
def unpackedFields : List Char → List UInt8 → List PyVal
  | [], _ => []
  | code :: format, raw =>
      unpackOne code (raw.take (fieldSize code)) ::
        unpackedFields format (raw.drop (fieldSize code))

theorem unpackItems_plain {format : List Char} (plain : Plain format) (raw : List UInt8) :
    unpackItems (format.map fun code => (1, code)) raw = unpackedFields format raw := by
  induction format generalizing raw with
  | nil => rfl
  | cons code format ih =>
      obtain ⟨here, rest⟩ := plain.of_cons
      have single : unpackItem 1 code (raw.take (fieldSize code)) =
          [unpackOne code (raw.take (fieldSize code))] := by
        have whole : (raw.take (fieldSize code)).take ((itemSize code).getD 0) =
            raw.take (fieldSize code) := by
          rw [List.take_take, fieldSize, Nat.min_self]
        have ordinary : code ≠ 'x' ∧ code ≠ 's' ∧ code ≠ 'p' := by
          rcases fieldCode_cases here with rfl | rfl | rfl | rfl | rfl
          all_goals decide
        simp only [unpackItem, ordinary, unpackMany, whole, ↓reduceIte]
      simp only [List.map_cons, unpackItems, Nat.one_mul, unpackedFields, ← ih rest]
      rw [← fieldSize, single]
      rfl

theorem unpack_plain {format : List Char} (plain : Plain format)
    (small : totalFieldSize format ≤ ssizeMax) (raw : List UInt8)
    (sized : totalFieldSize format = raw.length) :
    unpack ('<' :: format) raw = some (unpackedFields format raw) := by
  rw [sized] at small
  simp only [unpack, items_plain plain, totalSize_plain, small, sized, unpackItems_plain plain,
    and_self, ↓reduceIte]

theorem parseRepeat_field {code : Char} (plain : code ∈ fieldCodes) (value data : List PyVal)
    (ind : ℕ) (raw : List UInt8) (here : value[ind]? = some (unpackOne code raw))
    (ascii : code ≠ 'c' ∨ raw.all (· < 128) = true) :
    parseRepeat value code 1 1 data ind = some (data ++ [fieldValue code raw], ind + 1) := by
  rcases fieldCode_cases plain with rfl | rfl | rfl | rfl | rfl
  · have narrow : raw.all (· < 128) = true := by simpa using ascii
    have text : decodeAscii (unpackOne 'c' raw) = some (raw.map Ascii.toChar) := if_pos narrow
    simp [parseRepeat, here, text, fieldValue]
  all_goals simp [parseRepeat, here, unpackOne, toInt, fieldValue]

theorem parseFormat_fields {format : List Char} (plain : Plain format) (before data : List PyVal)
    (raw : List UInt8) (ascii : asciiFields format raw = true) :
    parseFormat (before ++ unpackedFields format raw) format 1 data before.length =
      some (data ++ fieldValues format raw) := by
  induction format generalizing before data raw with
  | nil => simp [parseFormat, fieldValues]
  | cons code format ih =>
      obtain ⟨here, rest⟩ := plain.of_cons
      have one : digit? code = none ∧ code ≠ '<' := by
        rcases fieldCode_cases here with rfl | rfl | rfl | rfl | rfl
        all_goals decide
      simp only [asciiFields, Bool.and_eq_true, Bool.or_eq_true, decide_eq_true_eq] at ascii
      obtain ⟨narrow, others⟩ := ascii
      let first := unpackOne code (raw.take (fieldSize code))
      have item : (before ++ unpackedFields (code :: format) raw)[before.length]? =
          some first := by
        simp [unpackedFields, first]
      have step := parseRepeat_field here _ data before.length _ item narrow
      have next := ih rest (before ++ [first])
        (data ++ [fieldValue code (raw.take (fieldSize code))]) (raw.drop (fieldSize code)) others
      have same : before ++ unpackedFields (code :: format) raw =
          before ++ [first] ++ unpackedFields format (raw.drop (fieldSize code)) := by
        simp [unpackedFields, first]
      rw [parseFormat]
      simp only [one, ↓reduceIte, step, Option.bind_eq_bind, Option.bind_some]
      rw [same, fieldValues]
      simpa using next

/-- `parseData` passes on the values of the fields. -/
theorem parsed_plain {format : List Char} (plain : Plain format)
    (small : totalFieldSize format ≤ ssizeMax) (raw : List UInt8)
    (sized : totalFieldSize format = raw.length)
    (ascii : asciiFields format raw = true) :
    parsed format raw = some (fieldValues format raw) := by
  have fields := parseFormat_fields plain [] [] raw ascii
  simp only [List.nil_append, List.length_nil] at fields
  rw [parsed, unpack_plain plain small raw sized]
  simp only [Option.bind_eq_bind, Option.bind_some]
  rw [parseFormat]
  simpa using fields

end ZumoDelivery
