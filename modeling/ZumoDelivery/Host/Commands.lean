import Mathlib.Data.List.GetD
import ZumoDelivery.Application.Reception
import ZumoDelivery.Host.DynamicMode
import ZumoDelivery.Host.Writing

set_option autoImplicit false

namespace ZumoDelivery

open PyStruct MessageStream

variable {F : Type} [FloatArith F]

/-- A member of the packed struct that follows the command byte. -/
inductive Field (F : Type) where
  | byte (value : UInt8)
  | int (value : Int16)
  | float (value : F)

/-- How the cases of the message task read a member. -/
def fieldAt (F : Type) [FloatArith F] (data : List UInt8) (offset : ℕ) : OutFormat → Field F
  | .c => .byte (byteAt data offset)
  | .b => .byte (byteAt data offset)
  | .B => .byte (byteAt data offset)
  | .h => .int (intAt data offset)
  | .f => .float (floatAt data offset)

def fieldsAt (F : Type) [FloatArith F] (data : List UInt8) : List OutFormat → ℕ → List (Field F)
  | [], _ => []
  | format :: formats, offset =>
      fieldAt F data offset format :: fieldsAt F data formats (offset + format.size)

example (data : List UInt8) : fieldsAt F data [.h, .h, .f] 0 =
    [.int (intAt data 0), .int (intAt data 2), .float (floatAt data 4)] := rfl

def Entry.Holds : OutFormat → Entry → Field F → Prop
  | .c, .bytes [byte], .byte value => value = byte
  | .b, .int number, .byte value => value.toInt8.toInt = number
  | .B, .int number, .byte value => (value.toNat : ℤ) = number
  | .h, .int number, .int value => value.toInt = number
  | .f, .float (some packed), .float value =>
      value = FloatArith.ofBytes packed[0] packed[1] packed[2] packed[3]
  | _, _, _ => False

def Carried (conv : Conversions) : List (OutFormat × List Char) → List (Field F) → Prop :=
  List.Forall₂ fun box field =>
    ∃ entry, convertEntry conv box.1 box.2 = some entry ∧ entry.Holds box.1 field

theorem getD_append_add (before items : List UInt8) (place : ℕ) :
    (before ++ items).getD (before.length + place) 0 = items.getD place 0 := by
  rw [List.getD_append_right _ _ _ _ (Nat.le_add_right _ _), Nat.add_sub_cancel_left]

theorem toNat_digit (value : ℤ) : ((UInt8.ofNat (value % 256).toNat).toNat : ℤ) = value % 256 := by
  rw [UInt8.toNat_ofNat']
  omega

theorem toInt_toInt8_digit (value : ℤ) (lower : -128 ≤ value) (upper : value ≤ 127) :
    (UInt8.ofNat (value % 256).toNat).toInt8.toInt = value := by
  have digit := toNat_digit value
  have signed : (UInt8.ofNat (value % 256).toNat).toInt8.toInt =
      if 2 * (UInt8.ofNat (value % 256).toNat).toNat < 2 ^ 8 then
        ((UInt8.ofNat (value % 256).toNat).toNat : ℤ)
      else (UInt8.ofNat (value % 256).toNat).toNat - (2 ^ 8 : ℕ) :=
    BitVec.toInt_eq_toNat_cond (UInt8.ofNat (value % 256).toNat).toBitVec
  rw [signed]
  split <;> omega

theorem toInt_digits (value : ℤ) (lower : -32768 ≤ value) (upper : value ≤ 32767) :
    (Int16.ofInt ((UInt8.ofNat (value % 256).toNat).toNat +
      256 * (UInt8.ofNat (value / 256 % 256).toNat).toNat)).toInt = value := by
  have low := toNat_digit value
  have high := toNat_digit (value / 256)
  have joined : ((UInt8.ofNat (value % 256).toNat).toNat : ℤ) +
      256 * (UInt8.ofNat (value / 256 % 256).toNat).toNat = value % 65536 := by omega
  calc (Int16.ofInt ((UInt8.ofNat (value % 256).toNat).toNat +
        256 * (UInt8.ofNat (value / 256 % 256).toNat).toNat)).toInt
      = (value % (65536 : ℕ)).bmod 65536 := by rw [joined, Int16.toInt_ofInt]; rfl
    _ = value.bmod 65536 := Int.emod_bmod value 65536
    _ = value := Int.bmod_eq_of_le (by omega) (by omega)

theorem packInt_one (value : ℤ) : packInt 1 value = [UInt8.ofNat (value % 256).toNat] := by
  simp [packInt, List.range_succ]

theorem packInt_two (value : ℤ) :
    packInt 2 value =
      [UInt8.ofNat (value % 256).toNat, UInt8.ofNat (value / 256 % 256).toNat] := by
  simp [packInt, List.range_succ]

/-- What `struct.pack` makes of an entry, by its format. -/
theorem packEntry_cases {format : OutFormat} {entry : Entry} {item : List UInt8}
    (packs : packEntry format entry = some item) :
    (∃ byte, format = .c ∧ entry = .bytes [byte] ∧ item = [byte]) ∨
    (∃ packed, format = .f ∧ entry = .float (some packed) ∧ item = packed.toList) ∨
    (∃ value, format = .b ∧ entry = .int value ∧ -128 ≤ value ∧ value ≤ 127 ∧
      item = [UInt8.ofNat (value % 256).toNat]) ∨
    (∃ value, format = .B ∧ entry = .int value ∧ 0 ≤ value ∧ value ≤ 255 ∧
      item = [UInt8.ofNat (value % 256).toNat]) ∨
    (∃ value, format = .h ∧ entry = .int value ∧ -32768 ≤ value ∧ value ≤ 32767 ∧
      item = [UInt8.ofNat (value % 256).toNat, UInt8.ofNat (value / 256 % 256).toNat]) := by
  unfold packEntry at packs
  split at packs
  · cases packs
    exact Or.inl ⟨_, rfl, rfl, rfl⟩
  · cases packs
    exact Or.inr (Or.inl ⟨_, rfl, rfl, rfl⟩)
  · split at packs
    · rename_i value range
      cases packs
      exact Or.inr (Or.inr (Or.inl ⟨value, rfl, rfl, range.1, range.2, packInt_one value⟩))
    · cases packs
  · split at packs
    · rename_i value range
      cases packs
      exact Or.inr (Or.inr (Or.inr (Or.inl
        ⟨value, rfl, rfl, range.1, range.2, packInt_one value⟩)))
    · cases packs
  · split at packs
    · rename_i value range
      cases packs
      exact Or.inr (Or.inr (Or.inr (Or.inr
        ⟨value, rfl, rfl, range.1, range.2, packInt_two value⟩)))
    · cases packs
  · cases packs

theorem getD_toList_append (packed : Vector UInt8 4) (after : List UInt8) (place : ℕ)
    (inside : place < 4) : (packed.toList ++ after).getD place 0 = packed[place] := by
  have bound : place < packed.toList.length := by rw [packed.length_toList]; exact inside
  rw [List.getD_append _ _ _ _ bound, List.getD_eq_getElem _ _ bound, Vector.getElem_toList]

theorem length_packEntry {format : OutFormat} {entry : Entry} {item : List UInt8}
    (packs : packEntry format entry = some item) : item.length = format.size := by
  rcases packEntry_cases packs with ⟨byte, rfl, -, rfl⟩ | ⟨packed, rfl, -, rfl⟩ |
    ⟨value, rfl, -, -, -, rfl⟩ | ⟨value, rfl, -, -, -, rfl⟩ | ⟨value, rfl, -, -, -, rfl⟩
  · rfl
  · exact packed.length_toList
  · rfl
  · rfl
  · rfl

theorem holds_of_packEntry {format : OutFormat} {entry : Entry} {item : List UInt8}
    (packs : packEntry format entry = some item) (before after : List UInt8) :
    entry.Holds format (fieldAt F (before ++ (item ++ after)) before.length format) := by
  have read (place : ℕ) : byteAt (before ++ (item ++ after)) (before.length + place) =
      (item ++ after).getD place 0 := getD_append_add before (item ++ after) place
  have first : byteAt (before ++ (item ++ after)) before.length = (item ++ after).getD 0 0 :=
    read 0
  rcases packEntry_cases packs with ⟨byte, rfl, rfl, rfl⟩ | ⟨packed, rfl, rfl, rfl⟩ |
    ⟨value, rfl, rfl, lower, upper, rfl⟩ | ⟨value, rfl, rfl, lower, upper, rfl⟩ |
    ⟨value, rfl, rfl, lower, upper, rfl⟩
  · exact first
  · change floatAt _ _ = _
    rw [floatAt, first, read 1, read 2, read 3, getD_toList_append packed after 0 (by decide),
      getD_toList_append packed after 1 (by decide), getD_toList_append packed after 2 (by decide),
      getD_toList_append packed after 3 (by decide)]
  · change (byteAt _ _).toInt8.toInt = value
    rw [first]
    exact toInt_toInt8_digit value lower upper
  · change ((byteAt _ _).toNat : ℤ) = value
    rw [first]
    refine (toNat_digit value).trans ?_
    omega
  · change (intAt _ _).toInt = value
    rw [intAt, first, read 1]
    exact toInt_digits value lower upper

def formatSize (formats : List OutFormat) : ℕ := (formats.map OutFormat.size).sum

theorem carried_of_pack (conv : Conversions) (boxes : List (OutFormat × List Char))
    {entries : List Entry} {items : List UInt8}
    (converts : convertEntries conv (boxes.map Prod.snd) (boxes.map Prod.fst) = some entries)
    (packs : packEntries (boxes.map Prod.fst) entries = some items) (before : List UInt8) :
    items.length = formatSize (boxes.map Prod.fst) ∧
      Carried conv boxes (fieldsAt F (before ++ items) (boxes.map Prod.fst) before.length) := by
  induction boxes generalizing entries items before with
  | nil =>
      cases converts
      cases packs
      exact ⟨rfl, .nil⟩
  | cons box boxes ih =>
      obtain ⟨format, text⟩ := box
      simp only [List.map_cons, convertEntries, Option.bind_eq_bind, Option.bind_eq_some_iff,
        Option.pure_def, Option.some.injEq] at converts
      obtain ⟨entry, converted, rest, restConverts, rfl⟩ := converts
      simp only [List.map_cons, packEntries, Option.bind_eq_bind, Option.bind_eq_some_iff,
        Option.pure_def, Option.some.injEq] at packs
      obtain ⟨item, itemPacks, tail, tailPacks, rfl⟩ := packs
      have sized := length_packEntry itemPacks
      obtain ⟨length, carried⟩ := ih restConverts tailPacks (before ++ item)
      refine ⟨?_, .cons ⟨entry, converted, holds_of_packEntry itemPacks before tail⟩ ?_⟩
      · rw [List.length_append, sized, length]
        rfl
      · rw [List.append_assoc, List.length_append, sized] at carried
        exact carried

/-- The members of the payload of a command. A '~' never leaves the receive buffer. -/
def commandFormat (letter : Char) : Option (List OutFormat) :=
  match letter with
  | '*' => some [.f, .f]
  | '/' => some [.f, .f]
  | '+' => some [.f, .f]
  | '-' => some [.f, .f]
  | 't' => some [.B]
  | 'T' => some [.B, .f]
  | 'e' => some []
  | 'E' => some [.f]
  | 'b' => some []
  | 'B' => some [.f]
  | 'p' => some [.h, .h]
  | 'P' => some [.h, .h, .f]
  | 's' => some []
  | 'S' => some []
  | 'q' => some []
  | 'Q' => some [.f]
  | 'd' => some [.f, .f]
  | 'D' => some [.f, .f, .f]
  | 'v' => some [.f, .f]
  | 'V' => some [.f, .f, .f]
  | 'i' => some []
  | 'I' => some [.f]
  | 'G' => some [.c]
  | 'O' => some [.f]
  | _ => none

structure HostCommand where
  letter : Char
  args : List (OutFormat × List Char)
  known : commandFormat letter = some (args.map Prod.fst)
  filled : ∀ box ∈ args, box.2 ≠ []

namespace HostCommand

def boxes (command : HostCommand) : List (OutFormat × List Char) :=
  (.c, [command.letter]) :: command.args

/-- A dispatch whose case reads what was typed in. -/
structure CarriedBy (F : Type) [FloatArith F] (conv : Conversions) (command : HostCommand)
    (message : Dispatch) : Prop where
  letter : Ascii.toChar message.command = command.letter
  args : Carried conv command.args (fieldsAt F message.payload (command.args.map Prod.fst) 0)

end HostCommand

/-- The table agrees with `MEGN540_Message_Len`, and its letters are ASCII. -/
theorem messageSize_of_commandFormat {letter : Char} {formats : List OutFormat}
    (known : commandFormat letter = some formats) :
    Ascii.toChar (Ascii.ofChar letter) = letter ∧ letter ≠ '~' ∧ encodeText [letter] =
      [Ascii.ofChar letter] ∧ messageSize (Ascii.ofChar letter) = 1 + formatSize formats := by
  unfold commandFormat at known
  split at known
  all_goals cases known
  all_goals decide +kernel

theorem filter_boxes (command : HostCommand) :
    command.boxes.filter (fun box => decide (box.2 ≠ [])) = command.boxes := by
  rw [List.filter_eq_self]
  intro box member
  rcases List.mem_cons.mp member with rfl | arg
  · rfl
  · exact decide_eq_true (command.filled box arg)

theorem pack_of_write {conv : Conversions} {s : SerialData} {opened : Bool}
    {data : List (List Char)} {format : List OutFormat} {message : List UInt8}
    (written : s.write conv opened data format = .ok message) :
    ∃ entries, convertEntries conv data format = some entries ∧
      packEntries format entries = some message := by
  unfold SerialData.write at written
  split at written
  · cases written
  · rename_i entries converts
    split at written
    · split at written
      · cases written
      · rename_i packed packs
        split at written
        · split at written
          · cases written
            exact ⟨entries, converts, packs⟩
          · cases written
        · cases written
    · cases written

/-- A command that `write` accepts goes out as one whole message that carries it. -/
theorem whole_of_send {conv : Conversions} {s : SerialData} {opened : Bool}
    {command : HostCommand} {message : List UInt8}
    (sent : s.send conv opened command.boxes = some (.ok message)) :
    Whole messageSize message ∧
      command.CarriedBy F conv (toDispatch message) := by
  obtain ⟨char, notRestart, encoded, size⟩ := messageSize_of_commandFormat command.known
  have written : s.write conv opened (command.boxes.map Prod.snd) (command.boxes.map Prod.fst) =
      .ok message := by
    unfold SerialData.send at sent
    dsimp only at sent
    rw [filter_boxes, if_neg (show command.boxes ≠ [] from List.cons_ne_nil _ _)] at sent
    exact Option.some.inj sent
  obtain ⟨entries, converts, packs⟩ := pack_of_write written
  simp only [HostCommand.boxes, List.map_cons, convertEntries, convertEntry, encoded,
    Option.bind_eq_bind, Option.bind_some, Option.bind_eq_some_iff, Option.pure_def,
    Option.some.injEq] at converts
  obtain ⟨args, argsConvert, rfl⟩ := converts
  simp only [HostCommand.boxes, List.map_cons, packEntries, packEntry, Option.bind_eq_bind,
    Option.bind_some, Option.bind_eq_some_iff, Option.pure_def, Option.some.injEq] at packs
  obtain ⟨payload, argsPack, rfl⟩ := packs
  obtain ⟨length, carried⟩ := carried_of_pack (F := F) conv command.args argsConvert argsPack []
  refine ⟨⟨Ascii.ofChar command.letter, payload, rfl, ?_⟩, char, carried⟩
  rw [size, List.singleton_append, List.length_cons, length]
  omega

def readBefore (F : Type) [FloatArith F] (env : Env) (n : ℕ) : List UInt8 :=
  (deviceTrace (F := F) env (17 * n)).usb.out.packetsRead.flatten

def Sent (conv : Conversions) (s : SerialData) (opened : Bool) :
    List HostCommand → List (List UInt8) → Prop :=
  List.Forall₂ fun command message => s.send conv opened command.boxes = some (.ok message)

theorem whole_of_sent {conv : Conversions} {s : SerialData} {opened : Bool}
    {commands : List HostCommand} {messages : List (List UInt8)}
    (sent : Sent conv s opened commands messages) :
    (∀ message ∈ messages, Whole messageSize message ∧
      Ascii.toChar (message.headD 0) ≠ '~') ∧
    List.Forall₂ (HostCommand.CarriedBy F conv) commands (messages.map toDispatch) := by
  induction sent with
  | nil =>
      refine ⟨?_, .nil⟩
      intro message member
      cases member
  | @cons command message commands messages first rest ih =>
      obtain ⟨whole, carried⟩ := whole_of_send (F := F) first
      have letter : Ascii.toChar (message.headD 0) = command.letter := carried.letter
      have notRestart := (messageSize_of_commandFormat command.known).2.1
      refine ⟨?_, .cons carried ih.2⟩
      intro other member
      rcases List.mem_cons.mp member with rfl | later
      · exact ⟨whole, letter ▸ notRestart⟩
      · exact ih.1 other later

/-- However the bytes of a session are split into packets and whatever the pauses, the
commands that have arrived as a whole are dispatched, in order, each once and with the numbers
that were typed in, and nothing else is. -/
theorem commands_dispatched (F : Type) [FloatArith F] (env : Env) (n : ℕ) (conv : Conversions)
    (s : SerialData) (opened : Bool) (commands : List HostCommand) (messages : List (List UInt8))
    (sent : Sent conv s opened commands messages)
    (nonempty : ∀ look, ∀ packet ∈ env.outPacket look, packet ≠ [])
    (arrived : readBefore F env n <+: messages.flatten) :
    ∃ k ≤ commands.length,
      List.Forall₂ (HostCommand.CarriedBy F conv) (commands.take k) (dispatchedBefore F env n) ∧
      readBefore F env n = (messages.take k).flatten ++
        (deviceTrace (F := F) env (17 * n)).usb.received ∧
      Pending messageSize (deviceTrace (F := F) env (17 * n)).usb.received ∧
      (readBefore F env n = messages.flatten → k = commands.length) := by
  obtain ⟨wholes, carried⟩ := whole_of_sent (F := F) sent
  obtain ⟨k, bound, tail, split, pending, complete⟩ :=
    prefix_flatten messages (fun message member => (wholes message member).1) arrived
  have sized : commands.length = messages.length := sent.length_eq
  have taken : ∀ message ∈ messages.take k, message ∈ messages := fun _ => List.mem_of_mem_take
  have cuts := cut_flatten (messages.take k) tail
    (fun message member => (wholes message (taken message member)).1) pending
  rw [← split] at cuts
  have parsed : parse (deviceTrace (F := F) env (17 * n)).usb = ⟨messages.take k, tail, false⟩ := by
    rw [parse, cutPackets_eq_cut]
    · exact cuts
    · exact congrArg Cut.lost cuts
  obtain ⟨receiving, log⟩ := receiving_run (F := F) env n nonempty (by
    rw [parsed]
    exact fun message member => (wholes message (taken message member)).2)
  have left : (deviceTrace (F := F) env (17 * n)).usb.received = tail := by
    rw [receiving.received, parsed]
  rw [parsed] at log
  rw [left, log, sized]
  refine ⟨k, bound, ?_, split, pending, complete⟩
  rw [List.map_take]
  exact List.forall₂_take k carried

def benchConversions : Conversions where
  int := intOfText
  float text := if text = ['1', '.', '5'] then some (some #v[0, 0, 192, 63]) else none

def benchCommands : List HostCommand :=
  [⟨'p', [(.h, ['5', '0']), (.h, ['-', '5', '0'])], rfl, by decide⟩,
    ⟨'O', [(.f, ['1', '.', '5'])], rfl, by decide⟩]

def benchMessages : List (List UInt8) := [[112, 50, 0, 206, 255], [79, 0, 0, 192, 63]]

set_option maxRecDepth 20000 in
/-- Both commands arrive in one packet; after nine iterations the second is still incomplete. -/
theorem commands_dispatched_bench :
    ∃ k ≤ benchCommands.length,
      List.Forall₂ (HostCommand.CarriedBy ℚ benchConversions) (benchCommands.take k)
        (dispatchedBefore ℚ (Env.bench benchMessages.flatten id) 9) ∧
      readBefore ℚ (Env.bench benchMessages.flatten id) 9 = (benchMessages.take k).flatten ++
        (deviceTrace (F := ℚ) (Env.bench benchMessages.flatten id) (17 * 9)).usb.received ∧
      Pending messageSize
        (deviceTrace (F := ℚ) (Env.bench benchMessages.flatten id) (17 * 9)).usb.received ∧
      (readBefore ℚ (Env.bench benchMessages.flatten id) 9 = benchMessages.flatten →
        k = benchCommands.length) := by
  refine commands_dispatched ℚ (Env.bench benchMessages.flatten id) 9 benchConversions
    dynamicStart true benchCommands benchMessages ?_ ?_ ?_
  · exact .cons (by decide +kernel) (.cons (by decide +kernel) .nil)
  · intro look packet presented
    cases presented
    decide
  · decide +kernel

end ZumoDelivery
