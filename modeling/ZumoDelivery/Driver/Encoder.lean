import ZumoDelivery.Lib.Quadrature
import ZumoDelivery.Driver.Peripherals

set_option autoImplicit false

namespace ZumoDelivery

open Quadrature (Sample Adjacent)

/-- The input registers that the encoders are read from. -/
structure EncoderPins where
  pinB : UInt8
  pinE : UInt8
  pinF : UInt8
deriving DecidableEq

def bitValue (bit : Fin 8) : UInt8 := 1 <<< UInt8.ofNat bit

/-- The macro `bit_is_set`, which leaves the bit where it stands in the register. -/
def bitIsSet (sfr : UInt8) (bit : Fin 8) : UInt8 := sfr &&& bitValue bit

/-- Where the XOR of the channels and channel B of an encoder are connected. -/
structure EncoderWiring where
  xorPort : EncoderPins → UInt8
  xorBit : Fin 8
  bPort : EncoderPins → UInt8
  bBit : Fin 8
  apart : xorBit ≠ bBit

section Reading

variable (wiring : EncoderWiring) (pins : EncoderPins)

def encoderXor : Bool := bitIsSet (wiring.xorPort pins) wiring.xorBit ≠ 0

def encoderB : Bool := bitIsSet (wiring.bPort pins) wiring.bBit ≠ 0

/-- The `^` is taken of the masked registers, before the conversion to `bool`. -/
def encoderA : Bool :=
  bitIsSet (wiring.xorPort pins) wiring.xorBit ^^^ bitIsSet (wiring.bPort pins) wiring.bBit ≠ 0

end Reading

/-- PB4 and PE2. -/
def leftEncoder : EncoderWiring := ⟨EncoderPins.pinB, 4, EncoderPins.pinE, 2, by decide⟩

/-- PE6 and PF0. -/
def rightEncoder : EncoderWiring := ⟨EncoderPins.pinE, 6, EncoderPins.pinF, 0, by decide⟩

def leftXor : EncoderPins → Bool := encoderXor leftEncoder

def leftB : EncoderPins → Bool := encoderB leftEncoder

def leftA : EncoderPins → Bool := encoderA leftEncoder

def rightXor : EncoderPins → Bool := encoderXor rightEncoder

def rightB : EncoderPins → Bool := encoderB rightEncoder

def rightA : EncoderPins → Bool := encoderA rightEncoder

structure EncoderState where
  lastA : Bool
  lastB : Bool
  lastXor : Bool
  counts : Int32
deriving DecidableEq

def encoderInit (wiring : EncoderWiring) (pins : EncoderPins) : EncoderState :=
  let lastB := encoderB wiring pins
  let lastXor := encoderXor wiring pins
  { lastA := lastB ^^ lastXor, lastB, lastXor, counts := 0 }

/-- The body shared by the two interrupt routines. -/
def encoderIsr (wiring : EncoderWiring) (s : EncoderState) (pins : EncoderPins) : EncoderState :=
  if s.lastXor ≠ encoderXor wiring pins then
    { counts := s.counts + Int32.ofInt
        ((s.lastB ^^ encoderA wiring pins).toInt - (s.lastA ^^ encoderB wiring pins).toInt)
      lastA := encoderA wiring pins
      lastB := encoderB wiring pins
      lastXor := encoderXor wiring pins }
  else s

def isrPcint0 : EncoderState → EncoderPins → EncoderState := encoderIsr leftEncoder

def isrInt6 : EncoderState → EncoderPins → EncoderState := encoderIsr rightEncoder

theorem bitIsSet_cases (sfr : UInt8) (bit : Fin 8) :
    bitIsSet sfr bit = 0 ∨ bitIsSet sfr bit = bitValue bit := by
  obtain ⟨sfr⟩ := sfr
  have masked : ∀ (bits : BitVec 8) (bit : Fin 8),
      bits &&& (bitValue bit).toBitVec = 0 ∨ bits &&& (bitValue bit).toBitVec =
        (bitValue bit).toBitVec := by
    decide +kernel
  rcases masked sfr bit with clear | set
  · left
    exact UInt8.toBitVec_inj.mp clear
  · right
    exact UInt8.toBitVec_inj.mp set

theorem encoderA_eq (wiring : EncoderWiring) (pins : EncoderPins) :
    encoderA wiring pins = (encoderXor wiring pins || encoderB wiring pins) := by
  have distinct : ∀ i j : Fin 8, i ≠ j → bitValue i ≠ 0 ∧ bitValue j ≠ 0 ∧
      bitValue i ^^^ bitValue j ≠ 0 := by
    decide
  obtain ⟨first, second, both⟩ := distinct wiring.xorBit wiring.bBit wiring.apart
  rw [encoderA, encoderXor, encoderB]
  rcases bitIsSet_cases (wiring.xorPort pins) wiring.xorBit with clear | set
  · rw [clear, UInt8.zero_xor]
    simp only [ne_eq, not_true_eq_false, decide_false, Bool.false_or]
  · rcases bitIsSet_cases (wiring.bPort pins) wiring.bBit with low | high
    · rw [set, low, UInt8.xor_zero]
      simp only [ne_eq, not_true_eq_false, decide_false, Bool.or_false]
    · rw [set, high]
      simp only [ne_eq, both, first, not_false_eq_true, decide_true, Bool.true_or]

/-- The state of the channels that the pins show. -/
def sampled (wiring : EncoderWiring) (pins : EncoderPins) : Sample :=
  ⟨encoderXor wiring pins ^^ encoderB wiring pins, encoderB wiring pins⟩

theorem parity_sampled (wiring : EncoderWiring) (pins : EncoderPins) :
    (sampled wiring pins).parity = encoderXor wiring pins := by
  rw [Sample.parity, sampled, Bool.xor_assoc, Bool.xor_self, Bool.xor_false]

/-- The state after a run of interrupts that starts on some pins and some count. -/
def encoderRun (wiring : EncoderWiring) (start : EncoderPins) (count : Int32)
    (pins : List EncoderPins) : EncoderState :=
  pins.foldl (encoderIsr wiring) { encoderInit wiring start with counts := count }

def EncoderState.latched (s : EncoderState) : Sample := ⟨s.lastA, s.lastB⟩

/-- The count follows the samples, with one sign for the direction. -/
structure CountsQuadrature (sign : ℤ) (wiring : EncoderWiring) (start : EncoderPins)
    (count : Int32) (pins : List EncoderPins) : Prop where
  changed : ∀ before next, before ++ [next] <+: pins →
    (encoderRun wiring start count before).lastXor ≠ encoderXor wiring next →
    (encoderRun wiring start count (before ++ [next])).counts =
        (encoderRun wiring start count before).counts + 1 ∨
      (encoderRun wiring start count (before ++ [next])).counts =
        (encoderRun wiring start count before).counts - 1
  unchanged : ∀ before next, before ++ [next] <+: pins →
    (encoderRun wiring start count before).lastXor = encoderXor wiring next →
    (encoderRun wiring start count (before ++ [next])).counts =
      (encoderRun wiring start count before).counts
  phase : ∀ before, before <+: pins → (encoderRun wiring start count before).counts.toInt ≡
    count.toInt + sign * ((encoderRun wiring start count before).latched.phase -
      (sampled wiring start).phase) [ZMOD 4]
  net : ∀ before, before <+: pins →
    List.IsChain Adjacent ((start :: before).map (sampled wiring)) →
    (encoderRun wiring start count before).counts = count + Int32.ofInt
      (sign * Quadrature.net (sampled wiring start) (before.map (sampled wiring)))

/-- A sample with only channel B high, right after one in which the channels agree. -/
def Blind (s t : Sample) : Prop := s.parity = false ∧ t = ⟨false, true⟩

instance (s t : Sample) : Decidable (Blind s t) := inferInstanceAs (Decidable (_ ∧ _))

def holding (held : Sample) (counts : Int32) : EncoderState :=
  ⟨held.a, held.b, held.parity, counts⟩

section Steps

variable (wiring : EncoderWiring)

theorem encoderInit_eq (pins : EncoderPins) (count : Int32) :
    { encoderInit wiring pins with counts := count } = holding (sampled wiring pins) count := by
  rw [holding, parity_sampled]
  simp only [encoderInit, sampled, Bool.xor_comm]

theorem signals_of_sampled {pins : EncoderPins} {a b : Bool} (same : sampled wiring pins = ⟨a, b⟩) :
    encoderXor wiring pins = (a ^^ b) ∧ encoderB wiring pins = b ∧
      encoderA wiring pins = ((a ^^ b) || b) := by
  have second : encoderB wiring pins = b := congrArg Sample.b same
  have parity := parity_sampled wiring pins
  rw [same] at parity
  refine ⟨parity.symm, second, ?_⟩
  rw [encoderA_eq, second, ← parity]
  rfl

theorem encoderIsr_holding (held : Sample) (count : Int32) (pins : EncoderPins)
    (seen : ¬ Blind held (sampled wiring pins)) :
    encoderIsr wiring (holding held count) pins =
      holding (Quadrature.latch held (sampled wiring pins))
        (count + Int32.ofInt (Quadrature.edge held (sampled wiring pins))) := by
  obtain ⟨c, d⟩ := held
  cases here : sampled wiring pins with
  | mk a b =>
      obtain ⟨signal, second, first⟩ := signals_of_sampled wiring here
      rw [here] at seen
      rw [encoderIsr, signal, second, first]
      revert seen
      cases a <;> cases b <;> cases c <;> cases d <;>
        simp [holding, Blind, Quadrature.latch, Quadrature.edge, Quadrature.turn, Sample.parity,
          Sample.phase]

theorem counts_of_blind (held : Sample) (count : Int32) (pins : EncoderPins)
    (blind : Blind held (sampled wiring pins)) :
    (holding held count).lastXor ≠ encoderXor wiring pins ∧
      (encoderIsr wiring (holding held count) pins).counts = count := by
  obtain ⟨c, d⟩ := held
  obtain ⟨agree, here⟩ := blind
  obtain ⟨signal, second, first⟩ := signals_of_sampled wiring here
  rw [encoderIsr, signal, second, first]
  revert agree
  cases c <;> cases d <;> simp [holding, Sample.parity]

end Steps

section Runs

variable (wiring : EncoderWiring)

/-- Between two samples only the parity of the earlier one matters. -/
theorem blind_iff_of_parity {s t : Sample} (same : s.parity = t.parity) (next : Sample) :
    Blind s next ↔ Blind t next := by
  rw [Blind, Blind, same]

theorem foldl_encoderIsr {held last : Sample} (same : held.parity = last.parity) (count : Int32)
    (pins : List EncoderPins)
    (seen : List.IsChain (fun s t => ¬ Blind s t) (last :: pins.map (sampled wiring))) :
    pins.foldl (encoderIsr wiring) (holding held count) =
      holding (Quadrature.latched held (pins.map (sampled wiring)))
        (count + Int32.ofInt (Quadrature.counted held (pins.map (sampled wiring)))) := by
  induction pins generalizing held last count with
  | nil =>
      rw [List.foldl_nil, List.map_nil, Quadrature.counted]
      exact congrArg (holding held) (Int32.add_zero count).symm
  | cons next pins ih =>
      rw [List.map_cons] at seen ⊢
      obtain ⟨here, rest⟩ := List.isChain_cons_cons.mp seen
      rw [← blind_iff_of_parity same] at here
      rw [List.foldl_cons, encoderIsr_holding wiring held count next here,
        ih (Quadrature.parity_latch held (sampled wiring next)) _ rest, Quadrature.counted,
        Int32.ofInt_add, Int32.add_assoc]
      rfl

theorem seen_of_changed {held last : Sample} (same : held.parity = last.parity) (count : Int32)
    (pins : List EncoderPins)
    (changed : ∀ before next, before ++ [next] <+: pins →
      (before.foldl (encoderIsr wiring) (holding held count)).lastXor ≠ encoderXor wiring next →
      ((before ++ [next]).foldl (encoderIsr wiring) (holding held count)).counts ≠
        (before.foldl (encoderIsr wiring) (holding held count)).counts) :
    List.IsChain (fun s t => ¬ Blind s t) (last :: pins.map (sampled wiring)) := by
  induction pins generalizing held last count with
  | nil => exact List.isChain_singleton last
  | cons next pins ih =>
      have here : ¬ Blind held (sampled wiring next) := by
        intro blind
        obtain ⟨differs, kept⟩ := counts_of_blind wiring held count next blind
        exact changed [] next (List.prefix_append [next] pins) differs kept
      have step := encoderIsr_holding wiring held count next here
      rw [List.map_cons, List.isChain_cons_cons]
      refine ⟨(blind_iff_of_parity same _).not.mp here, ?_⟩
      apply ih (Quadrature.parity_latch held (sampled wiring next))
      intro before later inside
      have earlier := changed (next :: before) later (List.cons_prefix_cons.mpr ⟨rfl, inside⟩)
      rw [List.cons_append, List.foldl_cons, List.foldl_cons, step] at earlier
      exact earlier

theorem encoderRun_take {start : EncoderPins} {pins before : List EncoderPins} (count : Int32)
    (seen : List.IsChain (fun s t => ¬ Blind s t) ((start :: pins).map (sampled wiring)))
    (inside : before <+: pins) :
    encoderRun wiring start count before =
      holding (Quadrature.latched (sampled wiring start) (before.map (sampled wiring)))
        (count + Int32.ofInt
          (Quadrature.counted (sampled wiring start) (before.map (sampled wiring)))) := by
  rw [encoderRun, encoderInit_eq]
  apply foldl_encoderIsr wiring rfl count before
  exact seen.prefix ((List.cons_prefix_cons.mpr ⟨rfl, inside⟩).map _)

theorem counts_next {start next : EncoderPins} {pins before : List EncoderPins} (count : Int32)
    (seen : List.IsChain (fun s t => ¬ Blind s t) ((start :: pins).map (sampled wiring)))
    (inside : before ++ [next] <+: pins) :
    ∃ held, (encoderRun wiring start count before).lastXor = held.parity ∧
      (encoderRun wiring start count (before ++ [next])).counts =
        (encoderRun wiring start count before).counts +
          Int32.ofInt (Quadrature.edge held (sampled wiring next)) := by
  have earlier := (List.prefix_append before [next]).trans inside
  rw [encoderRun_take wiring count seen inside, encoderRun_take wiring count seen earlier]
  refine ⟨_, rfl, ?_⟩
  simp only [holding, List.map_append, Quadrature.counted_append, List.map_cons, List.map_nil,
    Quadrature.counted, Int.add_zero, Int32.ofInt_add, Int32.add_assoc]

theorem int32_add_modEq (count : Int32) (n : ℤ) :
    (count + Int32.ofInt n).toInt ≡ count.toInt + n [ZMOD 4] := by
  have wraps : ∀ m : ℤ, m.bmod (2 ^ 32) ≡ m [ZMOD 4] := by
    intro m
    have whole : m.bmod (2 ^ 32) ≡ m [ZMOD (2 ^ 32 : ℕ)] := Int.bmod_emod
    exact whole.of_dvd (by decide)
  rw [Int32.toInt_add, Int32.toInt_ofInt]
  exact (wraps _).trans ((wraps n).add_left _)

theorem int32_add_ne (count : Int32) : count + 1 ≠ count ∧ count - 1 ≠ count := by
  constructor
  · intro same
    simp at same
  · intro same
    rw [Int32.sub_eq_add_neg] at same
    simp at same

/-- Both encoders count the quadrature steps exactly if channel B never comes up alone
in a sample that directly follows one in which the channels agree. -/
theorem counts_quadrature_iff (start : EncoderPins) (count : Int32) (pins : List EncoderPins) :
    CountsQuadrature 1 wiring start count pins ↔
      List.IsChain (fun s t => ¬ Blind s t) ((start :: pins).map (sampled wiring)) := by
  constructor
  · intro counts
    apply seen_of_changed wiring rfl count pins
    intro before next inside differs
    have moved := counts.changed before next inside
    rw [encoderRun, encoderRun, encoderInit_eq] at moved
    rcases moved differs with up | down
    · rw [up]
      exact (int32_add_ne _).1
    · rw [down]
      exact (int32_add_ne _).2
  · intro seen
    constructor
    · intro before next inside differs
      obtain ⟨held, parity, counts⟩ := counts_next wiring count seen inside
      rw [parity, ← parity_sampled] at differs
      rw [counts, Quadrature.edge, if_neg differs]
      rcases Quadrature.turn_cases held (sampled wiring next) with up | down
      · rw [up]
        exact Or.inl rfl
      · rw [down]
        exact Or.inr (Int32.sub_eq_add_neg _ 1).symm
    · intro before next inside agrees
      obtain ⟨held, parity, counts⟩ := counts_next wiring count seen inside
      rw [parity, ← parity_sampled] at agrees
      rw [counts, Quadrature.edge, if_pos agrees]
      exact Int32.add_zero _
    · intro before inside
      rw [encoderRun_take wiring count seen inside, Int.one_mul]
      exact (int32_add_modEq count _).trans ((Quadrature.counted_modEq _ _).add_left _)
    · intro before inside steps
      rw [encoderRun_take wiring count seen inside, Int.one_mul,
        ← Quadrature.counted_eq_net steps]
      rfl

/-- Backwards by one step, from all low to both pins high. -/
theorem not_counts_quadrature :
    ¬ ∃ sign : ℤ, (sign = 1 ∨ sign = -1) ∧ ∀ wiring ∈ [leftEncoder, rightEncoder],
      ∀ start count pins, CountsQuadrature sign wiring start count pins := by
  rintro ⟨sign, -, every⟩
  have moved := (every leftEncoder List.mem_cons_self ⟨0, 0, 0⟩ 0 [⟨0x10, 0x04, 0⟩]).changed []
    ⟨0x10, 0x04, 0⟩ (List.prefix_refl _) (by decide)
  revert moved
  decide

end Runs

end ZumoDelivery
