import Mathlib.Data.Nat.Notation
import Mathlib.Tactic.Common

set_option autoImplicit false

/- A program that runs one list of stages over and over. Time counts the stages
executed so far, so every point of a run is a natural number. -/
namespace CyclicProgram

variable {σ ι : Type} (body : List ι) (run : ι → σ → σ)

def stageAt (time : ℕ) : Option ι := body[time % body.length]?

def trace (start : σ) : ℕ → σ
  | 0 => start
  | time + 1 =>
      match stageAt body time with
      | some stage => run stage (trace start time)
      | none => trace start time

def pass (state : σ) : σ := body.foldl (fun state stage => run stage state) state

variable {body run}

theorem trace_succ {start : σ} {time : ℕ} {stage : ι} (here : stageAt body time = some stage) :
    trace body run start (time + 1) = run stage (trace body run start time) := by
  simp only [trace, here]

theorem stageAt_mul_add (n offset : ℕ) (inside : offset < body.length) :
    stageAt body (body.length * n + offset) = some (body[offset]) := by
  rw [stageAt, Nat.mul_add_mod, Nat.mod_eq_of_lt inside, List.getElem?_eq_getElem inside]

theorem trace_mul_add (start : σ) (n offset : ℕ) (inside : offset ≤ body.length) :
    trace body run start (body.length * n + offset) =
      pass (body.take offset) run (trace body run start (body.length * n)) := by
  induction offset with
  | zero => rfl
  | succ offset ih =>
      rw [← Nat.add_assoc, trace_succ (stageAt_mul_add n offset (by omega)), ih (by omega)]
      simp only [pass, List.take_succ_eq_append_getElem (show offset < body.length by omega),
        List.foldl_append, List.foldl_cons, List.foldl_nil]

theorem trace_mul_succ (start : σ) (n : ℕ) :
    trace body run start (body.length * (n + 1)) =
      pass body run (trace body run start (body.length * n)) := by
  rw [Nat.mul_succ, trace_mul_add start n body.length (Nat.le_refl _), List.take_length]

/-- What holds at one time and is preserved by each later step holds from then on. -/
theorem trace_since {start : σ} (invariant : σ → Prop) (first last : ℕ) (ordered : first ≤ last)
    (initial : invariant (trace body run start first))
    (preserved : ∀ time stage, first ≤ time → time < last → stageAt body time = some stage →
      invariant (trace body run start time) →
      invariant (run stage (trace body run start time))) :
    invariant (trace body run start last) := by
  induction ordered with
  | refl => exact initial
  | @step last ordered ih =>
      have before := ih fun time stage lower upper =>
        preserved time stage lower (Nat.lt_succ_of_lt upper)
      cases here : stageAt body last with
      | none => simpa only [trace, here] using before
      | some stage =>
          rw [trace_succ here]
          exact preserved last stage ordered (Nat.lt_succ_self last) here before

end CyclicProgram
