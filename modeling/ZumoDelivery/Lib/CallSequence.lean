import Mathlib.Tactic.Common

set_option autoImplicit false

/- A component called again and again, against what each call should do. -/
namespace CallSequence

variable {State Spec Call Answer : Type}

/-- `none` when one of the calls does not return. -/
def run (call : State → Call → Option (Answer × State)) :
    State → List Call → Option (List Answer × State)
  | state, [] => some ([], state)
  | state, next :: calls => do
      let (answer, after) ← call state next
      let (answers, final) ← run call after calls
      return (answer :: answers, final)

/-- The answers and the last state a specification allows for a list of calls. -/
inductive Run (step : Spec → Call → Answer → Spec → Prop) :
    Spec → List Call → List Answer → Spec → Prop where
  | nil (spec : Spec) : Run step spec [] [] spec
  | cons {spec next last : Spec} {call : Call} {answer : Answer} {calls : List Call}
      {answers : List Answer} (first : step spec call answer next)
      (later : Run step next calls answers last) :
      Run step spec (call :: calls) (answer :: answers) last

/-- One call of the component, while the remaining calls are proper, returns as the
specification says and stays related to it; so do all of them. -/
theorem run_related (call : State → Call → Option (Answer × State))
    (step : Spec → Call → Answer → Spec → Prop) (related : State → Spec → Prop)
    (proper : Spec → List Call → Prop)
    (one : ∀ state spec next calls, related state spec → proper spec (next :: calls) →
      ∃ answer after spec', call state next = some (answer, after) ∧
        step spec next answer spec' ∧ related after spec' ∧ proper spec' calls)
    (calls : List Call) (state : State) (spec : Spec) (start : related state spec)
    (allowed : proper spec calls) :
    ∃ answers final last, run call state calls = some (answers, final) ∧
      Run step spec calls answers last ∧ related final last := by
  induction calls generalizing state spec with
  | nil => exact ⟨[], state, spec, rfl, .nil spec, start⟩
  | cons next calls ih =>
      obtain ⟨answer, after, spec', called, stepped, kept, rest⟩ :=
        one state spec next calls start allowed
      obtain ⟨answers, final, last, ran, specified, ended⟩ := ih after spec' kept rest
      refine ⟨answer :: answers, final, last, ?_, .cons stepped specified, ended⟩
      simp only [run, called, ran, Option.bind_eq_bind, Option.bind_some]
      rfl

/-- Two components whose calls go in parallel, one on translated calls, answer in parallel. -/
theorem run_parallel {State' Call' Answer' : Type}
    (call : State → Call → Option (Answer × State))
    (call' : State' → Call' → Option (Answer' × State')) (translate : Call → Call')
    (reply : Answer → Answer') (related : State → State' → Prop)
    (one : ∀ state state' next, related state state' →
      ∃ answer after after', call state next = some (answer, after) ∧
        call' state' (translate next) = some (reply answer, after') ∧ related after after')
    (calls : List Call) (state : State) (state' : State') (start : related state state') :
    ∃ answers final final', run call state calls = some (answers, final) ∧
      run call' state' (calls.map translate) = some (answers.map reply, final') ∧
      related final final' := by
  induction calls generalizing state state' with
  | nil => exact ⟨[], state, state', rfl, rfl, start⟩
  | cons next calls ih =>
      obtain ⟨answer, after, after', called, called', kept⟩ := one state state' next start
      obtain ⟨answers, final, final', ran, ran', ended⟩ := ih after after' kept
      refine ⟨answer :: answers, final, final', ?_, ?_, ended⟩
      · simp only [run, called, ran, Option.bind_eq_bind, Option.bind_some]
        rfl
      · simp only [run, List.map_cons, called', ran', Option.bind_eq_bind, Option.bind_some]
        rfl

end CallSequence
