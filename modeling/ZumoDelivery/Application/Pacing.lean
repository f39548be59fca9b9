import ZumoDelivery.Lib.Pacing
import ZumoDelivery.Application.Stamps
import ZumoDelivery.Application.TimedDrive

set_option autoImplicit false

namespace ZumoDelivery

open FloatArith

def ActsAt (env : Env) (task : PacedTask) (time : ℕ) : Prop :=
  stageAt time = some task.stage ∧
    (task.flag (deviceTrace (F := ℚ) env time).flags).due env (deviceTrace (F := ℚ) env time) =
      true ∧
    task.acts (deviceTrace (F := ℚ) env time) (deviceTrace env (time + 1)) = true

instance (env : Env) (task : PacedTask) (time : ℕ) : Decidable (ActsAt env task time) :=
  inferInstanceAs (Decidable (_ ∧ _ ∧ _))

/-- `Message_Handling_Init` resets the trigger time of a task. -/
def ResetsAt (env : Env) (task : PacedTask) (time : ℕ) : Prop :=
  RestartsAt ℚ env time ∧ task.initialised = true

instance (env : Env) (task : PacedTask) (time : ℕ) : Decidable (ResetsAt env task time) :=
  inferInstanceAs (Decidable (_ ∧ _))

/-- The period of a task, in milliseconds. -/
def periodAt (env : Env) (task : PacedTask) (time : ℕ) : ℚ :=
  (task.flag (deviceTrace (F := ℚ) env time).flags).duration

/-- The millisecond time that the trigger time of a task stands for. -/
def stampAt (env : Env) (task : PacedTask) : ℕ → ℕ
  | 0 => 0
  | time + 1 =>
      if ActsAt env task time then env.millis ((deviceTrace (F := ℚ) env (time + 1)).looks - 1)
      else if ResetsAt env task time then 0
      else stampAt env task time

theorem stamp_succ (env : Env) (task : PacedTask) (time : ℕ) :
    task.stamp (deviceTrace (F := ℚ) env (time + 1)).stamps =
      if ActsAt env task time then lastReading env (deviceTrace (F := ℚ) env (time + 1))
      else if ResetsAt env task time then ⟨0, 0⟩
      else task.stamp (deviceTrace (F := ℚ) env time).stamps := by
  obtain ⟨stage, here⟩ := stageAt_isSome time
  have next : deviceTrace (F := ℚ) env (time + 1) = stage.run env (deviceTrace env time) :=
    deviceTrace_succ here
  by_cases restart : stage = .restart
  · subst restart
    have idle : ¬ ActsAt env task time := by
      rintro ⟨own, -⟩
      rw [here] at own
      cases task <;> cases own
    rw [if_neg idle, next]
    refine (stamps_restartHandler env _ task).trans ?_
    simp only [ResetsAt, RestartsAt, here, true_and, Bool.and_eq_true]
  · have kept : ¬ ResetsAt env task time := by
      rintro ⟨⟨own, -⟩, -⟩
      exact restart (Option.some.inj (here.symm.trans own))
    rw [if_neg kept]
    cases owner : stage.task with
    | none =>
        have idle : ¬ ActsAt env task time := by
          rintro ⟨own, -⟩
          obtain rfl := Option.some.inj (here.symm.trans own)
          rw [(task_eq_some_iff task.stage task).mpr rfl] at owner
          cases owner
        rw [if_neg idle, next, stamps_run_other env stage _ owner restart]
    | some actor =>
        obtain rfl := (task_eq_some_iff stage actor).mp owner
        rw [next, stamps_run_task env _ actor, ← next]
        by_cases own : task = actor
        · subst own
          by_cases due : (task.flag (deviceTrace (F := ℚ) env time).flags).due env
              (deviceTrace (F := ℚ) env time) = true
          · rw [if_pos due]
            cases acts : task.acts (deviceTrace (F := ℚ) env time) (deviceTrace env (time + 1)) with
            | true =>
                rw [if_pos ⟨here, due, acts⟩, renewed_of_acts acts, PacedTask.stamp_renew_self]
            | false =>
                rw [if_neg (fun action => Bool.eq_false_iff.mp acts action.2.2),
                  renewed_of_idle acts]
          · rw [if_neg due, if_neg fun action => due action.2.1]
        · have idle : ¬ ActsAt env task time := by
            rintro ⟨stage, -⟩
            exact own (stage_injective (Option.some.inj (stage.symm.trans here)))
          rw [if_neg idle]
          split
          · exact stamp_renewed_of_ne own
          · rfl

theorem stamp_deviceTrace (env : Env) (task : PacedTask) (time : ℕ) :
    (task.stamp (deviceTrace (F := ℚ) env time).stamps).millisec =
      UInt32.ofNat (stampAt env task time) := by
  induction time with
  | zero => cases task <;> rfl
  | succ time ih =>
      rw [stamp_succ, stampAt]
      split
      · rfl
      split
      · rfl
      · exact ih

/-- A difference of 32 bits is never more than the time that has passed. -/
theorem toNat_sub_le (now start : ℕ) (ordered : start ≤ now) :
    (UInt32.ofNat now - UInt32.ofNat start).toNat ≤ now - start := by
  have split : UInt32.ofNat now = UInt32.ofNat (now - start) + UInt32.ofNat start := by
    rw [← UInt32.ofNat_add, Nat.sub_add_cancel ordered]
  rw [split, UInt32.add_sub_cancel, UInt32.toNat_ofNat']
  exact Nat.mod_le _ _

theorem looks_lt_of_actsAt {env : Env} {task : PacedTask} {time : ℕ}
    (acts : ActsAt env task time) :
    (deviceTrace (F := ℚ) env time).looks < (deviceTrace (F := ℚ) env (time + 1)).looks := by
  rw [deviceTrace_succ acts.1]
  exact looks_lt_of_due env _ task acts.2.1

theorem stampAt_le {env : Env} (clock : Monotone env.millis) (task : PacedTask) (time : ℕ) :
    stampAt env task time ≤ millisAt env time := by
  induction time with
  | zero => exact Nat.zero_le _
  | succ time ih =>
      rw [stampAt]
      split
      · exact clock (Nat.sub_le _ 1)
      split
      · exact Nat.zero_le _
      · exact ih.trans (millisAt_mono clock (Nat.le_succ time))

theorem paced {env : Env} (clock : Monotone env.millis) (task : PacedTask) :
    Pacing.Paced (millisAt env) (ActsAt env task) (ResetsAt env task) (periodAt env task)
      (stampAt env task) where
  mono _ _ ordered := millisAt_mono clock ordered
  due time acts := by
    obtain ⟨-, due, -⟩ := acts
    have waited := ((task.flag _).due_iff env _).mp due
    have passed := (le_iff _ _).mp waited.2
    rw [← stamp_stamps, stamp_deviceTrace] at passed
    have counted : ((UInt32.ofNat (millisAt env time) -
        UInt32.ofNat (stampAt env task time)).toNat : ℚ) ≤
          (millisAt env time - stampAt env task time : ℕ) :=
      Nat.cast_le.mpr (toNat_sub_le _ _ (stampAt_le clock task time))
    exact le_trans passed counted
  renewed time acts := by
    rw [stampAt, if_pos acts]
    exact clock (Nat.le_sub_one_of_lt (looks_lt_of_actsAt acts))
  kept time idle kept := by
    rw [stampAt, if_neg idle, if_neg kept]

structure PacedInRun (env : Env) (task : PacedTask) : Prop where
  /-- Two actions without a reset in between are at least the period apart that is in
  force at the second one. -/
  spaced : ∀ first last, first < last → ActsAt env task first → ActsAt env task last →
    (∀ time, first < time → time < last → ¬ ResetsAt env task time) →
    millisAt env first + periodAt env task last ≤ millisAt env last
  /-- So a stretch of a run has room for one action more than for whole periods. -/
  bounded : ∀ first last (least : ℚ), first ≤ last → 0 ≤ least →
    (∀ time, first ≤ time → time < last → ActsAt env task time →
      least ≤ periodAt env task time) →
    (∀ time, first ≤ time → time < last → ¬ ResetsAt env task time) →
    ({time ∈ Finset.Ico first last | ActsAt env task time}.card : ℚ) * least ≤
      (millisAt env last - millisAt env first : ℕ) + least

/-- The pace of every task holds in every run, across wraps of the millisecond counter. -/
theorem paced_in_run (env : Env) (clock : Monotone env.millis) (task : PacedTask) :
    PacedInRun env task where
  spaced _ _ ordered earlier later quiet := (paced clock task).spaced earlier later ordered quiet
  bounded _ _ _ ordered positive slow quiet :=
    (paced clock task).card_le ordered positive slow quiet

/-- The battery is filtered every two milliseconds at most. -/
theorem paced_in_run_bench : PacedInRun (Env.bench [] fun look => look / 8) .batteryTask :=
  paced_in_run _ (fun _ _ ordered => Nat.div_le_div_right ordered) .batteryTask

end ZumoDelivery
