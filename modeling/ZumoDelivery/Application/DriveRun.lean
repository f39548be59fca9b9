import ZumoDelivery.Application.DriveStages

set_option autoImplicit false

namespace ZumoDelivery

variable {F : Type} [FloatArith F]

open FloatArith

/-- The motor command accepted by the statement executed at a time. -/
def acceptedAt (F : Type) [FloatArith F] (env : Env) (time : ℕ) : Option (DriveCommand F) :=
  if stageAt time = some .messageHandling then accepted env (deviceTrace env time) else none

def RestartsAt (F : Type) [FloatArith F] (env : Env) (time : ℕ) : Prop :=
  stageAt time = some .restart ∧
    (deviceTrace (F := F) env time).flags.mfRestart.due env (deviceTrace (F := F) env time) = true

instance (env : Env) (time : ℕ) : Decidable (RestartsAt F env time) :=
  inferInstanceAs (Decidable (_ ∧ _))

def lastAccepted (F : Type) [FloatArith F] (env : Env) : ℕ → Option (DriveCommand F)
  | 0 => none
  | time + 1 => (acceptedAt F env time).or (lastAccepted F env time)

theorem acceptedAt_of_stage {env : Env} {time : ℕ}
    (here : stageAt time = some .messageHandling) :
    acceptedAt F env time = accepted env (deviceTrace env time) :=
  if_pos here

theorem acceptedAt_of_other {env : Env} {time : ℕ}
    (other : stageAt time ≠ some .messageHandling) : acceptedAt F env time = none :=
  if_neg other

theorem stageAt_isSome (time : ℕ) : ∃ stage, stageAt time = some stage := by
  have inside : time % loopBody.length < loopBody.length := Nat.mod_lt _ (by decide)
  exact ⟨_, List.getElem?_eq_getElem inside⟩

/-- What the drive does at any time of a run. -/
inductive DriveStep (F : Type) [FloatArith F] (env : Env) (time : ℕ) : Prop where
  | move (quiet : acceptedAt F env time = none)
      (moved : (deviceTrace (F := F) env time).drive.Move (deviceTrace env (time + 1)).drive)
  | restart (quiet : acceptedAt F env time = none) (restarts : RestartsAt F env time)
      (same : (deviceTrace (F := F) env (time + 1)).drive =
        (deviceTrace env time).drive.restart)
  | command (command : DriveCommand F) (accepts : acceptedAt F env time = some command)
      (same : (deviceTrace (F := F) env (time + 1)).drive =
        (deviceTrace env time).drive.accept (getTime env (deviceTrace (F := F) env time)).1
          (deviceTrace (F := F) env time).ctrLeftMotor.updatePeriod command)

theorem driveStep (env : Env) (time : ℕ) : DriveStep F env time := by
  obtain ⟨stage, here⟩ := stageAt_isSome time
  have next : deviceTrace (F := F) env (time + 1) = _ := deviceTrace_succ here
  by_cases task : stage = .messageHandling
  · subst task
    have same : (deviceTrace (F := F) env (time + 1)).drive = _ :=
      (congrArg State.drive next).trans (drive_messageHandlingTask env _)
    have accepts : acceptedAt F env time = _ := acceptedAt_of_stage here
    cases found : accepted env (deviceTrace (F := F) env time) with
    | none =>
        rw [found] at same accepts
        exact .move accepts (Drive.Move.idle.of_eq same)
    | some command =>
        rw [found] at same accepts
        exact .command command accepts same
  · have quiet : acceptedAt F env time = none := by
      apply acceptedAt_of_other
      rw [here]
      exact fun same => task (Option.some.inj same)
    by_cases restart : stage = .restart
    · subst restart
      have same : (deviceTrace (F := F) env (time + 1)).drive = _ :=
        (congrArg State.drive next).trans (drive_restartHandler env _)
      split at same
      · rename_i due
        exact .restart quiet ⟨here, due⟩ same
      · exact .move quiet (Drive.Move.idle.of_eq same)
    · refine .move quiet ?_
      rw [next]
      exact move_run env stage _ task restart

/-- What holds of the drive at one time and survives each later step holds from then on. -/
theorem drive_since (env : Env) (invariant : Drive F → Prop) (first last : ℕ)
    (ordered : first ≤ last) (initial : invariant (deviceTrace env first).drive)
    (moved : ∀ d after : Drive F, invariant d → d.Move after → invariant after)
    (restarted : ∀ time, first ≤ time → time < last → RestartsAt F env time →
      invariant (deviceTrace env time).drive → invariant (deviceTrace env time).drive.restart)
    (commanded : ∀ time, first ≤ time → time < last → ∀ command now period,
      acceptedAt F env time = some command → invariant (deviceTrace env time).drive →
      invariant ((deviceTrace env time).drive.accept now period command)) :
    invariant (deviceTrace env last).drive := by
  induction ordered with
  | refl => exact initial
  | @step last ordered ih =>
      have before := ih
        (fun time lower upper => restarted time lower (Nat.lt_succ_of_lt upper))
        (fun time lower upper => commanded time lower (Nat.lt_succ_of_lt upper))
      cases driveStep (F := F) env last with
      | move quiet step => exact moved _ _ before step
      | restart quiet restarts same =>
          rw [same]
          exact restarted last ordered (Nat.lt_succ_self last) restarts before
      | command command accepts same =>
          rw [same]
          exact commanded last ordered (Nat.lt_succ_self last) command _ _ accepts before

end ZumoDelivery
