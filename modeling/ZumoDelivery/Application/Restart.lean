import ZumoDelivery.Application.DriveModes

set_option autoImplicit false

namespace ZumoDelivery

variable {F : Type} [FloatArith F]

/-- The flags of `Message_Handling_Init`, without the battery's own `mf_low_battery`. -/
def Flags.initialised (flags : Flags F) : List (MsgFlag F) :=
  [flags.mfRestart, flags.mfLoopTimer, flags.mfTimeFloatSend, flags.mfSendTime,
    flags.mfSendEncoder, flags.mfSendBattery, flags.mfTimedPwm, flags.mfSysData,
    flags.mfMotorDistControl, flags.mfMotorStop, flags.mfIrProximity]

/-- The flags that messages set. -/
def Flags.messageDriven (flags : Flags F) : List (MsgFlag F) :=
  flags.initialised ++ [flags.mfMotorVelControl, flags.mfObjAvoidance]

/-- The default message state: nothing is scheduled and the motors are off. -/
structure State.Default (s : State F) : Prop where
  flags : ∀ flag ∈ s.flags.messageDriven, flag.active = false
  motors : s.motors.Disabled

def State.Cleared (s : State F) : Prop := ∀ flag ∈ s.flags.initialised, flag.active = false

theorem cleared_messageHandlingInit (s : State F) : (messageHandlingInit s).Cleared := by
  intro flag member
  have same : ∀ other ∈ (messageHandlingInit s).flags.initialised, other = msgFlagInit := by
    simp [messageHandlingInit, Flags.initialised]
  rw [same flag member]
  rfl

omit [FloatArith F] in
theorem State.default_iff (s : State F) (cleared : s.Cleared) :
    s.Default ↔ s.drive.avoid.active = false ∧ s.drive.vel.active = false ∧
      s.drive.enabled = false := by
  rw [State.enabled_eq_false_iff]
  constructor
  · intro default
    refine ⟨default.flags s.flags.mfObjAvoidance ?_, default.flags s.flags.mfMotorVelControl ?_,
      default.motors⟩
    · exact List.mem_append_right _ (List.mem_cons_of_mem _ List.mem_cons_self)
    · exact List.mem_append_right _ List.mem_cons_self
  · rintro ⟨avoid, vel, disabled⟩
    refine ⟨?_, disabled⟩
    intro flag member
    rcases List.mem_append.mp member with listed | left
    · exact cleared flag listed
    · simp only [List.mem_cons, List.not_mem_nil, or_false] at left
      rcases left with rfl | rfl
      · exact vel
      · exact avoid

/-- A cleared flag stays cleared until the next message. -/
theorem cleared_run (env : Env) (stage : Stage) (s : State F) (cleared : s.Cleared)
    (notTask : stage ≠ .messageHandling) : (stage.run env s).Cleared := by
  have waits (flag : MsgFlag F) (member : flag ∈ s.flags.initialised) : flag.due env s = false :=
    MsgFlag.not_due_of_inactive env flag s (cleared flag member)
  apply run_rule env stage s State.Cleared notTask
  · exact fun _ _ _ => cleared
  · intro after due execution
    cases execution with
    | restart => exact cleared_messageHandlingInit s.looked
    -- The flags of these five are not among the cleared ones.
    | batteryLow | batteryFine | lowBattery | velBaseline | velStep | oaLeft | oaRight =>
        exact cleared
    | oaDecided _ _ _ decision => cases decision <;> exact cleared
    | _ => cases due.symm.trans (waits _ (by simp [Flags.initialised]))

/-- What a restart has to find for the motors to be off afterwards. -/
structure Drive.Idle (d : Drive F) : Prop where
  avoid : d.avoid.active = false
  vel : d.vel.active = false
  disabled : d.enabled = false

omit [FloatArith F] in
theorem State.Cleared.drive {s : State F} (cleared : s.Cleared) :
    s.drive.dist.active = false ∧ s.drive.stop.active = false ∧ s.drive.timed.active = false :=
  ⟨cleared s.flags.mfMotorDistControl (by simp [Flags.initialised]),
    cleared s.flags.mfMotorStop (by simp [Flags.initialised]),
    cleared s.flags.mfTimedPwm (by simp [Flags.initialised])⟩

omit [FloatArith F] in
/-- With the three flags cleared a move neither starts nor ends a drive mode. -/
theorem Drive.Move.idle_iff {d after : Drive F} (step : d.Move after)
    (dist : d.dist.active = false) (stop : d.stop.active = false)
    (timed : d.timed.active = false) : after.Idle ↔ d.Idle := by
  cases step with
  | idle => rfl
  | pwmExpired active => cases timed.symm.trans active
  | distanceStep active now => cases dist.symm.trans active
  | distanceDone active => cases dist.symm.trans active
  | velocityStep active now =>
      constructor
      · intro idle
        cases idle.disabled
      · intro idle
        cases idle.vel.symm.trans active
  | stopExpired active => cases stop.symm.trans active
  | avoidanceStart active waiting next chosen period now =>
      constructor
      · intro idle
        cases idle.vel
      · intro idle
        cases idle.avoid.symm.trans active
  | avoidanceStep active started next chosen now =>
      exact ⟨fun idle => ⟨idle.avoid, idle.vel, idle.disabled⟩,
        fun idle => ⟨idle.avoid, idle.vel, idle.disabled⟩⟩

theorem after_restart (env : Env) (n time : ℕ) (lower : 17 * n + 3 ≤ time)
    (upper : time ≤ 17 * (n + 1)) (restarts : RestartsAt F env (17 * n + 2)) :
    (deviceTrace (F := F) env time).Cleared ∧
      ((deviceTrace (F := F) env time).drive.Idle ↔
        (deviceTrace (F := F) env (17 * n + 2)).drive.Idle) := by
  obtain ⟨here, due⟩ := restarts
  induction lower with
  | refl =>
      have next : deviceTrace (F := F) env (17 * n + 3) = _ := deviceTrace_succ here
      have same := whenDue_of_due messageHandlingInit due
      rw [next]
      change (restartHandler env _).Cleared ∧ ((restartHandler env _).drive.Idle ↔ _)
      rw [restartHandler, same]
      refine ⟨cleared_messageHandlingInit _, ?_⟩
      exact ⟨fun idle => ⟨idle.avoid, idle.vel, idle.disabled⟩,
        fun idle => ⟨idle.avoid, idle.vel, idle.disabled⟩⟩
  | @step time lower ih =>
      have above : 17 * n + 3 ≤ time := lower
      obtain ⟨cleared, idle⟩ := ih (by omega)
      obtain ⟨stage, found⟩ := stageAt_isSome time
      have next : deviceTrace (F := F) env (time + 1) = _ := deviceTrace_succ found
      have notTask : stage ≠ .messageHandling := by
        rintro rfl
        have position := mod_of_stageAt found
        omega
      rw [next]
      refine ⟨cleared_run env stage _ cleared notTask, ?_⟩
      rw [← idle]
      obtain ⟨dist, stop, timed⟩ := cleared.drive
      by_cases restart : stage = .restart
      · rw [restart]
        -- The restart flag is one of those just cleared.
        have waits : restartHandler env (deviceTrace (F := F) env time) = _ :=
          whenDue_of_inactive _ (cleared _ (by simp [Flags.initialised]))
        exact iff_of_eq (congrArg (fun s : State F => s.drive.Idle) waits)
      · exact (move_run env stage _ notTask restart).idle_iff dist stop timed

/-- A restart leads to the default message state exactly if it finds obstacle avoidance
and velocity control inactive and the outputs off. -/
theorem default_after_restart_iff (env : Env) (n : ℕ)
    (restarts : RestartsAt F env (17 * n + 2)) :
    (deviceTrace (F := F) env (17 * (n + 1))).Default ↔
      (deviceTrace (F := F) env (17 * n + 2)).flags.mfObjAvoidance.active = false ∧
      (deviceTrace (F := F) env (17 * n + 2)).flags.mfMotorVelControl.active = false ∧
      (deviceTrace (F := F) env (17 * n + 2)).motors.Disabled := by
  obtain ⟨cleared, idle⟩ := after_restart env n (17 * (n + 1)) (by omega) (Nat.le_refl _) restarts
  rw [State.default_iff _ cleared, ← State.enabled_eq_false_iff]
  constructor
  · rintro ⟨avoid, vel, disabled⟩
    obtain ⟨avoid, vel, disabled⟩ := idle.mp ⟨avoid, vel, disabled⟩
    exact ⟨avoid, vel, disabled⟩
  · rintro ⟨avoid, vel, disabled⟩
    obtain ⟨avoid, vel, disabled⟩ := idle.mpr ⟨avoid, vel, disabled⟩
    exact ⟨avoid, vel, disabled⟩

/-- 'p' drives, 'E' reports every second, 's' stops, then '~'. -/
def Env.restarted : Env :=
  Env.bench [112, 50, 0, 50, 0, 69, 0, 0, 128, 63, 115, 126] id

set_option maxRecDepth 20000 in
theorem default_after_restart_iff_bench :
    (deviceTrace (F := ℚ) Env.restarted (17 * 11 + 2)).flags.mfSendEncoder.active = true ∧
      (deviceTrace (F := ℚ) Env.restarted (17 * (11 + 1))).Default := by
  refine ⟨by decide +kernel, ?_⟩
  exact (default_after_restart_iff Env.restarted 11 ⟨by decide, by decide +kernel⟩).mpr
    ⟨by decide +kernel, by decide +kernel, by decide +kernel⟩

set_option maxRecDepth 20000 in
/-- After 'p' the outputs stay enabled across '~'. -/
theorem not_default_after_restart :
    ¬ ∀ (env : Env) (n : ℕ), RestartsAt ℚ env (17 * n + 2) →
      (deviceTrace (F := ℚ) env (17 * (n + 1))).Default := by
  intro default
  have final := default (Env.bench [112, 50, 0, 50, 0, 126] id) 5
    ⟨by decide, by decide +kernel⟩
  exact absurd final.motors (by decide +kernel)

end ZumoDelivery
