import ZumoDelivery.Application.DriveRun

set_option autoImplicit false

namespace ZumoDelivery

variable {F : Type} [FloatArith F]

structure Drive.Stopped (d : Drive F) : Prop where
  avoid : d.avoid.active = false
  dist : d.dist.active = false
  vel : d.vel.active = false
  stop : d.stop.active = false
  timed : d.timed.active = false
  disabled : d.enabled = false

namespace Drive.Stopped

theorem accept_stop (now : Time) (period : F) (d : Drive F) :
    (d.accept now period .stop).Stopped :=
  ⟨rfl, rfl, rfl, rfl, rfl, rfl⟩

omit [FloatArith F] in
/-- Every handler that could move the drive waits for an active flag. -/
theorem move {d after : Drive F} (stopped : d.Stopped) (step : d.Move after) :
    after.Stopped := by
  cases step with
  | idle => exact stopped
  | pwmExpired active => cases stopped.timed.symm.trans active
  | distanceStep active now => cases stopped.dist.symm.trans active
  | distanceDone active => cases stopped.dist.symm.trans active
  | velocityStep active now => cases stopped.vel.symm.trans active
  | stopExpired active => cases stopped.stop.symm.trans active
  | avoidanceStart active waiting next chosen period now => cases stopped.avoid.symm.trans active
  | avoidanceStep active started next chosen now => cases stopped.avoid.symm.trans active

theorem restart {d : Drive F} (stopped : d.Stopped) : d.restart.Stopped :=
  ⟨stopped.avoid, rfl, stopped.vel, rfl, rfl, stopped.disabled⟩

end Drive.Stopped

theorem acceptedBy_stop (batVal : F) (message : Dispatch)
    (stops : Ascii.toChar message.command = 's' ∨ Ascii.toChar message.command = 'S') :
    acceptedBy batVal message = some .stop := by
  rcases stops with lower | upper
  · simp only [acceptedBy, lower]
  · simp only [acceptedBy, upper]

/-- After 's' or 'S' the outputs stay off, whatever else happens, until a drive command
is accepted. -/
theorem disabled_until_drive_command (env : Env) (first last : ℕ) (message : Dispatch)
    (here : stageAt first = some .messageHandling)
    (dispatched : (messageHandlingTask env (deviceTrace (F := F) env first)).2 = some message)
    (stops : Ascii.toChar message.command = 's' ∨ Ascii.toChar message.command = 'S')
    (later : first < last)
    (undriven : ∀ time, first < time → time < last →
      ∀ command ∈ acceptedAt F env time, command.drives = false) :
    (deviceTrace (F := F) env last).motors.Disabled := by
  have accepts : acceptedAt F env first = some .stop := by
    rw [acceptedAt_of_stage here, accepted, dispatched]
    exact acceptedBy_stop _ message stops
  have start : (deviceTrace (F := F) env (first + 1)).drive.Stopped := by
    cases driveStep (F := F) env first with
    | move quiet step => cases accepts.symm.trans quiet
    | restart quiet restarts same => cases accepts.symm.trans quiet
    | command command accepted same =>
        cases accepts.symm.trans accepted
        rw [same]
        exact Drive.Stopped.accept_stop _ _ _
  have stopped : (deviceTrace (F := F) env last).drive.Stopped := by
    refine drive_since env Drive.Stopped (first + 1) last later start
      (fun d after => Drive.Stopped.move) ?_ ?_
    · intro time lower upper restarts before
      exact before.restart
    · intro time lower upper command now period accepted before
      have kind := undriven time lower upper command accepted
      cases command with
      | stop => exact Drive.Stopped.accept_stop _ _ _
      | _ => cases kind
  rw [← State.enabled_eq_false_iff]
  exact stopped.disabled

set_option maxRecDepth 20000 in
/-- 's' stops what 'p' has started, up to the next 'p'. -/
theorem disabled_until_drive_command_bench :
    ¬ (deviceTrace (F := ℚ) (Env.bench [112, 50, 0, 50, 0, 115] id) 86).motors.Disabled ∧
      (deviceTrace (F := ℚ) (Env.bench [112, 50, 0, 50, 0, 115] id) 188).motors.Disabled := by
  have quiet : ∀ time < 188, 86 < time →
      ∀ command ∈ acceptedAt ℚ (Env.bench [112, 50, 0, 50, 0, 115] id) time,
        command.drives = false := by
    decide +kernel
  refine ⟨by decide +kernel, ?_⟩
  exact disabled_until_drive_command _ 86 188 ⟨115, []⟩ (by decide) (by decide +kernel)
    (by decide) (by decide) fun time lower upper => quiet time upper lower

end ZumoDelivery
