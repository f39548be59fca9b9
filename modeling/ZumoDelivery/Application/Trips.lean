import ZumoDelivery.Application.DriveRun

set_option autoImplicit false

namespace ZumoDelivery

variable {F : Type} [FloatArith F]

open FloatArith

theorem CaseStep.locals {env : Env} {s after : State F} {message : Dispatch}
    (step : CaseStep env s message after) : after.locals = s.locals := by
  cases step with
  | asked request => cases request <;> rfl
  | _ => rfl

theorem locals_messageHandlingTask (env : Env) (s : State F) :
    (messageHandlingTask env s).1.locals = s.locals := by
  apply task_rule env s (fun t _ => t.locals = s.locals)
  · exact fun _ => rfl
  · exact fun _ _ => rfl
  · exact fun _ _ _ step => step.locals

theorem floatSend_run (env : Env) (stage : Stage) (s : State F) (other : stage ≠ .timeFloatSend) :
    (stage.run env s).locals.floatSend = s.locals.floatSend := by
  by_cases task : stage = .messageHandling
  · subst task
    exact congrArg LoopLocals.floatSend (locals_messageHandlingTask env s)
  apply run_rule env stage s (fun t => t.locals.floatSend = s.locals.floatSend) task
  · exact fun _ _ _ => rfl
  · intro after _ execution
    cases execution with
    | floatBegun | floatWaiting | floatOnce | floatAgain => contradiction
    | oaDecided _ _ _ decision => cases decision <;> rfl
    | _ => rfl

theorem loopTime_run (env : Env) (stage : Stage) (s : State F) (other : stage ≠ .loopTimer) :
    (stage.run env s).locals.loopTime = s.locals.loopTime := by
  by_cases task : stage = .messageHandling
  · subst task
    exact congrArg LoopLocals.loopTime (locals_messageHandlingTask env s)
  apply run_rule env stage s (fun t => t.locals.loopTime = s.locals.loopTime) task
  · exact fun _ _ _ => rfl
  · intro after _ execution
    cases execution with
    | loopBegun | loopOnce | loopAgain => contradiction
    | oaDecided _ _ _ decision => cases decision <;> rfl
    | _ => rfl

end ZumoDelivery
