import ZumoDelivery.Application.Device

set_option autoImplicit false

namespace ZumoDelivery

variable {F : Type} [FloatArith F]

open FloatArith

def wheelBase : F := lit 0.098

def initObstacleAvoidance : Avoidance := ⟨.readL, .init, 0⟩

structure WheelVelocities (F : Type) where
  left : F
  right : F

/-- `OA_DRIVE_DC` is 30. -/
def oaStraight : WheelVelocities F :=
  ⟨dutyCycleToVelocityLeft 30, dutyCycleToVelocityRight 30⟩

/-- `OA_TURN_VELOCITY` is 0.07 and `OA_ANGLR_VELOCITY` is 1.5. -/
def oaTurnLeft : WheelVelocities F := ⟨lit 0.07, lit 0.07 + wheelBase * lit 1.5⟩

def oaTurnRight : WheelVelocities F := ⟨lit 0.07 + wheelBase * lit 1.5, lit 0.07⟩

def setTargetVelocities (velocities : WheelVelocities F) (s : State F) : State F :=
  { s with
    ctrLeftMotor := controllerSetTargetVelocity s.ctrLeftMotor velocities.left
    ctrRightMotor := controllerSetTargetVelocity s.ctrRightMotor velocities.right }

/-- The turn away from the side of the reading, with its state. -/
def oaTurn (ir : ProximityReturn) : WheelVelocities F × OaDsm :=
  match ir.side with
  | .right => (oaTurnLeft, .turnLeft)
  | .left => (oaTurnRight, .turnRight)

def runStateMachine (ir : ProximityReturn) (s : State F) : State F :=
  match s.avoidance.oaState with
  | .init =>
      let (velocities, oaState) :=
        if ir.count = 0 then (oaStraight, .driveStraight) else oaTurn ir
      let s := setTargetVelocities velocities { s with avoidance.oaState := oaState }
      { s with
        flags.mfMotorVelControl.active := true
        flags.mfMotorVelControl.duration := s.ctrLeftMotor.updatePeriod
        gripper.portD := setLed .red true s.gripper.portD }
  | .driveStraight =>
      if ir.count > 0 then
        let (velocities, oaState) := oaTurn ir
        setTargetVelocities velocities { s with avoidance.oaState := oaState }
      else s
  | .turnRight | .turnLeft =>
      if ir.count = 0 then { s with avoidance.oaState := .holding } else s
  | .holding =>
      let alpha := s.avoidance.alpha + 1
      -- `OA_HOLD_TIMEOUT` is 4.
      if alpha ≥ 4 then
        setTargetVelocities oaStraight
          { s with avoidance.alpha := 0, avoidance.oaState := .driveStraight }
      else { s with avoidance.alpha := alpha }

def runOaTask (env : Env) (s : State F) : Bool × State F :=
  match s.avoidance.readState with
  | .readL =>
      let s := irReadTask env .left s
      (true, { s with avoidance.readState := .readR })
  | .readR =>
      let s := irReadTask env .right s
      (true, { s with avoidance.readState := .runDsm })
  | .runDsm =>
      let s := runStateMachine (irCounts s.proximity) s
      (false, { s with avoidance.readState := .readL })

end ZumoDelivery
