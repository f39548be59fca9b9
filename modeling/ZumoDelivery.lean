import ZumoDelivery.Lib.Ascii
import ZumoDelivery.Lib.Binary32
import ZumoDelivery.Lib.Binary32Rounding
import ZumoDelivery.Lib.BoundedQueue
import ZumoDelivery.Lib.BoundedDeque
import ZumoDelivery.Lib.CallSequence
import ZumoDelivery.Lib.CyclicProgram
import ZumoDelivery.Lib.DifferenceEquation
import ZumoDelivery.Lib.DifferentialDrive
import ZumoDelivery.Lib.FramedQueue
import ZumoDelivery.Lib.HeldTurn
import ZumoDelivery.Lib.MessageStream
import ZumoDelivery.Lib.Odometer
import ZumoDelivery.Lib.Pacing
import ZumoDelivery.Lib.Quadrature
import ZumoDelivery.Lib.StreamReader
import ZumoDelivery.Lib.TwoPhase
import ZumoDelivery.Driver.RingBuffer
import ZumoDelivery.Driver.RingBufferQueue
import ZumoDelivery.Driver.RingBufferDeque
import ZumoDelivery.Driver.RingBufferExtension
import ZumoDelivery.Driver.FloatArith
import ZumoDelivery.Driver.Filter
import ZumoDelivery.Driver.FilterHistory
import ZumoDelivery.Driver.BatteryMonitor
import ZumoDelivery.Driver.MotorPwm
import ZumoDelivery.Driver.MotorDuty
import ZumoDelivery.Driver.DutyFraction
import ZumoDelivery.Driver.WheelDirection
import ZumoDelivery.Driver.Peripherals
import ZumoDelivery.Driver.Encoder
import ZumoDelivery.Driver.Timing
import ZumoDelivery.Driver.SerialIO
import ZumoDelivery.Driver.Receiving
import ZumoDelivery.Driver.Acknowledging
import ZumoDelivery.Driver.Sending
import ZumoDelivery.Application.Device
import ZumoDelivery.Application.ObstacleAvoidance
import ZumoDelivery.Application.MessageHandling
import ZumoDelivery.Application.MainLoop
import ZumoDelivery.Application.Drive
import ZumoDelivery.Application.DriveStages
import ZumoDelivery.Application.DriveRun
import ZumoDelivery.Application.StopCommand
import ZumoDelivery.Application.DriveModes
import ZumoDelivery.Application.Restart
import ZumoDelivery.Application.TimedDrive
import ZumoDelivery.Application.Intake
import ZumoDelivery.Application.Dispatching
import ZumoDelivery.Application.Steering
import ZumoDelivery.Application.Journey
import ZumoDelivery.Application.Motors
import ZumoDelivery.Application.PwmCommand
import ZumoDelivery.Application.DistanceStep
import ZumoDelivery.Application.DistanceRun
import ZumoDelivery.Application.VelocityRun
import ZumoDelivery.Application.VelocityDirection
import ZumoDelivery.Application.Trips
import ZumoDelivery.Application.Measuring
import ZumoDelivery.Application.MeasuringRun
import ZumoDelivery.Application.Avoiding
import ZumoDelivery.Application.AvoidingRun
import ZumoDelivery.Application.Stamps
import ZumoDelivery.Application.Pacing
import ZumoDelivery.Application.BatteryDiagnosis
import ZumoDelivery.Application.Reception
import ZumoDelivery.Application.Reports
import ZumoDelivery.Application.ReportsRun
import ZumoDelivery.Host.PyStruct
import ZumoDelivery.Host.SerialMonitor
import ZumoDelivery.Host.DynamicMode
import ZumoDelivery.Host.Progress
import ZumoDelivery.Host.Framing
import ZumoDelivery.Host.FrameIsolation
import ZumoDelivery.Host.Fields
import ZumoDelivery.Host.Decoding
import ZumoDelivery.Host.DataFormat
import ZumoDelivery.Host.RepeatCount
import ZumoDelivery.Host.CountedFormat
import ZumoDelivery.Host.CountedParsing
import ZumoDelivery.Host.SystemReport
import ZumoDelivery.Host.Replies
import ZumoDelivery.Host.Refusals
import ZumoDelivery.Host.Echoes
import ZumoDelivery.Host.Writing
import ZumoDelivery.Host.Commands
import ZumoDelivery.Host.Outgoing
import ZumoDelivery.Host.Outbox
import ZumoDelivery.Host.Telemetry
import ZumoDelivery.Host.Calculator
import ZumoDelivery.Host.RestartTrap
import ZumoDelivery.Application.Outputs
import ZumoDelivery.Application.PwmHold
import ZumoDelivery.Lib.ConstantInput
import ZumoDelivery.Application.BatterySettling
import ZumoDelivery.Application.AvoidanceDrive
import ZumoDelivery.Host.FixedMode
import ZumoDelivery.Application.VelocityDrive
import ZumoDelivery.Driver.FilterShift
import ZumoDelivery.Application.Sensors
import ZumoDelivery.Host.SensorReports
import ZumoDelivery.Application.CommandedDrive
