import DroneFirmware.Reactive.Run
import DroneFirmware.MotorController
import DroneFirmware.MotorMixing
import DroneFirmware.CText.Strings
import DroneFirmware.CText.Decimal
import DroneFirmware.CText.FlatJson
import DroneFirmware.Imu
import DroneFirmware.WebServer
import DroneFirmware.FlightModes
import DroneFirmware.Boot
import DroneFirmware.MixerCache
import DroneFirmware.SignalLoss
import DroneFirmware.StateOutputs
import DroneFirmware.RampHistory
import DroneFirmware.FailsafeHold
import DroneFirmware.Arming
import DroneFirmware.Connection
import DroneFirmware.Framing
import DroneFirmware.SliderCodec
import DroneFirmware.RadioRange
import DroneFirmware.AxisSaturation
import DroneFirmware.RadioLink
import DroneFirmware.WriteRepair
import DroneFirmware.Disarm
import DroneFirmware.DeviceBinding
import DroneFirmware.TornRequest
import DroneFirmware.Onlooker
import DroneFirmware.AutoLanding
import DroneFirmware.RampConvergence
import DroneFirmware.CInt.Checked
import DroneFirmware.MixerArithmetic
import DroneFirmware.MirrorSymmetry
import DroneFirmware.Calibration
import DroneFirmware.AttitudeBounds
import DroneFirmware.Reactive.Outputs
import DroneFirmware.PwmPeriod
import DroneFirmware.CText.Printf
import DroneFirmware.CText.JsonDecode
import DroneFirmware.Net.PartialSend
import DroneFirmware.ControlPage
import DroneFirmware.Response
import DroneFirmware.Telemetry
import DroneFirmware.Net.HttpMessage
import DroneFirmware.Net.Sockets
import DroneFirmware.HttpServer
import DroneFirmware.Signal.Response
import DroneFirmware.AttitudeMemory
import DroneFirmware.PageDisplay
import DroneFirmware.Concurrent.Mutex
import DroneFirmware.SharedPackage
import DroneFirmware.CutPoll
import DroneFirmware.PageProtocol
import DroneFirmware.Reactive.Deadline
import DroneFirmware.Grounding
import DroneFirmware.LoopTiming
import DroneFirmware.ArmingDeadline
import DroneFirmware.HeldSticks
import DroneFirmware.PageToMotors
import DroneFirmware.MotorFaults
import DroneFirmware.Bus.Registers
import DroneFirmware.DeviceSetup
