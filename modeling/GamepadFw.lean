import GamepadFw.Lib.Prog
import GamepadFw.Lib.CLayout
import GamepadFw.Lib.Machine
import GamepadFw.Lib.Replica
import GamepadFw.Lib.Recent
import GamepadFw.Lib.Hid
import GamepadFw.Lib.Dma
import GamepadFw.Lib.CInt
import GamepadFw.Lib.Trace
import GamepadFw.Lib.Layer
import GamepadFw.Source.Api
import GamepadFw.Source.GattDb
import GamepadFw.Source.Utils
import GamepadFw.Source.Types
import GamepadFw.Source.HidDesc
import GamepadFw.Source.HidGamepad
import GamepadFw.Source.Joystick
import GamepadFw.Source.Emlib
import GamepadFw.Source.JoystickDriver
import GamepadFw.Source.Advertise
import GamepadFw.Source.Button
import GamepadFw.Source.Bt
import GamepadFw.Source.OtaDfu
import GamepadFw.Source.Message
import GamepadFw.Source.Gpio
import GamepadFw.System.Bits
import GamepadFw.System.Bytes
import GamepadFw.System.Stack
import GamepadFw.System.Handlers
import GamepadFw.System.Boot
import GamepadFw.System.Link
import GamepadFw.System.World
import GamepadFw.System.Messages
import GamepadFw.System.Commands
import GamepadFw.System.Order
import GamepadFw.Radio.Advertising
import GamepadFw.Radio.Assertions
import GamepadFw.Radio.Subscription
import GamepadFw.Radio.Arms
import GamepadFw.Radio.Station
import GamepadFw.Buttons.Queue
import GamepadFw.Buttons.Signal
import GamepadFw.Buttons.Overflow
import GamepadFw.Buttons.Filter
import GamepadFw.Buttons.Levels
import GamepadFw.Buttons.Course
import GamepadFw.Buttons.Rounds
import GamepadFw.Buttons.Leftover
import GamepadFw.Buttons.Decisions
import GamepadFw.Buttons.Batches
import GamepadFw.Report.Gate
import GamepadFw.Report.View
import GamepadFw.Report.Encoding
import GamepadFw.Joystick.Scale
import GamepadFw.Joystick.Convert
import GamepadFw.Joystick.Deck
import GamepadFw.Joystick.Timer
import GamepadFw.Joystick.Samples
import GamepadFw.Joystick.Transfer
import GamepadFw.Bonding.Load
import GamepadFw.Bonding.Flag
import GamepadFw.Bonding.PowerCut
import GamepadFw.Bonding.Reset
import GamepadFw.Interrupts.Dispatch
import GamepadFw.Interrupts.Port
import GamepadFw.Interrupts.Config
import GamepadFw.Interrupts.Edges
import GamepadFw.Interrupts.Boot
import GamepadFw.Interrupts.Device
import GamepadFw.Interrupts.Silence
import GamepadFw.Interrupts.Mirror
import GamepadFw.Interrupts.Atomic
import GamepadFw.Interrupts.Refine
