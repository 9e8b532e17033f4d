import ModularControl.Sync.Machine
import ModularControl.Sync.Progress
import ModularControl.Sync.Stream
import ModularControl.Sync.Counter
import ModularControl.Sync.Responder
import ModularControl.Sync.Slot
import ModularControl.Sync.Hoare
import ModularControl.Sync.Host
import ModularControl.Sync.Total
import ModularControl.Sync.Nested
import ModularControl.Sync.Shared
import ModularControl.Sync.Shift
import ModularControl.Axi.Ledger
import ModularControl.Axi.HoldBridge
import ModularControl.Axi.HoldBridgeServed
import ModularControl.Axi.HoldFsm
import ModularControl.Axi.HoldFsmServed
import ModularControl.Axi.HoldFsmWrappers
import ModularControl.Axi.FsmBridge
import ModularControl.Axi.FsmBridgeServed
import ModularControl.Axi.Decode
import ModularControl.Axi.Words
import ModularControl.Axi.Facade
import ModularControl.Gpio.Regs
import ModularControl.Gpio.Edges
import ModularControl.Gpio.Acknowledge
import ModularControl.Gpio.Port
import ModularControl.Debug.Seg7Regs
import ModularControl.Debug.Display
import ModularControl.Debug.Seg7Driver
import ModularControl.Spi.AxiLite
import ModularControl.Spi.Starts
import ModularControl.Spi.Disable
import ModularControl.Spi.Vendor
import ModularControl.Spi.Exchange
import ModularControl.Spi.Transaction
import ModularControl.Spi.Completion
import ModularControl.Spi.Driver
import ModularControl.Spi.Blocking
import ModularControl.Spi.Master
import ModularControl.Spi.Words
import ModularControl.Spi.Waveform
import ModularControl.Spi.Port
import ModularControl.Spi.PortBlocking
import ModularControl.Spi.Adxl345
import ModularControl.Pwm.Core
import ModularControl.Pwm.RegsCommon
import ModularControl.Pwm.RegsHbridge
import ModularControl.Pwm.Subsystem
import ModularControl.Pwm.AxiLite
import ModularControl.Pwm.Commit
import ModularControl.Pwm.Snapshot
import ModularControl.Pwm.RegisterMap
import ModularControl.Pwm.Deferred
import ModularControl.Pwm.Waveform
import ModularControl.Pwm.Routing
import ModularControl.Pwm.Pins
import ModularControl.Pwm.Frames
import ModularControl.Common.SyncFifo
import ModularControl.Common.BoundedQueue
import ModularControl.Uart.RxOutput
import ModularControl.Uart.BaudGen
import ModularControl.Uart.BaudChanges
import ModularControl.Uart.TxEngine
import ModularControl.Uart.TxFraming
import ModularControl.Uart.RxEngine
import ModularControl.Uart.RoundTrip
import ModularControl.Uart.Tolerance
import ModularControl.Uart.Glitches
import ModularControl.Uart.Port
import ModularControl.Lcd.Controller
import ModularControl.Lcd.Course
import ModularControl.Lcd.Initialisation
import ModularControl.Lcd.Pulses
import ModularControl.Lcd.Adapter
import ModularControl.Lcd.Delivery
import ModularControl.I2c.Core
import ModularControl.I2c.AxiLite
import ModularControl.I2c.Lines
import ModularControl.I2c.Recovery
import ModularControl.I2c.Faults
import ModularControl.I2c.Rejected
import ModularControl.I2c.Timing
import ModularControl.I2c.PhaseTime
import ModularControl.I2c.Watchdog
import ModularControl.I2c.Bus
import ModularControl.I2c.Transport
import ModularControl.I2c.Results
import ModularControl.I2c.Delivery
import ModularControl.I2c.Driver
import ModularControl.I2c.Device
import ModularControl.I2c.TxBuf
import ModularControl.I2c.TxPkg
import ModularControl.I2c.Returns
import ModularControl.I2c.Bench
import ModularControl.I2c.Commands
import ModularControl.I2c.TxrxBuf
import ModularControl.I2c.Wires
import ModularControl.I2c.StuckLow
import ModularControl.I2c.Began
import ModularControl.I2c.Divisor
import ModularControl.I2c.BitTime
import ModularControl.App.Main
import ModularControl.App.Board
import ModularControl.App.Turns
