import Nextcore.Device.Aic
import Nextcore.Device.Ans
import Nextcore.Device.Bridge
import Nextcore.Device.Burst
import Nextcore.Device.Cause
import Nextcore.Device.Edge
import Nextcore.Device.Envelope
import Nextcore.Device.Event
import Nextcore.Device.Gpio
import Nextcore.Device.GpioIrq
import Nextcore.Device.Isolation
import Nextcore.Device.Lines
import Nextcore.Device.Mirror
import Nextcore.Device.Sart
import Nextcore.Device.Sprr
import Nextcore.Device.StorageLine
import Nextcore.Device.VmsaLock
import Nextcore.Fp.Add
import Nextcore.Fp.Bank
import Nextcore.Fp.Div
import Nextcore.Fp.SimdCopy
import Nextcore.Fp.SimdMemory
import Nextcore.Ise.Agreement
import Nextcore.Ise.Decoder
import Nextcore.Ise.Emulator
import Nextcore.Ise.Encoding
import Nextcore.Ise.Extension
import Nextcore.Ise.Grammar
import Nextcore.Ise.Integer
import Nextcore.Ise.Manual
import Nextcore.Ise.Product
import Nextcore.Ise.Totality
import Nextcore.Jit.Bitfields
import Nextcore.Jit.BlockSize
import Nextcore.Jit.Confined
import Nextcore.Jit.Decoders
import Nextcore.Jit.Families
import Nextcore.Jit.Faults
import Nextcore.Jit.Operands
import Nextcore.Jit.Progress
import Nextcore.Jit.Steps
import Nextcore.Jit.Transfers
import Nextcore.Jit.Turns
import Nextcore.Lib.Atomic
import Nextcore.Lib.Budget
import Nextcore.Lib.Cells
import Nextcore.Lib.Clmul
import Nextcore.Lib.Crc
import Nextcore.Lib.Lanes
import Nextcore.Lib.Recorder
import Nextcore.Lib.Stores
import Nextcore.Lib.Traced
import Nextcore.Mmu.Bounds
import Nextcore.Mmu.Coherence
import Nextcore.Mmu.Failure
import Nextcore.Mmu.Permissions
import Nextcore.Nvram.Access
import Nextcore.Nvram.Bank
import Nextcore.Nvram.Bounds
import Nextcore.Nvram.Environment
import Nextcore.Nvram.Image
import Nextcore.Nvram.RoundTrip
import Nextcore.Nvram.Table
import Nextcore.Preos.Agreement
import Nextcore.Preos.Boundary
import Nextcore.Preos.Bus
import Nextcore.Preos.Dart
import Nextcore.Preos.Data
import Nextcore.Preos.Exception
import Nextcore.Preos.Execute
import Nextcore.Preos.Frame
import Nextcore.Preos.Interrupt
import Nextcore.Preos.Isolation
import Nextcore.Preos.Mapping
import Nextcore.Preos.Moves
import Nextcore.Preos.PauthLaws
import Nextcore.Preos.Precise
import Nextcore.Preos.Privilege
import Nextcore.Preos.Qarma
import Nextcore.Preos.Regime
import Nextcore.Preos.Run
import Nextcore.Provider.Completeness
import Nextcore.Provider.Controls
import Nextcore.Provider.DynamicRun
import Nextcore.Provider.Honesty
import Nextcore.Provider.Physical
import Nextcore.Provider.Progress
import Nextcore.Provider.Recorded
import Nextcore.Provider.Refusal
import Nextcore.Provider.Replicas
import Nextcore.Provider.Store
import Nextcore.Service.Admission
import Nextcore.Service.EffectiveBank
import Nextcore.Service.Scalar
import Nextcore.Jit.Boot
