import Nextcore.Device.Aic
import Nextcore.Device.Ans
import Nextcore.Device.Dart
import Nextcore.Device.Gxf
import Nextcore.Device.Peripherals
import Nextcore.Device.Smc
import Nextcore.Nvram.Bank

/-! `preos_bridge.c`: the devices behind the MMIO windows of the guest and the calls of the
host. The bridge itself carries the interrupts of its devices to the lines of the AIC. -/

namespace Nextcore.Device

/-- `g_m1_aic` and `g_m1_mmio_ready`, which the sink of the endpoint reads. -/
structure BridgeAic where
  aic : VfAic
  ready : Bool

inductive MmioError
  | invalid
  | width
  | readonly
  | unavailable
  deriving DecidableEq, Repr

structure Bridge (κ : Type) where
  world : AnsWorld Unit BridgeAic Unit
  adminSqTail : U16
  timer : VfTimer
  storage : VfStorage
  recovery : VfRecovery
  dart : VfDart
  sart : VfSart
  nvram : Nvram.NvramV1
  nvramBootArgs : List Byte
  smc : VfSmc
  smcLastResp : U64
  uart : VfAppleUart Unit
  adp : VfAdpDisplay
  sep : VfSepMailbox
  gxf : VfAppleGxf (Option κ)
  gxfTlbCpu : Option κ

namespace Bridge

abbrev windowAic : ℕ := 0x1
abbrev windowTimer : ℕ := 0x2
abbrev windowDart : ℕ := 0x3
abbrev windowStorage : ℕ := 0x4
abbrev windowRecovery : ℕ := 0x5
abbrev windowAdp : ℕ := 0x6
abbrev windowUart : ℕ := 0x7
abbrev windowSart : ℕ := 0x8
abbrev windowNvram : ℕ := 0x9
abbrev windowSmc : ℕ := 0xa
abbrev windowSep : ℕ := 0xb
abbrev aicIrqCount : ℕ := 896
abbrev aicCpuCount : ℕ := 8
abbrev timerIrqLine : ℕ := 0
abbrev storageIrqLine : ℕ := 1
abbrev adpIrqLine : ℕ := 2
abbrev recoveryIrqLine : ℕ := 3
abbrev dartIrqLine : ℕ := 4
abbrev uartIrqLine : ℕ := 5
abbrev sepIrqLine : ℕ := 6
abbrev smcMmioMsgOut : ℕ := 0x000
abbrev smcMmioKeyCount : ℕ := 0x008
abbrev smcMmioSramAddr : ℕ := 0x010
abbrev smcMmioMsgIn : ℕ := 0x018
abbrev nvramNsid : U64 := 5#64
abbrev nvramNstype : U64 := 5#64
abbrev nvramMmioNsid : ℕ := 0x000
abbrev nvramMmioNstype : ℕ := 0x004
abbrev nvramMmioEnvCount : ℕ := 0x008
abbrev nvramMmioBootPresent : ℕ := 0x00c
abbrev nvramMmioCommit : ℕ := 0x010
abbrev nvramMmioAppend : ℕ := 0x014
abbrev msiGpaBase : U64 := 0xfee00000#64

abbrev idBuf : Span := ⟨0, 4096⟩
abbrev cqeBuf : Span := ⟨4096, 16⟩
abbrev msiGpa : Span := ⟨4112, 16⟩

variable {κ : Type}

def aic (b : Bridge κ) : VfAic := b.world.aic.aic

def ready (b : Bridge κ) : Bool := b.world.aic.ready

def withAic (b : Bridge κ) (aic : VfAic) : Bridge κ := { b with world := { b.world with aic := { b.world.aic with aic } } }

def withReady (b : Bridge κ) (ready : Bool) : Bridge κ :=
  { b with world := { b.world with aic := { b.world.aic with ready } } }

def setLine (b : Bridge κ) (irq : ℕ) (high : Bool) : Option (Bridge κ) := (b.aic.setLine irq high).map b.withAic

def timerSyncAicIrq (b : Bridge κ) : Option (Bridge κ) := b.setLine timerIrqLine b.timer.irqPending

def storageSyncAicIrq (b : Bridge κ) : Option (Bridge κ) := b.setLine storageIrqLine b.storage.irqPending

def adpSyncAicIrq (b : Bridge κ) : Option (Bridge κ) := b.setLine adpIrqLine b.adp.irqPending

def recoverySyncAicIrq (b : Bridge κ) : Option (Bridge κ) := b.setLine recoveryIrqLine b.recovery.irqPending

def dartSyncAicIrq (b : Bridge κ) : Option (Bridge κ) := b.setLine dartIrqLine b.dart.irqPending

def uartSyncAicIrq (b : Bridge κ) : Option (Bridge κ) := b.setLine uartIrqLine b.uart.irqPending

def sepSyncAicIrq (b : Bridge κ) : Option (Bridge κ) := b.setLine sepIrqLine b.sep.irqPending

def aicSink (a : BridgeAic) (irq : ℕ) (high : Bool) : Bool × BridgeAic :=
  if !a.ready then (false, a)
  else if irq ≠ AnsPci.aicStorageIrqLine then (false, a)
  else
    match a.aic.setLine storageIrqLine high with
    | none => (false, a)
    | some aic => (true, { a with aic })

def dispatch (b : Bridge κ) (fits : Bool) (access : Except MmioError (U64 × Bridge κ))
    (sync : Bridge κ → Option (Bridge κ)) : Except MmioError U64 × Bridge κ :=
  if !b.ready then (.error .unavailable, b)
  else if !fits then (.error .width, b)
  else
    match access with
    | .error e => (.error e, b)
    | .ok (value, b') =>
      match sync b' with
      | none => (.error .invalid, b')
      | some b'' => (.ok value, b'')

def valid {σ : Type} (r : Option σ) : Except MmioError σ :=
  match r with
  | none => .error .invalid
  | some s => .ok s

def aicDispatchRead (b : Bridge κ) (offset width : ℕ) : Except MmioError U64 × Bridge κ :=
  b.dispatch (decide (width = 32))
    (valid ((b.aic.read 0 offset 4).map fun (word, aic) => (word.zeroExtend 64, b.withAic aic))) some

def aicDispatchWrite (b : Bridge κ) (offset width : ℕ) (value : U64) : Except MmioError U64 × Bridge κ :=
  b.dispatch (decide (width = 32))
    (valid ((b.aic.write 0 offset 4 (value.truncate 32)).map fun aic => (0#64, b.withAic aic))) some

def timerDispatchRead (b : Bridge κ) (offset width : ℕ) : Except MmioError U64 × Bridge κ :=
  b.dispatch true (valid ((b.timer.read offset width).map (·, b))) some

def timerDispatchWrite (b : Bridge κ) (offset width : ℕ) (value : U64) : Except MmioError U64 × Bridge κ :=
  b.dispatch true (valid ((b.timer.write offset width value).map fun timer => (0#64, { b with timer }))) timerSyncAicIrq

def dartDispatchRead (b : Bridge κ) (offset width : ℕ) : Except MmioError U64 × Bridge κ :=
  b.dispatch (decide (width = 32)) (valid ((b.dart.read offset 4).map fun word => (word.zeroExtend 64, b))) some

def dartDispatchWrite (b : Bridge κ) (offset width : ℕ) (value : U64) : Except MmioError U64 × Bridge κ :=
  b.dispatch (decide (width = 32))
    (valid ((b.dart.write offset 4 (value.truncate 32)).map fun dart => (0#64, { b with dart })))
    (if offset = VfDart.regErrorStatus then dartSyncAicIrq else some)

def storageDispatchRead (b : Bridge κ) (offset width : ℕ) : Except MmioError U64 × Bridge κ :=
  b.dispatch true (valid ((b.storage.read offset width).map (·, b))) some

def storageDispatchWrite (b : Bridge κ) : Except MmioError U64 × Bridge κ := b.dispatch true (.error .readonly) some

def recoveryDispatchRead (b : Bridge κ) (offset width : ℕ) : Except MmioError U64 × Bridge κ :=
  b.dispatch true (valid ((b.recovery.read offset width).map (·, b))) some

def recoveryDispatchWrite (b : Bridge κ) : Except MmioError U64 × Bridge κ := b.dispatch true (.error .readonly) some

def adpDispatchRead (b : Bridge κ) (offset width : ℕ) : Except MmioError U64 × Bridge κ :=
  b.dispatch true (valid ((b.adp.read offset width).map fun (value, adp) => (value, { b with adp }))) some

def adpDispatchWrite (b : Bridge κ) (offset width : ℕ) (value : U64) : Except MmioError U64 × Bridge κ :=
  b.dispatch true (valid ((b.adp.write offset width value).map fun adp => (0#64, { b with adp }))) adpSyncAicIrq

def uartDispatchRead (b : Bridge κ) (offset width : ℕ) : Except MmioError U64 × Bridge κ :=
  b.dispatch (decide (width = 32))
    (valid ((b.uart.read offset 4).map fun (word, uart) => (word.zeroExtend 64, { b with uart }))) some

def uartDispatchWrite (b : Bridge κ) (offset width : ℕ) (value : U64) : Except MmioError U64 × Bridge κ :=
  b.dispatch (decide (width = 32))
    (valid ((b.uart.write offset 4 (value.truncate 32)).map fun (uart, _) => (0#64, { b with uart }))) uartSyncAicIrq

def sartDispatchRead (b : Bridge κ) (offset width : ℕ) : Except MmioError U64 × Bridge κ :=
  b.dispatch (decide (width = 32)) (valid ((b.sart.read offset 4).map fun word => (word.zeroExtend 64, b))) some

def sartDispatchWrite (b : Bridge κ) (offset width : ℕ) (value : U64) : Except MmioError U64 × Bridge κ :=
  b.dispatch (decide (width = 32))
    (valid ((b.sart.write offset 4 (value.truncate 32)).map fun sart => (0#64, { b with sart }))) some

def bootArgsName : Nvram.CString := Nvram.cstr (Nvram.ascii ['b', 'o', 'o', 't', '-', 'a', 'r', 'g', 's'])

def nvramRead (b : Bridge κ) (offset : ℕ) : Option U64 :=
  if offset = nvramMmioNsid then some nvramNsid
  else if offset = nvramMmioNstype then some nvramNstype
  else if offset = nvramMmioEnvCount then some (BitVec.ofNat 64 b.nvram.env.length)
  else if offset = nvramMmioBootPresent then
    let bootArgs := b.nvram.env.find? fun v => decide (v.name = bootArgsName)
    some (if bootArgs.any fun v => v.value.1 ≠ [] then 1#64 else 0#64)
  else none

def nvramDispatchRead (b : Bridge κ) (offset width : ℕ) : Except MmioError U64 × Bridge κ :=
  b.dispatch (decide (width = 32)) (valid ((b.nvramRead offset).map (·, b))) some

/-- A byte is staged, or what was staged becomes the boot arguments. A store that refuses
them may have lost the old ones. -/
def nvramDispatchWrite (b : Bridge κ) (offset width : ℕ) (value : U64) : Except MmioError U64 × Bridge κ :=
  if !b.ready then (.error .unavailable, b)
  else if width ≠ 32 then (.error .width, b)
  else if offset = nvramMmioAppend then
    if Nvram.envValueMax - 1 ≤ b.nvramBootArgs.length then (.error .invalid, b)
    else (.ok 0#64, { b with nvramBootArgs := b.nvramBootArgs ++ [value.truncate 8] })
  else if offset = nvramMmioCommit then
    if value ≠ 1#64 then (.error .invalid, b)
    else
      match Nvram.envSet b.nvram bootArgsName (Nvram.cstr b.nvramBootArgs) 0#32 with
      | (false, nvram) => (.error .invalid, { b with nvram })
      | (true, nvram) => (.ok 0#64, { b with nvram, nvramBootArgs := [] })
  else (.error .readonly, b)

def smcDispatchRead (b : Bridge κ) (offset width : ℕ) : Except MmioError U64 × Bridge κ :=
  if !b.ready then (.error .unavailable, b)
  else if offset = smcMmioMsgOut then if width ≠ 64 then (.error .width, b) else (.ok b.smcLastResp, b)
  else if offset = smcMmioKeyCount then
    if width ≠ 32 then (.error .width, b)
    else
      match b.smc.readKey VfSmc.keyNkey 4 with
      | (none, smc) => (.error .invalid, { b with smc })
      | (some count, smc) => (.ok (Bytes.leValue count), { b with smc })
  else if offset = smcMmioSramAddr then if width ≠ 64 then (.error .width, b) else (.ok b.smc.sramAddr, b)
  else (.error .invalid, b)

def smcDispatchWrite (b : Bridge κ) (offset width : ℕ) (value : U64) : Except MmioError U64 × Bridge κ :=
  if !b.ready then (.error .unavailable, b)
  else if offset ≠ smcMmioMsgIn then (.error .readonly, b)
  else if width ≠ 64 then (.error .width, b)
  else
    let r := b.smc.handleMsg value
    (.ok 0#64, { b with smcLastResp := r.1, smc := r.2 })

def sepDispatchRead (b : Bridge κ) (offset width : ℕ) : Except MmioError U64 × Bridge κ :=
  b.dispatch true (valid ((b.sep.read offset width).map fun (value, sep) => (value, { b with sep })))
    (if offset = VfSepMailbox.mmioMsgOut then sepSyncAicIrq else some)

def sepDispatchWrite (b : Bridge κ) (offset width : ℕ) (value : U64) : Except MmioError U64 × Bridge κ :=
  b.dispatch true
    (if offset ≠ VfSepMailbox.mmioMsgIn then .error .readonly
      else valid ((b.sep.write offset width value).map fun sep => (0#64, { b with sep })))
    sepSyncAicIrq

def mmioWidthValid (width : ℕ) : Bool := decide (width = 8 ∨ width = 16 ∨ width = 32 ∨ width = 64)

def mmioRead (b : Bridge κ) (window offset width : ℕ) : Except MmioError U64 × Bridge κ :=
  if !mmioWidthValid width then (.error .width, b)
  else if window = windowAic then b.aicDispatchRead offset width
  else if window = windowTimer then b.timerDispatchRead offset width
  else if window = windowDart then b.dartDispatchRead offset width
  else if window = windowStorage then b.storageDispatchRead offset width
  else if window = windowRecovery then b.recoveryDispatchRead offset width
  else if window = windowAdp then b.adpDispatchRead offset width
  else if window = windowUart then b.uartDispatchRead offset width
  else if window = windowSart then b.sartDispatchRead offset width
  else if window = windowNvram then b.nvramDispatchRead offset width
  else if window = windowSmc then b.smcDispatchRead offset width
  else if window = windowSep then b.sepDispatchRead offset width
  else (.error .invalid, b)

def mmioWrite (b : Bridge κ) (window offset width : ℕ) (value : U64) : Except MmioError U64 × Bridge κ :=
  if !mmioWidthValid width then (.error .width, b)
  else if window = windowAic then b.aicDispatchWrite offset width value
  else if window = windowTimer then b.timerDispatchWrite offset width value
  else if window = windowDart then b.dartDispatchWrite offset width value
  else if window = windowStorage then b.storageDispatchWrite
  else if window = windowRecovery then b.recoveryDispatchWrite
  else if window = windowAdp then b.adpDispatchWrite offset width value
  else if window = windowUart then b.uartDispatchWrite offset width value
  else if window = windowSart then b.sartDispatchWrite offset width value
  else if window = windowNvram then b.nvramDispatchWrite offset width value
  else if window = windowSmc then b.smcDispatchWrite offset width value
  else if window = windowSep then b.sepDispatchWrite offset width value
  else (.error .invalid, b)

end Bridge

inductive AnsCall
  | pciBindAic
  | pciUnbindAic
  | pciSetIrq (level : Bool)
  | pciBindMsiGpa
  | pciUnbindMsiGpa
  | pciPrepareMsi (enable : Bool) (addr : U64) (data : U16)
  | pciPrepareMsix (enable : Bool) (tableBir : U8)
  | bindPci
  | unbindPci
  | enableIdentifyPath
  | submitAdminIdentify
  | maskAdminIrq (mask : Bool)
  | drainAdminCq
  | read (off width : ℕ)
  | write (off width : ℕ) (value : U32)
  | pciRead (off width : ℕ)
  | pciWrite (off width : ℕ) (value : U64)
  deriving DecidableEq, Repr

namespace AnsWorld

variable {ι α μ : Type} [DecidableEq ι]

def attempt (w : AnsWorld ι α μ) (value : U64) : List (AnsOp ι α μ) → Option U64 × AnsWorld ι α μ
  | [] => (some value, w)
  | op :: ops =>
    match w.step op with
    | (none, w') => (none, w')
    | (some value, w') => attempt w' value ops

end AnsWorld

namespace Bridge

open Ans AnsPci

variable {κ : Type}

def fill (buf : Span) (byte : Byte) : AnsOp Unit BridgeAic Unit :=
  .outside fun e => { e with mem := e.mem.store buf 0 (List.replicate buf.len byte) }

def nextSqTail (b : Bridge κ) : U16 := (b.adminSqTail + 1#16) &&& dbValueMask.truncate 16

def accesses (b : Bridge κ) : AnsCall → List (AnsOp Unit BridgeAic Unit)
  | .pciBindAic => [.pciBindAic () (some aicSink)]
  | .pciUnbindAic => [.pciBindAic () none]
  | .pciSetIrq level => [.pciSetIrq () level]
  | .pciBindMsiGpa => [fill msiGpa 0#8, .pciBindMsiGpa () (some msiGpa) msiGpaBase]
  | .pciUnbindMsiGpa => [.pciBindMsiGpa () none 0#64]
  | .pciPrepareMsi enable addr data =>
    if enable then
      [.pciWrite () mmioMsiAddr 64 (if addr ≠ 0#64 then addr else msiGpaBase),
        .pciWrite () mmioMsiData 32 (data.zeroExtend 64), .pciWrite () mmioMsiCtrl 32 msiEnable]
    else [.pciWrite () mmioMsiCtrl 32 0#64]
  | .pciPrepareMsix enable tableBir =>
    if enable then
      [.pciWrite () mmioMsixTableBir 32 (tableBir.zeroExtend 64 &&& msixBirMask),
        .pciWrite () mmioMsixCtrl 32 msixEnable]
    else [.pciWrite () mmioMsixCtrl 32 0#64]
  | .bindPci => [.bindPci (some ())]
  | .unbindPci => [.bindPci none]
  | .enableIdentifyPath => [.pciEnableMemoryBusMaster (), .ansWrite regCc 4 0#32, .ansWrite regCc 4 ccEn]
  | .submitAdminIdentify =>
    [fill idBuf 0xa5#8, fill cqeBuf 0x5a#8, .arm opcIdentify idCnsCtrl idBuf cqeBuf,
      .ansWrite dbBase 4 (b.nextSqTail.zeroExtend 32)]
  | .maskAdminIrq mask => [.ansWrite (if mask then regIntms else regIntmc) 4 irqAdminCq]
  | .drainAdminCq => [.ansWrite (dbBase + 4) 4 (b.world.ans.adminCqTail.zeroExtend 32)]
  | .read off width => [.ansRead off width]
  | .write off width value => [.ansWrite off width value]
  | .pciRead off width => [.pciRead () off width]
  | .pciWrite off width value => [.pciWrite () off width value]

def sqTailAfter (b : Bridge κ) : AnsCall → U16
  | .enableIdentifyPath => 0#16
  | .submitAdminIdentify => b.nextSqTail
  | _ => b.adminSqTail

def ansCall (b : Bridge κ) (c : AnsCall) : Option U64 × Bridge κ :=
  if !b.ready then (none, b)
  else
    match b.world.attempt 0#64 (b.accesses c) with
    | (none, world) => (none, { b with world })
    | (some value, world) => (some value, { b with world, adminSqTail := b.sqTailAfter c })

def host (b : Bridge κ) (call : Option (Bridge κ)) (sync : Bridge κ → Option (Bridge κ)) : Option U64 × Bridge κ :=
  let r := b.dispatch true (valid (call.map (0#64, ·))) sync
  (r.1.toOption, r.2)

def guestAicSetLine (b : Bridge κ) (irq : ℕ) (high : Bool) : Option U64 × Bridge κ := b.host (b.setLine irq high) some

def guestDartSimulateFault (b : Bridge κ) (sid : ℕ) (code : U32) : Option U64 × Bridge κ :=
  b.host ((b.dart.simulateFault sid code).map fun dart => { b with dart }) dartSyncAicIrq

def guestUartPushRx (b : Bridge κ) (byte : Byte) : Option U64 × Bridge κ :=
  b.host ((b.uart.pushRx byte).map fun uart => { b with uart }) uartSyncAicIrq

def guestTimerAdvance (b : Bridge κ) (ticks : U64) : Option U64 × Bridge κ :=
  b.host (some { b with timer := b.timer.advance ticks }) timerSyncAicIrq

def guestStorageAttach (b : Bridge κ) (blockCount : U64) (readOnly : Bool) : Option U64 × Bridge κ :=
  b.host ((b.storage.attach blockCount readOnly).map fun storage => { b with storage }) storageSyncAicIrq

def guestStorageDetach (b : Bridge κ) : Option U64 × Bridge κ :=
  b.host (some { b with storage := b.storage.detach }) storageSyncAicIrq

def guestRecoveryIngest (b : Bridge κ) (frame : List Byte) : Option U64 × Bridge κ :=
  b.host ((b.recovery.ingest frame).toOption.map fun recovery => { b with recovery }) recoverySyncAicIrq

def guestRecoveryClear (b : Bridge κ) : Option U64 × Bridge κ :=
  b.host (some { b with recovery := b.recovery.clearReady }) recoverySyncAicIrq

def guestAdpConfigure (b : Bridge κ) (guestAddress backingBytes : U64) (width height stride : U32) :
    Option U64 × Bridge κ :=
  b.host ((b.adp.configure guestAddress backingBytes width height stride).map fun adp => { b with adp }) adpSyncAicIrq

def guestNvramIngestBank (b : Bridge κ) (buf past : List Byte) : Option U64 × Bridge κ :=
  if !b.ready then (none, b)
  else if buf = [] ∨ Nvram.bankMaxLen < buf.length then (none, b)
  else
    match Nvram.parseBank b.nvram buf past with
    | (false, nvram) => (none, { b with nvram })
    | (true, nvram) => (some 0#64, { b with nvram, nvramBootArgs := [] })

def guestGxf (b : Bridge κ) (op : VfAppleGxf.GxfOp (Option κ)) : Option (VfAppleGxf.GxfAnswer (Option κ)) × Bridge κ :=
  if !b.ready then (none, b)
  else
    let r := b.gxf.step op
    (some r.1, { b with gxf := r.2 })

def guestGxfBindGuestTlb (b : Bridge κ) (cpu : Option κ) : Option U64 × Bridge κ :=
  let b := { b with gxfTlbCpu := cpu }
  if !b.ready then (none, b) else (some 0#64, { b with gxf := { b.gxf with sprrTlbFlush := some cpu } })

def guestMmioReset (b : Bridge κ) : Bridge κ :=
  let b := { b.withReady false with nvramBootArgs := [] }
  match VfAic.init aicIrqCount aicCpuCount with
  | none => b
  | some aic =>
    let mem := b.world.mem.store idBuf 0 (List.replicate 4096 0#8)
    let mem := mem.store cqeBuf 0 (List.replicate 16 0#8)
    let b := { b with
      world := AnsWorld.init ⟨mem, ⟨aic, false⟩, ()⟩
      adminSqTail := 0#16
      timer := .init
      storage := .init
      recovery := .init
      dart := .init }
    match VfSart.init VfSart.version1 with
    | none => b
    | some sart =>
      match Nvram.init with
      | (false, nvram) => { b with sart, nvram }
      | (true, nvram) =>
        let b := { b.withReady true with
          sart := sart
          nvram := nvram
          smcLastResp := 0#64
          smc := .init
          uart := .init none
          adp := .init
          sep := .init
          gxf := { (VfAppleGxf.init : VfAppleGxf (Option κ)) with sprrTlbFlush := some b.gxfTlbCpu } }
        match b.sepSyncAicIrq with
        | none => b.withReady false
        | some b =>
          let wiring := b.accesses .bindPci ++ b.accesses .pciBindAic ++ b.accesses .pciBindMsiGpa
          match b.world.attempt 0#64 wiring with
          | (none, world) => { b with world }.withReady false
          | (some _, world) => { b with world }

end Bridge

inductive BridgeOp (κ : Type)
  | reset
  | mmioRead (window offset width : ℕ)
  | mmioWrite (window offset width : ℕ) (value : U64)
  | aicSetLine (irq : ℕ) (high : Bool)
  | dartSimulateFault (sid : ℕ) (code : U32)
  | uartPushRx (byte : Byte)
  | timerAdvance (ticks : U64)
  | storageAttach (blockCount : U64) (readOnly : Bool)
  | storageDetach
  | ans (c : AnsCall)
  | recoveryIngest (frame : List Byte)
  | recoveryClear
  | adpConfigure (guestAddress backingBytes : U64) (width height stride : U32)
  | nvramIngestBank (buf past : List Byte)
  | gxf (op : VfAppleGxf.GxfOp (Option κ))
  | gxfBindGuestTlb (cpu : Option κ)

inductive BridgeAnswer (κ : Type)
  | mmio (r : Except MmioError U64)
  | host (r : Option U64)
  | gxf (r : Option (VfAppleGxf.GxfAnswer (Option κ)))

namespace Bridge

variable {κ : Type}

def onMmio (r : Except MmioError U64 × Bridge κ) : BridgeAnswer κ × Bridge κ := (.mmio r.1, r.2)

def onHost (r : Option U64 × Bridge κ) : BridgeAnswer κ × Bridge κ := (.host r.1, r.2)

def step (b : Bridge κ) : BridgeOp κ → BridgeAnswer κ × Bridge κ
  | .reset => (.host (some 0#64), b.guestMmioReset)
  | .mmioRead window offset width => onMmio (b.mmioRead window offset width)
  | .mmioWrite window offset width value => onMmio (b.mmioWrite window offset width value)
  | .aicSetLine irq high => onHost (b.guestAicSetLine irq high)
  | .dartSimulateFault sid code => onHost (b.guestDartSimulateFault sid code)
  | .uartPushRx byte => onHost (b.guestUartPushRx byte)
  | .timerAdvance ticks => onHost (b.guestTimerAdvance ticks)
  | .storageAttach blockCount readOnly => onHost (b.guestStorageAttach blockCount readOnly)
  | .storageDetach => onHost b.guestStorageDetach
  | .ans c => onHost (b.ansCall c)
  | .recoveryIngest frame => onHost (b.guestRecoveryIngest frame)
  | .recoveryClear => onHost b.guestRecoveryClear
  | .adpConfigure guestAddress backingBytes width height stride =>
    onHost (b.guestAdpConfigure guestAddress backingBytes width height stride)
  | .nvramIngestBank buf past => onHost (b.guestNvramIngestBank buf past)
  | .gxf op =>
    let r := b.guestGxf op
    (.gxf r.1, r.2)
  | .gxfBindGuestTlb cpu => onHost (b.guestGxfBindGuestTlb cpu)

end Bridge

end Nextcore.Device
