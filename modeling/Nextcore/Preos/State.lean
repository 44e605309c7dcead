import Nextcore.Mmu.Walk

/-! `arch.rs`: the guest CPU of the reference core, its exception entry and return,
its timers and its interrupt polling. -/

namespace Nextcore.Preos

open Mmu

namespace Pstate

abbrev n : U32 := 1#32 <<< 31
abbrev z : U32 := 1#32 <<< 30
abbrev c : U32 := 1#32 <<< 29
abbrev v : U32 := 1#32 <<< 28
abbrev d : U32 := 1#32 <<< 9
abbrev a : U32 := 1#32 <<< 8
abbrev i : U32 := 1#32 <<< 7
abbrev f : U32 := 1#32 <<< 6
abbrev modeMask : U32 := 0xf#32

end Pstate

abbrev m1CounterFrequency : U64 := 24000000#64

def modeForEl : ExceptionLevel → U32
  | .el0 => 0#32
  | .el1 => 5#32
  | .el2 => 9#32
  | .el3 => 13#32

def levelForMode (mode : U32) : Option ExceptionLevel :=
  let mode := mode &&& Pstate.modeMask
  if mode = 0#32 then some .el0
  else if mode = 4#32 ∨ mode = 5#32 then some .el1
  else if mode = 8#32 ∨ mode = 9#32 then some .el2
  else if mode = 12#32 ∨ mode = 13#32 then some .el3
  else none

inductive ExceptionKind
  | undefinedInstruction | privilegedInstruction | instructionAbort | dataAbort | translationFault
  | permissionFault | alignmentFault | systemRegisterTrap | timerInterrupt | externalInterrupt | guestHalt
  | supervisorCall | fiqInterrupt | spAlignmentFault
  deriving DecidableEq, Repr

namespace ExceptionKind

def asynchronous : ExceptionKind → Bool
  | timerInterrupt | externalInterrupt | fiqInterrupt => true
  | _ => false

end ExceptionKind

def expectedEc (kind : ExceptionKind) (source : ExceptionLevel) : Option U64 :=
  match kind with
  | .spAlignmentFault => some 0x26#64
  | .supervisorCall => some 0x15#64
  | .systemRegisterTrap => some 0x18#64
  | .instructionAbort => some (if source = .el0 then 0x20#64 else 0x21#64)
  | .dataAbort | .translationFault | .permissionFault | .alignmentFault =>
    some (if source = .el0 then 0x24#64 else 0x25#64)
  | _ => none

def exceptionSyndrome (kind : ExceptionKind) (source : ExceptionLevel) (supplied : U64) : U64 :=
  if expectedEc kind source = some (supplied >>> 26) then supplied else
  match kind with
  | .spAlignmentFault => (0x26#64 <<< 26) ||| (1#64 <<< 25)
  | .supervisorCall => (0x15#64 <<< 26) ||| (supplied &&& 0xffff#64)
  | .systemRegisterTrap => (0x18#64 <<< 26) ||| (supplied &&& 0x01ffffff#64)
  | .instructionAbort => ((expectedEc kind source).getD 0x21#64 <<< 26) ||| 0x07#64
  | .dataAbort | .translationFault | .permissionFault | .alignmentFault =>
    let fsc := match kind with
      | .permissionFault => 0x0d#64
      | .alignmentFault => 0x21#64
      | .translationFault => if supplied &&& 0x3f#64 = 0x09#64 then 0x09#64 else 0x07#64
      | _ => 0x07#64
    ((expectedEc kind source).getD 0x25#64 <<< 26) |||
      (if supplied &&& (1#64 <<< 22) ≠ 0#64 then 1#64 <<< 6 else 0#64) ||| fsc
  | .undefinedInstruction | .privilegedInstruction => 1#64 <<< 25
  | .timerInterrupt | .externalInterrupt | .fiqInterrupt | .guestHalt => 0#64

structure GuestException where
  kind : ExceptionKind
  instruction : U32
  syndrome : U64
  far : U64
  pc : U64
  deriving DecidableEq, Repr

/-- `SystemRegisters`; the banks of EL1 to EL3 are functions of the level, whose value at EL0 is unused. -/
structure SystemRegisters where
  tpidrEl0 : U64
  tpidrroEl0 : U64
  tpidrEl1 : U64
  sctlrEl1 : U64
  ttbr0El1 : U64
  ttbr1El1 : U64
  tcrEl1 : U64
  mairEl1 : U64
  vbar : ExceptionLevel → U64
  esr : ExceptionLevel → U64
  far : ExceptionLevel → U64
  elr : ExceptionLevel → U64
  spsr : ExceptionLevel → U64
  cntpctEl0 : U64
  cntpCtlEl0 : U64
  cntpCvalEl0 : U64
  idAa64isar1El1 : U64
  cntvctEl0 : U64
  cntvCtlEl0 : U64
  cntvCvalEl0 : U64
  cntpTvalEl0 : U64
  hcrEl2 : U64
  cnthctlEl2 : U64
  scrEl3 : U64

def SystemRegisters.reset : SystemRegisters :=
  { tpidrEl0 := 0#64, tpidrroEl0 := 0#64, tpidrEl1 := 0#64, sctlrEl1 := 0#64, ttbr0El1 := 0#64,
    ttbr1El1 := 0#64, tcrEl1 := 16#64, mairEl1 := 0#64, vbar := fun _ => 0#64, esr := fun _ => 0#64,
    far := fun _ => 0#64, elr := fun _ => 0#64, spsr := fun _ => 0#64, cntpctEl0 := 0#64,
    cntpCtlEl0 := 0#64, cntpCvalEl0 := 0#64, idAa64isar1El1 := 0x10#64, cntvctEl0 := 0#64,
    cntvCtlEl0 := 0#64, cntvCvalEl0 := 0#64, cntpTvalEl0 := 0#64, hcrEl2 := 0#64, cnthctlEl2 := 0#64,
    scrEl3 := 0#64 }

structure GenericTimer where
  frequency : U64
  counter : U64
  ctl : U64
  cval : U64
  deriving DecidableEq, Repr

def saturatingAdd (a b : U64) : U64 := if a.uaddOverflow b then BitVec.allOnes 64 else a + b

def saturatingSub (a b : U64) : U64 := if b ≤ a then a - b else 0#64

namespace GenericTimer

def reset : GenericTimer := ⟨m1CounterFrequency, 0#64, 0#64, 0#64⟩

def pending (t : GenericTimer) : Bool :=
  t.ctl &&& 1#64 ≠ 0#64 ∧ t.ctl &&& 2#64 = 0#64 ∧ t.cval ≤ t.counter

def settled (t : GenericTimer) : GenericTimer :=
  { t with ctl := if t.pending then t.ctl ||| 4#64 else t.ctl &&& ~~~4#64 }

def advance (t : GenericTimer) (ticks : U64) : GenericTimer :=
  { t with counter := saturatingAdd t.counter ticks }.settled

end GenericTimer

structure SmpState where
  cpuCount : U32
  onlineMask : U64
  externalPending : U64
  deriving DecidableEq, Repr

namespace SmpState

def reset : SmpState := ⟨1#32, 1#64, 0#64⟩

def routeExternal (s : SmpState) (targetMask : U64) : SmpState :=
  { s with externalPending := s.externalPending ||| (targetMask &&& s.onlineMask) }

end SmpState

structure ExclusiveMonitor where
  valid : Bool
  address : U64
  size : ℕ
  owner : U32
  deriving DecidableEq, Repr

namespace ExclusiveMonitor

def reset : ExclusiveMonitor := ⟨false, 0#64, 0, 0#32⟩

def reserve (_ : ExclusiveMonitor) (address : U64) (size : ℕ) (owner : U32) : ExclusiveMonitor :=
  ⟨true, address, size, owner⟩

def succeeds (m : ExclusiveMonitor) (address : U64) (size : ℕ) (owner : U32) : Bool :=
  m.valid ∧ m.address = address ∧ m.size = size ∧ m.owner = owner

def clearOnStore (m : ExclusiveMonitor) (address : U64) (size : ℕ) : ExclusiveMonitor :=
  if m.valid = true ∧ m.address < saturatingAdd address (BitVec.ofNat 64 size) ∧
      address < saturatingAdd m.address (BitVec.ofNat 64 m.size) then { m with valid := false }
  else m

end ExclusiveMonitor

structure Key where
  lo : U64
  hi : U64
  deriving DecidableEq, Repr

structure PlatformState where
  profile : U32
  overrideValue : U64
  irq : Bool
  fiq : Bool
  deriving DecidableEq, Repr

namespace PlatformState

def reset : PlatformState := ⟨0#32, 0#64, false, false⟩

/-- `PlatformState::configure`; `none` is its failure return. -/
def configure (p : PlatformState) (profile : U32) (value : U64) : Option PlatformState :=
  if 1#32 < profile ∨ (profile = 0#32 ∧ value ≠ 0#64) ∨ value &&& ~~~0x00f00000#64 ≠ 0#64 ∨
      ¬((value >>> 20) &&& 3#64 = 0#64 ∨ (value >>> 20) &&& 3#64 = 2#64) ∨
      ¬((value >>> 22) &&& 3#64 = 0#64 ∨ (value >>> 22) &&& 3#64 = 2#64) then none
  else some { p with profile := profile, overrideValue := value }

def irqEnabled (p : PlatformState) : Bool := p.profile = 0#32 ∨ (p.overrideValue >>> 22) &&& 3#64 ≠ 2#64

def fiqEnabled (p : PlatformState) : Bool := p.profile = 0#32 ∨ (p.overrideValue >>> 20) &&& 3#64 ≠ 2#64

end PlatformState

structure GuestCpuState where
  x : Fin 31 → U64
  sp : U64
  spEl : ExceptionLevel → U64
  pc : U64
  pstate : U32
  currentEl : ExceptionLevel
  sys : SystemRegisters
  pendingException : Option GuestException
  exceptionTarget : Option ExceptionLevel
  exceptionFromLowerEl : Bool
  exceptionVector : U64
  affinity : U32
  mmu : VfMmu
  timer : GenericTimer
  virtualTimer : GenericTimer
  smp : SmpState
  exclusive : ExclusiveMonitor
  pauth : Fin 5 → Key
  waiting : Bool
  retired : U64
  platform : PlatformState

namespace GuestCpuState

def reset (affinity : U32) : GuestCpuState :=
  { x := fun _ => 0#64, sp := 0#64, spEl := fun _ => 0#64, pc := 0#64, pstate := modeForEl .el1,
    currentEl := .el1, sys := .reset, pendingException := none, exceptionTarget := none,
    exceptionFromLowerEl := false, exceptionVector := 0#64, affinity := affinity, mmu := .disabled,
    timer := .reset, virtualTimer := .reset, smp := .reset, exclusive := .reset,
    pauth := fun _ => ⟨0#64, 0#64⟩, waiting := false, retired := 0#64, platform := .reset }

def activeSpIndex (cpu : GuestCpuState) : ExceptionLevel :=
  if cpu.currentEl = .el0 ∨ cpu.pstate &&& 1#32 = 0#32 then .el0 else cpu.currentEl

def saveSp (cpu : GuestCpuState) : GuestCpuState :=
  { cpu with spEl := Function.update cpu.spEl cpu.activeSpIndex cpu.sp }

def writeExceptionBank (cpu : GuestCpuState) (target : ExceptionLevel) (savedPstate : U32)
    (exception : GuestException) : GuestCpuState :=
  if target = .el0 then cpu
  else
    { cpu with
      sys := { cpu.sys with
        spsr := Function.update cpu.sys.spsr target (savedPstate.zeroExtend 64)
        esr := if exception.kind.asynchronous then cpu.sys.esr
          else Function.update cpu.sys.esr target exception.syndrome
        far := if exception.kind.asynchronous then cpu.sys.far
          else Function.update cpu.sys.far target exception.far
        elr := Function.update cpu.sys.elr target exception.pc } }

def exceptionBank (cpu : GuestCpuState) (level : ExceptionLevel) : U64 × U64 × U64 :=
  if level = .el0 then (0#64, 0#64, 0#64) else (cpu.sys.spsr level, cpu.sys.elr level, cpu.sys.vbar level)

def targetEl (cpu : GuestCpuState) : ExceptionLevel := if cpu.currentEl = .el0 then .el1 else cpu.currentEl

def raise (cpu : GuestCpuState) (exception : GuestException) : GuestCpuState :=
  if cpu.pendingException.isSome then cpu
  else
    let exception := { exception with
      syndrome := exceptionSyndrome exception.kind cpu.currentEl exception.syndrome }
    { cpu.writeExceptionBank cpu.targetEl cpu.pstate exception with
      exceptionTarget := some cpu.targetEl
      exceptionFromLowerEl := cpu.currentEl ≠ cpu.targetEl
      pendingException := some exception }

def exceptionOffset (kind : ExceptionKind) (old : ExceptionLevel) (savedPstate : U32) : U64 :=
  let synchronous := if old = .el0 then 0x400#64 else if savedPstate &&& 1#32 ≠ 0#32 then 0x200#64 else 0#64
  match kind with
  | .timerInterrupt | .externalInterrupt => synchronous + 0x80#64
  | .fiqInterrupt => synchronous + 0x100#64
  | _ => synchronous

def takePendingException (cpu : GuestCpuState) : Option GuestException × GuestCpuState :=
  match cpu.pendingException with
  | none => (none, cpu)
  | some exception =>
    if exception.kind = .guestHalt then (some exception, cpu)
    else
      let old := cpu.currentEl
      let target := cpu.exceptionTarget.getD cpu.targetEl
      let savedPstate := cpu.pstate
      let cpu := cpu.saveSp.writeExceptionBank target savedPstate exception
      let vector := ((cpu.exceptionBank target).2.2 &&& ~~~0x7ff#64) +
        exceptionOffset exception.kind old savedPstate
      (some exception, { cpu with
        currentEl := target
        pstate := (savedPstate &&& ~~~Pstate.modeMask) ||| modeForEl target ||| Pstate.d ||| Pstate.a |||
          Pstate.i ||| Pstate.f
        sp := cpu.spEl target
        exceptionVector := vector
        pc := vector
        pendingException := none
        exceptionTarget := none
        exceptionFromLowerEl := false })

/-- `eret`; an error changes nothing. -/
def eret (cpu : GuestCpuState) : Except ExceptionKind GuestCpuState :=
  if cpu.currentEl = .el0 then .error .privilegedInstruction
  else
    let bank := cpu.exceptionBank cpu.currentEl
    let restoredPstate : U32 := bank.1.truncate 32
    match levelForMode restoredPstate with
    | none => .error .undefinedInstruction
    | some restoredEl =>
      let cpu := cpu.saveSp
      .ok { cpu with
        pstate := restoredPstate, pc := bank.2.1, currentEl := restoredEl, sp := cpu.spEl restoredEl }

def modeValid (el : ExceptionLevel) (mode : U32) : Bool :=
  match el with
  | .el0 => mode = 0#32
  | .el1 => mode = 4#32 ∨ mode = 5#32
  | .el2 => mode = 8#32 ∨ mode = 9#32
  | .el3 => mode = 12#32 ∨ mode = 13#32

def stateValid (cpu : GuestCpuState) : Bool :=
  modeValid cpu.currentEl (cpu.pstate &&& Pstate.modeMask) &&
    (match cpu.exceptionTarget with
      | none => cpu.pendingException.isNone
      | some target => cpu.pendingException.isSome && decide (target.toNat ≤ 3)) &&
    (!cpu.exceptionFromLowerEl ||
      (match cpu.exceptionTarget with
        | none => false
        | some target => decide (cpu.currentEl.toNat < target.toNat)))

def advanceCounter (cpu : GuestCpuState) (ticks : U64) : GuestCpuState :=
  let timer := cpu.timer.advance ticks
  let virtualTimer := cpu.virtualTimer.advance ticks
  { cpu with
    timer := timer
    virtualTimer := virtualTimer
    sys := { cpu.sys with
      cntpctEl0 := timer.counter, cntpCtlEl0 := timer.ctl, cntvctEl0 := virtualTimer.counter,
      cntvCtlEl0 := virtualTimer.ctl, cntpTvalEl0 := saturatingSub timer.cval timer.counter } }

def asyncException (cpu : GuestCpuState) (kind : ExceptionKind) : GuestException :=
  ⟨kind, 0#32, 0#64, 0#64, cpu.pc⟩

def pollInterrupt (cpu : GuestCpuState) : Bool × GuestCpuState :=
  let bit := 1#64 <<< cpu.affinity.toNat
  if cpu.pendingException.isSome then (false, cpu)
  else if (cpu.platform.irq || cpu.platform.fiq || cpu.timer.pending || cpu.virtualTimer.pending ||
      cpu.smp.externalPending != 0#64) = true ∧
      (1 < cpu.currentEl.toNat ∨ cpu.sys.hcrEl2 &&& 0x18#64 ≠ 0#64 ∨ cpu.sys.scrEl3 &&& 6#64 ≠ 0#64) then
    (true, cpu.raise (cpu.asyncException .systemRegisterTrap))
  else if cpu.platform.fiq = true ∧ cpu.platform.fiqEnabled = true ∧ cpu.pstate &&& Pstate.f = 0#32 then
    (true, cpu.raise (cpu.asyncException .fiqInterrupt))
  else if cpu.pstate &&& Pstate.i ≠ 0#32 ∨ cpu.platform.irqEnabled = false then (false, cpu)
  else if cpu.timer.pending || cpu.virtualTimer.pending then
    (true, cpu.raise (cpu.asyncException .timerInterrupt))
  else if cpu.platform.irq = true ∨ cpu.smp.externalPending &&& bit ≠ 0#64 then
    let cpu := { cpu with smp := { cpu.smp with externalPending := cpu.smp.externalPending &&& ~~~bit } }
    (true, cpu.raise (cpu.asyncException .externalInterrupt))
  else (false, cpu)

def commitPendingInterrupt (cpu : GuestCpuState) : Option GuestException × GuestCpuState :=
  match cpu.pendingException with
  | none => (none, cpu)
  | some exception => if exception.kind.asynchronous then cpu.takePendingException else (none, cpu)

end GuestCpuState

end Nextcore.Preos
