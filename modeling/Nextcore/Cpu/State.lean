import Nextcore.Lib.Bytes

/-! The guest CPU record `vf_cpu` and the status codes of the runtime. The FP
bank and the `pauth_step` pointer are not part of the record here. -/

namespace Nextcore.Cpu

namespace Status

abbrev next : U32 := 0#32
abbrev halt : U32 := 1#32
abbrev badInstruction : U32 := 2#32
abbrev fetchFault : U32 := 3#32
abbrev dataFault : U32 := 4#32
abbrev budget : U32 := 5#32
abbrev codeFull : U32 := 6#32
abbrev protection : U32 := 7#32
abbrev undefinedInstruction : U32 := 8#32
abbrev privilegeFault : U32 := 9#32
abbrev translationFault : U32 := 10#32
abbrev permissionFault : U32 := 11#32
abbrev alignmentFault : U32 := 12#32
abbrev systemRegisterTrap : U32 := 13#32
abbrev timerInterrupt : U32 := 14#32
abbrev externalInterrupt : U32 := 15#32
abbrev instructionAbort : U32 := 16#32
abbrev dataAbort : U32 := 17#32
abbrev fiqInterrupt : U32 := 18#32
abbrev spAlignmentFault : U32 := 19#32
abbrev implementationGap : U32 := 20#32
abbrev fpAccessTrap : U32 := 21#32
abbrev memoryDispatch : U32 := 0x7ffffffe#32

end Status

namespace Exception

abbrev none : U32 := 0#32
abbrev undefinedInstruction : U32 := 1#32
abbrev privilegedInstruction : U32 := 2#32
abbrev instructionAbort : U32 := 3#32
abbrev dataAbort : U32 := 4#32
abbrev translationFault : U32 := 5#32
abbrev permissionFault : U32 := 6#32
abbrev alignmentFault : U32 := 7#32
abbrev systemRegisterTrap : U32 := 8#32
abbrev timerInterrupt : U32 := 9#32
abbrev externalInterrupt : U32 := 10#32
abbrev fiqInterrupt : U32 := 13#32
abbrev spAlignmentFault : U32 := 14#32
abbrev fpAccess : U32 := 15#32

end Exception

/-- `vf_cpu`. `x` has the source's 32 entries; the last is padding. -/
structure VfCpu where
  x : Fin 32 → U64
  sp : U64
  pc : U64
  pstate : U64
  sctlr : U64
  ttbr0 : U64
  ttbr1 : U64
  tcr : U64
  mair : U64
  vbar : U64
  esr : U64
  far : U64
  elr : U64
  spEl : Fin 4 → U64
  spsrEl : Fin 4 → U64
  vbarEl : Fin 4 → U64
  esrEl : Fin 4 → U64
  farEl : Fin 4 → U64
  elrEl : Fin 4 → U64
  exceptionSyndrome : U64
  exceptionFar : U64
  exceptionPc : U64
  exceptionVector : U64
  cntfrq : U64
  cntpct : U64
  cntpCtl : U64
  cntpCval : U64
  idAa64mmfr0 : U64
  idAa64isar1 : U64
  cntvct : U64
  cntvCtl : U64
  cntvCval : U64
  cntpTval : U64
  hcrEl2 : U64
  cnthctlEl2 : U64
  scrEl3 : U64
  retired : U64
  tlbTag : U64
  tlbPa : U64
  tlbGeneration : U64
  currentEl : U32
  exceptionPending : U32
  exceptionTargetEl : U32
  exceptionFromLowerEl : U32
  instruction : U32
  status : U32
  guestRamBase : U64
  compiledBlocks : U64
  pauthKeys : Fin 5 → Fin 2 → U64
  tpidrEl0 : U64
  tpidrroEl0 : U64
  tpidrEl1 : U64
  platformOverride : U64
  platformProfile : U32
  irqLevel : U32
  fiqLevel : U32
  cpacrEl1 : U64
  fpExecutionProfile : U32
  fpExecutionReserved : U32
  deriving DecidableEq

namespace VfCpu

def slot (reg : U32) : Fin 32 := Fin.ofNat 32 reg.toNat

def bank (el : U32) : Fin 4 := Fin.ofNat 4 el.toNat

def setX (cpu : VfCpu) (reg : U32) (value : U64) : VfCpu :=
  { cpu with x := Function.update cpu.x (slot reg) value }

def reset (initialEl : U32) : VfCpu :=
  let el := if 3#32 < initialEl then 0#32 else initialEl
  { x := fun _ => 0#64, sp := 0#64, pc := 0#64,
    pstate := if el = 1#32 then 5#64 else if el = 2#32 then 9#64 else if el = 3#32 then 13#64 else 0#64,
    sctlr := 0#64, ttbr0 := 0#64, ttbr1 := 0#64, tcr := 16#64, mair := 0#64, vbar := 0#64, esr := 0#64,
    far := 0#64, elr := 0#64, spEl := fun _ => 0#64, spsrEl := fun _ => 0#64, vbarEl := fun _ => 0#64,
    esrEl := fun _ => 0#64, farEl := fun _ => 0#64, elrEl := fun _ => 0#64, exceptionSyndrome := 0#64,
    exceptionFar := 0#64, exceptionPc := 0#64, exceptionVector := 0#64, cntfrq := 24000000#64,
    cntpct := 0#64, cntpCtl := 0#64, cntpCval := 0#64, idAa64mmfr0 := 0x0f100005#64, idAa64isar1 := 0#64,
    cntvct := 0#64, cntvCtl := 0#64, cntvCval := 0#64, cntpTval := 0#64, hcrEl2 := 0#64,
    cnthctlEl2 := 0#64, scrEl3 := 0#64, retired := 0#64, tlbTag := 0#64, tlbPa := 0#64,
    tlbGeneration := 0#64, currentEl := el, exceptionPending := 0#32, exceptionTargetEl := 0#32,
    exceptionFromLowerEl := 0#32, instruction := 0#32, status := 0#32, guestRamBase := 0#64,
    compiledBlocks := 0#64, pauthKeys := fun _ _ => 0#64, tpidrEl0 := 0#64, tpidrroEl0 := 0#64,
    tpidrEl1 := 0#64, platformOverride := 0#64, platformProfile := 0#32, irqLevel := 0#32,
    fiqLevel := 0#32, cpacrEl1 := 0#64, fpExecutionProfile := 0#32, fpExecutionReserved := 0#32 }

end VfCpu

end Nextcore.Cpu
