import Nextcore.Cpu.State

/-! `arch.c`: state validity, exception entry, timers and interrupt polling. -/

namespace Nextcore.Cpu

def validExceptionKind (kind : U32) : Bool :=
  (Exception.undefinedInstruction ≤ kind ∧ kind ≤ Exception.externalInterrupt) ∨
    kind = Exception.fiqInterrupt ∨ kind = Exception.spAlignmentFault ∨ kind = Exception.fpAccess

def modeForEl (el : U32) : U64 :=
  if el = 1#32 then 5#64 else if el = 2#32 then 9#64 else if el = 3#32 then 13#64 else 0#64

def abortExtra (instruction : U32) : U32 :=
  let pair := instruction &&& 0x3e000000#32 = 0x28000000#32
  let scalar :=
    (instruction &&& 0x3f000000#32 = 0x39000000#32 ∨
      instruction &&& 0x3f200c00#32 = 0x38000000#32 ∨
      instruction &&& 0x3f200400#32 = 0x38000400#32 ∨
      (instruction &&& 0x3f200c00#32 = 0x38200800#32 ∧ instruction &&& (1#32 <<< 14) ≠ 0#32)) ∧
    (instruction >>> 30 < 3#32 ∨ (instruction >>> 22) &&& 3#32 < 2#32) ∧
    ¬(instruction >>> 30 = 2#32 ∧ (instruction >>> 22) &&& 3#32 = 3#32)
  let extra := if pair then
      (1#32 <<< 25) ||| (if instruction &&& 0x00400000#32 = 0#32 then 1#32 <<< 6 else 0#32)
    else 0#32
  if scalar then (1#32 <<< 25) ||| (if instruction &&& 0x00c00000#32 = 0#32 then 1#32 <<< 6 else 0#32)
  else extra

def exceptionSyndromeOf (kind currentEl : U32) (pc : U64) (instruction : U32) : U32 :=
  let abort (ec fsc : U32) (extra : U32) := (ec <<< 26) ||| extra ||| fsc
  let dabt := if currentEl = 0#32 then 0x24#32 else 0x25#32
  if kind = Exception.fpAccess then (7#32 <<< 26) ||| (1#32 <<< 25) ||| (0x1e#32 <<< 20)
  else if kind = Exception.systemRegisterTrap then (0x18#32 <<< 26) ||| (instruction &&& 0x01ffffff#32)
  else if kind = Exception.instructionAbort then
    if pc &&& 3#64 ≠ 0#64 then 0x22#32 <<< 26
    else abort (if currentEl = 0#32 then 0x20#32 else 0x21#32) 7#32 0#32
  else if kind = Exception.dataAbort then abort dabt 7#32 (abortExtra instruction)
  else if kind = Exception.translationFault then abort dabt 7#32 0#32
  else if kind = Exception.permissionFault then abort dabt 0x0d#32 0#32
  else if kind = Exception.alignmentFault then abort dabt 0x21#32 (abortExtra instruction)
  else if kind = Exception.spAlignmentFault then (0x26#32 <<< 26) ||| (1#32 <<< 25)
  else if kind = Exception.undefinedInstruction ∨ kind = Exception.privilegedInstruction then 1#32 <<< 25
  else 0#32

namespace VfCpu

def stateValid (cpu : VfCpu) : Bool :=
  let mode := cpu.pstate &&& 15#64
  if 3#32 < cpu.currentEl ∨ 1#32 < cpu.fpExecutionProfile ∨ cpu.fpExecutionReserved ≠ 0#32 ∨
      cpu.cpacrEl1 &&& ~~~0x00300000#64 ≠ 0#64 ∨
      (cpu.fpExecutionProfile = 0#32 ∧ cpu.cpacrEl1 ≠ 0#64) ∨
      (cpu.exceptionPending ≠ Exception.none ∧ validExceptionKind cpu.exceptionPending = false) ∨
      3#32 < cpu.exceptionTargetEl ∨ 1#32 < cpu.exceptionFromLowerEl then false
  else if cpu.currentEl = 0#32 then mode = 0#64
  else if cpu.currentEl = 1#32 then mode = 4#64 ∨ mode = 5#64
  else if cpu.currentEl = 2#32 then mode = 8#64 ∨ mode = 9#64
  else mode = 12#64 ∨ mode = 13#64

def activeSpIndex (cpu : VfCpu) : U32 :=
  if cpu.currentEl = 0#32 ∨ cpu.pstate &&& 1#64 = 0#64 then 0#32 else cpu.currentEl

def saveActiveSp (cpu : VfCpu) : VfCpu :=
  if cpu.currentEl ≤ 3#32 then
    { cpu with spEl := Function.update cpu.spEl (bank cpu.activeSpIndex) cpu.sp }
  else cpu

def targetEl (cpu : VfCpu) : U32 := if cpu.currentEl = 0#32 then 1#32 else cpu.currentEl

def asynchronous (kind : U32) : Bool :=
  kind = Exception.timerInterrupt ∨ kind = Exception.externalInterrupt ∨ kind = Exception.fiqInterrupt

def recordException (cpu : VfCpu) (kind : U32) (pc far : U64) (syndrome instruction : U32) : VfCpu :=
  let target := cpu.targetEl
  let saved := cpu.saveActiveSp
  let esrEl := if asynchronous kind then cpu.esrEl
    else Function.update cpu.esrEl (bank target) (syndrome.zeroExtend 64)
  let farEl := if asynchronous kind then cpu.farEl else Function.update cpu.farEl (bank target) far
  { saved with
    exceptionPending := kind
    exceptionTargetEl := target
    exceptionFromLowerEl := if cpu.currentEl < target then 1#32 else 0#32
    exceptionSyndrome := syndrome.zeroExtend 64
    exceptionFar := far
    exceptionPc := pc
    instruction := instruction
    spsrEl := Function.update cpu.spsrEl (bank target) cpu.pstate
    elrEl := Function.update cpu.elrEl (bank target) pc
    esrEl := esrEl
    farEl := farEl
    vbar := cpu.vbarEl (bank target)
    esr := esrEl (bank target)
    far := farEl (bank target)
    elr := pc }

/-- `vf_cpu_raise_exception`; `none` is its failure return, which changes nothing. -/
def raiseException (cpu : VfCpu) (kind : U32) (pc far : U64) (syndrome instruction : U32) :
    Option VfCpu :=
  if cpu.stateValid = false ∨ validExceptionKind kind = false ∨
      cpu.exceptionPending ≠ Exception.none then none
  else
    let syndrome := if syndrome = 0#32 then exceptionSyndromeOf kind cpu.currentEl pc instruction
      else syndrome
    some (cpu.recordException kind pc far syndrome instruction)

def clearException (cpu : VfCpu) : VfCpu :=
  { cpu with
    exceptionPending := Exception.none, exceptionTargetEl := 0#32, exceptionFromLowerEl := 0#32,
    exceptionSyndrome := 0#64, exceptionFar := 0#64, exceptionPc := 0#64 }

def takeException (cpu : VfCpu) : Option VfCpu :=
  if cpu.stateValid = false ∨ cpu.exceptionPending = Exception.none ∨ 3#32 < cpu.exceptionTargetEl then
    none
  else
    let target := cpu.exceptionTargetEl
    let base := cpu.vbarEl (bank target) &&& ~~~0x7ff#64
    let offset := if cpu.exceptionFromLowerEl ≠ 0#32 then 0x400#64
      else if cpu.spsrEl (bank target) &&& 1#64 ≠ 0#64 then 0x200#64 else 0#64
    let offset := if cpu.exceptionPending = Exception.timerInterrupt ∨
        cpu.exceptionPending = Exception.externalInterrupt then offset + 0x80#64
      else if cpu.exceptionPending = Exception.fiqInterrupt then offset + 0x100#64 else offset
    if base.uaddOverflow offset = true then none else
    let vector := base + offset
    some (clearException
      { cpu with
        currentEl := target
        pstate := (cpu.spsrEl (bank target) &&& ~~~15#64) ||| modeForEl target ||| 0x3c0#64
        sp := cpu.spEl (bank target)
        pc := vector
        exceptionVector := vector
        vbar := base
        esr := cpu.esrEl (bank target)
        far := cpu.farEl (bank target)
        elr := cpu.elrEl (bank target) })

/-- The exception, FAR and instruction word of a terminal status; `none` raises nothing. -/
def statusException (cpu : VfCpu) (status : U32) : Option (U32 × U64 × U32) :=
  if status = Status.fpAccessTrap then some (Exception.fpAccess, 0#64, cpu.instruction)
  else if status = Status.badInstruction ∨ status = Status.undefinedInstruction then
    some (Exception.undefinedInstruction, cpu.far, cpu.instruction)
  else if status = Status.fetchFault ∨ status = Status.instructionAbort then
    some (Exception.instructionAbort, cpu.pc, 0#32)
  else if status = Status.dataFault ∨ status = Status.dataAbort then
    some (Exception.dataAbort, cpu.far, cpu.instruction)
  else if status = Status.translationFault then some (Exception.translationFault, cpu.far, cpu.instruction)
  else if status = Status.permissionFault then some (Exception.permissionFault, cpu.far, cpu.instruction)
  else if status = Status.alignmentFault then some (Exception.alignmentFault, cpu.far, cpu.instruction)
  else if status = Status.spAlignmentFault then
    some (Exception.spAlignmentFault, cpu.far, cpu.instruction)
  else if status = Status.privilegeFault then
    some (Exception.privilegedInstruction, cpu.far, cpu.instruction)
  else if status = Status.systemRegisterTrap then
    some (Exception.systemRegisterTrap, cpu.far, cpu.instruction)
  else if status = Status.timerInterrupt then some (Exception.timerInterrupt, cpu.far, cpu.instruction)
  else if status = Status.externalInterrupt then
    some (Exception.externalInterrupt, cpu.far, cpu.instruction)
  else if status = Status.fiqInterrupt then some (Exception.fiqInterrupt, cpu.far, cpu.instruction)
  else none

def commitStatus (cpu : VfCpu) (status : U32) : VfCpu :=
  let cpu := { cpu with status := status }
  match cpu.statusException status with
  | none => cpu
  | some (kind, far, instruction) => (cpu.raiseException kind cpu.pc far 0#32 instruction).getD cpu

def timerStatus (ctl count cval : U64) : U64 :=
  if ctl &&& 1#64 ≠ 0#64 ∧ ctl &&& 2#64 = 0#64 ∧ cval ≤ count then ctl ||| 4#64 else ctl &&& ~~~4#64

def updateTimerStatus (cpu : VfCpu) : VfCpu :=
  { cpu with
    cntpCtl := timerStatus cpu.cntpCtl cpu.cntpct cpu.cntpCval
    cntvCtl := timerStatus cpu.cntvCtl cpu.cntvct cpu.cntvCval
    cntpTval := if cpu.cntpct ≤ cpu.cntpCval then cpu.cntpCval - cpu.cntpct else 0#64 }

def advanceCounter (cpu : VfCpu) (ticks : U64) : VfCpu :=
  updateTimerStatus { cpu with cntpct := cpu.cntpct + ticks, cntvct := cpu.cntvct + ticks }

def timerPending (cpu : VfCpu) : Bool :=
  cpu.cntpCtl &&& 4#64 ≠ 0#64 ∨ cpu.cntvCtl &&& 4#64 ≠ 0#64

def pendingInterrupt (cpu : VfCpu) : Option (U32 × U32) :=
  let ov := if cpu.platformProfile = 1#32 then cpu.platformOverride else 0#64
  if cpu.fiqLevel ≠ 0#32 ∧ cpu.pstate &&& (1#64 <<< 6) = 0#64 ∧ (ov >>> 20) &&& 3#64 ≠ 2#64 then
    some (Status.fiqInterrupt, Exception.fiqInterrupt)
  else if cpu.pstate &&& (1#64 <<< 7) = 0#64 ∧ (ov >>> 22) &&& 3#64 ≠ 2#64 then
    if cpu.timerPending then some (Status.timerInterrupt, Exception.timerInterrupt)
    else if cpu.irqLevel ≠ 0#32 then some (Status.externalInterrupt, Exception.externalInterrupt)
    else none
  else none

def pollInterrupt (cpu : VfCpu) : U32 × VfCpu :=
  if cpu.stateValid = false ∨ cpu.exceptionPending ≠ 0#32 then (Status.next, cpu) else
  if (cpu.irqLevel ≠ 0#32 ∨ cpu.fiqLevel ≠ 0#32 ∨ cpu.timerPending = true) ∧
      (1#32 < cpu.currentEl ∨ cpu.hcrEl2 &&& 0x18#64 ≠ 0#64 ∨ cpu.scrEl3 &&& 6#64 ≠ 0#64) then
    let cpu := { cpu with instruction := 0#32 }
    let cpu := (cpu.raiseException Exception.systemRegisterTrap cpu.pc 0#64 0#32 0#32).getD cpu
    (Status.systemRegisterTrap, { cpu with status := Status.systemRegisterTrap })
  else
    match cpu.pendingInterrupt with
    | none => (Status.next, cpu)
    | some (status, kind) =>
      match cpu.raiseException kind cpu.pc 0#64 0#32 0#32 with
      | none => (Status.dataFault, cpu)
      | some raised =>
        match raised.takeException with
        | none => (Status.dataFault, raised)
        | some taken => (status, { taken with status := status })

def invalidateTlb (cpu : VfCpu) : VfCpu :=
  { cpu with tlbTag := 0#64, tlbPa := 0#64, tlbGeneration := cpu.tlbGeneration + 1#64 }

lemma pendingInterrupt_ne_next {cpu : VfCpu} {status kind : U32} (h : cpu.pendingInterrupt = some (status, kind)) :
    status ≠ Status.next := by
  unfold pendingInterrupt at h
  dsimp only at h
  generalize (if cpu.platformProfile = 1#32 then cpu.platformOverride else 0#64) = ov at h
  split at h
  · cases h
    decide
  split at h
  · split at h
    · cases h
      decide
    split at h
    · cases h
      decide
    · cases h
  · cases h

lemma pollInterrupt_next {cpu : VfCpu} (h : cpu.pollInterrupt.1 = Status.next) : cpu.pollInterrupt.2 = cpu := by
  unfold pollInterrupt at h ⊢
  split
  · rfl
  next hvalid =>
    rw [if_neg hvalid] at h
    split
    next htrap =>
      rw [if_pos htrap] at h
      cases h
    next htrap =>
      rw [if_neg htrap] at h
      cases hpending : cpu.pendingInterrupt with
      | none => rfl
      | some out =>
        obtain ⟨status, kind⟩ := out
        have hstatus := pendingInterrupt_ne_next hpending
        simp only [hpending] at h
        split at h
        · cases h
        split at h
        · cases h
        · exact absurd h hstatus

end VfCpu

end Nextcore.Cpu
