import Nextcore.Abi.Dynamic
import Nextcore.Cpu.Sysreg
import Nextcore.Jit.Shape
import Nextcore.Preos.Pauth

/-! The steps the dispatchers make outside generated code: system registers, PSTATE
and pointer authentication. `none` is a step that declines, and changes nothing. -/

namespace Nextcore.Jit

open Cpu Preos.Pauth

def retireNext (cpu : VfCpu) : VfCpu :=
  VfCpu.advanceCounter { cpu with pc := cpu.pc + 4#64, retired := cpu.retired + 1#64 } 1#64

/-- `vf_pauth_step`: `none` is a nonzero return. -/
abbrev PauthStep := PauthContext → U32 → Option PauthContext

def pauthContext (cpu : VfCpu) : PauthContext where
  x i := cpu.x i.castSucc
  sp := cpu.sp
  pc := cpu.pc
  sctlr := cpu.sctlr
  tcr := cpu.tcr
  keys i := ⟨cpu.pauthKeys i 0, cpu.pauthKeys i 1⟩
  currentEl := cpu.currentEl
  reserved := 0#32

def commitPauth (cpu : VfCpu) (c : PauthContext) : VfCpu :=
  { cpu with
    x := fun i => if h : i.val < 31 then c.x ⟨i.val, h⟩ else cpu.x i
    pauthKeys := fun i j => if j = 0 then (c.keys i).lo else (c.keys i).hi
    sp := c.sp
    pc := c.pc }

def pauthSlowStep (pauth : Option PauthStep) (cpu : VfCpu) : Option VfCpu :=
  match pauth with
  | none => none
  | some step =>
    if 1#32 < cpu.currentEl ∨ cpu.sctlr &&& 1#64 ≠ 0#64 ∨ cpu.hcrEl2 ≠ 0#64 ∨ cpu.scrEl3 ≠ 0#64 then none else
    match step (pauthContext cpu) cpu.instruction with
    | none => none
    | some c =>
      let cpu := { commitPauth cpu c with sctlr := c.sctlr, tcr := c.tcr }
      some (VfCpu.advanceCounter { cpu with retired := cpu.retired + 1#64 } 1#64)

def isRead (w : U32) : Bool := w &&& 0x00200000#32 ≠ 0#32

def sourceOf (cpu : VfCpu) (w : U32) : U64 :=
  if w &&& 31#32 = 31#32 then 0#64 else cpu.x (VfCpu.slot (w &&& 31#32))

def setTarget (cpu : VfCpu) (w : U32) (value : U64) : VfCpu :=
  if w &&& 31#32 ≠ 31#32 then cpu.setX (w &&& 31#32) value else cpu

def systemRegisterSlowStep (cpu : VfCpu) : Option VfCpu :=
  let w := cpu.instruction
  if isMrsMsr w = false then none
  else if isRead w then
    match cpu.readSysreg (sysregKey w) with
    | .error _ => none
    | .ok value => some (retireNext (setTarget cpu w value))
  else
    match cpu.writeSysreg (sysregKey w) (sourceOf cpu w) with
    | (.ok, cpu) => some (retireNext cpu)
    | _ => none

def systemRegisterReadSlowStep (cpu : VfCpu) : Option VfCpu :=
  if isMrsMsr cpu.instruction = false ∨ isRead cpu.instruction = false then none
  else systemRegisterSlowStep cpu

def writeOnlySlowStep (key : U32) (cpu : VfCpu) : Option VfCpu :=
  if isMrsMsr cpu.instruction = false ∨ isRead cpu.instruction = true ∨ sysregKey cpu.instruction ≠ key then none
  else systemRegisterSlowStep cpu

def platformOverrideWriteSlowStep : VfCpu → Option VfCpu := writeOnlySlowStep Sysreg.platformOverride.key

def fpAccessControlWriteSlowStep : VfCpu → Option VfCpu := writeOnlySlowStep Sysreg.cpacrEl1.key

def researchSystemRegisterFailure (cpu : VfCpu) (status : U32) : U32 :=
  if status = Status.systemRegisterTrap ∧ cpu.fpExecutionProfile = 1#32 ∧ cpu.currentEl = 1#32 ∧
      isMrsMsr cpu.instruction = true ∧ sysregKey cpu.instruction = Sysreg.cpacrEl1.key then
    Status.implementationGap
  else status

def stackBank (cpu : VfCpu) : Fin 4 := VfCpu.bank (if cpu.pstate &&& 1#64 ≠ 0#64 then cpu.currentEl else 0#32)

def selectStack (cpu : VfCpu) (select : U64) : VfCpu :=
  let cpu := { cpu with
    spEl := Function.update cpu.spEl (stackBank cpu) cpu.sp
    pstate := (cpu.pstate &&& ~~~1#64) ||| select }
  { cpu with sp := cpu.spEl (stackBank cpu) }

def isSpSel (w : U32) : Bool := w &&& 0xfffffeff#32 = 0xd50040bf#32

def spSelOf (w : U32) : U64 := ((w >>> 8) &&& 1#32).zeroExtend 64

def pstateSlowStep (cpu : VfCpu) : Option VfCpu :=
  let w := cpu.instruction
  if cpu.currentEl = 0#32 ∨ cpu.sctlr &&& 1#64 ≠ 0#64 then none
  else if w &&& 0xfffff0ff#32 = 0xd50340df#32 ∨ w &&& 0xfffff0ff#32 = 0xd50340ff#32 then
    let mask : U64 := ((w >>> 8) &&& 15#32).zeroExtend 64 <<< 6
    some (retireNext { cpu with
      pstate := if w &&& 255#32 = 0xdf#32 then cpu.pstate ||| mask else cpu.pstate &&& ~~~mask })
  else if isSpSel w then some (retireNext (selectStack cpu (spSelOf w)))
  else none

def memoryControlRead (cpu : VfCpu) : Option VfCpu :=
  let w := cpu.instruction
  if isMrsMsr w = false ∨ isRead w = false then none
  else if sysregKey w ∉ [Sysreg.sctlrEl1.key, Sysreg.ttbr0El1.key, Sysreg.ttbr1El1.key, Sysreg.tcrEl1.key,
      Sysreg.mairEl1.key] then none
  else
    match cpu.readSysreg (sysregKey w) with
    | .error _ => none
    | .ok value => some (retireNext (setTarget cpu w value))

def stackSelectImmutableStep (cpu : VfCpu) : Option VfCpu :=
  if cpu.currentEl ≠ 1#32 ∨ isSpSel cpu.instruction = false then none
  else some (retireNext (selectStack cpu (spSelOf cpu.instruction)))

def pauthImmutableStep (pauth : Option PauthStep) (cpu : VfCpu) : Option VfCpu :=
  match pauth with
  | none => none
  | some step =>
    if cpu.currentEl ≠ 1#32 then none else
    match step (pauthContext cpu) cpu.instruction with
    | none => none
    | some c =>
      if c.sctlr ≠ cpu.sctlr ∨ c.tcr ≠ cpu.tcr ∨ c.currentEl ≠ cpu.currentEl ∨ c.reserved ≠ 0#32 then none
      else
        let cpu := commitPauth cpu c
        some (VfCpu.advanceCounter { cpu with retired := cpu.retired + 1#64 } 1#64)

def selectorOf (key : U32) : Option U32 :=
  if key = Sysreg.sctlrEl1.key then some Abi.Dynamic.selSctlr
  else if key = Sysreg.ttbr0El1.key then some Abi.Dynamic.selTtbr0
  else if key = Sysreg.ttbr1El1.key then some Abi.Dynamic.selTtbr1
  else if key = Sysreg.tcrEl1.key then some Abi.Dynamic.selTcr
  else if key = Sysreg.mairEl1.key then some Abi.Dynamic.selMair
  else none

def dynamicOperation (w : U32) : Option (U32 × U32) :=
  if w = Abi.Dynamic.isbWord then some (Abi.Dynamic.isb, 0#32)
  else if w = Abi.Dynamic.dsbWord then some (Abi.Dynamic.dsb, 0#32)
  else if w = Abi.Dynamic.tlbiWord then some (Abi.Dynamic.tlbi, 0#32)
  else if isMrsMsr w = false ∨ isRead w = true then none
  else (selectorOf (sysregKey w)).map fun selector => (Abi.Dynamic.write, selector)

def slowStep (pauth : Option PauthStep) (cpu : VfCpu) : Option VfCpu :=
  systemRegisterSlowStep cpu <|> pstateSlowStep cpu <|> pauthSlowStep pauth cpu

def slowStepV2 (pauth : Option PauthStep) (cpu : VfCpu) : Option VfCpu :=
  systemRegisterReadSlowStep cpu <|> platformOverrideWriteSlowStep cpu <|> fpAccessControlWriteSlowStep cpu <|>
    memoryControlRead cpu <|> stackSelectImmutableStep cpu <|> pauthImmutableStep pauth cpu

end Nextcore.Jit
