import Nextcore.Cpu.Arch

/-! The system registers of `arch.c`, with the platform controls. -/

namespace Nextcore.Cpu

inductive Sysreg
  | tpidrEl0 | tpidrroEl0 | tpidrEl1
  | cntfrqEl0 | cntpctEl0 | cntvctEl0 | cntpTvalEl0 | cntpCtlEl0 | cntpCvalEl0 | cntvCtlEl0 | cntvCvalEl0
  | currentEl
  | idAa64pfr0El1 | idAa64pfr1El1 | idAa64pfr2El1 | idAa64zfr0El1
  | idAa64isar0El1 | idAa64isar1El1 | idAa64isar2El1 | idAa64isar3El1
  | idAa64mmfr0El1 | idAa64mmfr1El1 | idAa64mmfr2El1
  | fpcr | fpsr | cpacrEl1 | platformOverride
  | sctlrEl1 | ttbr0El1 | ttbr1El1 | tcrEl1 | mairEl1
  | spsrEl1 | elrEl1 | esrEl1 | farEl1 | vbarEl1
  | hcrEl2 | cnthctlEl2 | spsrEl2 | elrEl2 | esrEl2 | farEl2 | vbarEl2
  | scrEl3 | spsrEl3 | elrEl3 | esrEl3 | farEl3 | vbarEl3
  deriving DecidableEq, Repr

namespace Sysreg

def key : Sysreg → U32
  | tpidrEl0 => 0x5e82#32
  | tpidrroEl0 => 0x5e83#32
  | tpidrEl1 => 0x4684#32
  | cntfrqEl0 => 0x5f00#32
  | cntpctEl0 => 0x5f01#32
  | cntvctEl0 => 0x5f02#32
  | cntpTvalEl0 => 0x5f10#32
  | cntpCtlEl0 => 0x5f11#32
  | cntpCvalEl0 => 0x5f12#32
  | cntvCtlEl0 => 0x5f19#32
  | cntvCvalEl0 => 0x5f1a#32
  | currentEl => 0x4212#32
  | idAa64pfr0El1 => 0x4020#32
  | idAa64pfr1El1 => 0x4021#32
  | idAa64pfr2El1 => 0x4022#32
  | idAa64zfr0El1 => 0x4024#32
  | idAa64isar0El1 => 0x4030#32
  | idAa64isar1El1 => 0x4031#32
  | idAa64isar2El1 => 0x4032#32
  | idAa64isar3El1 => 0x4033#32
  | idAa64mmfr0El1 => 0x4038#32
  | idAa64mmfr1El1 => 0x4039#32
  | idAa64mmfr2El1 => 0x403a#32
  | fpcr => 0x5a20#32
  | fpsr => 0x5a21#32
  | cpacrEl1 => 0x4082#32
  | platformOverride => 0x6fa8#32
  | sctlrEl1 => 0x4080#32
  | ttbr0El1 => 0x4100#32
  | ttbr1El1 => 0x4101#32
  | tcrEl1 => 0x4102#32
  | mairEl1 => 0x4510#32
  | spsrEl1 => 0x4200#32
  | elrEl1 => 0x4201#32
  | esrEl1 => 0x4290#32
  | farEl1 => 0x4300#32
  | vbarEl1 => 0x4600#32
  | hcrEl2 => 0x6088#32
  | cnthctlEl2 => 0x6708#32
  | spsrEl2 => 0x6200#32
  | elrEl2 => 0x6201#32
  | esrEl2 => 0x6290#32
  | farEl2 => 0x6300#32
  | vbarEl2 => 0x6600#32
  | scrEl3 => 0x7088#32
  | spsrEl3 => 0x7200#32
  | elrEl3 => 0x7201#32
  | esrEl3 => 0x7290#32
  | farEl3 => 0x7300#32
  | vbarEl3 => 0x7600#32

def all : List Sysreg :=
  [tpidrEl0, tpidrroEl0, tpidrEl1, cntfrqEl0, cntpctEl0, cntvctEl0, cntpTvalEl0, cntpCtlEl0, cntpCvalEl0,
    cntvCtlEl0, cntvCvalEl0, currentEl, idAa64pfr0El1, idAa64pfr1El1, idAa64pfr2El1, idAa64zfr0El1,
    idAa64isar0El1, idAa64isar1El1, idAa64isar2El1, idAa64isar3El1, idAa64mmfr0El1, idAa64mmfr1El1,
    idAa64mmfr2El1, fpcr, fpsr, cpacrEl1, platformOverride, sctlrEl1, ttbr0El1, ttbr1El1, tcrEl1, mairEl1,
    spsrEl1, elrEl1, esrEl1, farEl1, vbarEl1, hcrEl2, cnthctlEl2, spsrEl2, elrEl2, esrEl2, farEl2, vbarEl2,
    scrEl3, spsrEl3, elrEl3, esrEl3, farEl3, vbarEl3]

def ofKey (k : U32) : Option Sysreg := all.find? fun r => r.key = k

/-- `sysreg_min_el`; `none` is its -1. -/
def minEl : Sysreg → Option U32
  | tpidrEl0 | tpidrroEl0 | cntfrqEl0 | cntpctEl0 | cntvctEl0 | cntpTvalEl0 | cntpCtlEl0 | cntpCvalEl0
  | cntvCtlEl0 | cntvCvalEl0 | currentEl => some 0#32
  | idAa64isar1El1 | cpacrEl1 | idAa64pfr0El1 | idAa64pfr1El1 | idAa64pfr2El1 | tpidrEl1 | idAa64mmfr0El1
  | idAa64mmfr2El1 | sctlrEl1 | ttbr0El1 | ttbr1El1 | tcrEl1 | spsrEl1 | elrEl1 | esrEl1 | farEl1 | mairEl1
  | vbarEl1 => some 1#32
  | hcrEl2 | cnthctlEl2 | spsrEl2 | elrEl2 | esrEl2 | farEl2 | vbarEl2 => some 2#32
  | scrEl3 | spsrEl3 | elrEl3 | esrEl3 | farEl3 | vbarEl3 => some 3#32
  | _ => none

def isScalarId : Sysreg → Bool
  | idAa64pfr0El1 | idAa64pfr1El1 | idAa64pfr2El1 | idAa64zfr0El1 | idAa64isar0El1 | idAa64isar2El1
  | idAa64isar3El1 | idAa64mmfr0El1 | idAa64mmfr1El1 | idAa64mmfr2El1 => true
  | _ => false

end Sysreg

inductive SysregResult
  | ok | unknown | privilege | readOnly | invalidValue | undefined
  deriving DecidableEq, Repr

namespace VfCpu

def plainEl1 (cpu : VfCpu) : Bool := cpu.currentEl = 1#32 ∧ cpu.hcrEl2 = 0#64 ∧ cpu.scrEl3 = 0#64

def setBank (banks : Fin 4 → U64) (el : U32) (value : U64) : Fin 4 → U64 := Function.update banks (bank el) value

/-- The value of a register that has passed its level check; `none` is the `default` of the switch. -/
def fetchSysreg (cpu : VfCpu) : Sysreg → Option U64
  | .tpidrEl0 => cpu.tpidrEl0
  | .tpidrroEl0 => cpu.tpidrroEl0
  | .tpidrEl1 => cpu.tpidrEl1
  | .cntfrqEl0 => cpu.cntfrq
  | .cntpctEl0 => cpu.cntpct
  | .cntvctEl0 => cpu.cntvct
  | .cntpTvalEl0 => cpu.cntpTval
  | .cntpCtlEl0 => cpu.cntpCtl
  | .cntpCvalEl0 => cpu.cntpCval
  | .cntvCtlEl0 => cpu.cntvCtl
  | .cntvCvalEl0 => cpu.cntvCval
  | .currentEl => some (cpu.currentEl.zeroExtend 64 <<< 2)
  | .idAa64mmfr0El1 => cpu.idAa64mmfr0
  | .idAa64isar1El1 => cpu.idAa64isar1
  | .sctlrEl1 => cpu.sctlr
  | .ttbr0El1 => cpu.ttbr0
  | .ttbr1El1 => cpu.ttbr1
  | .tcrEl1 => cpu.tcr
  | .mairEl1 => cpu.mair
  | .spsrEl1 => cpu.spsrEl 1
  | .elrEl1 => cpu.elrEl 1
  | .esrEl1 => cpu.esrEl 1
  | .farEl1 => cpu.farEl 1
  | .vbarEl1 => cpu.vbarEl 1
  | .hcrEl2 => cpu.hcrEl2
  | .cnthctlEl2 => cpu.cnthctlEl2
  | .spsrEl2 => cpu.spsrEl 2
  | .elrEl2 => cpu.elrEl 2
  | .esrEl2 => cpu.esrEl 2
  | .farEl2 => cpu.farEl 2
  | .vbarEl2 => cpu.vbarEl 2
  | .scrEl3 => cpu.scrEl3
  | .spsrEl3 => cpu.spsrEl 3
  | .elrEl3 => cpu.elrEl 3
  | .esrEl3 => cpu.esrEl 3
  | .farEl3 => cpu.farEl 3
  | .vbarEl3 => cpu.vbarEl 3
  | _ => none

/-- The level check shared by reads and writes; `none` lets the access through. -/
def levelCheck (cpu : VfCpu) (r : Sysreg) : Option SysregResult :=
  match r.minEl with
  | none => some .unknown
  | some minimum =>
    if cpu.currentEl < minimum then some (if r = .tpidrEl1 then .undefined else .privilege) else none

def readSysreg (cpu : VfCpu) (key : U32) : Except SysregResult U64 :=
  if cpu.stateValid = false then .error .invalidValue else
  match Sysreg.ofKey key with
  | none => .error .unknown
  | some r =>
    if r = .fpcr ∨ r = .fpsr then .error .undefined
    else if r = .cpacrEl1 then
      if cpu.fpExecutionProfile ≠ 1#32 then .error .unknown
      else if cpu.currentEl = 0#32 then .error .undefined
      else if cpu.plainEl1 = false then .error .unknown
      else .ok cpu.cpacrEl1
    else if r = .platformOverride then
      if cpu.platformProfile ≠ 1#32 ∨ cpu.plainEl1 = false then .error .unknown else .ok cpu.platformOverride
    else if r.isScalarId then
      if cpu.plainEl1 = false then .error .unknown
      else .ok (if r = .idAa64mmfr0El1 then 0x0f100005#64
        else if r = .idAa64pfr0El1 then
          (if cpu.fpExecutionProfile = 1#32 then 0x11#64 else 0x00ff0011#64) else 0#64)
    else
      match cpu.levelCheck r with
      | some err => .error err
      | none =>
        match cpu.fetchSysreg r with
        | none => .error .unknown
        | some value => .ok value

def configurePlatform (cpu : VfCpu) (profile : U32) (value : U64) : SysregResult × VfCpu :=
  if 1#32 < profile ∨ (profile = 0#32 ∧ value ≠ 0#64) ∨ value &&& ~~~0x00f00000#64 ≠ 0#64 ∨
      ((value >>> 20) &&& 3#64 ≠ 0#64 ∧ (value >>> 20) &&& 3#64 ≠ 2#64) ∨
      ((value >>> 22) &&& 3#64 ≠ 0#64 ∧ (value >>> 22) &&& 3#64 ≠ 2#64) then (.invalidValue, cpu)
  else (.ok, { cpu with platformProfile := profile, platformOverride := value })

def storeSysreg (cpu : VfCpu) (r : Sysreg) (value : U64) : SysregResult × VfCpu :=
  match r with
  | .tpidrEl0 => (.ok, { cpu with tpidrEl0 := value })
  | .tpidrroEl0 => if cpu.currentEl = 0#32 then (.undefined, cpu) else (.ok, { cpu with tpidrroEl0 := value })
  | .tpidrEl1 => (.ok, { cpu with tpidrEl1 := value })
  | .cntfrqEl0 | .cntpctEl0 | .cntvctEl0 | .currentEl | .idAa64mmfr0El1 | .idAa64pfr0El1 | .idAa64pfr1El1
  | .idAa64pfr2El1 | .idAa64mmfr2El1 | .idAa64isar1El1 => (.readOnly, cpu)
  | .cntpTvalEl0 => (.ok, { cpu with cntpCval := cpu.cntpct + value, cntpTval := value })
  | .cntpCtlEl0 => (.ok, { cpu with cntpCtl := value &&& 3#64 })
  | .cntpCvalEl0 => (.ok, { cpu with cntpCval := value })
  | .cntvCtlEl0 => (.ok, { cpu with cntvCtl := value &&& 3#64 })
  | .cntvCvalEl0 => (.ok, { cpu with cntvCval := value })
  | .sctlrEl1 => (.ok, { cpu with sctlr := value })
  | .ttbr0El1 =>
    if value &&& 0xfff#64 ≠ 0#64 then (.invalidValue, cpu) else (.ok, { cpu with ttbr0 := value }.invalidateTlb)
  | .ttbr1El1 =>
    if value &&& 0xfff#64 ≠ 0#64 then (.invalidValue, cpu) else (.ok, { cpu with ttbr1 := value }.invalidateTlb)
  | .tcrEl1 =>
    if value &&& (0xf#64 <<< 39) ≠ 0#64 then (.invalidValue, cpu)
    else (.ok, { cpu with tcr := value }.invalidateTlb)
  | .spsrEl1 => (.ok, { cpu with spsrEl := setBank cpu.spsrEl 1#32 value })
  | .elrEl1 => (.ok, { cpu with elrEl := setBank cpu.elrEl 1#32 value })
  | .esrEl1 => (.ok, { cpu with esrEl := setBank cpu.esrEl 1#32 value })
  | .farEl1 => (.ok, { cpu with farEl := setBank cpu.farEl 1#32 value })
  | .mairEl1 => (.ok, { cpu with mair := value })
  | .vbarEl1 => (.ok, { cpu with vbarEl := setBank cpu.vbarEl 1#32 (value &&& ~~~0x7ff#64) })
  | .hcrEl2 => (.ok, { cpu with hcrEl2 := value })
  | .cnthctlEl2 => (.ok, { cpu with cnthctlEl2 := value })
  | .spsrEl2 => (.ok, { cpu with spsrEl := setBank cpu.spsrEl 2#32 value })
  | .elrEl2 => (.ok, { cpu with elrEl := setBank cpu.elrEl 2#32 value })
  | .esrEl2 => (.ok, { cpu with esrEl := setBank cpu.esrEl 2#32 value })
  | .farEl2 => (.ok, { cpu with farEl := setBank cpu.farEl 2#32 value })
  | .vbarEl2 => (.ok, { cpu with vbarEl := setBank cpu.vbarEl 2#32 (value &&& ~~~0x7ff#64) })
  | .scrEl3 => (.ok, { cpu with scrEl3 := value })
  | .spsrEl3 => (.ok, { cpu with spsrEl := setBank cpu.spsrEl 3#32 value })
  | .elrEl3 => (.ok, { cpu with elrEl := setBank cpu.elrEl 3#32 value })
  | .esrEl3 => (.ok, { cpu with esrEl := setBank cpu.esrEl 3#32 value })
  | .farEl3 => (.ok, { cpu with farEl := setBank cpu.farEl 3#32 value })
  | .vbarEl3 => (.ok, { cpu with vbarEl := setBank cpu.vbarEl 3#32 (value &&& ~~~0x7ff#64) })
  | _ => (.unknown, cpu)

def writeSysreg (cpu : VfCpu) (key : U32) (value : U64) : SysregResult × VfCpu :=
  if cpu.stateValid = false then (.invalidValue, cpu) else
  match Sysreg.ofKey key with
  | none => (.unknown, cpu)
  | some r =>
    if r = .fpcr ∨ r = .fpsr then (.undefined, cpu)
    else if r = .cpacrEl1 then
      if cpu.fpExecutionProfile ≠ 1#32 then (.unknown, cpu)
      else if cpu.currentEl = 0#32 then (.undefined, cpu)
      else if cpu.plainEl1 = false then (.unknown, cpu)
      else if value &&& ~~~0x00300000#64 ≠ 0#64 then (.invalidValue, cpu)
      else (.ok, { cpu with cpacrEl1 := value })
    else if r = .platformOverride then
      if cpu.platformProfile ≠ 1#32 ∨ cpu.plainEl1 = false then (.unknown, cpu)
      else cpu.configurePlatform cpu.platformProfile value
    else
      match cpu.levelCheck r with
      | some err => (err, cpu)
      | none =>
        match cpu.storeSysreg r value with
        | (.ok, cpu) => (.ok, cpu.updateTimerStatus)
        | failed => failed

/-- `vf_cpu_set_current_el`; `none` is its failure return, which changes nothing. -/
def setCurrentEl (cpu : VfCpu) (el : U32) : Option VfCpu :=
  if 3#32 < el ∨ cpu.stateValid = false then none
  else
    let cpu := cpu.saveActiveSp
    some { cpu with
      currentEl := el, pstate := (cpu.pstate &&& ~~~15#64) ||| modeForEl el, sp := cpu.spEl (bank el) }

def setInterruptLines (cpu : VfCpu) (irq fiq : U32) : Option VfCpu :=
  if 1#32 < irq ∨ 1#32 < fiq then none else some { cpu with irqLevel := irq, fiqLevel := fiq }

end VfCpu

lemma Sysreg.ofKey_key (r : Sysreg) : Sysreg.ofKey r.key = some r := by
  cases r <;> decide

lemma Sysreg.key_of_ofKey {k : U32} {r : Sysreg} (h : Sysreg.ofKey k = some r) : r.key = k := by
  have hkey := List.find?_some (p := fun r : Sysreg => decide (r.key = k)) h
  exact of_decide_eq_true hkey

end Nextcore.Cpu
