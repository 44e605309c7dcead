import Nextcore.Preos.State

/-! The system registers of `arch.rs`. -/

namespace Nextcore.Preos

open Mmu

inductive SysRegFault
  | undefined | privilege | unknown | readOnly | invalidValue
  deriving DecidableEq, Repr

inductive SystemRegister
  | sctlrEl1 | ttbr0El1 | ttbr1El1 | tcrEl1 | mairEl1 | vbarEl1 | esrEl1 | farEl1 | elrEl1 | spsrEl1
  | cntfrqEl0 | cntpctEl0 | cntpCtlEl0 | cntpCvalEl0 | currentEl | idAa64mmfr0El1 | idAa64isar1El1
  | cntvctEl0 | cntvCtlEl0 | cntvCvalEl0 | cntpTvalEl0
  | hcrEl2 | cnthctlEl2 | vbarEl2 | esrEl2 | farEl2 | elrEl2 | spsrEl2
  | scrEl3 | vbarEl3 | esrEl3 | farEl3 | elrEl3 | spsrEl3
  | tpidrEl0 | tpidrroEl0 | tpidrEl1 | platformOverride
  | idAa64zfr0El1 | idAa64isar0El1 | idAa64isar2El1 | idAa64isar3El1 | idAa64mmfr1El1 | idAa64mmfr2El1
  | idAa64pfr0El1 | idAa64pfr1El1 | idAa64pfr2El1
  deriving DecidableEq, Repr

namespace SystemRegister

def encoding : SystemRegister → U32 × Option U32
  | idAa64pfr0El1 => (0xd5380400#32, none)
  | idAa64pfr1El1 => (0xd5380420#32, none)
  | idAa64pfr2El1 => (0xd5380440#32, none)
  | idAa64zfr0El1 => (0xd5380480#32, none)
  | idAa64isar0El1 => (0xd5380600#32, none)
  | idAa64isar2El1 => (0xd5380640#32, none)
  | idAa64isar3El1 => (0xd5380660#32, none)
  | idAa64mmfr1El1 => (0xd5380720#32, none)
  | idAa64mmfr2El1 => (0xd5380740#32, none)
  | platformOverride => (0xd53df500#32, some 0xd51df500#32)
  | tpidrEl0 => (0xd53bd040#32, some 0xd51bd040#32)
  | tpidrroEl0 => (0xd53bd060#32, some 0xd51bd060#32)
  | tpidrEl1 => (0xd538d080#32, some 0xd518d080#32)
  | sctlrEl1 => (0xd5381000#32, some 0xd5181000#32)
  | ttbr0El1 => (0xd5382000#32, some 0xd5182000#32)
  | ttbr1El1 => (0xd5382020#32, some 0xd5182020#32)
  | tcrEl1 => (0xd5382040#32, some 0xd5182040#32)
  | mairEl1 => (0xd538a200#32, some 0xd518a200#32)
  | vbarEl1 => (0xd538c000#32, some 0xd518c000#32)
  | esrEl1 => (0xd5385200#32, some 0xd5185200#32)
  | farEl1 => (0xd5386000#32, some 0xd5186000#32)
  | elrEl1 => (0xd5384020#32, some 0xd5184020#32)
  | spsrEl1 => (0xd5384000#32, some 0xd5184000#32)
  | cntfrqEl0 => (0xd53be000#32, some 0xd51be000#32)
  | cntpctEl0 => (0xd53be020#32, some 0xd51be020#32)
  | cntpCtlEl0 => (0xd53be220#32, some 0xd51be220#32)
  | cntpCvalEl0 => (0xd53be240#32, some 0xd51be240#32)
  | currentEl => (0xd5384240#32, none)
  | idAa64mmfr0El1 => (0xd5380700#32, none)
  | idAa64isar1El1 => (0xd5380620#32, some 0xd5180620#32)
  | cntvctEl0 => (0xd53be040#32, some 0xd51be040#32)
  | cntvCtlEl0 => (0xd53be320#32, some 0xd51be320#32)
  | cntvCvalEl0 => (0xd53be340#32, some 0xd51be340#32)
  | cntpTvalEl0 => (0xd53be200#32, some 0xd51be200#32)
  | hcrEl2 => (0xd53c1100#32, some 0xd51c1100#32)
  | cnthctlEl2 => (0xd53ce100#32, some 0xd51ce100#32)
  | vbarEl2 => (0xd53cc000#32, some 0xd51cc000#32)
  | esrEl2 => (0xd53c5200#32, some 0xd51c5200#32)
  | farEl2 => (0xd53c6000#32, some 0xd51c6000#32)
  | elrEl2 => (0xd53c4020#32, some 0xd51c4020#32)
  | spsrEl2 => (0xd53c4000#32, some 0xd51c4000#32)
  | scrEl3 => (0xd53e1100#32, some 0xd51e1100#32)
  | vbarEl3 => (0xd53ec000#32, some 0xd51ec000#32)
  | esrEl3 => (0xd53e5200#32, some 0xd51e5200#32)
  | farEl3 => (0xd53e6000#32, some 0xd51e6000#32)
  | elrEl3 => (0xd53e4020#32, some 0xd51e4020#32)
  | spsrEl3 => (0xd53e4000#32, some 0xd51e4000#32)

def all : List SystemRegister :=
  [sctlrEl1, ttbr0El1, ttbr1El1, tcrEl1, mairEl1, vbarEl1, esrEl1, farEl1, elrEl1, spsrEl1, cntfrqEl0, cntpctEl0,
    cntpCtlEl0, cntpCvalEl0, currentEl, idAa64mmfr0El1, idAa64isar1El1, cntvctEl0, cntvCtlEl0, cntvCvalEl0,
    cntpTvalEl0, hcrEl2, cnthctlEl2, vbarEl2, esrEl2, farEl2, elrEl2, spsrEl2, scrEl3, vbarEl3, esrEl3, farEl3,
    elrEl3, spsrEl3, tpidrEl0, tpidrroEl0, tpidrEl1, platformOverride, idAa64zfr0El1, idAa64isar0El1,
    idAa64isar2El1, idAa64isar3El1, idAa64mmfr1El1, idAa64mmfr2El1, idAa64pfr0El1, idAa64pfr1El1, idAa64pfr2El1]

def fromInstruction (word : U32) : Option SystemRegister :=
  all.find? fun reg => reg.encoding.1 = word &&& ~~~31#32 ∨ reg.encoding.2 = some (word &&& ~~~31#32)

def minimumEl : SystemRegister → ExceptionLevel
  | tpidrEl0 | tpidrroEl0 | cntfrqEl0 | cntpctEl0 | cntpCtlEl0 | cntpCvalEl0 | currentEl | cntvctEl0 | cntvCtlEl0
  | cntvCvalEl0 | cntpTvalEl0 => .el0
  | hcrEl2 | cnthctlEl2 | vbarEl2 | esrEl2 | farEl2 | elrEl2 | spsrEl2 => .el2
  | scrEl3 | vbarEl3 | esrEl3 | farEl3 | elrEl3 | spsrEl3 => .el3
  | _ => .el1

def isScalarId : SystemRegister → Bool
  | idAa64pfr0El1 | idAa64pfr1El1 | idAa64pfr2El1 | idAa64zfr0El1 | idAa64isar0El1 | idAa64isar2El1
  | idAa64isar3El1 | idAa64mmfr0El1 | idAa64mmfr1El1 | idAa64mmfr2El1 => true
  | _ => false

end SystemRegister

namespace GuestCpuState

def plainEl1 (cpu : GuestCpuState) : Bool :=
  cpu.currentEl = .el1 ∧ cpu.sys.hcrEl2 = 0#64 ∧ cpu.sys.scrEl3 = 0#64

/-- The last `match` of `read_sysreg`; the registers answered before it are its `unreachable!()` arms. -/
def fetchSysreg (cpu : GuestCpuState) : SystemRegister → U64
  | .tpidrEl0 => cpu.sys.tpidrEl0
  | .tpidrroEl0 => cpu.sys.tpidrroEl0
  | .tpidrEl1 => cpu.sys.tpidrEl1
  | .sctlrEl1 => cpu.sys.sctlrEl1
  | .ttbr0El1 => cpu.sys.ttbr0El1
  | .ttbr1El1 => cpu.sys.ttbr1El1
  | .tcrEl1 => cpu.sys.tcrEl1
  | .mairEl1 => cpu.sys.mairEl1
  | .vbarEl1 => cpu.sys.vbar .el1
  | .esrEl1 => cpu.sys.esr .el1
  | .farEl1 => cpu.sys.far .el1
  | .elrEl1 => cpu.sys.elr .el1
  | .spsrEl1 => cpu.sys.spsr .el1
  | .cntfrqEl0 => cpu.timer.frequency
  | .cntpctEl0 => cpu.timer.counter
  | .cntpCtlEl0 => cpu.timer.ctl
  | .cntpCvalEl0 => cpu.timer.cval
  | .currentEl => BitVec.ofNat 64 cpu.currentEl.toNat <<< 2
  | .idAa64isar1El1 => cpu.sys.idAa64isar1El1
  | .cntvctEl0 => cpu.virtualTimer.counter
  | .cntvCtlEl0 => cpu.virtualTimer.ctl
  | .cntvCvalEl0 => cpu.virtualTimer.cval
  | .cntpTvalEl0 => saturatingSub cpu.timer.cval cpu.timer.counter
  | .hcrEl2 => cpu.sys.hcrEl2
  | .cnthctlEl2 => cpu.sys.cnthctlEl2
  | .vbarEl2 => cpu.sys.vbar .el2
  | .esrEl2 => cpu.sys.esr .el2
  | .farEl2 => cpu.sys.far .el2
  | .elrEl2 => cpu.sys.elr .el2
  | .spsrEl2 => cpu.sys.spsr .el2
  | .scrEl3 => cpu.sys.scrEl3
  | .vbarEl3 => cpu.sys.vbar .el3
  | .esrEl3 => cpu.sys.esr .el3
  | .farEl3 => cpu.sys.far .el3
  | .elrEl3 => cpu.sys.elr .el3
  | .spsrEl3 => cpu.sys.spsr .el3
  | .platformOverride | .idAa64pfr0El1 | .idAa64pfr1El1 | .idAa64pfr2El1 | .idAa64zfr0El1 | .idAa64isar0El1
  | .idAa64isar2El1 | .idAa64isar3El1 | .idAa64mmfr0El1 | .idAa64mmfr1El1 | .idAa64mmfr2El1 => 0#64

def readSysreg (cpu : GuestCpuState) (reg : SystemRegister) : Except SysRegFault U64 :=
  if reg.isScalarId then
    if cpu.plainEl1 then
      .ok (if reg = .idAa64mmfr0El1 then 0x0f100005#64 else if reg = .idAa64pfr0El1 then 0x00ff0011#64 else 0#64)
    else .error .unknown
  else if reg = .platformOverride then
    if cpu.platform.profile = 1#32 ∧ cpu.plainEl1 = true then .ok cpu.platform.overrideValue else .error .unknown
  else if reg = .tpidrEl1 ∧ cpu.currentEl = .el0 then .error .undefined
  else if cpu.currentEl.toNat < reg.minimumEl.toNat then .error .privilege
  else .ok (cpu.fetchSysreg reg)

def syncMmu (cpu : GuestCpuState) : Bool × GuestCpuState :=
  if cpu.sys.tcrEl1 &&& (1#64 <<< 36) ≠ 0#64 ∨ (cpu.sys.ttbr0El1 ||| cpu.sys.ttbr1El1) >>> 56 ≠ 0#64 then
    (false, cpu)
  else if cpu.sys.sctlrEl1 &&& 1#64 = 0#64 then (true, { cpu with mmu := cpu.mmu.disable })
  else
    let selected := if cpu.sys.tcrEl1 &&& (1#64 <<< 22) ≠ 0#64 then cpu.sys.ttbr1El1 else cpu.sys.ttbr0El1
    let asid : BitVec 16 := ((selected >>> 48) &&& 255#64).truncate 16
    let out := cpu.mmu.configureTcr cpu.sys.ttbr0El1 cpu.sys.ttbr1El1 cpu.sys.tcrEl1 asid
    (out.2, { cpu with mmu := out.1 })

def installControl (next : GuestCpuState) (restore : GuestCpuState → GuestCpuState) :
    Except SysRegFault Unit × GuestCpuState :=
  let synced := next.syncMmu
  if synced.1 then (.ok (), synced.2)
  else (.error .invalidValue, (restore synced.2).syncMmu.2)

def storeSysreg (cpu : GuestCpuState) (reg : SystemRegister) (value : U64) :
    Except SysRegFault Unit × GuestCpuState :=
  let done (cpu : GuestCpuState) : Except SysRegFault Unit × GuestCpuState := (.ok (), cpu)
  let sys := cpu.sys
  let bank (banks : ExceptionLevel → U64) (el : ExceptionLevel) (value : U64) := Function.update banks el value
  match reg with
  | .platformOverride => done cpu
  | .tpidrEl0 => done { cpu with sys := { sys with tpidrEl0 := value } }
  | .tpidrroEl0 => done { cpu with sys := { sys with tpidrroEl0 := value } }
  | .tpidrEl1 => done { cpu with sys := { sys with tpidrEl1 := value } }
  | .sctlrEl1 =>
    installControl { cpu with sys := { sys with sctlrEl1 := value } }
      fun next => { next with sys := { next.sys with sctlrEl1 := sys.sctlrEl1 } }
  | .ttbr0El1 =>
    if value &&& 0xfff#64 ≠ 0#64 ∨ value >>> 56 ≠ 0#64 then (.error .invalidValue, cpu)
    else if sys.sctlrEl1 &&& 1#64 ≠ 0#64 then
      installControl { cpu with sys := { sys with ttbr0El1 := value } }
        fun next => { next with sys := { next.sys with ttbr0El1 := sys.ttbr0El1 } }
    else done { cpu with sys := { sys with ttbr0El1 := value } }
  | .ttbr1El1 =>
    if value &&& 0xfff#64 ≠ 0#64 ∨ value >>> 56 ≠ 0#64 then (.error .invalidValue, cpu)
    else if sys.sctlrEl1 &&& 1#64 ≠ 0#64 then
      installControl { cpu with sys := { sys with ttbr1El1 := value } }
        fun next => { next with sys := { next.sys with ttbr1El1 := sys.ttbr1El1 } }
    else done { cpu with sys := { sys with ttbr1El1 := value } }
  | .tcrEl1 =>
    if value &&& ((1#64 <<< 36) ||| (0xf#64 <<< 39)) ≠ 0#64 then (.error .invalidValue, cpu)
    else if sys.sctlrEl1 &&& 1#64 ≠ 0#64 then
      installControl { cpu with sys := { sys with tcrEl1 := value } }
        fun next => { next with sys := { next.sys with tcrEl1 := sys.tcrEl1 } }
    else done { cpu with sys := { sys with tcrEl1 := value } }
  | .mairEl1 => done { cpu with sys := { sys with mairEl1 := value } }
  | .vbarEl1 => done { cpu with sys := { sys with vbar := bank sys.vbar .el1 (value &&& ~~~0x7ff#64) } }
  | .esrEl1 => done { cpu with sys := { sys with esr := bank sys.esr .el1 value } }
  | .farEl1 => done { cpu with sys := { sys with far := bank sys.far .el1 value } }
  | .elrEl1 => done { cpu with sys := { sys with elr := bank sys.elr .el1 value } }
  | .spsrEl1 => done { cpu with sys := { sys with spsr := bank sys.spsr .el1 value } }
  | .cntfrqEl0 | .cntpctEl0 | .currentEl | .idAa64mmfr0El1 | .idAa64isar1El1 | .idAa64zfr0El1 | .idAa64isar0El1
  | .idAa64isar2El1 | .idAa64isar3El1 | .idAa64mmfr1El1 | .idAa64mmfr2El1 | .idAa64pfr0El1 | .idAa64pfr1El1
  | .idAa64pfr2El1 | .cntvctEl0 => (.error .readOnly, cpu)
  | .cntpCtlEl0 =>
    let timer := { cpu.timer with ctl := value &&& 3#64 }
    let timer := if timer.pending then { timer with ctl := timer.ctl ||| 4#64 } else timer
    done { cpu with timer := timer, sys := { sys with cntpCtlEl0 := timer.ctl } }
  | .cntpCvalEl0 =>
    done { cpu with timer := { cpu.timer with cval := value }, sys := { sys with cntpCvalEl0 := value } }
  | .cntvCtlEl0 =>
    let timer := { cpu.virtualTimer with ctl := value &&& 3#64 }
    let timer := if timer.pending then { timer with ctl := timer.ctl ||| 4#64 } else timer
    done { cpu with virtualTimer := timer, sys := { sys with cntvCtlEl0 := timer.ctl } }
  | .cntvCvalEl0 =>
    done { cpu with
      virtualTimer := { cpu.virtualTimer with cval := value }, sys := { sys with cntvCvalEl0 := value } }
  | .cntpTvalEl0 =>
    let cval := cpu.timer.counter + value
    done { cpu with
      timer := { cpu.timer with cval := cval }, sys := { sys with cntpCvalEl0 := cval, cntpTvalEl0 := value } }
  | .hcrEl2 => done { cpu with sys := { sys with hcrEl2 := value } }
  | .cnthctlEl2 => done { cpu with sys := { sys with cnthctlEl2 := value } }
  | .vbarEl2 => done { cpu with sys := { sys with vbar := bank sys.vbar .el2 (value &&& ~~~0x7ff#64) } }
  | .esrEl2 => done { cpu with sys := { sys with esr := bank sys.esr .el2 value } }
  | .farEl2 => done { cpu with sys := { sys with far := bank sys.far .el2 value } }
  | .elrEl2 => done { cpu with sys := { sys with elr := bank sys.elr .el2 value } }
  | .spsrEl2 => done { cpu with sys := { sys with spsr := bank sys.spsr .el2 value } }
  | .scrEl3 => done { cpu with sys := { sys with scrEl3 := value } }
  | .vbarEl3 => done { cpu with sys := { sys with vbar := bank sys.vbar .el3 (value &&& ~~~0x7ff#64) } }
  | .esrEl3 => done { cpu with sys := { sys with esr := bank sys.esr .el3 value } }
  | .farEl3 => done { cpu with sys := { sys with far := bank sys.far .el3 value } }
  | .elrEl3 => done { cpu with sys := { sys with elr := bank sys.elr .el3 value } }
  | .spsrEl3 => done { cpu with sys := { sys with spsr := bank sys.spsr .el3 value } }

def writeSysreg (cpu : GuestCpuState) (reg : SystemRegister) (value : U64) :
    Except SysRegFault Unit × GuestCpuState :=
  if reg = .platformOverride then
    if cpu.platform.profile ≠ 1#32 ∨ cpu.plainEl1 = false then (.error .unknown, cpu)
    else
      match cpu.platform.configure cpu.platform.profile value with
      | some platform => (.ok (), { cpu with platform := platform })
      | none => (.error .invalidValue, cpu)
  else if cpu.currentEl = .el0 ∧ (reg = .tpidrEl1 ∨ reg = .tpidrroEl0) then (.error .undefined, cpu)
  else if cpu.currentEl.toNat < reg.minimumEl.toNat then (.error .privilege, cpu)
  else cpu.storeSysreg reg value

end GuestCpuState

end Nextcore.Preos
