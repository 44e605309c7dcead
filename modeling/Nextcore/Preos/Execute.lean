import Nextcore.Preos.Bus
import Nextcore.Preos.Data
import Nextcore.Preos.Pauth

/-! `execute_one`: one instruction of the reference core, and the run loop around it. -/

namespace Nextcore.Preos

open Mmu

variable {β : Type}

/-- `StepResult`; `resume` is its `Continue`. -/
inductive StepResult
  | resume | halt | wait | exception (kind : ExceptionKind)
  deriving DecidableEq, Repr

def accessSyndrome (access : Access) : U64 := if access = .write then 1#64 <<< 22 else 0#64

namespace GuestCpuState

abbrev Outcome (β : Type) := StepResult × GuestCpuState × β

def advance (cpu : GuestCpuState) : GuestCpuState := { cpu with pc := cpu.pc + 4#64 }

def fault (cpu : GuestCpuState) (s : β) (word : U32) (kind : ExceptionKind) (syndrome far : U64) : Outcome β :=
  (.exception kind, cpu.raise ⟨kind, word, syndrome, far, cpu.pc⟩, s)

def refuse (cpu : GuestCpuState) (s : β) (word : U32) (kind : ExceptionKind) : Outcome β :=
  cpu.fault s word kind (word.zeroExtend 64) cpu.pc

def undefined (cpu : GuestCpuState) (s : β) (word : U32) : Outcome β := cpu.refuse s word .undefinedInstruction

def privileged (cpu : GuestCpuState) (s : β) (word : U32) (body : Outcome β) : Outcome β :=
  if cpu.currentEl = .el0 then cpu.refuse s word .privilegedInstruction else body

/-- The pointer-authentication step in front of the decoder: `none` leaves the word to it. -/
def pauthStep (cpu : GuestCpuState) (word : U32) : Option (Option GuestCpuState) :=
  let syskey := Pauth.syskeyOf word
  if (syskey = 0x4080#32 ∨ syskey = 0x4102#32 ∨ syskey = 0x4031#32) ∧
      word &&& 0xffc00000#32 = 0xd5000000#32 then none
  else
    (Pauth.step ⟨cpu.x, cpu.sp, cpu.pc, cpu.sys.sctlrEl1, cpu.sys.tcrEl1, cpu.pauth,
        BitVec.ofNat 32 cpu.currentEl.toNat, 0#32⟩ word).map fun
      | .ok context =>
        if cpu.sys.hcrEl2 = 0#64 ∧ cpu.sys.scrEl3 = 0#64 then
          some { cpu with x := context.x, sp := context.sp, pc := context.pc, pauth := context.keys }
        else none
      | .error _ => none

def daifStep (cpu : GuestCpuState) (word : U32) : GuestCpuState :=
  let mask := ((word >>> 8) &&& 0xf#32) <<< 6
  { cpu with pstate := if word &&& 0xff#32 = 0xdf#32 then cpu.pstate ||| mask else cpu.pstate &&& ~~~mask }

def spselStep (cpu : GuestCpuState) (word : U32) : GuestCpuState :=
  let saved := cpu.saveSp
  let next :=
    { saved with pstate := if bitSet word 8 then saved.pstate ||| 1#32 else saved.pstate &&& ~~~1#32 }
  { next with sp := next.spEl next.activeSpIndex }

-- NOP to SVC, in the order of `execute_one`; `none` is another word
def systemStep (cpu : GuestCpuState) (s : β) (word : U32) : Option (Outcome β) :=
  if word = 0xd503201f#32 then some (.resume, cpu.advance, s)
  else if word &&& 0xffe0001f#32 = 0xd4400000#32 then
    some (if (word >>> 5) &&& 0xffff#32 = 0#32 then (.halt, cpu.advance, s) else cpu.undefined s word)
  else if word = 0xd503207f#32 ∨ word = 0xd503205f#32 then
    some (cpu.privileged s word (.wait, { cpu.advance with waiting := true }, s))
  else if word &&& 0xfffff0ff#32 = 0xd50340df#32 ∨ word &&& 0xfffff0ff#32 = 0xd50340ff#32 then
    some (cpu.privileged s word (.resume, (cpu.daifStep word).advance, s))
  else if word &&& ~~~0x100#32 = 0xd50040bf#32 then
    some (cpu.privileged s word (.resume, (cpu.spselStep word).advance, s))
  else if word = 0xd508871f#32 ∨ word &&& 0xfffffc1f#32 = 0xd5088740#32 then
    some (cpu.privileged s word (.resume, { cpu.advance with mmu := cpu.mmu.invalidate }, s))
  else if word = 0xd69f03e0#32 then
    some (match cpu.eret with
      | .ok next => (.resume, next, s)
      | .error kind => cpu.refuse s word kind)
  else if word &&& 0xffe0001f#32 = 0xd4000001#32 then
    some (cpu.fault s word .supervisorCall (word.zeroExtend 64) 0#64)
  else none

def isExclusiveLoad (word : U32) : Bool := word &&& 0x3fc07c00#32 = 0x08407c00#32

def isExclusiveStore (word : U32) : Bool := word &&& 0x3fc07c00#32 = 0x08007c00#32

def exclusiveSize (word : U32) : ℕ := if isWide word then 8 else 4

def exclusiveAccess (word : U32) : Access := if isExclusiveLoad word then .read else .write

def exclusiveLoad (cpu : GuestCpuState) (bus : GuestBus β) (s : β) (word : U32) (address physical : U64) :
    Outcome β :=
  match bus.read s physical (exclusiveSize word) .read with
  | .error kind => cpu.fault s word kind (accessSyndrome .read) address
  | .ok value =>
    let next := cpu.writeReg (rdField word) value false (isWide word)
    (.resume, { next.advance with
      exclusive := next.exclusive.reserve physical (exclusiveSize word) next.affinity }, s)

def exclusiveStatus (cpu : GuestCpuState) (word : U32) (status : U64) : GuestCpuState :=
  (({ cpu with exclusive := { cpu.exclusive with valid := false } } : GuestCpuState).writeReg (rmField word) status
    false false).advance

def exclusiveStore (cpu : GuestCpuState) (bus : GuestBus β) (s : β) (word : U32) (address physical : U64) :
    Outcome β :=
  let value := cpu.readReg (rdField word) false
  if cpu.exclusive.succeeds physical (exclusiveSize word) cpu.affinity then
    match bus.write s physical (exclusiveSize word) value .write with
    | .error kind => cpu.fault s word kind (accessSyndrome .write) address
    | .ok s => (.resume, cpu.exclusiveStatus word 0#64, s)
  else (.resume, cpu.exclusiveStatus word 1#64, s)

-- LDXR, LDAXR, STXR and STLXR; `none` is another word
def exclusiveStep (cpu : GuestCpuState) (bus : GuestBus β) (s : β) (word : U32) : Option (Outcome β) :=
  if isExclusiveLoad word || isExclusiveStore word then
    let address := cpu.readReg (rnField word) true
    let access := exclusiveAccess word
    some (
      if address &&& (BitVec.ofNat 64 (exclusiveSize word) - 1#64) ≠ 0#64 then
        cpu.fault s word .alignmentFault (accessSyndrome access) address
      else
        let translated := cpu.mmuAddress bus s address (exclusiveSize word) access
        match translated.1 with
        | .error kind => translated.2.fault s word kind (accessSyndrome access) address
        | .ok physical =>
          if isExclusiveLoad word then translated.2.exclusiveLoad bus s word address physical
          else translated.2.exclusiveStore bus s word address physical)
  else none

def sysregKind : SysRegFault → ExceptionKind
  | .undefined => .undefinedInstruction
  | .privilege => .privilegedInstruction
  | _ => .systemRegisterTrap

def sysregStep (cpu : GuestCpuState) (s : β) (word : U32) : Outcome β :=
  -- FP is absent: FPCR and FPSR are undefined before any trap control
  if Pauth.syskeyOf word = 0x5a20#32 ∨ Pauth.syskeyOf word = 0x5a21#32 then cpu.undefined s word
  else
    match SystemRegister.fromInstruction word with
    | none => cpu.refuse s word .systemRegisterTrap
    | some reg =>
      if Pauth.isMrs word then
        match cpu.readSysreg reg with
        | .ok value => (.resume, (cpu.writeReg (rdField word) value false true).advance, s)
        | .error fault => cpu.refuse s word (sysregKind fault)
      else
        let out := cpu.writeSysreg reg (cpu.readReg (rdField word) false)
        match out.1 with
        | .ok () => (.resume, out.2.advance, s)
        | .error fault => out.2.refuse s word (sysregKind fault)

-- the barriers, CLREX, MRS and MSR; `none` is another word
def controlStep (cpu : GuestCpuState) (s : β) (word : U32) : Option (Outcome β) :=
  if word &&& 0xfffff0ff#32 = 0xd50330bf#32 ∨ word &&& 0xfffff0ff#32 = 0xd503309f#32 ∨
      word &&& 0xfffff0ff#32 = 0xd50330df#32 then some (.resume, cpu.advance, s)
  else if word &&& 0xfffff0ff#32 = 0xd503305f#32 then
    some (.resume, { cpu.advance with exclusive := { cpu.exclusive with valid := false } }, s)
  else if Pauth.isMrs word || Pauth.isMsr word then some (cpu.sysregStep s word)
  else none

def endianBit (cpu : GuestCpuState) : U64 := 1#64 <<< (if cpu.currentEl = .el0 then 24 else 25)

def spMisaligned (cpu : GuestCpuState) (base : U32) : Bool :=
  let sa := if cpu.currentEl = .el0 then 16#64 else 8#64
  base = 31#32 ∧ cpu.sys.sctlrEl1 &&& sa ≠ 0#64 ∧ cpu.sp &&& 15#64 ≠ 0#64

def isRegisterOffset (word : U32) : Bool := word &&& 0x3b200c00#32 = 0x38200800#32

def isWriteback (word : U32) : Bool := word &&& 0x3b200400#32 = 0x38000400#32

def sizeCode (word : U32) : U32 := word >>> 30

def scalarOpc (word : U32) : U32 := (word >>> 22) &&& 3#32

def scalarUndefined (word : U32) : Bool :=
  (isWriteback word = true ∧ rnField word ≠ 31#32 ∧ rnField word = rdField word) ∨
    (isRegisterOffset word = true ∧ (word >>> 13) &&& 7#32 &&& 2#32 = 0#32) ∨ word &&& (1#32 <<< 26) ≠ 0#32 ∨
    (2#32 ≤ scalarOpc word ∧ (sizeCode word = 3#32 ∨ (scalarOpc word = 3#32 ∧ sizeCode word = 2#32)))

def scalarUnsupported (cpu : GuestCpuState) : Bool :=
  1 < cpu.currentEl.toNat ∨ cpu.sys.hcrEl2 ≠ 0#64 ∨ cpu.sys.scrEl3 ≠ 0#64 ∨
    cpu.sys.sctlrEl1 &&& cpu.endianBit ≠ 0#64 ∨ (cpu.sys.sctlrEl1 &&& 1#64 ≠ 0#64 ∧ cpu.mmu.enabled = false)

def scalarOffset (cpu : GuestCpuState) (word : U32) : U64 :=
  if isRegisterOffset word then
    let option := (word >>> 13) &&& 7#32
    let raw := cpu.readReg (rmField word) false
    let extended :=
      if option = 2#32 then lowWord raw
      else if option = 6#32 then (raw.truncate 32 : U32).signExtend 64 else raw
    extended <<< (if bitSet word 12 then (sizeCode word).toNat else 0)
  else if word &&& 0x3b200c00#32 = 0x38000000#32 ∨ isWriteback word = true then
    ((((word >>> 12) &&& 511#32).zeroExtend 64 : U64) <<< 55).sshiftRight 55
  else (((word >>> 10) &&& 4095#32).zeroExtend 64 : U64) <<< (sizeCode word).toNat

abbrev Transfer (β : Type) := Except (ExceptionKind × U64) Unit × GuestCpuState × β

def scalarWriteback (cpu : GuestCpuState) (word : U32) (updated : U64) : GuestCpuState :=
  (if isWriteback word then cpu.writeReg (rnField word) updated true true else cpu).advance

def scalarAccess (cpu : GuestCpuState) (bus : GuestBus β) (s : β) (word : U32) (address physical updated : U64) :
    Transfer β :=
  let size := 2 ^ (sizeCode word).toNat
  let rt := rdField word
  if scalarOpc word = 0#32 then
    let mask := if size = 8 then BitVec.allOnes 64 else (1#64 <<< (size * 8)) - 1#64
    match bus.write s physical size (cpu.readReg rt false &&& mask) .write with
    | .error kind => (.error (kind, address), cpu, s)
    | .ok s =>
      (.ok (), { cpu with exclusive := cpu.exclusive.clearOnStore physical size }.scalarWriteback word updated, s)
  else
    match bus.read s physical size .read with
    | .error kind => (.error (kind, address), cpu, s)
    | .ok value =>
      let value := if 2#32 ≤ scalarOpc word then signExtend value (size * 8) else value
      (.ok (), (cpu.writeReg rt value false (scalarOpc word = 2#32 ∨ size = 8)).scalarWriteback word updated, s)

def scalarMemory (cpu : GuestCpuState) (bus : GuestBus β) (s : β) (word : U32) : Transfer β :=
  if scalarUndefined word then (.error (.undefinedInstruction, cpu.pc), cpu, s)
  else if cpu.scalarUnsupported then (.error (.systemRegisterTrap, cpu.pc), cpu, s)
  else
    let base := cpu.readReg (rnField word) true
    let size := 2 ^ (sizeCode word).toNat
    if cpu.spMisaligned (rnField word) then (.error (.spAlignmentFault, base), cpu, s)
    else
      let updated := base + cpu.scalarOffset word
      let address := if isWriteback word = true ∧ bitSet word 11 = false then base else updated
      if address &&& (BitVec.ofNat 64 size - 1#64) ≠ 0#64 then
        (.error (if cpu.mmu.enabled = false ∨ cpu.sys.sctlrEl1 &&& 2#64 ≠ 0#64 then .alignmentFault
          else .systemRegisterTrap, address), cpu, s)
      else
        let access : Access := if scalarOpc word = 0#32 then .write else .read
        let translated := cpu.mmuAddress bus s address size access
        match translated.1 with
        | .error kind => (.error (kind, address), translated.2, s)
        | .ok physical => translated.2.scalarAccess bus s word address physical updated

def pairMode (word : U32) : U32 := (word >>> 23) &&& 3#32

def isPairLoad (word : U32) : Bool := bitSet word 22

def rt2Field (word : U32) : U32 := (word >>> 10) &&& 31#32

def pairUndefined (word : U32) : Bool :=
  word &&& (1#32 <<< 26) ≠ 0#32 ∨ ¬(sizeCode word = 0#32 ∨ sizeCode word = 2#32) ∨ pairMode word = 0#32 ∨
    (pairMode word ≠ 2#32 ∧ rnField word ≠ 31#32 ∧
      (rnField word = rdField word ∨ rnField word = rt2Field word)) ∨
    (isPairLoad word = true ∧ rdField word = rt2Field word)

def pairUnsupported (cpu : GuestCpuState) : Bool :=
  1 < cpu.currentEl.toNat ∨ cpu.mmu.enabled = true ∨ cpu.sys.sctlrEl1 &&& (1#64 ||| cpu.endianBit) ≠ 0#64 ∨
    cpu.sys.hcrEl2 ≠ 0#64 ∨ cpu.sys.scrEl3 ≠ 0#64

def pairSize (word : U32) : ℕ := if sizeCode word = 2#32 then 8 else 4

def pairOffset (word : U32) : U64 :=
  signExtend (((word >>> 15) &&& 127#32).zeroExtend 64) 7 * BitVec.ofNat 64 (pairSize word)

def pairIndex (ram : List Byte) (base address : U64) (size element : ℕ) : Except (ExceptionKind × U64) ℕ :=
  let offset := BitVec.ofNat 64 (element * size)
  if address.uaddOverflow offset then .error (.dataAbort, address + BitVec.ofNat 64 size)
  else if address + offset < base ∨ ram.length < size ∨ ram.length - size < (address + offset - base).toNat then
    .error (.dataAbort, address + offset)
  else .ok (address + offset - base).toNat

def pairWriteback (cpu : GuestCpuState) (word : U32) (updated : U64) : GuestCpuState :=
  (if pairMode word ≠ 2#32 then cpu.writeReg (rnField word) updated true true else cpu).advance

def pairTransfer (cpu : GuestCpuState) (bus : GuestBus β) (s : β) (word : U32) (ram : List Byte)
    (address updated : U64) (first second : ℕ) : GuestCpuState × β :=
  let size := pairSize word
  if isPairLoad word then
    let next := cpu.writeReg (rdField word) (Bytes.loadLe ram first size) false (size = 8)
    let next := next.writeReg (rt2Field word) (Bytes.loadLe ram second size) false (size = 8)
    (next.pairWriteback word updated, s)
  else
    let stored := Bytes.storeLe ram first size (cpu.readReg (rdField word) false)
    let stored := Bytes.storeLe stored second size (cpu.readReg (rt2Field word) false)
    let monitor := (cpu.exclusive.clearOnStore address size).clearOnStore (address + BitVec.ofNat 64 size) size
    ({ cpu with exclusive := monitor }.pairWriteback word updated, bus.setPairRam s stored)

def pairMemory (cpu : GuestCpuState) (bus : GuestBus β) (s : β) (word : U32) : Transfer β :=
  if pairUndefined word then (.error (.undefinedInstruction, cpu.pc), cpu, s)
  else if cpu.pairUnsupported then (.error (.systemRegisterTrap, cpu.pc), cpu, s)
  else
    let rawBase := cpu.readReg (rnField word) true
    let size := pairSize word
    if cpu.spMisaligned (rnField word) then (.error (.spAlignmentFault, rawBase), cpu, s)
    else
      let updated := rawBase + pairOffset word
      let address := if pairMode word = 1#32 then rawBase else updated
      if address &&& (BitVec.ofNat 64 size - 1#64) ≠ 0#64 then (.error (.alignmentFault, address), cpu, s)
      else
        match bus.pairRam s with
        | none => (.error (.systemRegisterTrap, cpu.pc), cpu, s)
        | some (ram, base) =>
          match pairIndex ram base address size 0, pairIndex ram base address size 1 with
          | .error e, _ => (.error e, cpu, s)
          | .ok _, .error e => (.error e, cpu, s)
          | .ok first, .ok second =>
            let out := cpu.pairTransfer bus s word ram address updated first second
            (.ok (), out)

def transferSyndrome (cpu : GuestCpuState) (word : U32) (kind : ExceptionKind) (encoded store : Bool) : U64 :=
  if kind = .spAlignmentFault then (0x26#64 <<< 26) ||| (1#64 <<< 25)
  else if encoded then
    let fsc := if kind = .permissionFault then 0x0d#64 else if kind = .alignmentFault then 0x21#64 else 0x07#64
    ((expectedEc kind cpu.currentEl).getD 0#64 <<< 26) ||| (1#64 <<< 25) ||| fsc |||
      (if store then 1#64 <<< 6 else 0#64)
  else word.zeroExtend 64

-- the loads and stores of `execute_one`; `none` is another word
def memoryStep (cpu : GuestCpuState) (bus : GuestBus β) (s : β) (word : U32) : Option (Outcome β) :=
  let finish (out : Transfer β) (encoded : ExceptionKind → Bool) (store : Bool) : Outcome β :=
    match out.1 with
    | .ok () => (.resume, out.2)
    | .error (kind, far) =>
      out.2.1.fault out.2.2 word kind (out.2.1.transferSyndrome word kind (encoded kind) store) far
  if word &&& 0x3a000000#32 = 0x28000000#32 then
    some (finish (cpu.pairMemory bus s word) (fun kind => kind = .dataAbort ∨ kind = .alignmentFault)
      (!bitSet word 22))
  else if word &&& 0x3b000000#32 = 0x39000000#32 ∨ word &&& 0x3b200c00#32 = 0x38200800#32 ∨
      word &&& 0x3b200c00#32 = 0x38000000#32 ∨ word &&& 0x3b200400#32 = 0x38000400#32 then
    some (finish (cpu.scalarMemory bus s word) (fun kind => kind = .dataAbort ∨ kind = .translationFault ∨
      kind = .permissionFault ∨ kind = .alignmentFault) (scalarOpc word = 0#32))
  else none

def settle (cpu : GuestCpuState) (s : β) (word : U32) : Option GuestCpuState → Outcome β
  | some next => (.resume, next, s)
  | none => cpu.undefined s word

/-- `execute_one` behind the fetch. -/
def executeWord (cpu : GuestCpuState) (bus : GuestBus β) (s : β) (word : U32) : Outcome β :=
  match cpu.pauthStep word with
  | some out => cpu.settle s word out
  | none =>
  match cpu.systemStep s word with
  | some out => out
  | none =>
  match cpu.exclusiveStep bus s word with
  | some out => out
  | none =>
  match cpu.controlStep s word with
  | some out => out
  | none =>
  match cpu.dataStep word with
  | some out => cpu.settle s word (out.map advance)
  | none =>
  match cpu.memoryStep bus s word with
  | some out => out
  | none =>
  match cpu.branchStep word with
  | some out => cpu.settle s word out
  | none => cpu.undefined s word

def executeOne (cpu : GuestCpuState) (bus : GuestBus β) (s : β) : Outcome β :=
  let fetched := cpu.fetch32 bus s
  match fetched.1 with
  | .ok word => fetched.2.executeWord bus s word
  | .error kind => (.exception kind, fetched.2.raise ⟨kind, 0#32, 0#64, cpu.pc, cpu.pc⟩, s)

end GuestCpuState

end Nextcore.Preos
