import Nextcore.Abi.MemoryV2
import Nextcore.Cpu.Arch
import Nextcore.Jit.Shape

/-! `memory_stage1.inc`: the request, the reply validator and the data step of
the version 2 and version 3 provider runs. -/

namespace Nextcore.Provider

open Abi Abi.V2 Cpu Jit

namespace ProviderStatus

abbrev ok : U32 := 0#32
abbrev unsupported : U32 := 1#32
abbrev invalidRequest : U32 := 2#32
abbrev invalidReply : U32 := 3#32
abbrev callbackFailure : U32 := 4#32
abbrev unavailable : U32 := 5#32

end ProviderStatus

structure RunResultV1 where
  providerStatus : U32
  lastAddress : U64
  fetchRequests : U64
  dataRequests : U64
  completedDataOperations : U64
  deriving DecidableEq, Repr

structure RunResultV2 where
  base : RunResultV1
  lastReply : Reply
  deriving DecidableEq, Repr

abbrev Callback (σ : Type) := σ → Request → σ × U32 × Reply

def v2Error (result : RunResultV2) (reason : U32) : U32 × RunResultV2 :=
  (Status.dataFault, { result with base := { result.base with providerStatus := reason } })

def memoryControlsValidV2 (c : Controls) : Bool :=
  let mask := 0x3f#64 ||| (1#64 <<< 7) ||| (3#64 <<< 14) ||| (0x3f#64 <<< 16) |||
    (1#64 <<< 22) ||| (1#64 <<< 23) ||| (3#64 <<< 30) ||| (7#64 <<< 32)
  let sctlr : Option U64 :=
    if c.profile = profileFixedNc then some 0x30d00803#64
    else if c.profile = profileFixedNcUnaligned then some 0x30d00801#64 else none
  match sctlr with
  | none => false
  | some sctlr =>
    if c.abiVersion ≠ 2#32 ∨ c.structSize ≠ 80#32 ∨ c.reserved ≠ 0#32 ∨ c.epoch ≠ 1#64 ∨
        c.mair ≠ 0x44#64 ∨ c.hcr ≠ 0#64 ∨ c.scr ≠ 0#64 ∨ c.sctlr &&& ~~~0x18#64 ≠ sctlr ∨
        c.tcr &&& ~~~mask ≠ 0#64 ∨ 5#64 < (c.tcr >>> 32) &&& 7#64 then false else
    let tg0 := (c.tcr >>> 14) &&& 3#64
    let tg1 := (c.tcr >>> 30) &&& 3#64
    let t0 := c.tcr &&& 63#64
    let t1 := (c.tcr >>> 16) &&& 63#64
    let bounds : Option (U64 × U64 × U64) :=
      if tg0 = 0#64 ∧ tg1 = 2#64 then some (16#64, 39#64, 0x1000#64)
      else if tg0 = 2#64 ∧ tg1 = 1#64 then some (17#64, 47#64, 0x4000#64) else none
    match bounds with
    | none => false
    | some (min, max, alignment) =>
      if t0 < min ∨ max < t0 ∨ t1 < min ∨ max < t1 then false else
      let allowed := (0x0000ffffffffffff#64 &&& ~~~(alignment - 1#64)) ||| 0x00ff000000000000#64
      c.ttbr0 &&& ~~~allowed = 0#64 ∧ c.ttbr1 &&& ~~~allowed = 0#64

def dynamicControlsValid (c : Controls) : Bool :=
  if c.abiVersion ≠ 3#32 ∨ c.structSize ≠ 80#32 ∨ c.profile ≠ 2#32 ∨ c.reserved ≠ 0#32 ∨
      c.epoch = 0#64 then false else
  if (c.ttbr0 ||| c.ttbr1) >>> 48 ≠ 0#64 ∨ c.tcr &&& ((1#64 <<< 22) ||| (1#64 <<< 36)) ≠ 0#64 then
    false else
  memoryControlsValidV2
    { c with abiVersion := 2#32, profile := 1#32, epoch := 1#64, sctlr := c.sctlr ||| 1#64 }

def v2ControlsMatch (cpu : VfCpu) (c : Controls) : Bool :=
  cpu.sctlr = c.sctlr ∧ cpu.ttbr0 = c.ttbr0 ∧ cpu.ttbr1 = c.ttbr1 ∧ cpu.tcr = c.tcr ∧
    cpu.mair = c.mair ∧ cpu.hcrEl2 = c.hcr ∧ cpu.scrEl3 = c.scr ∧ cpu.currentEl ≤ 1#32 ∧
    cpu.pstate &&& ~~~0xf00003cf#64 = 0#64

def v2ProvenanceValid (r : Reply) : Bool :=
  if r.metadataFlags &&& ~~~3#32 ≠ 0#32 ∨
      (r.metadataFlags &&& 1#32 = 0#32 ∧ r.descriptorPa ≠ 0#64) ∨
      (r.metadataFlags &&& 2#32 = 0#32 ∧ r.outputPa ≠ 0#64) ∨
      (r.metadataFlags &&& 1#32 ≠ 0#32 ∧
        (r.descriptorPa &&& 7#64 ≠ 0#64 ∨ r.descriptorPa >>> 48 ≠ 0#64)) ∨
      (r.metadataFlags &&& 2#32 ≠ 0#32 ∧ r.outputPa >>> 48 ≠ 0#64) ∨ 4#32 < r.context then false
  else if r.context = 0#32 then r.level = noLevel ∧ r.metadataFlags &&& 1#32 = 0#32
  else if r.context = input then
    r.metadataFlags &&& 1#32 = 0#32 ∧ (r.level = 0#32 ∨ r.level = noLevel)
  else r.level ≤ 3#32 ∧ r.metadataFlags &&& 1#32 ≠ 0#32

def v2AlignmentRequired (q : Request) : Bool :=
  q.address &&& (q.width - 1#32).zeroExtend 64 ≠ 0#64 ∧
    (q.operation = opFetch ∨ q.controls.sctlr &&& 2#64 ≠ 0#64)

def faultStatus (fault level : U32) : U32 :=
  if fault = addressSize then level
  else if fault = translation then 4#32 + level
  else if fault = permission then 12#32 + level
  else 8#32 + level

def physicalBitsTable : List ℕ := [32, 36, 40, 42, 44, 48]

def physicalBitsIndex (c : Controls) : ℕ := ((c.tcr >>> 32) &&& 7#64).toNat

def physicalMask (c : Controls) : U64 :=
  (1#64 <<< physicalBitsTable.getD (physicalBitsIndex c) 0) - 1#64

def sixteen (c : Controls) : Bool := (c.tcr >>> 14) &&& 3#64 = 2#64

def startLevel (c : Controls) (address : U64) : U32 :=
  let tsz : U32 := (if address >>> 63 ≠ 0#64 then (c.tcr >>> 16) &&& 63#64 else c.tcr &&& 63#64).truncate 32
  let page := if sixteen c then 14#32 else 12#32
  let bits := if sixteen c then 11#32 else 9#32
  4#32 - (64#32 - tsz - page + bits - 1#32) / bits

def walkFaultValid (q : Request) (r : Reply) : Bool :=
  let mask := physicalMask q.controls
  if r.level < startLevel q.controls r.address then false
  else if r.context = walk then
    if r.fault = translation then ¬(r.metadataFlags ≠ 1#32 ∨ mask - 7#64 < r.descriptorPa)
    else if r.fault = addressSize then
      ¬(r.metadataFlags &&& 1#32 = 0#32 ∨ (r.descriptorPa ≤ mask - 7#64 ∧
        (r.metadataFlags &&& 2#32 = 0#32 ∨ r.outputPa &&& ~~~mask = 0#64)))
    else false
  else if r.level < (if sixteen q.controls then 2#32 else 1#32) ∨ r.metadataFlags ≠ 3#32 ∨
      mask - 7#64 < r.descriptorPa then false
  else if r.context = cachedLeaf ∧ r.fault ≠ permission then false
  else if r.context ≠ cachedLeaf ∧ (r.context ≠ leaf ∨
      (r.fault ≠ permission ∧ r.fault ≠ accessFlag ∧ r.fault ≠ addressSize)) then false
  else if r.outputPa &&& ~~~mask ≠ 0#64 then r.fault = addressSize
  else r.fault ≠ addressSize

def inputFaultValid (q : Request) (r : Reply) : Bool :=
  if r.level ≠ 0#32 then false
  else if r.fault = translation then r.metadataFlags = 0#32
  else if r.fault = addressSize then
    ¬(r.metadataFlags ≠ 2#32 ∨ r.outputPa &&& ~~~physicalMask q.controls = 0#64)
  else false

def contextValid (q : Request) (r : Reply) : Bool :=
  if r.context = input then inputFaultValid q r else walkFaultValid q r

def alignmentFaultOf (q : Request) : U32 := if q.operation = opFetch then pcAlignment else dataAlignment

def abortClass (q : Request) : U32 := if q.operation = opFetch then 0x20#32 else 0x24#32

def v2FaultValid (q : Request) (r : Reply) : Option U64 :=
  if v2AlignmentRequired q = true ∧ r.fault ≠ alignmentFaultOf q then none
  else if r.fault = pcAlignment ∨ r.fault = dataAlignment then
    if r.address ≠ q.address ∨ r.level ≠ noLevel ∨ r.context ≠ input ∨ r.metadataFlags ≠ 0#32 then none
    else if r.fault = pcAlignment then
      if q.operation ≠ opFetch ∨ q.pc &&& 3#64 = 0#64 ∨ r.fsc ≠ 0#32 then none else some 0x8a000000#64
    else if q.operation = opFetch ∨ v2AlignmentRequired q = false ∨ r.fsc ≠ 0x21#32 then none
    else some (((0x24#64 + q.currentEl.zeroExtend 64) <<< 26) ||| (1#64 <<< 25) ||| 0x21#64 |||
      (if q.operation = opStore then 64#64 else 0#64))
  else if 3#32 < r.level ∨ r.fault < addressSize ∨ accessFlag < r.fault ∨
      ((q.operation = opFetch ∨ q.controls.sctlr &&& 2#64 ≠ 0#64) ∧
        (r.address - q.address) % q.width.zeroExtend 64 ≠ 0#64) then none
  else if faultStatus r.fault r.level ≠ r.fsc ∨ r.context = 0#32 then none
  else if contextValid q r = false then none
  else some (((abortClass q + q.currentEl).zeroExtend 64 <<< 26) ||| (1#64 <<< 25) |||
    (faultStatus r.fault r.level).zeroExtend 64 ||| (if q.operation = opStore then 64#64 else 0#64))

def wrapping (q : Request) : Bool :=
  BitVec.allOnes 64 - (q.width * q.count - 1#32).zeroExtend 64 < q.address

def physicalDynamic (q : Request) (version : U32) : Bool :=
  version = 3#32 ∧ q.controls.sctlr &&& 1#64 = 0#64

def exchangeStart (result : RunResultV2) (q : Request) (version : U32) : RunResultV2 :=
  { lastReply :=
      { abiVersion := version, structSize := 128#32, level := noLevel, epoch := q.controls.epoch }
    base :=
      { result.base with
        lastAddress := q.address
        fetchRequests := if q.operation = opFetch then result.base.fetchRequests + 1#64
          else result.base.fetchRequests
        dataRequests := if q.operation = opFetch then result.base.dataRequests
          else result.base.dataRequests + 1#64 } }

def headerInvalid (q : Request) (r : Reply) (version : U32) : Bool :=
  r.abiVersion ≠ version ∨ r.structSize ≠ 128#32 ∨ r.epoch ≠ q.controls.epoch ∨ 4#32 < r.result ∨
    r.reserved ≠ Vector.replicate 5 0#64 ∨ v2ProvenanceValid r = false

def okInvalid (q : Request) (r : Reply) (version : U32) : Bool :=
  let mask := elementMask q.width
  let bytes := (q.width * q.count).zeroExtend 64
  wrapping q = true ∨
    (physicalDynamic q version = true ∧
      ((1#64 <<< 48) ≤ q.address ∨ (1#64 <<< 48) - q.address < bytes)) ∨
    v2AlignmentRequired q = true ∨ r.fault ≠ 0#32 ∨ r.fsc ≠ 0#32 ∨ r.esr ≠ 0#64 ∨ r.address ≠ 0#64 ∨
    r.context ≠ 0#32 ∨ r.level ≠ noLevel ∨ r.metadataFlags ≠ 0#32 ∨ r.value0 &&& ~~~mask ≠ 0#64 ∨
    r.value1 &&& ~~~mask ≠ 0#64 ∨ (q.count = 1#32 ∧ r.value1 ≠ 0#64) ∨
    (q.operation = opStore ∧ (r.value0 ≠ 0#64 ∨ r.value1 ≠ 0#64))

def refusalInvalid (q : Request) (r : Reply) (version : U32) : Bool :=
  r.fault ≠ 0#32 ∨ r.fsc ≠ 0#32 ∨ r.esr ≠ 0#64 ∨
    (physicalDynamic q version = true ∧
      (r.context ≠ 0#32 ∨ r.level ≠ noLevel ∨
        (if r.result = unsupported then r.metadataFlags ≠ 0#32
          else r.metadataFlags ≠ 2#32 ∨ r.outputPa ≠ r.address)))

def faultKind (q : Request) (r : Reply) : U32 :=
  if q.operation = opFetch then Exception.instructionAbort
  else if r.fault = dataAlignment then Exception.alignmentFault else Exception.dataAbort

def faultStatusCode (q : Request) (r : Reply) : U32 :=
  if q.operation = opFetch then Status.instructionAbort
  else if r.fault = dataAlignment then Status.alignmentFault else Status.dataAbort

def commitFault (cpu : VfCpu) (q : Request) (r : Reply) (result : RunResultV2) :
    U32 × VfCpu × RunResultV2 :=
  let invalid := v2Error result ProviderStatus.invalidReply
  match v2FaultValid q r with
  | none => (invalid.1, cpu, invalid.2)
  | some esr =>
    if r.esr ≠ esr then (invalid.1, cpu, invalid.2) else
    match cpu.raiseException (faultKind q r) cpu.pc r.address (esr.truncate 32)
        (if q.operation = opFetch then 0#32 else cpu.instruction) with
    | none => (invalid.1, cpu, invalid.2)
    | some cpu =>
      (faultStatusCode q r, cpu,
        { lastReply := r, base := { result.base with lastAddress := r.address } })

def judgeReply (cpu : VfCpu) (q : Request) (code : U32) (r : Reply) (result : RunResultV2)
    (version : U32) : U32 × VfCpu × RunResultV2 :=
  let error (reason : U32) (result : RunResultV2) :=
    let e := v2Error result reason
    (e.1, cpu, e.2)
  let bytes := (q.width * q.count).zeroExtend 64
  if code ≠ 0#32 then error ProviderStatus.callbackFailure result
  else if headerInvalid q r version = true then error ProviderStatus.invalidReply result
  else if r.result = ok then
    if okInvalid q r version = true then error ProviderStatus.invalidReply result
    else (Status.next, cpu, { result with lastReply := r })
  else if r.value0 ≠ 0#64 ∨ r.value1 ≠ 0#64 then error ProviderStatus.invalidReply result
  else if r.result = invalidRequest then
    if r.fault ≠ 0#32 ∨ r.fsc ≠ 0#32 ∨ r.esr ≠ 0#64 ∨ r.address ≠ 0#64 ∨ r.context ≠ 0#32 ∨
        r.level ≠ noLevel ∨ r.metadataFlags ≠ 0#32 then error ProviderStatus.invalidReply result
    else error ProviderStatus.invalidRequest { result with lastReply := r }
  else if r.address < q.address ∨ bytes ≤ r.address - q.address then
    error ProviderStatus.invalidReply result
  else if r.result = unsupported ∨ r.result = unavailable then
    if refusalInvalid q r version = true then error ProviderStatus.invalidReply result
    else error (if r.result = unavailable then ProviderStatus.unavailable else ProviderStatus.unsupported)
      { lastReply := r, base := { result.base with lastAddress := r.address } }
  else if wrapping q = true ∧ v2AlignmentRequired q = false then error ProviderStatus.invalidReply result
  else if physicalDynamic q version = true ∧ r.fault ≠ pcAlignment ∧ r.fault ≠ dataAlignment then
    error ProviderStatus.invalidReply result
  else commitFault cpu q r result

structure Exchanged (σ : Type) where
  status : U32
  cpu : VfCpu
  owner : σ
  reply : Reply
  result : RunResultV2

def memoryExchangeVersion {σ : Type} (cpu : VfCpu) (callback : Callback σ) (owner : σ) (q : Request)
    (result : RunResultV2) (version : U32) : Exchanged σ :=
  let (owner, code, reply) := callback owner q
  let (status, cpu, result) := judgeReply cpu q code reply (exchangeStart result q version) version
  ⟨status, cpu, owner, reply, result⟩

def memoryRequestV2 (cpu : VfCpu) (controls : Controls) (op width count : U32) (address : U64) :
    Request :=
  { abiVersion := 2#32, structSize := 160#32, operation := op, flags := 0#32, width := width,
    count := count, currentEl := cpu.currentEl, reserved0 := 0#32, pc := cpu.pc, address := address,
    value0 := 0#64, value1 := 0#64, pstate := cpu.pstate, reserved1 := 0#64,
    controls :=
      { controls with
        sctlr := cpu.sctlr, ttbr0 := cpu.ttbr0, ttbr1 := cpu.ttbr1, tcr := cpu.tcr, mair := cpu.mair,
        hcr := cpu.hcrEl2, scr := cpu.scrEl3 } }

def versionRequest (cpu : VfCpu) (controls : Controls) (version op width count : U32)
    (address : U64) : Request :=
  let q := memoryRequestV2 cpu controls op width count address
  if version = 3#32 then { q with abiVersion := 3#32, controls := controls } else q

def spMisaligned (cpu : VfCpu) (shape : MemoryShape) : Bool :=
  shape.rn = 31#32 ∧ cpu.sctlr &&& (if cpu.currentEl = 0#32 then 16#64 else 8#64) ≠ 0#64 ∧
    cpu.sp &&& 15#64 ≠ 0#64

def dataUpdated (cpu : VfCpu) (shape : MemoryShape) : U64 :=
  memoryRegister cpu shape.rn true + memoryOffset cpu shape

def dataAddress (cpu : VfCpu) (shape : MemoryShape) : U64 :=
  if shape.mode = 1#32 then memoryRegister cpu shape.rn true else dataUpdated cpu shape

def dataRequest (cpu : VfCpu) (controls : Controls) (version : U32) (shape : MemoryShape) : Request :=
  let q := versionRequest cpu controls version (if shape.read then opLoad else opStore) shape.width
    shape.count (dataAddress cpu shape)
  if shape.read then q
  else
    { q with
      value0 := memoryRegister cpu shape.rt false &&& elementMask shape.width
      value1 := if shape.count = 2#32 then memoryRegister cpu shape.rt2 false &&& elementMask shape.width
        else 0#64 }

def commitData (cpu : VfCpu) (shape : MemoryShape) (reply : Reply) : VfCpu :=
  let cpu := writeBase (loadData cpu shape reply.value0 reply.value1) shape (dataUpdated cpu shape)
  VfCpu.advanceCounter { cpu with pc := cpu.pc + 4#64, retired := cpu.retired + 1#64 } 1#64

structure Stepped (σ : Type) where
  status : U32
  cpu : VfCpu
  owner : σ
  result : RunResultV2

def memoryDataStepVersion {σ : Type} (cpu : VfCpu) (controls : Controls) (callback : Callback σ)
    (owner : σ) (result : RunResultV2) (version : U32) : Stepped σ :=
  match decodeMemory cpu.instruction with
  | none => ⟨Status.undefinedInstruction, cpu.commitStatus Status.undefinedInstruction, owner, result⟩
  | some shape =>
    if spMisaligned cpu shape = true then
      ⟨Status.spAlignmentFault, { cpu with far := cpu.sp }.commitStatus Status.spAlignmentFault, owner,
        result⟩ else
    let e := memoryExchangeVersion cpu callback owner (dataRequest cpu controls version shape) result
      version
    if e.status ≠ Status.next then ⟨e.status, e.cpu, e.owner, e.result⟩
    else
      ⟨Status.next, commitData e.cpu shape e.reply, e.owner,
        { e.result with
          base :=
            { e.result.base with
              completedDataOperations := e.result.base.completedDataOperations + 1#64 } }⟩

def fetchRequest (cpu : VfCpu) (controls : Controls) (version : U32) : Request :=
  versionRequest cpu controls version opFetch 4#32 1#32 cpu.pc

end Nextcore.Provider
