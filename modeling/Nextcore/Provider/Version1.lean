import Nextcore.Abi.MemoryV1
import Nextcore.Provider.Exchange

/-! The exchange and the data step of the version 1 provider run. -/

namespace Nextcore.Provider.V1

open Abi Abi.V1 Cpu Jit

abbrev Callback (σ : Type) := σ → Request → σ × U32 × Reply

def providerError (result : RunResultV1) (reason : U32) : U32 × RunResultV1 :=
  (Status.dataFault, { result with providerStatus := reason })

def exchangeStart (result : RunResultV1) (q : Request) : RunResultV1 :=
  { result with
    lastAddress := q.address
    fetchRequests := if q.operation = opFetch then result.fetchRequests + 1#64 else result.fetchRequests
    dataRequests := if q.operation = opFetch then result.dataRequests else result.dataRequests + 1#64 }

def faultSyndrome (q : Request) : U64 :=
  if q.operation = opFetch then 0x8a000000#64
  else ((0x24#64 + q.currentEl.zeroExtend 64) <<< 26) ||| (1#64 <<< 25) ||| 0x21#64 |||
    (if q.operation = opStore then 64#64 else 0#64)

def faultInvalid (q : Request) (r : Reply) : Bool :=
  if q.operation = opFetch then r.fault ≠ pcAlignment ∨ q.pc &&& 3#64 = 0#64
  else r.fault ≠ dataAlignment ∨ q.address &&& (q.width - 1#32).zeroExtend 64 = 0#64

def judgeReply (cpu : VfCpu) (q : Request) (code : U32) (r : Reply) (result : RunResultV1) :
    U32 × VfCpu × RunResultV1 :=
  let error (reason : U32) (result : RunResultV1) :=
    let e := providerError result reason
    (e.1, cpu, e.2)
  let mask := V2.elementMask q.width
  if code ≠ 0#32 then error ProviderStatus.callbackFailure result
  else if r.abiVersion ≠ 1#32 ∨ r.structSize ≠ 80#32 ∨ r.epoch ≠ 0#64 ∨ r.reserved ≠ Vector.replicate 3 0#64 ∨
      invalidRequest < r.result then error ProviderStatus.invalidReply result
  else if r.result = ok then
    if r.fault ≠ 0#32 ∨ r.address ≠ 0#64 ∨ r.esr ≠ 0#64 ∨ r.value0 &&& ~~~mask ≠ 0#64 ∨
        r.value1 &&& ~~~mask ≠ 0#64 ∨ (q.count = 1#32 ∧ r.value1 ≠ 0#64) ∨
        (q.operation = opStore ∧ (r.value0 ≠ 0#64 ∨ r.value1 ≠ 0#64)) then error ProviderStatus.invalidReply result
    else (Status.next, cpu, result)
  else if r.value0 ≠ 0#64 ∨ r.value1 ≠ 0#64 then error ProviderStatus.invalidReply result
  else if r.result = invalidRequest then
    if r.fault ≠ 0#32 ∨ r.address ≠ 0#64 ∨ r.esr ≠ 0#64 then error ProviderStatus.invalidReply result
    else error ProviderStatus.invalidRequest result
  else if r.result = unsupported then
    if r.fault ≠ 0#32 ∨ r.esr ≠ 0#64 ∨ (r.address ≠ q.address ∧
        ¬(q.count = 2#32 ∧ r.address = q.address + q.width.zeroExtend 64)) then
      error ProviderStatus.invalidReply result
    else error ProviderStatus.unsupported { result with lastAddress := r.address }
  else if faultInvalid q r = true ∨ r.address ≠ q.address ∨ r.esr ≠ faultSyndrome q then
    error ProviderStatus.invalidReply result
  else
    let fetch := q.operation = opFetch
    match cpu.raiseException (if fetch then Exception.instructionAbort else Exception.alignmentFault) cpu.pc r.address
        ((faultSyndrome q).truncate 32) (if fetch then 0#32 else cpu.instruction) with
    | none => error ProviderStatus.invalidReply result
    | some cpu => (if fetch then Status.instructionAbort else Status.alignmentFault, cpu,
        { result with lastAddress := r.address })

structure Exchanged (σ : Type) where
  status : U32
  cpu : VfCpu
  owner : σ
  reply : Reply
  result : RunResultV1

def memoryExchange {σ : Type} (cpu : VfCpu) (callback : Callback σ) (owner : σ) (q : Request) (result : RunResultV1) :
    Exchanged σ :=
  let (owner, code, reply) := callback owner q
  let (status, cpu, result) := judgeReply cpu q code reply (exchangeStart result q)
  ⟨status, cpu, owner, reply, result⟩

def memoryRequest (cpu : VfCpu) (operation : U32) (address : U64) (width count : U32) : Request :=
  { abiVersion := 1#32, structSize := 80#32, operation := operation, flags := 0#32, pc := cpu.pc, address := address,
    value0 := 0#64, value1 := 0#64, sctlr := cpu.sctlr, epoch := 0#64, width := width, count := count,
    currentEl := cpu.currentEl, reserved := 0#32 }

def fetchRequest (cpu : VfCpu) : Request := memoryRequest cpu opFetch cpu.pc 4#32 1#32

def dataRequest (cpu : VfCpu) (shape : MemoryShape) : Request :=
  let q := memoryRequest cpu (if shape.read then opLoad else opStore) (dataAddress cpu shape) shape.width shape.count
  if shape.read then q
  else
    { q with
      value0 := memoryRegister cpu shape.rt false &&& V2.elementMask shape.width
      value1 := if shape.count = 2#32 then memoryRegister cpu shape.rt2 false &&& V2.elementMask shape.width else 0#64 }

def commitData (cpu : VfCpu) (shape : MemoryShape) (reply : Reply) : VfCpu :=
  let cpu := writeBase (loadData cpu shape reply.value0 reply.value1) shape (dataUpdated cpu shape)
  VfCpu.advanceCounter { cpu with pc := cpu.pc + 4#64, retired := cpu.retired + 1#64 } 1#64

structure Stepped (σ : Type) where
  status : U32
  cpu : VfCpu
  owner : σ
  result : RunResultV1

def memoryDataStep {σ : Type} (cpu : VfCpu) (callback : Callback σ) (owner : σ) (result : RunResultV1) : Stepped σ :=
  match decodeMemory cpu.instruction with
  | none => ⟨Status.undefinedInstruction, cpu.commitStatus Status.undefinedInstruction, owner, result⟩
  | some shape =>
    if spMisaligned cpu shape = true then
      ⟨Status.spAlignmentFault, { cpu with far := cpu.sp }.commitStatus Status.spAlignmentFault, owner, result⟩ else
    let e := memoryExchange cpu callback owner (dataRequest cpu shape) result
    if e.status ≠ Status.next then ⟨e.status, e.cpu, e.owner, e.result⟩
    else
      ⟨Status.next, commitData e.cpu shape e.reply, e.owner,
        { e.result with completedDataOperations := e.result.completedDataOperations + 1#64 }⟩

end Nextcore.Provider.V1
