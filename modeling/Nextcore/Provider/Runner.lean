import Nextcore.Jit.Runner
import Nextcore.Provider.Version1

/-! `vf_run_memory_provider` and `run_memory_provider_v2`: one word is fetched from
the provider, translated and run in each turn. The two runs share their loop and
differ in their protocol; the native-code cache is a build option of both. -/

namespace Nextcore.Provider

open Abi Cpu Jit Emit X86 Loop

structure Fetched (σ R : Type) where
  status : U32
  cpu : VfCpu
  owner : σ
  result : R
  instruction : U32

structure Handled (σ R : Type) where
  status : U32
  cpu : VfCpu
  owner : σ
  result : R

structure Protocol (σ R : Type) where
  gate : VfCpu → R → Option (U32 × VfCpu × R)
  fetch : VfCpu → σ → R → Fetched σ R
  data : VfCpu → σ → R → Handled σ R
  slow : VfCpu → Option VfCpu

structure NativeEntry where
  pc : U64 := 0#64
  instruction : U32 := 0#32
  currentEl : U32 := 0#32
  used : ℕ := 0
  valid : Bool := false
  deriving DecidableEq, Repr

structure Cache where
  entries : List NativeEntry
  victim : ℕ
  deriving DecidableEq, Repr

def Cache.empty : Cache := ⟨List.replicate 64 {}, 0⟩

structure ProviderState (σ R τ : Type) where
  cpu : VfCpu
  code : Buffer
  opaque_ : τ
  owner : σ
  result : R
  cache : Cache

variable {σ R τ : Type}

def ProviderState.put (s : ProviderState σ R τ) (cpu : VfCpu) : ProviderState σ R τ := { s with cpu := cpu }

inductive Prepared (S : Type) where
  | ready (s : S) (bytes : List Byte)
  | fails (status : U32) (s : S)

abbrev Prepare (σ R τ : Type) := ProviderState σ R τ → U32 → Prepared (ProviderState σ R τ)

def translateWord (entry : Buffer) (cpu : VfCpu) (instruction : U32) : U32 × Buffer :=
  translateImpl entry (Target.ofCpu cpu) true (le32 instruction) cpu.pc 1

def preparePlain (protect : Protect τ) : Prepare σ R τ := fun s instruction =>
  let (opaque_, failed) := protect s.opaque_ false
  let s := { s with opaque_ := opaque_ }
  if failed ≠ 0#32 then .fails Status.protection s else
  let (status, entry) := translateWord s.code s.cpu instruction
  let s := { s with code := entry }
  if status ≠ Status.next then .fails status s else
  let (opaque_, failed) := protect s.opaque_ true
  let s := { s with opaque_ := opaque_ }
  if failed ≠ 0#32 then .fails Status.protection s else .ready s s.code.bytes

def slotOf (code : Buffer) (size i : ℕ) : Buffer := ⟨(code.bytes.drop (i * size)).take size, 0⟩

def withSlot (code : Buffer) (size i : ℕ) (entry : Buffer) : Buffer :=
  ⟨code.bytes.take (i * size) ++ entry.bytes ++ code.bytes.drop ((i + 1) * size), entry.used⟩

def slotCount (code : Buffer) (size : ℕ) : ℕ := min (code.capacity / size) 64

def NativeEntry.hits (e : NativeEntry) (cpu : VfCpu) (instruction : U32) : Bool :=
  e.valid = true ∧ e.pc = cpu.pc ∧ e.instruction = instruction ∧ e.currentEl = cpu.currentEl

def findHit (entries : List NativeEntry) (cpu : VfCpu) (instruction : U32) : Option ℕ :=
  entries.findIdx? (·.hits cpu instruction)

def invalidateAll (slots : ℕ) (entries : List NativeEntry) : List NativeEntry :=
  (entries.take slots).map (fun e => { e with valid := false }) ++ entries.drop slots

def invalidateAt (entries : List NativeEntry) (i : ℕ) : List NativeEntry :=
  entries.set i { entries.getD i {} with valid := false }

def translateSlot (slots size selected : ℕ) (s : ProviderState σ R τ) (instruction : U32) :
    U32 × Bool × ProviderState σ R τ :=
  let (status, entry) := translateWord (slotOf s.code size selected) s.cpu instruction
  let s := { s with code := withSlot s.code size selected entry }
  if status = Status.codeFull then
    let (status, entry) := translateWord s.code s.cpu instruction
    (status, false, { s with code := entry, cache := ⟨invalidateAll slots s.cache.entries, 0⟩ })
  else (status, true, s)

def prepareCached (size : ℕ) (protect : Protect τ) : Prepare σ R τ := fun s instruction =>
  let slots := slotCount s.code size
  match findHit (s.cache.entries.take slots) s.cpu instruction with
  | some i =>
    .ready { s with code := { s.code with used := (s.cache.entries.getD i {}).used } }
      (s.code.bytes.drop (i * size))
  | none =>
    if slots = 0 then preparePlain protect s instruction else
    let selected := s.cache.victim
    let s := { s with cache := { s.cache with entries := invalidateAt s.cache.entries selected } }
    let (opaque_, failed) := protect s.opaque_ false
    let s := { s with opaque_ := opaque_ }
    if failed ≠ 0#32 then .fails Status.protection s else
    let (status, publish, s) := translateSlot slots size selected s instruction
    if status ≠ Status.next then .fails status s else
    let (opaque_, failed) := protect s.opaque_ true
    let s := { s with opaque_ := opaque_ }
    if failed ≠ 0#32 then .fails Status.protection s
    else if publish then
      .ready { s with cache :=
        ⟨s.cache.entries.set selected ⟨s.cpu.pc, instruction, s.cpu.currentEl, s.code.used, true⟩,
          (selected + 1) % slots⟩ } (s.code.bytes.drop (selected * size))
    else .ready s s.code.bytes

section Run

variable (caller : Caller) (protocol : Protocol σ R) (prepare : Prepare σ R τ)

def afterBlock (s : ProviderState σ R τ) (status : U32) (cpu : VfCpu) : Turn (ProviderState σ R τ) U32 :=
  if status = Status.memoryDispatch then
    let served := protocol.data cpu s.owner s.result
    let s := { s with owner := served.owner, result := served.result }
    if served.status ≠ Status.next then returns served.status served.cpu s.put else .again (s.put served.cpu)
  else mapTurn s.put (dispatch protocol.slow status cpu)

def runTurn (bytes : List Byte) (s : ProviderState σ R τ) : Option (Turn (ProviderState σ R τ) U32) :=
  (executeNativeBlock { caller with host := { caller.host with ramAt := 0#64 } } bytes s.cpu []).map
    fun (status, cpu, _) => afterBlock protocol s status cpu

def preparedTurn : Prepared (ProviderState σ R τ) → Option (Turn (ProviderState σ R τ) U32)
  | .fails status s => some (returns status s.cpu s.put)
  | .ready s bytes => runTurn caller protocol bytes s

def providerTurn (budget start : U64) (s : ProviderState σ R τ) : Option (Turn (ProviderState σ R τ) U32) :=
  if ¬(s.cpu.retired - start < budget) then some (returns Status.budget s.cpu s.put) else
  match protocol.gate s.cpu s.result with
  | some (status, cpu, result) => some (returns status cpu fun cpu => { s with cpu := cpu, result := result })
  | none =>
    let (asynchronous, cpu) := s.cpu.pollInterrupt
    if asynchronous ≠ Status.next then some (returns asynchronous cpu s.put) else
    let fetched := protocol.fetch cpu s.owner s.result
    let s := { s with cpu := fetched.cpu, owner := fetched.owner, result := fetched.result }
    if fetched.status ≠ Status.next then some (returns fetched.status s.cpu s.put) else
    preparedTurn caller protocol (prepare s fetched.instruction)

def providerLoop (budget : U64) (s : ProviderState σ R τ) : Option (U32 × ProviderState σ R τ) :=
  iterate (providerTurn caller protocol prepare budget s.cpu.retired) (budget.toNat + 1) s

end Run

namespace V1

variable (callback : Callback σ) (pauth : Option PauthStep)

def fetch (cpu : VfCpu) (owner : σ) (result : RunResultV1) : Fetched σ RunResultV1 :=
  let e := memoryExchange cpu callback owner (fetchRequest cpu) result
  ⟨e.status, e.cpu, e.owner, e.result, e.reply.value0.truncate 32⟩

def protocol : Protocol σ RunResultV1 where
  gate cpu result :=
    if cpu.sctlr &&& 1#64 ≠ 0#64 ∨ 1#32 < cpu.currentEl ∨ cpu.hcrEl2 ≠ 0#64 ∨ cpu.scrEl3 ≠ 0#64 then
      some (Status.systemRegisterTrap, { cpu with instruction := 0#32 }, result)
    else none
  fetch := fetch callback
  data cpu owner result :=
    let e := memoryDataStep cpu callback owner result
    ⟨e.status, e.cpu, e.owner, e.result⟩
  slow := slowStep pauth

def vfRunMemoryProvider (caller : Caller) (prepare : Prepare σ RunResultV1 τ) (budget : U64)
    (s : ProviderState σ RunResultV1 τ) : Option (U32 × ProviderState σ RunResultV1 τ) :=
  if budget = 0#64 ∨ s.cpu.stateValid = false ∨ s.cpu.exceptionPending ≠ Exception.none then
    let e := providerError s.result ProviderStatus.invalidRequest
    some (e.1, { s with result := e.2 })
  else providerLoop caller (protocol callback pauth) prepare budget { s with cache := .empty }

end V1

namespace V2

variable (callback : Callback σ) (pauth : Option PauthStep) (controls : V2.Controls)

def fetch (cpu : VfCpu) (owner : σ) (result : RunResultV2) : Fetched σ RunResultV2 :=
  let e := memoryExchangeVersion cpu callback owner (fetchRequest cpu controls 2#32) result 2#32
  ⟨e.status, e.cpu, e.owner, e.result, e.reply.value0.truncate 32⟩

def protocol : Protocol σ RunResultV2 where
  gate cpu result :=
    if v2ControlsMatch cpu controls = false then
      let e := v2Error result ProviderStatus.invalidRequest
      some (e.1, cpu, e.2)
    else none
  fetch := fetch callback controls
  data cpu owner result :=
    let e := memoryDataStepVersion cpu controls callback owner result 2#32
    ⟨e.status, e.cpu, e.owner, e.result⟩
  slow := slowStepV2 pauth

/-- `run_memory_provider_v2`; a step `none` is `allow_pauth = 0`. -/
def runMemoryProviderV2 (caller : Caller) (prepare : Prepare σ RunResultV2 τ) (budget : U64)
    (s : ProviderState σ RunResultV2 τ) : Option (U32 × ProviderState σ RunResultV2 τ) :=
  if budget = 0#64 ∨ memoryControlsValidV2 controls = false ∨ s.cpu.stateValid = false ∨
      s.cpu.exceptionPending ≠ Exception.none then
    let e := v2Error s.result ProviderStatus.invalidRequest
    some (e.1, { s with result := e.2 })
  else providerLoop caller (protocol callback pauth controls) prepare budget { s with cache := .empty }

def vfRunMemoryProviderV2 (caller : Caller) (prepare : Prepare σ RunResultV2 τ) (budget : U64)
    (s : ProviderState σ RunResultV2 τ) : Option (U32 × ProviderState σ RunResultV2 τ) :=
  runMemoryProviderV2 callback none controls caller prepare budget s

end V2

end Nextcore.Provider
