import Nextcore.Abi.Dynamic
import Nextcore.Provider.Runner

/-! `memory_dynamic.inc`: the run whose control registers are held by a service. A change of a control register, a barrier
and an invalidation are each prepared and committed with the service; everything else is the version 3 memory protocol. -/

namespace Nextcore.Provider.DynamicRun

open Abi Abi.Dynamic Cpu Jit Loop

structure RunResultDynamic where
  memory : RunResultV2
  finalControl : Reply
  deriving DecidableEq

abbrev ControlCallback (σ : Type) := σ → Request → σ × U32 × Reply

def dynamicCpuMatch (cpu : VfCpu) (a : Snapshot) : Bool :=
  cpu.currentEl = 1#32 ∧ cpu.sctlr = a.sctlr ∧ cpu.ttbr0 = a.ttbr0 ∧ cpu.ttbr1 = a.ttbr1 ∧ cpu.tcr = a.tcr ∧
    cpu.mair = a.mair ∧ cpu.hcrEl2 = a.hcr ∧ cpu.scrEl3 = a.scr ∧ cpu.pstate &&& ~~~0xf00003cf#64 = 0#64

def dynamicFailure (out : RunResultDynamic) (reason : U32) (isUncertain : Bool) : U32 × RunResultDynamic :=
  let out := if isUncertain then { out with finalControl := { out.finalControl with stateTag := uncertain } } else out
  let (status, memory) := v2Error out.memory reason
  (status, { out with memory := memory })

def dynamicErrorValid (q : Request) (r : Reply) : Bool :=
  r.abiVersion = 1#32 ∧ r.structSize = 192#32 ∧ r.phase = q.phase ∧ r.operation = q.operation ∧
    r.selector = q.selector ∧ 1#32 ≤ r.result ∧ r.result ≤ 3#32 ∧ 1#32 ≤ r.detail ∧ r.detail ≤ 10#32 ∧
    r.stateTag = 0#32 ∧ r.token = 0#64 ∧ r.revision = 0#64 ∧ r.epoch = 0#64 ∧ r.invalidations = 0#64 ∧
    r.architectural = {} ∧ r.effective = {}

def written (a : Snapshot) (selector : U32) (operand : U64) : Snapshot :=
  if selector = selSctlr then { a with sctlr := operand }
  else if selector = selTtbr0 then { a with ttbr0 := operand }
  else if selector = selTtbr1 then { a with ttbr1 := operand }
  else if selector = selTcr then { a with tcr := operand }
  else { a with mair := operand }

def prepareRequest (cpu : VfCpu) (op selector : U32) (known : Reply) : Request :=
  let operand := if op = write then memoryRegister cpu (cpu.instruction &&& 31#32) false else 0#64
  { abiVersion := 1#32, structSize := 192#32, phase := prepare, operation := op, selector := selector,
    currentEl := 1#32, flags := 0#32, reserved := 0#32, pc := cpu.pc, operand := operand, revision := known.revision,
    epoch := known.epoch, before := known.architectural,
    candidate := if op = write then written known.architectural selector operand else known.architectural }

def fixedTcr : U64 := (3#64 <<< 14) ||| (3#64 <<< 30) ||| (7#64 <<< 32)

def writeRefused (q : Request) (known : Reply) : Bool :=
  known.architectural.sctlr &&& 1#64 ≠ 0#64 ∨ dynamicControlsValid (q.candidate.controls known.epoch) = false ∨
    (known.effective.tcr ^^^ q.candidate.tcr) &&& fixedTcr ≠ 0#64 ∨ known.revision = 0xffffffffffffffff#64 ∨
    (q.selector = selSctlr ∧ (q.operand ≠ known.architectural.sctlr ||| 1#64 ∨
      known.architectural ≠ known.effective ∨ 0xffffffffffffffff#64 - 7#64 < q.pc))

/-- The reply that the run expects to the request, but for the token; `none` is an operation that it refuses. -/
def expectedReply (q : Request) (known : Reply) : Option Reply :=
  let expected :=
    { known with
      phase := prepare, operation := q.operation, selector := q.selector, stateTag := proposed, token := 0#64 }
  if q.operation = write then
    if writeRefused q known = true then none
    else some { expected with architectural := q.candidate, revision := expected.revision + 1#64 }
  else if q.operation = isb ∧ known.architectural ≠ known.effective then
    if known.epoch = 0xffffffffffffffff#64 then none
    else some { expected with effective := known.architectural, epoch := expected.epoch + 1#64 }
  else if q.operation = tlbi then
    if known.invalidations = 0xffffffffffffffff#64 then none
    else some { expected with invalidations := expected.invalidations + 1#64 }
  else some expected

def commitControls (cpu : VfCpu) (a : Snapshot) : VfCpu :=
  VfCpu.advanceCounter
    { cpu with
      sctlr := a.sctlr, ttbr0 := a.ttbr0, ttbr1 := a.ttbr1, tcr := a.tcr, mair := a.mair
      pc := cpu.pc + 4#64, retired := cpu.retired + 1#64 } 1#64

structure Controlled (σ : Type) where
  status : U32
  cpu : VfCpu
  owner : σ
  out : RunResultDynamic

def refusalReason (result : U32) : U32 :=
  if result = unsupported then ProviderStatus.unsupported
  else if result = unavailable then ProviderStatus.unavailable
  else ProviderStatus.invalidRequest

section Step

variable {σ : Type}

def Controlled.fails (cpu : VfCpu) (owner : σ) (out : RunResultDynamic) (reason : U32) (isUncertain : Bool) : Controlled σ :=
  let (status, out) := dynamicFailure out reason isUncertain
  ⟨status, cpu, owner, out⟩

/-- The second exchange of an operation. Once it is sent, nothing but the right answer tells that the service committed. -/
def commitStep (cpu : VfCpu) (callback : ControlCallback σ) (owner : σ) (q : Request) (expected : Reply)
    (out : RunResultDynamic) : Controlled σ :=
  let (owner, code, reply) := callback owner q
  if code ≠ 0#32 then .fails cpu owner out ProviderStatus.callbackFailure true
  else if reply ≠ expected then .fails cpu owner out ProviderStatus.invalidReply true
  else
    ⟨Status.next, commitControls cpu expected.architectural, owner,
      { out with finalControl := { expected with phase := 0#32, operation := 0#32, selector := 0#32 } }⟩

def dynamicControlStep (cpu : VfCpu) (op selector : U32) (callback : ControlCallback σ) (owner : σ)
    (out : RunResultDynamic) : Controlled σ :=
  let q := prepareRequest cpu op selector out.finalControl
  match expectedReply q out.finalControl with
  | none => .fails cpu owner out ProviderStatus.unsupported false
  | some expected =>
    let (owner, code, reply) := callback owner q
    if code ≠ 0#32 then .fails cpu owner out ProviderStatus.callbackFailure false
    else if reply.result ≠ 0#32 then
      if dynamicErrorValid q reply = false then .fails cpu owner out ProviderStatus.invalidReply false
      else .fails cpu owner out (refusalReason reply.result) false
    else if reply.token = 0#64 ∨ reply ≠ { expected with token := reply.token } then
      .fails cpu owner out ProviderStatus.invalidReply false
    else
      commitStep cpu callback owner { q with phase := commit, operand := reply.token }
        { expected with phase := commit, stateTag := Dynamic.known, token := 0#64 } out

end Step

structure Progress where
  out : RunResultDynamic
  enabling : Bool
  enablePc : U64
  deriving DecidableEq

section Run

variable {σ τ : Type} (caller : Caller) (pauth : Option PauthStep) (protect : Protect τ) (memory : Callback σ)
  (control : ControlCallback σ)

def slowStepDynamic (cpu : VfCpu) : Option VfCpu :=
  systemRegisterSlowStep cpu <|> memoryControlRead cpu <|> pauthImmutableStep pauth cpu

def refuses (s : ProviderState σ Progress τ) (reason : U32) : Turn (ProviderState σ Progress τ) U32 :=
  let (status, out) := dynamicFailure s.result.out reason false
  returns status s.cpu fun cpu => { s with cpu := cpu, result := { s.result with out := out } }

def dataTurn (s : ProviderState σ Progress τ) (effective : V2.Controls) (cpu : VfCpu) :
    Turn (ProviderState σ Progress τ) U32 :=
  let served := memoryDataStepVersion cpu effective memory s.owner s.result.out.memory 3#32
  let s := { s with
    owner := served.owner
    result := { s.result with out := { s.result.out with memory := served.result } } }
  if served.status ≠ Status.next then returns served.status served.cpu s.put else .again (s.put served.cpu)

def controlTurn (s : ProviderState σ Progress τ) (cpu : VfCpu) (op selector : U32) :
    Turn (ProviderState σ Progress τ) U32 :=
  let step := dynamicControlStep cpu op selector control s.owner s.result.out
  let s := { s with owner := step.owner, result := { s.result with out := step.out } }
  if step.status ≠ Status.next then returns step.status step.cpu s.put else
  let progress :=
    if op = write ∧ selector = selSctlr then { s.result with enabling := true, enablePc := cpu.pc + 4#64 } else s.result
  let progress := if op = isb then { progress with enabling := false } else progress
  .again { s with cpu := step.cpu, result := progress }

def afterWord (s : ProviderState σ Progress τ) (effective : V2.Controls) (instruction status : U32) (cpu : VfCpu) :
    Turn (ProviderState σ Progress τ) U32 :=
  if status = Status.memoryDispatch then dataTurn memory s effective cpu
  else if status = Status.undefinedInstruction ∨ status = Status.systemRegisterTrap then
    match dynamicOperation instruction with
    | some (op, selector) => controlTurn control s cpu op selector
    | none => mapTurn s.put (dispatch (slowStepDynamic pauth) status cpu)
  else mapTurn s.put (dispatch (slowStepDynamic pauth) status cpu)

def wordTurn (effective : V2.Controls) (instruction : U32) :
    Prepared (ProviderState σ Progress τ) → Option (Turn (ProviderState σ Progress τ) U32)
  | .fails status s => some (returns status s.cpu s.put)
  | .ready s bytes =>
    (executeNativeBlock { caller with host := { caller.host with ramAt := 0#64 } } bytes s.cpu []).map
      fun (status, cpu, _) => afterWord pauth memory control s effective instruction status cpu

def dynamicTurn (budget start : U64) (s : ProviderState σ Progress τ) :
    Option (Turn (ProviderState σ Progress τ) U32) :=
  if ¬(s.cpu.retired - start < budget) then some (returns Status.budget s.cpu s.put) else
  let known := s.result.out.finalControl
  if dynamicCpuMatch s.cpu known.architectural = false then some (refuses s ProviderStatus.invalidRequest) else
  if known.architectural ≠ known.effective ∧ s.cpu.pstate &&& 0xc0#64 ≠ 0xc0#64 then
    some (refuses s ProviderStatus.unsupported) else
  let (asynchronous, cpu) := s.cpu.pollInterrupt
  if asynchronous ≠ Status.next then some (returns asynchronous cpu s.put) else
  let effective := known.effective.controls known.epoch
  let e := memoryExchangeVersion cpu memory s.owner (fetchRequest cpu effective 3#32) s.result.out.memory 3#32
  let s := { s with
    cpu := e.cpu
    owner := e.owner
    result := { s.result with out := { s.result.out with memory := e.result } } }
  if e.status ≠ Status.next then some (returns e.status s.cpu s.put) else
  let instruction : U32 := e.reply.value0.truncate 32
  if s.result.enabling = true ∧ (s.cpu.pc ≠ s.result.enablePc ∨ instruction ≠ isbWord) then
    some (refuses s ProviderStatus.unsupported) else
  wordTurn caller pauth memory control effective instruction (preparePlain protect s instruction)

def initialControl (initial : V2.Controls) : Reply :=
  { abiVersion := 1#32, structSize := 192#32, stateTag := Dynamic.known, revision := 1#64, epoch := 1#64
    architectural := Snapshot.fromControls initial, effective := Snapshot.fromControls initial }

def admitted (initial : V2.Controls) (s : ProviderState σ RunResultDynamic τ) : ProviderState σ Progress τ :=
  { cpu := s.cpu, code := s.code, opaque_ := s.opaque_, owner := s.owner, cache := s.cache
    result := ⟨{ s.result with finalControl := initialControl initial }, false, 0#64⟩ }

def handBack (s : ProviderState σ Progress τ) : ProviderState σ RunResultDynamic τ :=
  { cpu := s.cpu, code := s.code, opaque_ := s.opaque_, owner := s.owner, cache := s.cache, result := s.result.out }

def refusesRun (budget : U64) (initial : V2.Controls) (cpu : VfCpu) : Bool :=
  budget = 0#64 ∨ dynamicControlsValid initial = false ∨ initial.sctlr &&& 1#64 ≠ 0#64 ∨ initial.epoch ≠ 1#64 ∨
    cpu.stateValid = false ∨ cpu.exceptionPending ≠ Exception.none ∨ cpu.currentEl ≠ 1#32 ∨
    cpu.pstate &&& 0xc0#64 ≠ 0xc0#64

def vfRunMemoryProviderDynamic (initial : V2.Controls) (budget : U64) (s : ProviderState σ RunResultDynamic τ) :
    Option (U32 × ProviderState σ RunResultDynamic τ) :=
  if refusesRun budget initial s.cpu = true then
    let (status, out) := dynamicFailure s.result ProviderStatus.invalidRequest false
    some (status, { s with result := out })
  else
    (iterate (dynamicTurn caller pauth protect memory control budget s.cpu.retired) (budget.toNat + 1)
      (admitted initial s)).map fun (status, s) => (status, handBack s)

end Run

end Nextcore.Provider.DynamicRun
