import Nextcore.Abi.Dynamic
import Nextcore.Service.Stage1

/-! `MemoryServiceDynamic`: a two-phase owner of the translation controls over
the backing and walker of a version 2 service. -/

namespace Nextcore.Service

open Mmu Abi Bytes
open Abi.Dynamic (Snapshot)

abbrev paLimit : U64 := 1#64 <<< 48

def mapped (s : Snapshot) : V2.Controls :=
  { s.controls 1#64 with abiVersion := 2#32, profile := 1#32, sctlr := s.sctlr ||| 1#64 }

def controlsValidDynamic (v : V2.Controls) : Bool :=
  v.abiVersion = 3#32 ∧ v.structSize = 80#32 ∧ v.profile = 2#32 ∧ v.reserved = 0#32 ∧
    v.epoch ≠ 0#64 ∧ (v.ttbr0 ||| v.ttbr1) >>> 48 = 0#64 ∧
    v.tcr &&& ((1#64 <<< 22) ||| (1#64 <<< 36)) = 0#64 ∧
    controlsValid (mapped (Snapshot.fromControls v)) = true

structure Prepared where
  request : Dynamic.Request
  reply : Dynamic.Reply
  mmu : VfMmu
  enablePc : Option U64
  deriving DecidableEq, Repr

structure MemoryServiceDynamic where
  inner : MemoryServiceV2
  architectural : Snapshot
  effective : Snapshot
  revision : U64
  epoch : U64
  invalidations : U64
  prepared : Option Prepared
  enablePc : Option U64
  tableReads : U64
  deriving DecidableEq, Repr

namespace MemoryServiceDynamic

def new (ram : List Byte) (ramBase : U64) (tables : List Byte) (tableBase : U64)
    (controls : V2.Controls) : Except Error MemoryServiceDynamic :=
  if controlsValidDynamic controls = false ∨ controls.epoch ≠ 1#64 ∨
      controls.sctlr &&& 1#64 ≠ 0#64 then .error .invalidControls else
  if paLimit ≤ ramBase ∨ (paLimit - ramBase).toNat < ram.length ∨ paLimit ≤ tableBase ∨
      (paLimit - tableBase).toNat < tables.length then .error .invalidRange else
  let snapshot := Snapshot.fromControls controls
  match MemoryServiceV2.new ram ramBase tables tableBase (mapped snapshot) with
  | .error e => .error e
  | .ok inner => .ok ⟨inner, snapshot, snapshot, 1#64, 1#64, 0#64, none, none, 0#64⟩

def effectiveControls (s : MemoryServiceDynamic) : V2.Controls := s.effective.controls s.epoch

def finalState (s : MemoryServiceDynamic) : Dynamic.Reply :=
  { abiVersion := 1#32, structSize := 192#32, stateTag := Dynamic.known, revision := s.revision,
    epoch := s.epoch, invalidations := s.invalidations, architectural := s.architectural,
    effective := s.effective }

def error (q : Dynamic.Request) (result detail : U32) : Dynamic.Reply :=
  { abiVersion := 1#32, structSize := 192#32, result := result, detail := detail,
    phase := if q.phase ≤ 3#32 then q.phase else 0#32,
    operation := if q.operation ≤ 4#32 then q.operation else 0#32,
    selector := if q.selector ≤ 5#32 then q.selector else 0#32 }

def guardByte (s : MemoryServiceDynamic) (next : U64) (index byte : ℕ) (walker : VfMmu) :
    Except (U32 × U32) VfMmu :=
  match walker.translateDetailed next .execute .el1
      (MemoryServiceV2.tableReader s.inner.tables s.inner.tableBase) with
  | (.error e, _) =>
    match e.kind with
    | .tableRead _ => .error (Dynamic.unavailable, Dynamic.backing)
    | _ => .error (Dynamic.unsupported, Dynamic.mapping)
  | (.ok translated, walker) =>
    let at_ := BitVec.ofNat 64 byte
    if translated.pa.uaddOverflow at_ = true ∨ translated.pa + at_ ≠ next + at_ ∨
        translated.attributes ≠ some normalNc then .error (Dynamic.unsupported, Dynamic.mapping)
    else if offset (translated.pa + at_) 1 s.inner.ramBase s.inner.ram.length ≠ some (index + byte) then
      .error (Dynamic.unavailable, Dynamic.backing)
    else .ok walker

def guardBytes (s : MemoryServiceDynamic) (next : U64) (index : ℕ) :
    (remaining byte : ℕ) → VfMmu → Except (U32 × U32) VfMmu
  | 0, _, walker => .ok walker
  | remaining + 1, byte, walker =>
    match s.guardByte next index byte walker with
    | .error e => .error e
    | .ok walker => s.guardBytes next index remaining (byte + 1) walker

def guard (s : MemoryServiceDynamic) (pc : U64) (candidate : Snapshot) : Except (U32 × U32) U64 :=
  if pc.uaddOverflow 4#64 = true ∨ (pc + 4#64).uaddOverflow 3#64 = true then
    .error (Dynamic.unsupported, Dynamic.wrap) else
  let next := pc + 4#64
  match offset next 4 s.inner.ramBase s.inner.ram.length with
  | none => .error (Dynamic.unavailable, Dynamic.backing)
  | some index =>
    if (loadLe s.inner.ram index 4).truncate 32 ≠ Dynamic.isbWord then
      .error (Dynamic.unsupported, Dynamic.bytes) else
    match s.inner.mmu.configureStrictNc candidate.ttbr0 candidate.ttbr1 candidate.tcr with
    | (_, false) => .error (Dynamic.unsupported, Dynamic.control)
    | (walker, true) =>
      match s.guardBytes next index 4 0 walker with
      | .error e => .error e
      | .ok _ => .ok next

def malformed (q : Dynamic.Request) : Bool :=
  q.abiVersion ≠ 1#32 ∨ q.structSize ≠ 192#32 ∨ ¬(1#32 ≤ q.phase ∧ q.phase ≤ 3#32) ∨
    ¬(1#32 ≤ q.operation ∧ q.operation ≤ 4#32) ∨ q.currentEl ≠ 1#32 ∨ q.pc &&& 3#64 ≠ 0#64 ∨
    q.flags ≠ 0#32 ∨ q.reserved ≠ 0#32 ∨ q.before.reserved ≠ 0#64 ∨ q.candidate.reserved ≠ 0#64 ∨
    (q.operation = Dynamic.write ∧ ¬(1#32 ≤ q.selector ∧ q.selector ≤ 5#32)) ∨
    (q.operation ≠ Dynamic.write ∧ q.selector ≠ 0#32)

def written (s : Snapshot) (selector : U32) (operand : U64) : Snapshot :=
  if selector = Dynamic.selSctlr then { s with sctlr := operand }
  else if selector = Dynamic.selTtbr0 then { s with ttbr0 := operand }
  else if selector = Dynamic.selTtbr1 then { s with ttbr1 := operand }
  else if selector = Dynamic.selTcr then { s with tcr := operand }
  else { s with mair := operand }

def granuleIps : U64 := (3#64 <<< 14) ||| (3#64 <<< 30) ||| (7#64 <<< 32)

structure Proposal where
  reply : Dynamic.Reply
  mmu : VfMmu
  enablePc : Option U64
  deriving DecidableEq, Repr

def proposalBase (s : MemoryServiceDynamic) (q : Dynamic.Request) : Dynamic.Reply :=
  { s.finalState with
    phase := Dynamic.prepare, operation := q.operation, selector := q.selector,
    stateTag := Dynamic.proposed }

def proposeWrite (s : MemoryServiceDynamic) (q : Dynamic.Request) : Except (U32 × U32) Proposal :=
  if s.architectural.sctlr &&& 1#64 ≠ 0#64 then .error (Dynamic.unsupported, Dynamic.control) else
  let expected := written s.architectural q.selector q.operand
  if q.candidate ≠ expected then .error (Dynamic.invalid, Dynamic.malformed) else
  if controlsValid (mapped expected) = false ∨
      (expected.tcr ^^^ s.effective.tcr) &&& granuleIps ≠ 0#64 then
    .error (Dynamic.unsupported, Dynamic.control) else
  let enablePc : Except (U32 × U32) (Option U64) :=
    if q.selector = Dynamic.selSctlr then
      if q.operand ≠ s.architectural.sctlr ||| 1#64 ∨ s.architectural ≠ s.effective then
        .error (Dynamic.unsupported, Dynamic.pending)
      else (s.guard q.pc expected).map some
    else .ok s.enablePc
  match enablePc with
  | .error e => .error e
  | .ok enablePc =>
    if s.revision = BitVec.allOnes 64 then .error (Dynamic.unsupported, Dynamic.overflow) else
    .ok ⟨{ s.proposalBase q with architectural := expected, revision := s.revision + 1#64 },
      s.inner.mmu, enablePc⟩

def proposeBarrier (s : MemoryServiceDynamic) (q : Dynamic.Request) : Except (U32 × U32) Proposal :=
  if q.candidate ≠ s.architectural ∨ q.operand ≠ 0#64 then
    .error (Dynamic.invalid, Dynamic.malformed) else
  if q.operation = Dynamic.isb ∧ s.architectural ≠ s.effective then
    if s.epoch = BitVec.allOnes 64 then .error (Dynamic.unsupported, Dynamic.overflow) else
    match s.inner.mmu.configureStrictNc s.architectural.ttbr0 s.architectural.ttbr1
        s.architectural.tcr with
    | (_, false) => .error (Dynamic.unsupported, Dynamic.control)
    | (walker, true) =>
      .ok ⟨{ s.proposalBase q with effective := s.architectural, epoch := s.epoch + 1#64 },
        walker, none⟩
  else if q.operation = Dynamic.tlbi then
    if s.invalidations = BitVec.allOnes 64 then .error (Dynamic.unsupported, Dynamic.overflow) else
    .ok ⟨{ s.proposalBase q with invalidations := s.invalidations + 1#64 },
      s.inner.mmu.invalidate, s.enablePc⟩
  else .ok ⟨s.proposalBase q, s.inner.mmu, s.enablePc⟩

def install (s : MemoryServiceDynamic) (p : Prepared) : MemoryServiceDynamic :=
  { s with
    prepared := none
    architectural := p.reply.architectural
    effective := p.reply.effective
    revision := p.reply.revision
    epoch := p.reply.epoch
    invalidations := p.reply.invalidations
    inner := { s.inner with controls := mapped p.reply.effective, mmu := p.mmu }
    enablePc := p.enablePc }

def finish (s : MemoryServiceDynamic) (q : Dynamic.Request) : Dynamic.Reply × MemoryServiceDynamic :=
  match s.prepared with
  | none => (error q Dynamic.invalid Dynamic.token, s)
  | some p =>
    let original := { q with phase := Dynamic.prepare, operand := p.request.operand }
    if q.operand ≠ p.reply.token ∨ original ≠ p.request then
      (error q Dynamic.invalid Dynamic.token, s) else
    if q.phase = Dynamic.cancel then
      ({ s.finalState with
        phase := Dynamic.cancel, operation := q.operation, selector := q.selector },
        { s with prepared := none }) else
    ({ p.reply with phase := Dynamic.commit, stateTag := Dynamic.known, token := 0#64 }, s.install p)

/-- `control`. The last argument is the process-wide `NEXT_TOKEN`; tokens are never
reused because the counter refuses to wrap. -/
def control (s : MemoryServiceDynamic) (q : Dynamic.Request) (nextToken : U64) :
    Dynamic.Reply × MemoryServiceDynamic × U64 :=
  if malformed q = true then (error q Dynamic.invalid Dynamic.malformed, s, nextToken) else
  if q.before ≠ s.architectural ∨ q.revision ≠ s.revision ∨ q.epoch ≠ s.epoch then
    (error q Dynamic.invalid Dynamic.stale, s, nextToken) else
  if q.phase ≠ Dynamic.prepare then
    let (out, s) := s.finish q
    (out, s, nextToken) else
  if s.prepared.isSome = true then (error q Dynamic.invalid Dynamic.token, s, nextToken) else
  if s.enablePc.isSome = true ∧ (q.operation ≠ Dynamic.isb ∨ s.enablePc ≠ some q.pc) then
    (error q Dynamic.unsupported Dynamic.pending, s, nextToken) else
  match (if q.operation = Dynamic.write then s.proposeWrite q else s.proposeBarrier q) with
  | .error (result, detail) => (error q result detail, s, nextToken)
  | .ok p =>
    if nextToken = BitVec.allOnes 64 then
      (error q Dynamic.unsupported Dynamic.overflow, s, nextToken) else
    let out := { p.reply with token := nextToken }
    (out, { s with prepared := some ⟨q, out, p.mmu, p.enablePc⟩ }, nextToken + 1#64)

def dataError (s : MemoryServiceDynamic) (result : U32) (address : U64) : V2.Reply :=
  { abiVersion := 3#32, structSize := 128#32, result := result, address := address,
    level := V2.noLevel, epoch := s.epoch }

def physicalByte (s : MemoryServiceDynamic) (q : V2.Request) (byte : ℕ) :
    Except V2.Reply (Bool × ℕ) :=
  let pa := q.address + BitVec.ofNat 64 byte
  match offset pa 1 s.inner.ramBase s.inner.ram.length with
  | some i => .ok (false, i)
  | none =>
    match offset pa 1 s.inner.tableBase s.inner.tables.length with
    | some i => if q.operation = opStore then .error (s.dataError V2.unsupported pa) else .ok (true, i)
    | none =>
      .error { s.dataError V2.unavailable pa with outputPa := pa, metadataFlags := V2.hasOutput }

def physicalBytes (s : MemoryServiceDynamic) (q : V2.Request) :
    (remaining byte : ℕ) → Except V2.Reply (List (Bool × ℕ))
  | 0, _ => .ok []
  | remaining + 1, byte =>
    match s.physicalByte q byte with
    | .error out => .error out
    | .ok place =>
      match s.physicalBytes q remaining (byte + 1) with
      | .error out => .error out
      | .ok places => .ok (place :: places)

def executePhysical (s : MemoryServiceDynamic) (q : V2.Request) : V2.Reply × List Byte :=
  if q.address &&& (q.width.zeroExtend 64 - 1#64) ≠ 0#64 then
    let out := { s.dataError V2.guestFault q.address with context := V2.input }
    (if q.operation = opFetch then { out with fault := V2.pcAlignment, esr := 0x8a000000#64 }
      else
        { out with
          fault := V2.dataAlignment
          fsc := 0x21#32
          esr := 0x96000021#64 ||| (if q.operation = opStore then 64#64 else 0#64) }, s.inner.ram) else
  let bytes := (q.width * q.count).zeroExtend 64
  if q.address.uaddOverflow (bytes - 1#64) = true ∨ paLimit ≤ q.address ∨
      paLimit - q.address < bytes then (s.dataError V2.unsupported q.address, s.inner.ram) else
  match s.physicalBytes q (q.width * q.count).toNat 0 with
  | .error out => (out, s.inner.ram)
  | .ok places =>
    let ram := if q.operation = opStore then storePlaces q places 0 s.inner.ram else s.inner.ram
    let values :=
      if q.operation = opStore then (0#64, 0#64)
      else loadPlaces q s.inner.ram s.inner.tables places 0 (0#64, 0#64)
    if s.enablePc.isSome = true ∧ values.1 ≠ Dynamic.isbWord.zeroExtend 64 then
      (s.dataError V2.unsupported q.address, ram)
    else ({ s.dataError V2.ok 0#64 with value0 := values.1, value1 := values.2 }, ram)

def normalized (s : MemoryServiceDynamic) (q : V2.Request) : V2.Request :=
  { q with abiVersion := 2#32, controls := s.inner.controls }

def refusal (s : MemoryServiceDynamic) (q : V2.Request) : Option V2.Reply :=
  if q.abiVersion ≠ 3#32 ∨ q.controls ≠ s.effectiveControls ∨ q.currentEl ≠ 1#32 ∨
      s.prepared.isSome = true then some (s.dataError V2.invalidRequest 0#64) else
  if s.inner.requestValid (s.normalized q) = false then some (s.dataError V2.invalidRequest 0#64) else
  if s.architectural ≠ s.effective ∧ q.pstate &&& 0xc0#64 ≠ 0xc0#64 then
    some (s.dataError V2.unsupported q.address) else
  if s.enablePc.isSome = true ∧ (q.operation ≠ opFetch ∨ s.enablePc ≠ some q.pc) then
    some (s.dataError V2.unsupported q.address)
  else none

def execute (s : MemoryServiceDynamic) (q : V2.Request) : V2.Reply × MemoryServiceDynamic :=
  match s.refusal q with
  | some out => (out, s)
  | none =>
    if s.effective.sctlr &&& 1#64 ≠ 0#64 then
      let (out, inner, reads) := s.inner.executeCounted (s.normalized q) s.tableReads
      ({ out with abiVersion := 3#32, epoch := s.epoch }, { s with inner := inner, tableReads := reads })
    else
      let (out, ram) := s.executePhysical q
      (out, { s with inner := { s.inner with ram := ram } })

end MemoryServiceDynamic

end Nextcore.Service
