import Nextcore.Abi.MemoryV2
import Nextcore.Lib.Bytes
import Nextcore.Mmu.Walk

/-! `MemoryServiceV2`: the immutable stage-1 service over the canonical walker. -/

namespace Nextcore.Service

open Mmu Abi Abi.V2 Bytes

def controlsValid (c : Controls) : Bool :=
  let allowedTcr := 0x3f#64 ||| (1#64 <<< 7) ||| (3#64 <<< 14) ||| (0x3f#64 <<< 16) |||
    (1#64 <<< 22) ||| (1#64 <<< 23) ||| (3#64 <<< 30) ||| (7#64 <<< 32)
  let sctlr : Option U64 :=
    if c.profile = profileFixedNc then some 0x30d00803#64
    else if c.profile = profileFixedNcUnaligned then some 0x30d00801#64 else none
  match sctlr with
  | none => false
  | some sctlr =>
    if c.abiVersion ≠ version ∨ c.structSize ≠ 80#32 ∨ c.reserved ≠ 0#32 ∨ c.epoch ≠ 1#64 ∨
        c.mair ≠ 0x44#64 ∨ c.hcr ≠ 0#64 ∨ c.scr ≠ 0#64 ∨ c.sctlr &&& ~~~0x18#64 ≠ sctlr ∨
        c.tcr &&& ~~~allowedTcr ≠ 0#64 ∨ 5#64 < (c.tcr >>> 32) &&& 7#64 then false else
    let tg0 := (c.tcr >>> 14) &&& 3#64
    let tg1 := (c.tcr >>> 30) &&& 3#64
    let bounds : Option (U64 × U64 × U64) :=
      if tg0 = 0#64 ∧ tg1 = 2#64 then some (16#64, 39#64, 0x1000#64)
      else if tg0 = 2#64 ∧ tg1 = 1#64 then some (17#64, 47#64, 0x4000#64) else none
    match bounds with
    | none => false
    | some (min, max, alignment) =>
      let t0 := c.tcr &&& 63#64
      let t1 := (c.tcr >>> 16) &&& 63#64
      if ¬(min ≤ t0 ∧ t0 ≤ max) ∨ ¬(min ≤ t1 ∧ t1 ≤ max) then false else
      let mask := (0x0000ffffffffffff#64 &&& ~~~(alignment - 1#64)) ||| 0x00ff000000000000#64
      c.ttbr0 &&& ~~~mask = 0#64 ∧ c.ttbr1 &&& ~~~mask = 0#64

structure MemoryServiceV2 where
  ram : List Byte
  ramBase : U64
  tables : List Byte
  tableBase : U64
  controls : Controls
  mmu : VfMmu
  deriving DecidableEq, Repr

inductive Error
  | invalidRange | invalidControls
  deriving DecidableEq, Repr

def overlaps (a n b m : ℕ) : Bool := a < b + m && b < a + n

namespace MemoryServiceV2

/-- `new`. The host-pointer span checks are not modelled: two live Rust slices
never overlap, so they always pass. -/
def new (ram : List Byte) (ramBase : U64) (tables : List Byte) (tableBase : U64)
    (controls : Controls) : Except Error MemoryServiceV2 :=
  if ram.length < 8 ∨ tables.length < 8 ∨ tableBase &&& 7#64 ≠ 0#64 ∨ tables.length % 8 ≠ 0 ∨
      2 ^ 64 ≤ ramBase.toNat + ram.length ∨ 2 ^ 64 ≤ tableBase.toNat + tables.length ∨
      overlaps ramBase.toNat ram.length tableBase.toNat tables.length = true then
    .error .invalidRange else
  if controlsValid controls = false then .error .invalidControls else
  match VfMmu.disabled.configureStrictNc controls.ttbr0 controls.ttbr1 controls.tcr with
  | (_, false) => .error .invalidControls
  | (mmu, true) => .ok ⟨ram, ramBase, tables, tableBase, controls, mmu⟩

def empty (s : MemoryServiceV2) (result : U32) : Reply :=
  { abiVersion := version, structSize := 128#32, result := result, level := noLevel,
    epoch := s.controls.epoch }

def resultOf : TranslationFailureKind → U32
  | .architectural _ => guestFault
  | .tableRead .unavailable => unavailable
  | .tableRead .externalAbort => unsupported
  | .unsupported => unsupported

def contextOf : FaultContext → U32
  | .input => input
  | .walk => walk
  | .leaf => leaf
  | .cachedLeaf => cachedLeaf

def faultCode (fault : Fault) (level : U32) : U32 × U32 :=
  match fault with
  | .addressSize => (addressSize, level)
  | .translation => (translation, 4#32 + level)
  | .permission => (permission, 12#32 + level)
  | .accessFlag => (accessFlag, 8#32 + level)
  | .alignment => (pcAlignment, 0#32)

def failure (s : MemoryServiceV2) (r : Request) (va : U64) (error : TranslationFailure) : Reply :=
  let out :=
    { s.empty (resultOf error.kind) with
      address := va
      level := (error.level.map (BitVec.ofNat 32)).getD noLevel
      context := contextOf error.context
      descriptorPa := error.descriptorPa.getD 0
      outputPa := error.outputPa.getD 0
      metadataFlags := (if error.descriptorPa.isSome then hasDescriptor else 0#32) |||
        (if error.outputPa.isSome then hasOutput else 0#32) }
  match error.kind with
  | .architectural fault =>
    let level := (error.level.map (BitVec.ofNat 32)).getD 0#32
    let (kind, fsc) := faultCode fault level
    let ec := if r.operation = opFetch then 0x20#32 + r.currentEl else 0x24#32 + r.currentEl
    { out with
      fault := kind
      fsc := fsc
      esr := if kind = pcAlignment then 0x8a000000#64 else
        (ec.zeroExtend 64 <<< 26) ||| (1#64 <<< 25) ||| fsc.zeroExtend 64 |||
          (if r.operation = opStore then 64#64 else 0#64) }
  | _ => out

def requestValid (s : MemoryServiceV2) (r : Request) : Bool :=
  let mode := r.pstate &&& 15#64
  if r.abiVersion ≠ version ∨ r.structSize ≠ 160#32 ∨ r.flags ≠ 0#32 ∨ r.reserved0 ≠ 0#32 ∨
      r.reserved1 ≠ 0#64 ∨ r.controls ≠ s.controls ∨
      ¬(r.operation = opFetch ∨ r.operation = opLoad ∨ r.operation = opStore) ∨
      ¬(r.width = 1#32 ∨ r.width = 2#32 ∨ r.width = 4#32 ∨ r.width = 8#32) ∨
      ¬(r.count = 1#32 ∨ r.count = 2#32) ∨ (r.count = 2#32 ∧ r.width < 4#32) ∨
      (r.operation = opFetch ∧ (r.width ≠ 4#32 ∨ r.count ≠ 1#32 ∨ r.address ≠ r.pc)) ∨
      (r.operation ≠ opStore ∧ (r.value0 ≠ 0#64 ∨ r.value1 ≠ 0#64)) ∨
      (r.count = 1#32 ∧ r.value1 ≠ 0#64) ∨ r.pstate &&& ~~~0xf00003cf#64 ≠ 0#64 ∨
      ¬((r.currentEl = 0#32 ∧ mode = 0#64) ∨ (r.currentEl = 1#32 ∧ (mode = 4#64 ∨ mode = 5#64))) then
    false
  else
    let mask := elementMask r.width
    r.value0 &&& ~~~mask = 0#64 ∧ r.value1 &&& ~~~mask = 0#64

def tableReader (tables : List Byte) (tableBase : U64) : TableReader := fun pa =>
  match offset pa 8 tableBase tables.length with
  | none => .error .unavailable
  | some i => .ok (loadLe tables i 8)

def requestEl (r : Request) : ExceptionLevel :=
  (ExceptionLevel.fromU8 (r.currentEl.truncate 8 : Byte).toNat).getD .el0

def requestAccess (r : Request) : Access :=
  if r.operation = opFetch then .execute else if r.operation = opStore then .write else .read

def saturatingAdd (reads : U64) (n : ℕ) : U64 :=
  if reads.toNat + n < 2 ^ 64 then reads + BitVec.ofNat 64 n else BitVec.allOnes 64

def translate (s : MemoryServiceV2) (va : U64) (r : Request) (reads : U64) :
    Except TranslationFailure Translation × MemoryServiceV2 × U64 :=
  let read64 := tableReader s.tables s.tableBase
  let (result, mmu) := s.mmu.translateDetailed va (requestAccess r) (requestEl r) read64
  (result, { s with mmu := mmu },
    saturatingAdd reads (s.mmu.translateReads va (requestAccess r) (requestEl r) read64))

def alignmentReply (s : MemoryServiceV2) (r : Request) : Reply :=
  let out := { s.empty guestFault with address := r.address, context := input }
  if r.operation = opFetch then { out with fault := pcAlignment, esr := 0x8a000000#64 }
  else
    { out with
      fault := dataAlignment
      fsc := 0x21#32
      esr := ((0x24#64 + r.currentEl.zeroExtend 64) <<< 26) ||| (1#64 <<< 25) ||| 0x21#64 |||
        (if r.operation = opStore then 64#64 else 0#64) }

def refusal (s : MemoryServiceV2) (r : Request) : Option Reply :=
  if s.requestValid r = false then some (s.empty invalidRequest) else
  if r.address &&& (r.width.zeroExtend 64 - 1#64) ≠ 0#64 ∧
      (r.operation = opFetch ∨ r.controls.sctlr &&& 2#64 ≠ 0#64) then some (s.alignmentReply r) else
  if r.address.uaddOverflow ((r.width * r.count).zeroExtend 64 - 1#64) then
    some { s.empty unsupported with address := r.address }
  else none

def fastAnswer (s : MemoryServiceV2) (r : Request) (translated : Translation) :
    Option (Reply × List Byte) :=
  let bytes := (r.width * r.count).toNat
  if translated.attributes ≠ some normalNc then
    some ({ s.empty unsupported with address := r.address }, s.ram) else
  match offset translated.pa bytes s.ramBase s.ram.length with
  | some i =>
    if r.operation = opStore then some (s.empty ok, storeLe s.ram i bytes r.value0)
    else some ({ s.empty ok with value0 := loadLe s.ram i bytes }, s.ram)
  | none =>
    match offset translated.pa bytes s.tableBase s.tables.length with
    | some i =>
      if r.operation = opStore then none
      else some ({ s.empty ok with value0 := loadLe s.tables i bytes }, s.ram)
    | none => none

def fastPath (s : MemoryServiceV2) (r : Request) (reads : U64) :
    Option Reply × MemoryServiceV2 × U64 :=
  match s.translate r.address r reads with
  | (.error error, s, reads) => (some (s.failure r r.address error), s, reads)
  | (.ok translated, s, reads) =>
    match s.fastAnswer r translated with
    | some (out, ram) => (some out, { s with ram := ram }, reads)
    | none => (none, s, reads)

def query (r : Request) (byte : ℕ) : U64 :=
  if r.operation = opFetch then r.address else r.address + BitVec.ofNat 64 byte

def locate (s : MemoryServiceV2) (r : Request) (byte : ℕ) (translated : Translation) :
    Except Reply (Bool × ℕ) :=
  let va := r.address + BitVec.ofNat 64 byte
  if translated.attributes ≠ some normalNc then .error { s.empty unsupported with address := va } else
  let pa := if r.operation = opFetch then translated.pa + BitVec.ofNat 64 byte else translated.pa
  match offset pa 1 s.ramBase s.ram.length with
  | some i => .ok (false, i)
  | none =>
    match offset pa 1 s.tableBase s.tables.length with
    | some i =>
      if r.operation = opStore then
        .error { s.empty unsupported with address := va, outputPa := pa, metadataFlags := hasOutput }
      else .ok (true, i)
    | none =>
      .error { s.empty unavailable with address := va, outputPa := pa, metadataFlags := hasOutput }

def placeByte (s : MemoryServiceV2) (r : Request) (byte : ℕ) (reads : U64) :
    Except Reply (Bool × ℕ) × MemoryServiceV2 × U64 :=
  match s.translate (query r byte) r reads with
  | (.error error, s, reads) => (.error (s.failure r (query r byte) error), s, reads)
  | (.ok translated, s, reads) => (s.locate r byte translated, s, reads)

def placeBytes (r : Request) : (remaining byte : ℕ) → MemoryServiceV2 → U64 →
    Except Reply (List (Bool × ℕ)) × MemoryServiceV2 × U64
  | 0, _, s, reads => (.ok [], s, reads)
  | remaining + 1, byte, s, reads =>
    match s.placeByte r byte reads with
    | (.error out, s, reads) => (.error out, s, reads)
    | (.ok place, s, reads) =>
      match placeBytes r remaining (byte + 1) s reads with
      | (.error out, s, reads) => (.error out, s, reads)
      | (.ok places, s, reads) => (.ok (place :: places), s, reads)

end MemoryServiceV2

def storePlaces (r : Request) : (places : List (Bool × ℕ)) → (byte : ℕ) → List Byte → List Byte
  | [], _, ram => ram
  | (_, i) :: places, byte, ram =>
    let value := if byte / r.width.toNat = 0 then r.value0 else r.value1
    storePlaces r places (byte + 1) (ram.set i ((value >>> ((byte % r.width.toNat) * 8)).truncate 8))

def loadPlaces (r : Request) (ram tables : List Byte) :
    (places : List (Bool × ℕ)) → (byte : ℕ) → U64 × U64 → U64 × U64
  | [], _, values => values
  | (table, i) :: places, byte, values =>
    let value := if table then tables.getD i 0 else ram.getD i 0
    let shifted := value.zeroExtend 64 <<< ((byte % r.width.toNat) * 8)
    loadPlaces r ram tables places (byte + 1)
      (if byte / r.width.toNat = 0 then (values.1 ||| shifted, values.2)
        else (values.1, values.2 ||| shifted))

namespace MemoryServiceV2

def transfer (s : MemoryServiceV2) (r : Request) (places : List (Bool × ℕ)) : Reply × List Byte :=
  if r.operation = opStore then (s.empty ok, storePlaces r places 0 s.ram)
  else
    let values := loadPlaces r s.ram s.tables places 0 (0#64, 0#64)
    ({ s.empty ok with value0 := values.1, value1 := values.2 }, s.ram)

def bytePath (s : MemoryServiceV2) (r : Request) (reads : U64) : Reply × MemoryServiceV2 × U64 :=
  match placeBytes r (r.width * r.count).toNat 0 s reads with
  | (.error out, s, reads) => (out, s, reads)
  | (.ok places, s, reads) =>
    let (out, ram) := s.transfer r places
    (out, { s with ram := ram }, reads)

def fastScalar (r : Request) : Bool :=
  r.count = 1#32 ∧ (r.width = 4#32 ∨ r.width = 8#32) ∧
    r.address &&& (r.width.zeroExtend 64 - 1#64) = 0#64

def executeCounted (s : MemoryServiceV2) (r : Request) (reads : U64) :
    Reply × MemoryServiceV2 × U64 :=
  match s.refusal r with
  | some out => (out, s, reads)
  | none =>
    if fastScalar r = true then
      match s.fastPath r reads with
      | (some out, s, reads) => (out, s, reads)
      | (none, s, reads) => s.bytePath r reads
    else s.bytePath r reads

def execute (s : MemoryServiceV2) (r : Request) : Reply × MemoryServiceV2 :=
  let (out, s, _) := s.executeCounted r 0#64
  (out, s)

end MemoryServiceV2

end Nextcore.Service
