import Nextcore.Mmu.Regime

/-! The table walk, the TLB lookup and `translate_detailed`. -/

namespace Nextcore.Mmu

abbrev TableReader := U64 → Except TableReadError U64

structure Leaf where
  paBase : U64
  pageShift : ℕ
  writable : Bool
  userAccessible : Bool
  executableEl0 : Bool
  executablePrivileged : Bool
  level : ℕ
  descriptorPa : U64
  deriving DecidableEq, Repr

inductive WalkStep
  | leaf (leaf : Leaf)
  | table (table permissions : U64)
  deriving DecidableEq, Repr

structure LeafPermissions where
  writable : Bool
  userAccessible : Bool
  executableEl0 : Bool
  executablePrivileged : Bool
  deriving DecidableEq, Repr

def Leaf.permissions (l : Leaf) : LeafPermissions :=
  ⟨l.writable, l.userAccessible, l.executableEl0, l.executablePrivileged⟩

def TlbEntry.permissions (e : TlbEntry) : LeafPermissions :=
  ⟨e.writable, e.userAccessible, e.executableEl0, e.executablePrivileged⟩

namespace VfMmu

def privilegedExecution (el : ExceptionLevel) (pxnAllows writable userAccessible : Bool) : Bool :=
  pxnAllows && !(el == .el1 && writable && userAccessible)

def executable (el : ExceptionLevel) (p : LeafPermissions) : Bool :=
  if el = .el0 then p.executableEl0
  else privilegedExecution el p.executablePrivileged p.writable p.userAccessible

def leafPermissions (descriptor tablePermissions : U64) : LeafPermissions :=
  let ap := (descriptor >>> 6) &&& 3#64
  { writable := (ap = 0#64 ∨ ap = 1#64) ∧ tablePermissions &&& (1#64 <<< 62) = 0#64
    userAccessible := (ap = 1#64 ∨ ap = 3#64) ∧ tablePermissions &&& (1#64 <<< 61) = 0#64
    executableEl0 := descriptor &&& (1#64 <<< uxnBit) = 0#64 ∧ tablePermissions &&& (1#64 <<< 60) = 0#64
    executablePrivileged :=
      descriptor &&& (1#64 <<< pxnBit) = 0#64 ∧ tablePermissions &&& (1#64 <<< 59) = 0#64 }

def descriptorPermissions (descriptor tablePermissions : U64) (level : ℕ) (el : ExceptionLevel)
    (access : Access) : Except Fault LeafPermissions :=
  if descriptor &&& afBit = 0#64 then .error .accessFlag else
  let p := leafPermissions descriptor tablePermissions
  if el = .el0 ∧ p.userAccessible = false ∧ access ≠ .execute then .error .permission else
  if access = .write ∧ p.writable = false then .error .permission else
  if access = .execute ∧ executable el p = false then .error .permission else
  if level = 0 ∧ descriptor &&& descriptorTypeMask = 1#64 then .error .translation else
  .ok p

def hierarchyMask (el : ExceptionLevel) : U64 := if el.el10 then 0xf#64 <<< 59 else 0

def strictAllowed (m : VfMmu) (el : ExceptionLevel) (level : ℕ) (table : Bool) : U64 :=
  let software := 0xf#64 <<< 55
  if table then m.granule.addressMask ||| software ||| hierarchyMask el ||| 3#64
  else (m.granule.addressMask &&& ~~~((1#64 <<< m.granule.levelShift level) - 1#64)) ||| software |||
    3#64 ||| (3#64 <<< 6) ||| afBit ||| (1#64 <<< 11) ||| (1#64 <<< pxnBit) ||| (1#64 <<< uxnBit)

def readDescriptor (m : VfMmu) (el : ExceptionLevel) (read64 : TableReader) (tableVa : U64)
    (level : ℕ) (table : U64) : Except TranslationFailure (U64 × U64) :=
  let shift := m.granule.levelShift level
  let index := (tableVa >>> shift) &&& ((1#64 <<< m.granule.indexBits) - 1#64)
  let walkFault := fun fault => TranslationFailure.architectural fault (some level) .walk
  let entryAddress := table + index * 8#64
  if table.uaddOverflow (index * 8#64) then .error (walkFault .translation) else
  if m.physicalAddressMask - 7#64 < entryAddress then
    .error ((walkFault .addressSize).atDescriptor entryAddress) else
  match read64 entryAddress with
  | .error error => .error ⟨.tableRead error, some level, .walk, some entryAddress, none⟩
  | .ok descriptor =>
    let descriptorFault := fun fault => (walkFault fault).atDescriptor entryAddress
    if descriptor &&& 1#64 = 0#64 then .error (descriptorFault .translation) else
    let descriptorType := descriptor &&& descriptorTypeMask
    if descriptorType = 1#64 ∧ (level = 0 ∨ level = maxLevel ∨
        (level = 1 ∧ m.granule = .sixteenKiB)) then .error (descriptorFault .translation) else
    let output := descriptor &&& m.granule.addressMask
    if output &&& ~~~m.physicalAddressMask ≠ 0#64 then
      .error ((descriptorFault .addressSize).withOutput output) else
    let isTable := decide (level < maxLevel ∧ descriptorType = 3#64)
    if m.strictNc = true ∧ descriptor &&& ~~~(m.strictAllowed el level isTable) ≠ 0#64 then
      .error ⟨.unsupported, some level, if isTable then .walk else .leaf, some entryAddress, none⟩ else
    .ok (entryAddress, descriptor)

def walkStep (m : VfMmu) (va : U64) (access : Access) (el : ExceptionLevel) (read64 : TableReader)
    (tableVa : U64) (level : ℕ) (table permissions : U64) :
    Except TranslationFailure WalkStep :=
  match m.readDescriptor el read64 tableVa level table with
  | .error failure => .error failure
  | .ok (entryAddress, descriptor) =>
    let shift := m.granule.levelShift level
    let descriptorType := descriptor &&& descriptorTypeMask
    let output := descriptor &&& m.granule.addressMask
    let descriptorFault :=
      (TranslationFailure.architectural .translation (some level) .walk).atDescriptor entryAddress
    let offsetMask := (1#64 <<< shift) - 1#64
    let leafPa := (output &&& ~~~offsetMask) ||| (va &&& offsetMask)
    let leafFault := fun fault =>
      ((TranslationFailure.architectural fault (some level) .leaf).atDescriptor
        entryAddress).withOutput leafPa
    if level < maxLevel ∧ descriptorType = 1#64 then
      match descriptorPermissions descriptor permissions level el access with
      | .error fault => .error (leafFault fault)
      | .ok p =>
        let paBase := output &&& ~~~offsetMask
        let pa := paBase ||| (va &&& offsetMask)
        if pa &&& ~~~m.physicalAddressMask ≠ 0#64 then
          .error ((leafFault .addressSize).withOutput pa) else
        .ok (.leaf ⟨paBase, shift, p.writable, p.userAccessible, p.executableEl0,
          p.executablePrivileged, level, entryAddress⟩)
    else if level < maxLevel ∧ descriptorType ≠ 3#64 then .error descriptorFault
    else if level = maxLevel then
      if descriptorType ≠ 3#64 then .error descriptorFault else
      match descriptorPermissions descriptor permissions level el access with
      | .error fault => .error (leafFault fault)
      | .ok p => .ok (.leaf ⟨output, m.granule.pageShift, p.writable, p.userAccessible,
          p.executableEl0, p.executablePrivileged, level, entryAddress⟩)
    else .ok (.table (descriptor &&& m.granule.addressMask)
      (permissions ||| (descriptor &&& hierarchyMask el)))

/-- The walk loop; `remaining` counts the levels still to visit up to `maxLevel`. -/
def walkLoop (m : VfMmu) (va : U64) (access : Access) (el : ExceptionLevel) (read64 : TableReader)
    (tableVa : U64) : (remaining : ℕ) → (table permissions : U64) → Except TranslationFailure Leaf
  | 0, _, _ => .error (.architectural .translation (some 3) .walk)
  | remaining + 1, table, permissions =>
    match m.walkStep va access el read64 tableVa (maxLevel - remaining) table permissions with
    | .error failure => .error failure
    | .ok (.leaf leaf) => .ok leaf
    | .ok (.table table permissions) =>
      m.walkLoop va access el read64 tableVa remaining table permissions

def walk (m : VfMmu) (va : U64) (access : Access) (el : ExceptionLevel) (read64 : TableReader) :
    Except TranslationFailure Leaf :=
  match m.selectRoot va with
  | none => .error (.architectural .translation (some 0) .input)
  | some (root, tsz, walkDisabled) =>
    match m.granule.startLevel tsz with
    | none => .error (.architectural .addressSize (some 0) .input)
    | some startLevel =>
      if walkDisabled then .error (.architectural .translation (some 0) .input) else
      let tableVa := va &&& (BitVec.allOnes 64 >>> tsz)
      let table := root &&& m.granule.addressMask
      if table &&& ~~~m.physicalAddressMask ≠ 0#64 then
        .error ((TranslationFailure.architectural .addressSize (some 0) .input).withOutput table) else
      m.walkLoop va access el read64 tableVa (maxLevel + 1 - startLevel) table 0

def walkLoopReads (m : VfMmu) (va : U64) (access : Access) (el : ExceptionLevel)
    (read64 : TableReader) (tableVa : U64) : (remaining : ℕ) → (table permissions : U64) → ℕ
  | 0, _, _ => 0
  | remaining + 1, table, permissions =>
    let index := (tableVa >>> m.granule.levelShift (maxLevel - remaining)) &&&
      ((1#64 <<< m.granule.indexBits) - 1#64)
    if table.uaddOverflow (index * 8#64) = true ∨
        m.physicalAddressMask - 7#64 < table + index * 8#64 then 0 else
    match m.walkStep va access el read64 tableVa (maxLevel - remaining) table permissions with
    | .ok (.table table permissions) =>
      m.walkLoopReads va access el read64 tableVa remaining table permissions + 1
    | _ => 1

def walkReads (m : VfMmu) (va : U64) (access : Access) (el : ExceptionLevel)
    (read64 : TableReader) : ℕ :=
  match m.selectRoot va with
  | none => 0
  | some (root, tsz, walkDisabled) =>
    match m.granule.startLevel tsz with
    | none => 0
    | some startLevel =>
      if walkDisabled = true ∨ root &&& m.granule.addressMask &&& ~~~m.physicalAddressMask ≠ 0#64 then 0
      else m.walkLoopReads va access el read64 (va &&& (BitVec.allOnes 64 >>> tsz))
        (maxLevel + 1 - startLevel) (root &&& m.granule.addressMask) 0

def filledEntry (m : VfMmu) (va : U64) (el : ExceptionLevel) (leaf : Leaf) : TlbEntry :=
  { valid := true, el10 := el.el10, asid := m.asid, vaTag := va >>> leaf.pageShift,
    paBase := leaf.paBase, pageShift := leaf.pageShift, writable := leaf.writable,
    userAccessible := leaf.userAccessible, executableEl0 := leaf.executableEl0,
    executablePrivileged := leaf.executablePrivileged, level := leaf.level,
    descriptorPa := leaf.descriptorPa,
    attributes := if m.strictNc then some normalNc else none }

def cache (m : VfMmu) (va : U64) (el : ExceptionLevel) (leaf : Leaf) : VfMmu :=
  { m with tlb := m.tlb.set m.next (m.filledEntry va el leaf), next := m.next + 1 }

def translation (el : ExceptionLevel) (pa : U64) (pageShift : ℕ) (p : LeafPermissions)
    (attributes : Option MemoryAttributes) : Translation :=
  { pa := pa, writable := p.writable && (el != .el0 || p.userAccessible),
    executable := executable el p, pageShift := pageShift, attributes := attributes }

def matchesEntry (m : VfMmu) (va : U64) (el : ExceptionLevel) (e : TlbEntry) : Bool :=
  e.valid && e.asid == m.asid && e.el10 == el.el10 && va >>> e.pageShift == e.vaTag

def allowed (access : Access) (el : ExceptionLevel) (p : LeafPermissions) : Bool :=
  match access with
  | .read => el != .el0 || p.userAccessible
  | .write => p.writable && (el != .el0 || p.userAccessible)
  | .execute => executable el p

def hit (m : VfMmu) (va : U64) (access : Access) (el : ExceptionLevel) (e : TlbEntry) :
    Except TranslationFailure Translation :=
  let pa := e.paBase ||| (va &&& ((1#64 <<< e.pageShift) - 1#64))
  let failure := fun fault =>
    ((TranslationFailure.architectural fault (some e.level) .cachedLeaf).atDescriptor
      e.descriptorPa).withOutput pa
  if pa &&& ~~~m.physicalAddressMask ≠ 0#64 then .error (failure .addressSize) else
  if allowed access el e.permissions = false then .error (failure .permission) else
  .ok (translation el pa e.pageShift e.permissions e.attributes)

def tlbLookup (m : VfMmu) (va : U64) (access : Access) (el : ExceptionLevel) :
    Except TranslationFailure (Option Translation) :=
  match m.tlb.toList.find? (m.matchesEntry va el) with
  | none => .ok none
  | some e => (m.hit va access el e).map some

def translateDetailed (m : VfMmu) (va : U64) (access : Access) (el : ExceptionLevel)
    (read64 : TableReader) : Except TranslationFailure Translation × VfMmu :=
  if access = .execute ∧ va &&& 3#64 ≠ 0#64 then
    (.error (.architectural .alignment none .input), m) else
  if m.enabled = false then
    (.ok ⟨va, true, true, m.granule.pageShift, none⟩, m) else
  if m.canonicalVa va = false then
    (.error (.architectural .translation (some 0) .input), m) else
  match m.tlbLookup va access el with
  | .error failure => (.error failure, m)
  | .ok (some hit) => (.ok hit, m)
  | .ok none =>
    match m.walk va access el read64 with
    | .error failure => (.error failure, m)
    | .ok leaf =>
      let pa := leaf.paBase ||| (va &&& ((1#64 <<< leaf.pageShift) - 1#64))
      (.ok (translation el pa leaf.pageShift leaf.permissions
        (if m.strictNc then some normalNc else none)), m.cache va el leaf)

def translateReads (m : VfMmu) (va : U64) (access : Access) (el : ExceptionLevel)
    (read64 : TableReader) : ℕ :=
  if (access = .execute ∧ va &&& 3#64 ≠ 0#64) ∨ m.enabled = false ∨ m.canonicalVa va = false then 0
  else
    match m.tlbLookup va access el with
    | .ok none => m.walkReads va access el read64
    | _ => 0

end VfMmu

end Nextcore.Mmu
