import Nextcore.Lib.Checked
import Nextcore.Mmu.Walk

/-! `translate_detailed` a second time, with every shift, difference, product
and cast of the source checked, the branches it holds unreachable turned into
defects, and the physical addresses it reads collected in order. -/

namespace Nextcore.Mmu

open Checked

namespace Granule

def startLevelChecked (g : Granule) (tsz : ℕ) : Checked (Option ℕ) :=
  if !g.validTsz tsz then .ok none
  else do
    let vaBits ← subNat 64 tsz
    let covered := vaBits - g.pageShift
    let levels := (covered + (g.indexBits - 1)) / g.indexBits
    if levels = 0 ∨ maxLevel + 1 < levels then .ok none
    else do
      let level ← subNat (maxLevel + 1) levels
      .ok (some level)

def addressMaskChecked (g : Granule) : Checked U64 := do
  let low ← lowMask 64 g.pageShift
  .ok (physicalAddressMask &&& ~~~low)

def levelShiftChecked (g : Granule) (level : ℕ) : Checked ℕ := do
  let below ← subNat maxLevel level
  .ok (g.pageShift + g.indexBits * below)

end Granule

namespace VfMmu

def lowerHalfChecked (m : VfMmu) (va : U64) : Checked Bool := do
  let start ← m.granule.startLevelChecked m.tcrT0sz
  if start.isNone then .ok false
  else do
    let vaBits ← subNat 64 m.tcrT0sz
    let top ← shr va vaBits
    .ok (top == 0#64)

def upperHalfChecked (m : VfMmu) (va : U64) : Checked Bool :=
  if m.tcrT1sz = 0 then .ok false
  else do
    let start ← m.granule.startLevelChecked m.tcrT1sz
    if start.isNone then .ok false
    else do
      let vaBits ← subNat 64 m.tcrT1sz
      let top ← shr va vaBits
      let ones ← lowMask 64 m.tcrT1sz
      .ok (top == ones)

def selectRootChecked (m : VfMmu) (va : U64) : Checked (Option (U64 × ℕ × Bool)) := do
  let lower ← m.lowerHalfChecked va
  if lower then .ok (some (m.ttbr0, m.tcrT0sz, m.walkDisabled.1))
  else do
    let upper ← m.upperHalfChecked va
    .ok (if upper then some (m.ttbr1, m.tcrT1sz, m.walkDisabled.2) else none)

def hitChecked (m : VfMmu) (va : U64) (access : Access) (el : ExceptionLevel) (e : TlbEntry) :
    Checked (Except TranslationFailure Translation) := do
  let offsetMask ← lowMask 64 e.pageShift
  let pa := e.paBase ||| (va &&& offsetMask)
  if pa &&& ~~~m.physicalAddressMask ≠ 0#64 then .error .unreachable
  else .ok (
    if allowed access el e.permissions = false then
      .error (((TranslationFailure.architectural .permission (some e.level) .cachedLeaf).atDescriptor
        e.descriptorPa).withOutput pa)
    else .ok (translation el pa e.pageShift e.permissions e.attributes))

def lookupChecked (m : VfMmu) (va : U64) (access : Access) (el : ExceptionLevel) :
    List TlbEntry → Checked (Except TranslationFailure (Option Translation))
  | [] => .ok (.ok none)
  | e :: rest =>
    if !(e.valid && e.asid == m.asid && e.el10 == el.el10) then m.lookupChecked va access el rest
    else do
      let tag ← shr va e.pageShift
      if tag ≠ e.vaTag then m.lookupChecked va access el rest
      else do
        let answer ← m.hitChecked va access el e
        .ok (answer.map some)

/-- A block at level 0 never reaches the permission check. -/
def descriptorPermissionsChecked (descriptor tablePermissions : U64) (level : ℕ)
    (el : ExceptionLevel) (access : Access) : Checked (Except Fault LeafPermissions) :=
  if descriptor &&& afBit = 0#64 then .ok (.error .accessFlag) else
  let p := leafPermissions descriptor tablePermissions
  if el = .el0 ∧ p.userAccessible = false ∧ access ≠ .execute then .ok (.error .permission) else
  if access = .write ∧ p.writable = false then .ok (.error .permission) else
  if access = .execute ∧ executable el p = false then .ok (.error .permission) else
  if level = 0 ∧ descriptor &&& descriptorTypeMask = 1#64 then .error .unreachable else
  .ok (.ok p)

def strictAllowedChecked (m : VfMmu) (el : ExceptionLevel) (shift : ℕ) (table : Bool) : Checked U64 := do
  let software := 0xf#64 <<< 55
  let addressMask ← m.granule.addressMaskChecked
  if table then .ok (addressMask ||| software ||| hierarchyMask el ||| 3#64)
  else do
    let low ← lowMask 64 shift
    .ok ((addressMask &&& ~~~low) ||| software ||| 3#64 ||| (3#64 <<< 6) ||| afBit ||| (1#64 <<< 11) |||
      (1#64 <<< pxnBit) ||| (1#64 <<< uxnBit))

def admitChecked (m : VfMmu) (el : ExceptionLevel) (shift level : ℕ) (addressMask entryAddress descriptor : U64) :
    Checked (Except TranslationFailure (U64 × U64)) :=
  let descriptorFault := fun fault =>
    (TranslationFailure.architectural fault (some level) .walk).atDescriptor entryAddress
  if descriptor &&& 1#64 = 0#64 then .ok (.error (descriptorFault .translation)) else
  let descriptorType := descriptor &&& descriptorTypeMask
  if descriptorType = 1#64 ∧ (level = 0 ∨ level = maxLevel ∨ (level = 1 ∧ m.granule = .sixteenKiB)) then
    .ok (.error (descriptorFault .translation)) else
  let output := descriptor &&& addressMask
  if output &&& ~~~m.physicalAddressMask ≠ 0#64 then
    .ok (.error ((descriptorFault .addressSize).withOutput output)) else
  let isTable := decide (level < maxLevel ∧ descriptorType = 3#64)
  if m.strictNc = false then .ok (.ok (entryAddress, descriptor))
  else do
    let admitted ← m.strictAllowedChecked el shift isTable
    .ok (
      if descriptor &&& ~~~admitted ≠ 0#64 then
        .error ⟨.unsupported, some level, if isTable then .walk else .leaf, some entryAddress, none⟩
      else .ok (entryAddress, descriptor))

/-- `checked_add` never fails, and no entry lies past the physical limit. -/
def readDescriptorChecked (m : VfMmu) (el : ExceptionLevel) (read64 : TableReader) (tableVa : U64)
    (level : ℕ) (table : U64) : Checked (List U64 × Except TranslationFailure (U64 × U64)) := do
  let addressMask ← m.granule.addressMaskChecked
  let indexMask ← lowMask 64 m.granule.indexBits
  let shift ← m.granule.levelShiftChecked level
  let shifted ← shr tableVa shift
  let offset ← mul (shifted &&& indexMask) 8#64
  if table.uaddOverflow offset then .error .unreachable
  else do
    let entryAddress := table + offset
    let limit ← sub m.physicalAddressMask 7#64
    if limit < entryAddress then .error .unreachable
    else
      match read64 entryAddress with
      | .error error =>
        .ok ([entryAddress], .error ⟨.tableRead error, some level, .walk, some entryAddress, none⟩)
      | .ok descriptor => do
        let admitted ← m.admitChecked el shift level addressMask entryAddress descriptor
        .ok ([entryAddress], admitted)

/-- What an iteration does with an admitted descriptor. Once blocks and tables are
told apart, no other type is left, and no block maps past the physical limit. -/
def finishChecked (m : VfMmu) (va : U64) (access : Access) (el : ExceptionLevel) (level : ℕ)
    (permissions entryAddress descriptor : U64) : Checked (Except TranslationFailure WalkStep) := do
  let addressMask ← m.granule.addressMaskChecked
  let shift ← m.granule.levelShiftChecked level
  let offsetMask ← lowMask 64 shift
  let level8 ← narrow 8 level
  let descriptorType := descriptor &&& descriptorTypeMask
  let output := descriptor &&& addressMask
  let leafPa := (output &&& ~~~offsetMask) ||| (va &&& offsetMask)
  let leafFault := fun fault =>
    ((TranslationFailure.architectural fault (some level8) .leaf).atDescriptor entryAddress).withOutput leafPa
  if level < maxLevel ∧ descriptorType = 1#64 then do
    let permitted ← descriptorPermissionsChecked descriptor permissions level el access
    match permitted with
    | .error fault => .ok (.error (leafFault fault))
    | .ok p =>
      let paBase := output &&& ~~~offsetMask
      let pa := paBase ||| (va &&& offsetMask)
      if pa &&& ~~~m.physicalAddressMask ≠ 0#64 then .error .unreachable
      else do
        let pageShift ← narrow 8 shift
        .ok (.ok (.leaf ⟨paBase, pageShift, p.writable, p.userAccessible, p.executableEl0,
          p.executablePrivileged, level8, entryAddress⟩))
  else if level < maxLevel ∧ descriptorType ≠ 3#64 then .error .unreachable
  else if level = maxLevel then
    if descriptorType ≠ 3#64 then .error .unreachable
    else do
      let permitted ← descriptorPermissionsChecked descriptor permissions level el access
      match permitted with
      | .error fault => .ok (.error (leafFault fault))
      | .ok p => do
        let pageShift ← narrow 8 m.granule.pageShift
        .ok (.ok (.leaf ⟨output, pageShift, p.writable, p.userAccessible, p.executableEl0,
          p.executablePrivileged, level8, entryAddress⟩))
  else .ok (.ok (.table (descriptor &&& addressMask) (permissions ||| (descriptor &&& hierarchyMask el))))

def walkStepChecked (m : VfMmu) (va : U64) (access : Access) (el : ExceptionLevel) (read64 : TableReader)
    (tableVa : U64) (level : ℕ) (table permissions : U64) :
    Checked (List U64 × Except TranslationFailure WalkStep) := do
  let (reads, read) ← m.readDescriptorChecked el read64 tableVa level table
  match read with
  | .error failure => .ok (reads, .error failure)
  | .ok (entryAddress, descriptor) => do
    let step ← m.finishChecked va access el level permissions entryAddress descriptor
    .ok (reads, step)

/-- The loop never falls through its last level. -/
def walkLoopChecked (m : VfMmu) (va : U64) (access : Access) (el : ExceptionLevel) (read64 : TableReader)
    (tableVa : U64) : (remaining : ℕ) → (table permissions : U64) →
      Checked (List U64 × Except TranslationFailure Leaf)
  | 0, _, _ => .error .unreachable
  | remaining + 1, table, permissions => do
    let (reads, step) ←
      m.walkStepChecked va access el read64 tableVa (maxLevel - remaining) table permissions
    match step with
    | .error failure => .ok (reads, .error failure)
    | .ok (.leaf leaf) => .ok (reads, .ok leaf)
    | .ok (.table table permissions) => do
      let (rest, result) ← m.walkLoopChecked va access el read64 tableVa remaining table permissions
      .ok (reads ++ rest, result)

def walkChecked (m : VfMmu) (va : U64) (access : Access) (el : ExceptionLevel) (read64 : TableReader) :
    Checked (List U64 × Except TranslationFailure Leaf) := do
  let selected ← m.selectRootChecked va
  match selected with
  | none => .error .unreachable
  | some (root, tsz, walkDisabled) => do
    let start ← m.granule.startLevelChecked tsz
    match start with
    | none => .error .unreachable
    | some startLevel =>
      if walkDisabled then .ok ([], .error (.architectural .translation (some 0) .input))
      else do
        let addressMask ← m.granule.addressMaskChecked
        let vaMask ← shr (BitVec.allOnes 64) tsz
        let tableVa := va &&& vaMask
        let table := root &&& addressMask
        if table &&& ~~~m.physicalAddressMask ≠ 0#64 then
          .ok ([], .error ((TranslationFailure.architectural .addressSize (some 0) .input).withOutput table))
        else do
          let levels ← subNat (maxLevel + 1) startLevel
          m.walkLoopChecked va access el read64 tableVa levels table 0

def cacheChecked (m : VfMmu) (va : U64) (el : ExceptionLevel) (leaf : Leaf) : Checked VfMmu := do
  let _tag ← shr va leaf.pageShift
  .ok (m.cache va el leaf)

def translateChecked (m : VfMmu) (va : U64) (access : Access) (el : ExceptionLevel)
    (read64 : TableReader) : Checked (List U64 × Except TranslationFailure Translation × VfMmu) :=
  if access = .execute ∧ va &&& 3#64 ≠ 0#64 then
    .ok ([], .error (.architectural .alignment none .input), m) else
  if m.enabled = false then do
    let pageShift ← narrow 8 m.granule.pageShift
    .ok ([], .ok ⟨va, true, true, pageShift, none⟩, m)
  else do
    let selected ← m.selectRootChecked va
    if selected.isNone then .ok ([], .error (.architectural .translation (some 0) .input), m)
    else do
      let found ← m.lookupChecked va access el m.tlb.toList
      match found with
      | .error failure => .ok ([], .error failure, m)
      | .ok (some hit) => .ok ([], .ok hit, m)
      | .ok none => do
        let (reads, walked) ← m.walkChecked va access el read64
        match walked with
        | .error failure => .ok (reads, .error failure, m)
        | .ok leaf => do
          let offsetMask ← lowMask 64 leaf.pageShift
          let pa := leaf.paBase ||| (va &&& offsetMask)
          let filled ← m.cacheChecked va el leaf
          .ok (reads, .ok (translation el pa leaf.pageShift leaf.permissions
            (if m.strictNc then some normalNc else none)), filled)

end VfMmu

end Nextcore.Mmu
