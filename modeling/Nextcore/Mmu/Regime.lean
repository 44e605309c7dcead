import Nextcore.Lib.Bytes

/-! The stage-1 regime of the canonical walker: granules, faults, the fixed
TLB and the two ways of configuring a `VfMmu` from TTBR0, TTBR1 and TCR. -/

namespace Nextcore.Mmu

inductive ExceptionLevel
  | el0 | el1 | el2 | el3
  deriving DecidableEq, Repr

def ExceptionLevel.el10 : ExceptionLevel → Bool
  | .el0 | .el1 => true
  | .el2 | .el3 => false

def ExceptionLevel.toNat : ExceptionLevel → ℕ
  | .el0 => 0
  | .el1 => 1
  | .el2 => 2
  | .el3 => 3

def ExceptionLevel.fromU8 : ℕ → Option ExceptionLevel
  | 0 => some .el0
  | 1 => some .el1
  | 2 => some .el2
  | 3 => some .el3
  | _ => none

def maxLevel : ℕ := 3
def physicalAddressMask : U64 := 0x0000ffffffffffff#64
def descriptorTypeMask : U64 := 3#64
def afBit : U64 := 1#64 <<< 10
def pxnBit : ℕ := 53
def uxnBit : ℕ := 54

inductive Granule
  | fourKiB | sixteenKiB
  deriving DecidableEq, Repr

namespace Granule

def pageShift : Granule → ℕ
  | fourKiB => 12
  | sixteenKiB => 14

def indexBits : Granule → ℕ
  | fourKiB => 9
  | sixteenKiB => 11

def validTsz : Granule → ℕ → Bool
  | fourKiB, tsz => 16 ≤ tsz && tsz ≤ 39
  | sixteenKiB, tsz => 17 ≤ tsz && tsz ≤ 47

def startLevel (g : Granule) (tsz : ℕ) : Option ℕ :=
  if !g.validTsz tsz then none
  else
    let vaBits := 64 - tsz
    let covered := vaBits - g.pageShift
    let levels := (covered + (g.indexBits - 1)) / g.indexBits
    if levels = 0 ∨ maxLevel + 1 < levels then none else some (maxLevel + 1 - levels)

def rootAlignment (g : Granule) : U64 := 1#64 <<< g.pageShift

def addressMask (g : Granule) : U64 := physicalAddressMask &&& ~~~(g.rootAlignment - 1#64)

def levelShift (g : Granule) (level : ℕ) : ℕ := g.pageShift + g.indexBits * (maxLevel - level)

end Granule

inductive Access
  | read | write | execute
  deriving DecidableEq, Repr

inductive Fault
  | addressSize | translation | permission | alignment | accessFlag
  deriving DecidableEq, Repr

inductive TableReadError
  | unavailable | externalAbort
  deriving DecidableEq, Repr

inductive TranslationFailureKind
  | architectural (fault : Fault)
  | tableRead (error : TableReadError)
  | unsupported
  deriving DecidableEq, Repr

inductive FaultContext
  | input | walk | leaf | cachedLeaf
  deriving DecidableEq, Repr

structure TranslationFailure where
  kind : TranslationFailureKind
  level : Option ℕ
  context : FaultContext
  descriptorPa : Option U64
  outputPa : Option U64
  deriving DecidableEq, Repr

namespace TranslationFailure

def architectural (fault : Fault) (level : Option ℕ) (context : FaultContext) :
    TranslationFailure :=
  ⟨.architectural fault, level, context, none, none⟩

def atDescriptor (f : TranslationFailure) (pa : U64) : TranslationFailure :=
  { f with descriptorPa := some pa }

def withOutput (f : TranslationFailure) (pa : U64) : TranslationFailure :=
  { f with outputPa := some pa }

end TranslationFailure

structure MemoryAttributes where
  attrIndex : Byte
  shareability : Byte
  mair : Byte
  deriving DecidableEq, Repr

def normalNc : MemoryAttributes := ⟨0#8, 0#8, 0x44#8⟩

structure Translation where
  pa : U64
  writable : Bool
  executable : Bool
  pageShift : ℕ
  attributes : Option MemoryAttributes
  deriving DecidableEq, Repr

structure TlbEntry where
  valid : Bool
  el10 : Bool
  asid : BitVec 16
  vaTag : U64
  paBase : U64
  pageShift : ℕ
  writable : Bool
  userAccessible : Bool
  executableEl0 : Bool
  executablePrivileged : Bool
  level : ℕ
  descriptorPa : U64
  attributes : Option MemoryAttributes
  deriving DecidableEq, Repr

def tlbEntry : TlbEntry :=
  { valid := false, el10 := false, asid := 0, vaTag := 0, paBase := 0, pageShift := 12,
    writable := false, userAccessible := false, executableEl0 := false,
    executablePrivileged := false, level := 3, descriptorPa := 0, attributes := none }

structure VfMmu where
  enabled : Bool
  ttbr0 : U64
  ttbr1 : U64
  tcrT0sz : ℕ
  tcrT1sz : ℕ
  asid : BitVec 16
  granule : Granule
  walkDisabled : Bool × Bool
  physicalAddressMask : U64
  tlb : Vector TlbEntry 16
  next : Fin 16
  strictNc : Bool
  deriving DecidableEq, Repr

namespace VfMmu

def disabled : VfMmu :=
  { enabled := false, ttbr0 := 0, ttbr1 := 0, tcrT0sz := 16, tcrT1sz := 0, asid := 0,
    granule := .fourKiB, walkDisabled := (false, false),
    physicalAddressMask := Mmu.physicalAddressMask,
    tlb := Vector.replicate 16 tlbEntry, next := 0, strictNc := false }

def invalidate (m : VfMmu) : VfMmu :=
  { m with tlb := Vector.replicate 16 tlbEntry, next := 0 }

def disable (m : VfMmu) : VfMmu := { m with enabled := false }.invalidate

/-- `TCR.IPS` as an output width; the 52 and 56 bit widths are rejected. -/
def physicalBits (tcr : U64) : Option ℕ :=
  match ((tcr >>> 32) &&& 7#64).toNat with
  | 0 => some 32
  | 1 => some 36
  | 2 => some 40
  | 3 => some 42
  | 4 => some 44
  | 5 => some 48
  | _ => none

def lowerGranule (tg0 : U64) : Option Granule :=
  if tg0 = 0#64 then some .fourKiB else if tg0 = 2#64 then some .sixteenKiB else none

def upperGranule (tg1 : U64) : Option Granule :=
  if tg1 = 1#64 then some .sixteenKiB else if tg1 = 2#64 then some .fourKiB else none

def configureTcr (m : VfMmu) (ttbr0 ttbr1 tcr : U64) (asid : BitVec 16) : VfMmu × Bool :=
  if tcr &&& (0xf#64 <<< 39) ≠ 0#64 then (m, false) else
  let t0sz := (tcr &&& 0x3f#64).toNat
  let t1sz := ((tcr >>> 16) &&& 0x3f#64).toNat
  match physicalBits tcr with
  | none => (m, false)
  | some bits =>
    if tcr &&& (1#64 <<< 59) ≠ 0#64 then (m, false) else
    match lowerGranule ((tcr >>> 14) &&& 3#64) with
    | none => (m, false)
    | some granule =>
      if tcr &&& ((1#64 <<< 37) ||| (1#64 <<< 38)) ≠ 0#64 then (m, false) else
      if t1sz ≠ 0 ∧ upperGranule ((tcr >>> 30) &&& 3#64) ≠ some granule then (m, false) else
      if (granule.startLevel t0sz).isNone ∨ ttbr0 &&& (granule.rootAlignment - 1#64) ≠ 0#64 then
        (m, false) else
      if t1sz ≠ 0 ∧ ((granule.startLevel t1sz).isNone ∨
          ttbr1 &&& (granule.rootAlignment - 1#64) ≠ 0#64) then (m, false) else
      (invalidate
        { m with
          enabled := true, strictNc := false, ttbr0 := ttbr0, ttbr1 := ttbr1,
          tcrT0sz := t0sz, tcrT1sz := t1sz, asid := asid, granule := granule,
          walkDisabled := (tcr &&& (1#64 <<< 7) ≠ 0#64, tcr &&& (1#64 <<< 23) ≠ 0#64),
          physicalAddressMask := (1#64 <<< bits) - 1#64 }, true)

def configureStrictNc (m : VfMmu) (ttbr0 ttbr1 tcr : U64) : VfMmu × Bool :=
  if tcr &&& (1#64 <<< 36) ≠ 0#64 ∨ (ttbr0 ||| ttbr1) >>> 56 ≠ 0#64 then (m, false) else
  let selected := if tcr &&& (1#64 <<< 22) ≠ 0#64 then ttbr1 else ttbr0
  match m.configureTcr ttbr0 ttbr1 tcr ((selected >>> 48) &&& 255#64).toNat with
  | (candidate, true) => ({ candidate with strictNc := true }, true)
  | (_, false) => (m, false)

def selectRoot (m : VfMmu) (va : U64) : Option (U64 × ℕ × Bool) :=
  if (m.granule.startLevel m.tcrT0sz).isSome ∧ va >>> (64 - m.tcrT0sz) = 0#64 then
    some (m.ttbr0, m.tcrT0sz, m.walkDisabled.1)
  else if m.tcrT1sz ≠ 0 ∧ (m.granule.startLevel m.tcrT1sz).isSome ∧
      va >>> (64 - m.tcrT1sz) = (1#64 <<< m.tcrT1sz) - 1#64 then
    some (m.ttbr1, m.tcrT1sz, m.walkDisabled.2)
  else none

def canonicalVa (m : VfMmu) (va : U64) : Bool := (m.selectRoot va).isSome

end VfMmu

end Nextcore.Mmu
