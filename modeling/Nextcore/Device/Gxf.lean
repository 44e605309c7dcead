import Nextcore.Lib.Bytes
import Nextcore.Lib.Run

/-! `apple_gxf_v1.c`: the guarded execution mode and its registers. -/

namespace Nextcore.Device

inductive GxfReg
  | gxfConfigEl1 | gxfStatusEl1 | gxfEnterEl1 | gxfAbortEl1
  | aspsrGl11 | spGl11 | tpidrGl11 | vbarGl11 | spsrGl11 | esrGl11 | elrGl11 | farGl11
  | tpidrEl1 | vbarEl1 | spsrEl1 | elrEl1 | esrEl1 | farEl1
  | sctlrEl1 | ttbr0El1 | ttbr1El1 | tcrEl1 | hcrEl2 | vmsaLockEl1
  | sprrConfigEl1 | sprrConfigEl0 | sprrEl0br0El1 | sprrEl0br1El1 | sprrEl1br0El1 | sprrEl1br1El1
  | mprrEl0br0El1 | mprrEl0br1El1 | mprrEl1br0El1 | mprrEl1br1El1
  deriving DecidableEq, Repr

namespace GxfReg

def sysreg (op0 op1 crn crm op2 : U32) : U32 :=
  (op0 <<< 16) ||| (op1 <<< 12) ||| (crn <<< 8) ||| (crm <<< 4) ||| op2

def code : GxfReg → U32
  | gxfConfigEl1 => sysreg 3#32 6#32 15#32 1#32 2#32
  | gxfStatusEl1 => sysreg 3#32 6#32 15#32 8#32 0#32
  | gxfEnterEl1 => sysreg 3#32 6#32 15#32 8#32 1#32
  | gxfAbortEl1 => sysreg 3#32 6#32 15#32 8#32 2#32
  | aspsrGl11 => sysreg 3#32 6#32 15#32 8#32 3#32
  | spGl11 => sysreg 3#32 6#32 15#32 9#32 0#32
  | tpidrGl11 => sysreg 3#32 6#32 15#32 9#32 1#32
  | vbarGl11 => sysreg 3#32 6#32 15#32 9#32 2#32
  | spsrGl11 => sysreg 3#32 6#32 15#32 9#32 3#32
  | esrGl11 => sysreg 3#32 6#32 15#32 9#32 5#32
  | elrGl11 => sysreg 3#32 6#32 15#32 9#32 6#32
  | farGl11 => sysreg 3#32 6#32 15#32 9#32 7#32
  | tpidrEl1 => sysreg 3#32 0#32 13#32 0#32 4#32
  | vbarEl1 => sysreg 3#32 0#32 12#32 0#32 0#32
  | spsrEl1 => sysreg 3#32 0#32 4#32 0#32 0#32
  | elrEl1 => sysreg 3#32 0#32 4#32 0#32 1#32
  | esrEl1 => sysreg 3#32 0#32 5#32 2#32 0#32
  | farEl1 => sysreg 3#32 0#32 6#32 0#32 0#32
  | sctlrEl1 => sysreg 3#32 0#32 1#32 0#32 0#32
  | ttbr0El1 => sysreg 3#32 0#32 2#32 0#32 0#32
  | ttbr1El1 => sysreg 3#32 0#32 2#32 0#32 1#32
  | tcrEl1 => sysreg 3#32 0#32 2#32 0#32 2#32
  | hcrEl2 => sysreg 3#32 4#32 1#32 1#32 0#32
  | vmsaLockEl1 => sysreg 3#32 4#32 15#32 1#32 2#32
  | sprrConfigEl1 => sysreg 3#32 6#32 15#32 1#32 0#32
  | sprrConfigEl0 => sysreg 3#32 6#32 15#32 1#32 1#32
  | sprrEl0br0El1 => sysreg 3#32 6#32 15#32 1#32 5#32
  | sprrEl0br1El1 => sysreg 3#32 6#32 15#32 1#32 6#32
  | sprrEl1br0El1 => sysreg 3#32 6#32 15#32 1#32 7#32
  | sprrEl1br1El1 => sysreg 3#32 6#32 15#32 3#32 0#32
  | mprrEl0br0El1 => sysreg 3#32 6#32 15#32 3#32 1#32
  | mprrEl0br1El1 => sysreg 3#32 6#32 15#32 3#32 2#32
  | mprrEl1br0El1 => sysreg 3#32 6#32 15#32 3#32 3#32
  | mprrEl1br1El1 => sysreg 3#32 6#32 15#32 3#32 4#32

def all : List GxfReg :=
  [gxfConfigEl1, gxfStatusEl1, gxfEnterEl1, gxfAbortEl1, aspsrGl11, spGl11, tpidrGl11, vbarGl11, spsrGl11,
    esrGl11, elrGl11, farGl11, tpidrEl1, vbarEl1, spsrEl1, elrEl1, esrEl1, farEl1, sctlrEl1, ttbr0El1, ttbr1El1,
    tcrEl1, hcrEl2, vmsaLockEl1, sprrConfigEl1, sprrConfigEl0, sprrEl0br0El1, sprrEl0br1El1, sprrEl1br0El1,
    sprrEl1br1El1, mprrEl0br0El1, mprrEl0br1El1, mprrEl1br0El1, mprrEl1br1El1]

def decode (reg : U32) : Option GxfReg := all.find? fun r => decide (r.code = reg)

lemma decode_code (r : GxfReg) : decode r.code = some r := by cases r <;> decide

lemma code_of_decode {reg : U32} {r : GxfReg} (h : decode reg = some r) : reg = r.code := by
  have hr := List.find?_some h
  exact (of_decide_eq_true hr).symm

end GxfReg

namespace Gxf

abbrev configEn : U64 := 1#64
abbrev statusGuarded : U64 := 1#64
abbrev aspsrNest : U64 := 1#64
abbrev hcrTvm : U64 := 1#64 <<< 26
abbrev hcrTrvm : U64 := 1#64 <<< 30
abbrev vmsaLockVbarEl1 : U64 := 1#64 <<< 0
abbrev vmsaLockSctlrEl1 : U64 := 1#64 <<< 1
abbrev vmsaLockTcrEl1 : U64 := 1#64 <<< 2
abbrev vmsaLockTtbr0El1 : U64 := 1#64 <<< 3
abbrev vmsaLockTtbr1El1 : U64 := 1#64 <<< 4
abbrev vmsaLockSctlrMBit : U64 := 1#64 <<< 63
abbrev sctlrM : U64 := 1#64 <<< 0
abbrev excpSync : ℕ := 0
abbrev excpSerr : ℕ := 3
abbrev vbarTableLowerA32 : ℕ := 3

end Gxf

structure GuardedBank where
  aspsr : U64
  sp : U64
  tpidr : U64
  vbar : U64
  spsr : U64
  esr : U64
  elr : U64
  far : U64
  deriving DecidableEq, Repr

structure NormalBank where
  tpidr : U64
  vbar : U64
  spsr : U64
  elr : U64
  esr : U64
  far : U64
  deriving DecidableEq, Repr

/-- `vf_apple_gxf_v1`. The flush hook with its context is a value of `κ`; what it
does lies outside this device. -/
structure VfAppleGxf (κ : Type) where
  guarded : Bool
  gxfConfigEl1 : U64
  gxfStatusEl1 : U64
  gxfEnterEl1 : U64
  gxfAbortEl1 : U64
  gl11 : GuardedBank
  el1 : NormalBank
  hcrEl2 : U64
  vmsaLockEl1 : U64
  sctlrEl1 : U64
  tcrEl1 : U64
  ttbr0El1 : U64
  ttbr1El1 : U64
  sprrConfigEl1 : U64
  sprrConfigEl0 : U64
  sprrEl0br0El1 : U64
  sprrEl0br1El1 : U64
  sprrEl1br0El1 : U64
  sprrEl1br1El1 : U64
  mprrEl0br0El1 : U64
  mprrEl0br1El1 : U64
  mprrEl1br0El1 : U64
  mprrEl1br1El1 : U64
  sprrPermGeneration : U64
  sprrTlbFlushCount : U64
  sprrTlbFlush : Option κ
  gxfModeGeneration : U64

namespace VfAppleGxf

open Gxf

variable {κ : Type}

def init : VfAppleGxf κ where
  guarded := false
  gxfConfigEl1 := 0#64
  gxfStatusEl1 := 0#64
  gxfEnterEl1 := 0#64
  gxfAbortEl1 := 0#64
  gl11 := ⟨0#64, 0#64, 0#64, 0#64, 0#64, 0#64, 0#64, 0#64⟩
  el1 := ⟨0#64, 0#64, 0#64, 0#64, 0#64, 0#64⟩
  hcrEl2 := 0#64
  vmsaLockEl1 := 0#64
  sctlrEl1 := 0#64
  tcrEl1 := 0#64
  ttbr0El1 := 0#64
  ttbr1El1 := 0#64
  sprrConfigEl1 := 0#64
  sprrConfigEl0 := 0#64
  sprrEl0br0El1 := 0#64
  sprrEl0br1El1 := 0#64
  sprrEl1br0El1 := 0#64
  sprrEl1br1El1 := 0#64
  mprrEl0br0El1 := 0#64
  mprrEl0br1El1 := 0#64
  mprrEl1br0El1 := 0#64
  mprrEl1br1El1 := 0#64
  sprrPermGeneration := 0#64
  sprrTlbFlushCount := 0#64
  sprrTlbFlush := none
  gxfModeGeneration := 0#64

def isGuarded (g : VfAppleGxf κ) : Bool := decide (g.gxfStatusEl1 &&& statusGuarded ≠ 0#64)

def syncGuardedFromStatus (g : VfAppleGxf κ) : VfAppleGxf κ := { g with guarded := g.isGuarded }

def setGuarded (g : VfAppleGxf κ) (guarded : Bool) : VfAppleGxf κ :=
  syncGuardedFromStatus { g with
    gxfStatusEl1 := if guarded then g.gxfStatusEl1 ||| statusGuarded else g.gxfStatusEl1 &&& ~~~statusGuarded }

def guardedOnly (g : VfAppleGxf κ) : GxfReg → Bool
  | .aspsrGl11 | .spGl11 | .tpidrGl11 | .vbarGl11 | .spsrGl11 | .esrGl11 | .elrGl11 | .farGl11 => !g.guarded
  | _ => false

def tvmTrvmBlocks (g : VfAppleGxf κ) (reg : GxfReg) (isread : Bool) (el : ℕ) : Bool :=
  if el ≠ 1 then false
  else
    match reg with
    | .esrEl1 | .farEl1 =>
      if isread then decide (g.hcrEl2 &&& hcrTrvm ≠ 0#64) else decide (g.hcrEl2 &&& hcrTvm ≠ 0#64)
    | _ => false

def vmsaLocked (g : VfAppleGxf κ) (guarded : Bool) (el : ℕ) (lockBit : U64) : Bool :=
  if guarded ∨ el ≠ 1 then false else decide (g.vmsaLockEl1 &&& lockBit ≠ 0#64)

def el1AliasRead (g : VfAppleGxf κ) (reg : GxfReg) (el : ℕ) : Option U64 :=
  if g.tvmTrvmBlocks reg true el then none
  else
    match reg with
    | .tpidrEl1 => some (if g.guarded then g.gl11.tpidr else g.el1.tpidr)
    | .vbarEl1 => some (if g.guarded then g.gl11.vbar else g.el1.vbar)
    | .spsrEl1 => some (if g.guarded then g.gl11.spsr else g.el1.spsr)
    | .elrEl1 => some (if g.guarded then g.gl11.elr else g.el1.elr)
    | .esrEl1 => some (if g.guarded then g.gl11.esr else g.el1.esr)
    | .farEl1 => some (if g.guarded then g.gl11.far else g.el1.far)
    | _ => none

def el1AliasWrite (g : VfAppleGxf κ) (reg : GxfReg) (value : U64) (el : ℕ) : Option (VfAppleGxf κ) :=
  let vbar := value &&& ~~~0x1f#64
  if g.tvmTrvmBlocks reg false el then none
  else
    match reg with
    | .tpidrEl1 =>
      some (if g.guarded then { g with gl11.tpidr := value } else { g with el1.tpidr := value })
    | .vbarEl1 =>
      if g.vmsaLocked g.guarded el vmsaLockVbarEl1 then some g
      else some (if g.guarded then { g with gl11.vbar := vbar } else { g with el1.vbar := vbar })
    | .spsrEl1 =>
      some (if g.guarded then { g with gl11.spsr := value } else { g with el1.spsr := value })
    | .elrEl1 =>
      some (if g.guarded then { g with gl11.elr := value } else { g with el1.elr := value })
    | .esrEl1 =>
      some (if g.guarded then { g with gl11.esr := value } else { g with el1.esr := value })
    | .farEl1 =>
      some (if g.guarded then { g with gl11.far := value } else { g with el1.far := value })
    | _ => none

def mergeSlot (orig requested mprrEl0br0 perm : U64) (i : ℕ) : U64 :=
  let shift := i * 4
  let allow := (mprrEl0br0 >>> (i * 2)) &&& 0x3#64
  let req := (requested >>> shift) &&& 0x7#64
  let old := (orig >>> shift) &&& 0x7#64
  let changed := (req ^^^ old) &&& allow
  let result := (old &&& ~~~changed) ||| (req &&& changed)
  (perm &&& ~~~(0x7#64 <<< shift)) ||| (result <<< shift)

def mergeSprrEl0br0 (orig requested mprrEl0br0 : U64) : U64 :=
  (List.range 16).foldl (mergeSlot orig requested mprrEl0br0) orig

def sprrPermChanged (g : VfAppleGxf κ) : VfAppleGxf κ × Option (κ × U64) :=
  ({ g with
      sprrPermGeneration := g.sprrPermGeneration + 1#64
      sprrTlbFlushCount := g.sprrTlbFlushCount + 1#64 },
    g.sprrTlbFlush.map fun hook => (hook, g.sprrPermGeneration + 1#64))

def read (g : VfAppleGxf κ) (reg : U32) : Option U64 :=
  (GxfReg.decode reg).bind fun reg =>
    if g.guardedOnly reg then none
    else
      (g.el1AliasRead reg 1).or
        (match reg with
          | .gxfConfigEl1 => some g.gxfConfigEl1
          | .gxfStatusEl1 => some g.gxfStatusEl1
          | .gxfEnterEl1 => some g.gxfEnterEl1
          | .gxfAbortEl1 => some g.gxfAbortEl1
          | .aspsrGl11 => some g.gl11.aspsr
          | .spGl11 => some g.gl11.sp
          | .tpidrGl11 => some g.gl11.tpidr
          | .vbarGl11 => some g.gl11.vbar
          | .spsrGl11 => some g.gl11.spsr
          | .esrGl11 => some g.gl11.esr
          | .elrGl11 => some g.gl11.elr
          | .farGl11 => some g.gl11.far
          | .hcrEl2 => none
          | .vmsaLockEl1 => some g.vmsaLockEl1
          | .sctlrEl1 => some g.sctlrEl1
          | .tcrEl1 => some g.tcrEl1
          | .ttbr0El1 => some g.ttbr0El1
          | .ttbr1El1 => some g.ttbr1El1
          | .sprrConfigEl1 => some g.sprrConfigEl1
          | .sprrConfigEl0 => some g.sprrConfigEl0
          | .sprrEl0br0El1 => some g.sprrEl0br0El1
          | .sprrEl0br1El1 => some g.sprrEl0br1El1
          | .sprrEl1br0El1 => some g.sprrEl1br0El1
          | .sprrEl1br1El1 => some g.sprrEl1br1El1
          | .mprrEl0br0El1 => some g.mprrEl0br0El1
          | .mprrEl0br1El1 => some g.mprrEl0br1El1
          | .mprrEl1br0El1 => some g.mprrEl1br0El1
          | .mprrEl1br1El1 => some g.mprrEl1br1El1
          | _ => none)

def writeEl (g : VfAppleGxf κ) (reg : U32) (value : U64) (el : ℕ) : Option (VfAppleGxf κ × Option (κ × U64)) :=
  (GxfReg.decode reg).bind fun reg =>
    if g.guardedOnly reg then none
    else
      ((g.el1AliasWrite reg value el).map (·, none)).or
        (match reg with
          | .gxfConfigEl1 => some ({ g with gxfConfigEl1 := value }, none)
          | .gxfEnterEl1 => some ({ g with gxfEnterEl1 := value }, none)
          | .gxfAbortEl1 => some ({ g with gxfAbortEl1 := value }, none)
          | .aspsrGl11 => some ({ g with gl11.aspsr := value }, none)
          | .spGl11 => some ({ g with gl11.sp := value }, none)
          | .tpidrGl11 => some ({ g with gl11.tpidr := value }, none)
          | .vbarGl11 => some ({ g with gl11.vbar := value &&& ~~~0x1f#64 }, none)
          | .spsrGl11 => some ({ g with gl11.spsr := value }, none)
          | .esrGl11 => some ({ g with gl11.esr := value }, none)
          | .elrGl11 => some ({ g with gl11.elr := value }, none)
          | .farGl11 => some ({ g with gl11.far := value }, none)
          | .hcrEl2 => if el < 2 then none else some ({ g with hcrEl2 := value }, none)
          | .vmsaLockEl1 => some ({ g with vmsaLockEl1 := g.vmsaLockEl1 ||| value }, none)
          | .sctlrEl1 =>
            if g.vmsaLocked g.guarded el vmsaLockSctlrEl1 then some (g, none)
            else if g.vmsaLocked g.guarded el vmsaLockSctlrMBit then
              some ({ g with sctlrEl1 := (value &&& ~~~sctlrM) ||| (g.sctlrEl1 &&& sctlrM) }, none)
            else some ({ g with sctlrEl1 := value }, none)
          | .tcrEl1 =>
            if g.vmsaLocked g.guarded el vmsaLockTcrEl1 then some (g, none)
            else some ({ g with tcrEl1 := value }, none)
          | .ttbr0El1 =>
            if g.vmsaLocked g.guarded el vmsaLockTtbr0El1 then some (g, none)
            else some ({ g with ttbr0El1 := value }, none)
          | .ttbr1El1 =>
            if g.vmsaLocked g.guarded el vmsaLockTtbr1El1 then some (g, none)
            else some ({ g with ttbr1El1 := value }, none)
          | .sprrConfigEl1 => some ({ g with sprrConfigEl1 := value }, none)
          | .sprrConfigEl0 => some ({ g with sprrConfigEl0 := value }, none)
          | .sprrEl0br0El1 =>
            if el = 0 then
              some (sprrPermChanged { g with
                sprrEl0br0El1 := mergeSprrEl0br0 g.sprrEl0br0El1 value g.mprrEl0br0El1 })
            else some ({ g with sprrEl0br0El1 := value }, none)
          | .sprrEl0br1El1 => some ({ g with sprrEl0br1El1 := value }, none)
          | .sprrEl1br0El1 => some ({ g with sprrEl1br0El1 := value }, none)
          | .sprrEl1br1El1 => some ({ g with sprrEl1br1El1 := value }, none)
          | .mprrEl0br0El1 => some ({ g with mprrEl0br0El1 := value }, none)
          | .mprrEl0br1El1 => some ({ g with mprrEl0br1El1 := value }, none)
          | .mprrEl1br0El1 => some ({ g with mprrEl1br0El1 := value }, none)
          | .mprrEl1br1El1 => some ({ g with mprrEl1br1El1 := value }, none)
          | _ => none)

def genter (g : VfAppleGxf κ) (returnPc spsr : U64) : Option (VfAppleGxf κ × U64) :=
  if g.gxfConfigEl1 &&& configEn = 0#64 then none
  else if g.isGuarded then none
  else
    let g' := syncGuardedFromStatus { g with
      gl11 := { g.gl11 with elr := returnPc, spsr := spsr, aspsr := g.gl11.aspsr &&& ~~~aspsrNest }
      gxfStatusEl1 := g.gxfStatusEl1 ||| statusGuarded }
    some ({ g' with gxfModeGeneration := g'.gxfModeGeneration + 1#64 }, g'.gxfEnterEl1)

def abort (g : VfAppleGxf κ) (returnPc spsr esr far : U64) : Option (VfAppleGxf κ × U64) :=
  if g.gxfConfigEl1 &&& configEn = 0#64 then none
  else
    let bank := { g.gl11 with elr := returnPc, spsr := spsr, esr := esr, far := far }
    let g' :=
      if g.isGuarded then { g with gl11 := { bank with aspsr := bank.aspsr ||| aspsrNest } }
      else syncGuardedFromStatus { g with
        gl11 := { bank with aspsr := bank.aspsr &&& ~~~aspsrNest }
        gxfStatusEl1 := g.gxfStatusEl1 ||| statusGuarded }
    some ({ g' with gxfModeGeneration := g'.gxfModeGeneration + 1#64 }, g'.gxfAbortEl1)

def takeException (g : VfAppleGxf κ) (kind table : ℕ) (returnPc spsr esr far : U64) :
    Option (VfAppleGxf κ × U64) :=
  if excpSerr < kind ∨ vbarTableLowerA32 < table then none
  else
    let base := if g.isGuarded then g.gl11.vbar else g.el1.vbar
    let offset := BitVec.ofNat 64 table * 0x200#64 + BitVec.ofNat 64 kind * 0x80#64
    if BitVec.allOnes 64 - offset < base then none
    else
      let syndrome := kind = excpSync ∨ kind = excpSerr
      some (
        if g.isGuarded then
          { g with gl11 := { g.gl11 with
              elr := returnPc
              spsr := spsr
              esr := if syndrome then esr else g.gl11.esr
              far := if kind = excpSync then far else g.gl11.far } }
        else
          { g with el1 := { g.el1 with
              elr := returnPc
              spsr := spsr
              esr := if syndrome then esr else g.el1.esr
              far := if kind = excpSync then far else g.el1.far } },
        base + offset)

def gexit (g : VfAppleGxf κ) : Option (VfAppleGxf κ × U64) :=
  if g.isGuarded then
    let g' :=
      if g.gl11.aspsr &&& aspsrNest ≠ 0#64 then { g with gl11.aspsr := g.gl11.aspsr &&& ~~~aspsrNest }
      else syncGuardedFromStatus { g with gxfStatusEl1 := g.gxfStatusEl1 &&& ~~~statusGuarded }
    some ({ g' with gxfModeGeneration := g'.gxfModeGeneration + 1#64 }, g.gl11.elr)
  else none

inductive TcgKind
  | none | genter | gexit
  deriving DecidableEq, Repr

def tcgClassify (insn : U32) : TcgKind :=
  if insn >>> 31 &&& 1#32 ≠ 0#32 then .none
  else if insn >>> 25 &&& 0xf#32 ≠ 0#32 then .none
  else if insn >>> 10 &&& 0x3f#32 ≠ 5#32 then .none
  else if insn >>> 5 &&& 0x1f#32 = 1#32 then .genter
  else if insn >>> 5 &&& 0x1f#32 = 0#32 then .gexit
  else .none

def tcgExec (g : VfAppleGxf κ) (insn : U32) (el : ℕ) (returnPc spsr : U64) : Option (VfAppleGxf κ × U64) :=
  if el = 0 then none
  else
    match tcgClassify insn with
    | .genter => g.genter returnPc spsr
    | .gexit => g.gexit
    | .none => none

inductive GxfOp (κ : Type)
  | read (reg : U32)
  | writeEl (reg : U32) (value : U64) (el : ℕ)
  | genter (returnPc spsr : U64)
  | abort (returnPc spsr esr far : U64)
  | takeException (kind table : ℕ) (returnPc spsr esr far : U64)
  | gexit
  | tcgExec (insn : U32) (el : ℕ) (returnPc spsr : U64)
  | setGuarded (guarded : Bool)
  | isGuarded
  | setHcrEl2 (hcrEl2 : U64)
  | getHcrEl2
  | setVmsaLockEl1 (vmsaLockEl1 : U64)
  | getVmsaLockEl1
  | setSprrTlbFlush (hook : Option κ)
  | sprrPermGeneration
  | sprrTlbFlushCount

inductive GxfAnswer (κ : Type)
  | refused
  | done (value : U64) (call : Option (κ × U64))

def answerPc (g : VfAppleGxf κ) : Option (VfAppleGxf κ × U64) → GxfAnswer κ × VfAppleGxf κ
  | none => (.refused, g)
  | some (g', pc) => (.done pc none, g')

def step (g : VfAppleGxf κ) : GxfOp κ → GxfAnswer κ × VfAppleGxf κ
  | .read reg => ((g.read reg).elim .refused (.done · none), g)
  | .writeEl reg value el =>
    match g.writeEl reg value el with
    | none => (.refused, g)
    | some (g', call) => (.done 0#64 call, g')
  | .genter returnPc spsr => g.answerPc (g.genter returnPc spsr)
  | .abort returnPc spsr esr far => g.answerPc (g.abort returnPc spsr esr far)
  | .takeException kind table returnPc spsr esr far =>
    g.answerPc (g.takeException kind table returnPc spsr esr far)
  | .gexit => g.answerPc g.gexit
  | .tcgExec insn el returnPc spsr => g.answerPc (g.tcgExec insn el returnPc spsr)
  | .setGuarded guarded => (.done 0#64 none, g.setGuarded guarded)
  | .isGuarded => (.done (if g.isGuarded then 1#64 else 0#64) none, g)
  | .setHcrEl2 hcrEl2 => (.done 0#64 none, { g with hcrEl2 := hcrEl2 })
  | .getHcrEl2 => (.done g.hcrEl2 none, g)
  | .setVmsaLockEl1 lock => (.done 0#64 none, { g with vmsaLockEl1 := lock })
  | .getVmsaLockEl1 => (.done g.vmsaLockEl1 none, g)
  | .setSprrTlbFlush hook => (.done 0#64 none, { g with sprrTlbFlush := hook })
  | .sprrPermGeneration => (.done g.sprrPermGeneration none, g)
  | .sprrTlbFlushCount => (.done g.sprrTlbFlushCount none, g)

abbrev GxfEntry (κ : Type) := Run.Entry (VfAppleGxf κ) (GxfOp κ) (GxfAnswer κ)

structure Wrote (g : VfAppleGxf κ) (r : GxfReg) (value : U64) (el : ℕ) (g' : VfAppleGxf κ) : Prop where
  guarded : g'.guarded = g.guarded
  status : g'.gxfStatusEl1 = g.gxfStatusEl1
  lock : g'.vmsaLockEl1 = if r = .vmsaLockEl1 then g.vmsaLockEl1 ||| value else g.vmsaLockEl1
  vbar : g'.el1.vbar =
    if r = .vbarEl1 ∧ g.guarded = false ∧ g.vmsaLocked g.guarded el vmsaLockVbarEl1 = false then value &&& ~~~0x1f#64
    else g.el1.vbar
  sctlr : g'.sctlrEl1 =
    if r = .sctlrEl1 ∧ g.vmsaLocked g.guarded el vmsaLockSctlrEl1 = false then
      (if g.vmsaLocked g.guarded el vmsaLockSctlrMBit = true then (value &&& ~~~sctlrM) ||| (g.sctlrEl1 &&& sctlrM)
        else value)
    else g.sctlrEl1
  tcr : g'.tcrEl1 =
    if r = .tcrEl1 ∧ g.vmsaLocked g.guarded el vmsaLockTcrEl1 = false then value else g.tcrEl1
  ttbr0 : g'.ttbr0El1 =
    if r = .ttbr0El1 ∧ g.vmsaLocked g.guarded el vmsaLockTtbr0El1 = false then value else g.ttbr0El1
  ttbr1 : g'.ttbr1El1 =
    if r = .ttbr1El1 ∧ g.vmsaLocked g.guarded el vmsaLockTtbr1El1 = false then value else g.ttbr1El1

lemma wrote_other {g g' : VfAppleGxf κ} {r : GxfReg} {value : U64} {el : ℕ}
    (hr : r ∉ [GxfReg.vmsaLockEl1, .vbarEl1, .sctlrEl1, .tcrEl1, .ttbr0El1, .ttbr1El1])
    (h : g'.guarded = g.guarded ∧ g'.gxfStatusEl1 = g.gxfStatusEl1 ∧ g'.vmsaLockEl1 = g.vmsaLockEl1 ∧
      g'.el1.vbar = g.el1.vbar ∧ g'.sctlrEl1 = g.sctlrEl1 ∧ g'.tcrEl1 = g.tcrEl1 ∧ g'.ttbr0El1 = g.ttbr0El1 ∧
      g'.ttbr1El1 = g.ttbr1El1) : Wrote g r value el g' := by
  simp only [List.mem_cons, List.not_mem_nil, or_false, not_or] at hr
  obtain ⟨h1, h2, h3, h4, h5, h6⟩ := hr
  obtain ⟨hguarded, hstatus, hlock, hvbar, hsctlr, htcr, httbr0, httbr1⟩ := h
  exact ⟨hguarded, hstatus, by rw [if_neg h1, hlock], by rw [if_neg (fun h => h2 h.1), hvbar],
    by rw [if_neg (fun h => h3 h.1), hsctlr], by rw [if_neg (fun h => h4 h.1), htcr],
    by rw [if_neg (fun h => h5 h.1), httbr0], by rw [if_neg (fun h => h6 h.1), httbr1]⟩

lemma wrote_alias {g g' : VfAppleGxf κ} {r : GxfReg} {value : U64} {el : ℕ}
    (h : g.el1AliasWrite r value el = some g') : Wrote g r value el g' := by
  unfold el1AliasWrite at h
  by_cases hblock : g.tvmTrvmBlocks r false el = true
  · rw [if_pos hblock] at h
    exact absurd h (by simp)
  rw [if_neg hblock] at h
  cases r with
  | vbarEl1 =>
    dsimp only at h
    have hout : ∀ g', g'.guarded = g.guarded → g'.gxfStatusEl1 = g.gxfStatusEl1 → g'.vmsaLockEl1 = g.vmsaLockEl1 →
        g'.sctlrEl1 = g.sctlrEl1 → g'.tcrEl1 = g.tcrEl1 → g'.ttbr0El1 = g.ttbr0El1 → g'.ttbr1El1 = g.ttbr1El1 →
        (g'.el1.vbar = if g.guarded = false ∧ g.vmsaLocked g.guarded el vmsaLockVbarEl1 = false then
          value &&& ~~~0x1f#64 else g.el1.vbar) → Wrote g .vbarEl1 value el g' := by
      intro g' hguarded hstatus hlock hsctlr htcr httbr0 httbr1 hvbar
      refine ⟨hguarded, hstatus, ?_, ?_, ?_, ?_, ?_, ?_⟩ <;>
        simp only [reduceCtorEq, false_and, if_false, true_and, hlock, hsctlr, htcr, httbr0, httbr1]
      exact hvbar
    by_cases hlock : g.vmsaLocked g.guarded el vmsaLockVbarEl1 = true
    · rw [if_pos hlock] at h
      obtain rfl := Option.some.inj h
      exact hout g rfl rfl rfl rfl rfl rfl rfl (by rw [if_neg (fun hl => by rw [hl.2] at hlock; simp at hlock)])
    · rw [if_neg hlock] at h
      obtain rfl := Option.some.inj h
      by_cases hg : g.guarded = true
      · rw [if_pos hg]
        exact hout _ rfl rfl rfl rfl rfl rfl rfl (by rw [if_neg (fun hl => by rw [hl.1] at hg; simp at hg)])
      · rw [if_neg hg]
        exact hout _ rfl rfl rfl rfl rfl rfl rfl (by rw [if_pos ⟨by simpa using hg, by simpa using hlock⟩])
  | tpidrEl1 | spsrEl1 | elrEl1 | esrEl1 | farEl1 =>
    obtain rfl := Option.some.inj h
    refine wrote_other (by decide) ?_
    split <;> exact ⟨rfl, rfl, rfl, rfl, rfl, rfl, rfl, rfl⟩
  | _ => exact absurd h (by simp)

lemma wrote_of_writeEl {g g' : VfAppleGxf κ} {reg : U32} {value : U64} {el : ℕ} {call : Option (κ × U64)}
    (h : g.writeEl reg value el = some (g', call)) : ∃ r, reg = r.code ∧ Wrote g r value el g' := by
  rw [writeEl] at h
  obtain ⟨r, hr, h⟩ := Option.bind_eq_some_iff.mp h
  refine ⟨r, GxfReg.code_of_decode hr, ?_⟩
  by_cases hrefused : g.guardedOnly r = true
  · rw [if_pos hrefused] at h
    exact absurd h (by simp)
  rw [if_neg hrefused] at h
  cases halias : g.el1AliasWrite r value el with
  | some g'' =>
    rw [halias] at h
    obtain ⟨rfl, -⟩ := Prod.mk.inj (Option.some.inj h)
    exact wrote_alias halias
  | none =>
    rw [halias, Option.map_none, Option.none_or] at h
    cases r with
    | tpidrEl1 | vbarEl1 | spsrEl1 | elrEl1 | esrEl1 | farEl1 | gxfStatusEl1 => exact absurd h (by simp)
    | hcrEl2 =>
      dsimp only at h
      split at h
      · exact absurd h (by simp)
      · obtain ⟨rfl, -⟩ := Prod.mk.inj (Option.some.inj h)
        exact wrote_other (by decide) ⟨rfl, rfl, rfl, rfl, rfl, rfl, rfl, rfl⟩
    | sprrEl0br0El1 =>
      dsimp only at h
      split at h
      all_goals
        obtain ⟨rfl, -⟩ := Prod.mk.inj (Option.some.inj h)
        exact wrote_other (by decide) ⟨rfl, rfl, rfl, rfl, rfl, rfl, rfl, rfl⟩
    | vmsaLockEl1 =>
      obtain ⟨rfl, -⟩ := Prod.mk.inj (Option.some.inj h)
      refine ⟨rfl, rfl, rfl, ?_, ?_, ?_, ?_, ?_⟩ <;> simp only [reduceCtorEq, false_and, if_false]
    | sctlrEl1 =>
      dsimp only at h
      by_cases hfull : g.vmsaLocked g.guarded el vmsaLockSctlrEl1 = true
      · rw [if_pos hfull] at h
        obtain ⟨rfl, -⟩ := Prod.mk.inj (Option.some.inj h)
        refine ⟨rfl, rfl, ?_, ?_, ?_, ?_, ?_, ?_⟩ <;>
          simp only [reduceCtorEq, false_and, if_false, hfull, Bool.true_eq_false, and_false]
      · rw [if_neg hfull] at h
        rw [Bool.not_eq_true] at hfull
        by_cases hm : g.vmsaLocked g.guarded el vmsaLockSctlrMBit = true
        · rw [if_pos hm] at h
          obtain ⟨rfl, -⟩ := Prod.mk.inj (Option.some.inj h)
          refine ⟨rfl, rfl, ?_, ?_, ?_, ?_, ?_, ?_⟩ <;>
            simp only [reduceCtorEq, false_and, if_false, hfull, hm, and_true, if_true]
        · rw [if_neg hm] at h
          obtain ⟨rfl, -⟩ := Prod.mk.inj (Option.some.inj h)
          refine ⟨rfl, rfl, ?_, ?_, ?_, ?_, ?_, ?_⟩ <;>
            simp only [reduceCtorEq, false_and, if_false, hfull, hm, and_true, if_true]
    | tcrEl1 | ttbr0El1 | ttbr1El1 =>
      dsimp only at h
      split at h
      · rename_i hlock
        obtain ⟨rfl, -⟩ := Prod.mk.inj (Option.some.inj h)
        refine ⟨rfl, rfl, ?_, ?_, ?_, ?_, ?_, ?_⟩ <;>
          simp only [reduceCtorEq, false_and, if_false, hlock, Bool.true_eq_false, and_false]
      · rename_i hlock
        rw [Bool.not_eq_true] at hlock
        obtain ⟨rfl, -⟩ := Prod.mk.inj (Option.some.inj h)
        refine ⟨rfl, rfl, ?_, ?_, ?_, ?_, ?_, ?_⟩ <;>
          simp only [reduceCtorEq, false_and, if_false, hlock, and_true, if_true]
    | _ =>
      obtain ⟨rfl, -⟩ := Prod.mk.inj (Option.some.inj h)
      exact wrote_other (by decide) ⟨rfl, rfl, rfl, rfl, rfl, rfl, rfl, rfl⟩

end VfAppleGxf

end Nextcore.Device
