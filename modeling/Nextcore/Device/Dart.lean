import Nextcore.Lib.Bytes
import Nextcore.Lib.Run

/-! `dart_v1.c` and `sart_v1.c`: the register files of the two address translators. They
store what is written; an invalidation and a region write count a generation. -/

namespace Nextcore.Device

structure VfDart where
  params1 : U32
  params2 : U32
  tlbOp : U32
  sidMaskLo : U32
  sidMaskHi : U32
  errorStatus : U32
  errorAddrLo : U32
  errorAddrHi : U32
  config : U32
  sidRemap : ℕ → U32
  tcr : ℕ → U32
  ttbr : ℕ → ℕ → U32
  tlbGeneration : U32

namespace VfDart

abbrev instanceSize : ℕ := 0x4000
abbrev regParams1 : ℕ := 0x000
abbrev regParams2 : ℕ := 0x004
abbrev regTlbOp : ℕ := 0x020
abbrev regSidMaskLo : ℕ := 0x034
abbrev regSidMaskHi : ℕ := 0x038
abbrev regErrorStatus : ℕ := 0x040
abbrev regErrorAddrLo : ℕ := 0x050
abbrev regErrorAddrHi : ℕ := 0x054
abbrev regConfig : ℕ := 0x060
abbrev regSidRemapBase : ℕ := 0x080
abbrev regTcrBase : ℕ := 0x100
abbrev regTtbrBase : ℕ := 0x200
abbrev maxStreams : ℕ := 16
abbrev ttbrPerSid : ℕ := 4
abbrev tlbOpBusy : U32 := 1#32 <<< 2
abbrev tlbOpInvalidate : U32 := 1#32 <<< 20
abbrev errorFlag : U32 := 1#32 <<< 31
abbrev configLock : U32 := 1#32 <<< 15
abbrev defaultPageShift : U32 := 12#32

def outOfBounds (off width : ℕ) : Bool := decide (width ≠ 4 ∨ off % 4 ≠ 0 ∨ instanceSize ≤ off)

def sidOf (off base : ℕ) : Option ℕ :=
  if off < base ∨ (off - base) % 4 ≠ 0 then none
  else if maxStreams ≤ (off - base) / 4 then none
  else some ((off - base) / 4)

def ttbrOf (off : ℕ) : Option (ℕ × ℕ) :=
  if off < regTtbrBase ∨ (off - regTtbrBase) % 4 ≠ 0 then none
  else
    let slot := (off - regTtbrBase) / 4
    if maxStreams * ttbrPerSid ≤ slot then none else some (slot / ttbrPerSid, slot % ttbrPerSid)

def init : VfDart where
  params1 := (defaultPageShift &&& 0xf#32) <<< 24
  params2 := 0#32
  tlbOp := 0#32
  sidMaskLo := 0#32
  sidMaskHi := 0#32
  errorStatus := 0#32
  errorAddrLo := 0#32
  errorAddrHi := 0#32
  config := 0#32
  sidRemap := fun _ => 0#32
  tcr := fun _ => 0#32
  ttbr := fun _ _ => 0#32
  tlbGeneration := 0#32

def irqPending (d : VfDart) : Bool := decide (d.errorStatus &&& errorFlag ≠ 0#32)

def simulateFault (d : VfDart) (sid : ℕ) (code : U32) : Option VfDart :=
  if maxStreams ≤ sid then none
  else
    some { d with
      errorStatus := errorFlag ||| ((BitVec.ofNat 32 sid &&& 0xf#32) <<< 24) ||| (code &&& 0xfff#32) }

def read (d : VfDart) (off width : ℕ) : Option U32 :=
  if outOfBounds off width then none
  else if off = regParams1 then some d.params1
  else if off = regParams2 then some d.params2
  else if off = regTlbOp then some (d.tlbOp &&& ~~~tlbOpBusy)
  else if off = regSidMaskLo then some d.sidMaskLo
  else if off = regSidMaskHi then some d.sidMaskHi
  else if off = regErrorStatus then some d.errorStatus
  else if off = regErrorAddrLo then some d.errorAddrLo
  else if off = regErrorAddrHi then some d.errorAddrHi
  else if off = regConfig then some d.config
  else if regSidRemapBase ≤ off ∧ off < regSidRemapBase + 16 then some (d.sidRemap ((off - regSidRemapBase) / 4))
  else
    match sidOf off regTcrBase with
    | some sid => some (d.tcr sid)
    | none => (ttbrOf off).map fun (sid, idx) => d.ttbr sid idx

def unlocked (off : ℕ) : Bool :=
  decide (off = regErrorStatus ∨ off = regErrorAddrLo ∨ off = regErrorAddrHi ∨ off = regTlbOp)

def write (d : VfDart) (off width : ℕ) (value : U32) : Option VfDart :=
  if outOfBounds off width then none
  else if d.config &&& configLock ≠ 0#32 ∧ !unlocked off then none
  else if off = regParams1 then some { d with params1 := value }
  else if off = regParams2 then some { d with params2 := value }
  else if off = regTlbOp then
    if value &&& tlbOpInvalidate ≠ 0#32 then some { d with tlbOp := 0#32, tlbGeneration := d.tlbGeneration + 1#32 }
    else some { d with tlbOp := value &&& ~~~tlbOpBusy }
  else if off = regSidMaskLo then some { d with sidMaskLo := value }
  else if off = regSidMaskHi then some { d with sidMaskHi := value }
  else if off = regErrorStatus then some { d with errorStatus := d.errorStatus &&& ~~~value }
  else if off = regErrorAddrLo then some { d with errorAddrLo := value }
  else if off = regErrorAddrHi then some { d with errorAddrHi := value }
  else if off = regConfig then some { d with config := value }
  else if regSidRemapBase ≤ off ∧ off < regSidRemapBase + 16 then
    some { d with sidRemap := Function.update d.sidRemap ((off - regSidRemapBase) / 4) value }
  else
    match sidOf off regTcrBase with
    | some sid => some { d with tcr := Function.update d.tcr sid value }
    | none =>
      (ttbrOf off).map fun (sid, idx) =>
        { d with ttbr := Function.update d.ttbr sid (Function.update (d.ttbr sid) idx value) }

lemma errorStatus_write {d d' : VfDart} {off width : ℕ} {value : U32} (hoff : off ≠ regErrorStatus)
    (h : d.write off width value = some d') : d'.errorStatus = d.errorStatus := by
  have hall : ∀ d' ∈ d.write off width value, d'.errorStatus = d.errorStatus := by
    rw [write]
    iterate 2 refine Run.forall_mem_ite (fun _ => Run.forall_mem_none) fun _ => ?_
    iterate 2 refine Run.forall_mem_ite (fun _ => Run.forall_mem_some rfl) fun _ => ?_
    refine Run.forall_mem_ite (fun _ => ?_) fun _ => ?_
    · exact Run.forall_mem_ite (fun _ => Run.forall_mem_some rfl) fun _ => Run.forall_mem_some rfl
    iterate 2 refine Run.forall_mem_ite (fun _ => Run.forall_mem_some rfl) fun _ => ?_
    refine Run.forall_mem_ite (fun herror => absurd herror hoff) fun _ => ?_
    iterate 4 refine Run.forall_mem_ite (fun _ => Run.forall_mem_some rfl) fun _ => ?_
    cases sidOf off regTcrBase with
    | some sid => exact Run.forall_mem_some rfl
    | none =>
      intro d' hd'
      obtain ⟨slot, -, rfl⟩ := Option.map_eq_some_iff.mp hd'
      rfl
  exact hall d' h

end VfDart

structure VfSart where
  version : U32
  generation : U32
  regs : ℕ → U32

namespace VfSart

abbrev regSize : ℕ := 0x8000
abbrev numRegions : ℕ := 16
abbrev version1 : U32 := 1#32
abbrev version2 : U32 := 2#32
abbrev version3 : U32 := 3#32
abbrev bankAddr : ℕ := 0x040
abbrev bankSizeV3 : ℕ := 0x080

def outOfBounds (off width : ℕ) : Bool := decide (width ≠ 4 ∨ off % 4 ≠ 0 ∨ regSize ≤ off)

def regionWrite (s : VfSart) (off : ℕ) : Bool :=
  decide (off < numRegions * 4 ∨ bankAddr ≤ off ∧ off < bankAddr + numRegions * 4 ∨
    s.version = version3 ∧ bankSizeV3 ≤ off ∧ off < bankSizeV3 + numRegions * 4)

def init (version : U32) : Option VfSart :=
  if version ≠ version1 ∧ version ≠ version2 ∧ version ≠ version3 then none else some ⟨version, 0#32, fun _ => 0#32⟩

def read (s : VfSart) (off width : ℕ) : Option U32 := if outOfBounds off width then none else some (s.regs (off / 4))

def write (s : VfSart) (off width : ℕ) (value : U32) : Option VfSart :=
  if outOfBounds off width then none
  else
    some { s with
      generation := if s.regionWrite off then s.generation + 1#32 else s.generation
      regs := Function.update s.regs (off / 4) value }

end VfSart

end Nextcore.Device
