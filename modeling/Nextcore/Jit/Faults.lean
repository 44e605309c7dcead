import Nextcore.Jit.Runner
import Nextcore.Jit.Steps
import Nextcore.Preos.Interrupt

/-! Loads and stores that fault: both cores record the same exception. -/

namespace Nextcore.Jit

open Cpu Emit X86 Preos

variable {c g : VfCpu} {r : GuestCpuState} {w : U32} {pc : U64} {t : Target} {shape : MemoryShape}

def Block.exception : Block → U32
  | .spAlignment => Exception.spAlignmentFault
  | .alignment => Exception.alignmentFault
  | .data => Exception.dataAbort

def storesOf (w : U32) : Bool := if pairFamily w then !bitSet w 22 else decide (GuestCpuState.scalarOpc w = 0#32)

section Syndrome

lemma wider_mask (h : w &&& 0x04000000#32 = 0#32) (m b : U32) : w &&& (m ||| 0x04000000#32) = b ↔ w &&& m = b := by
  rw [BitVec.and_or_distrib_left, h, BitVec.or_zero]

lemma integer_of_pair (h : GuestCpuState.pairUndefined w = false) : w &&& 0x04000000#32 = 0#32 := by
  simp only [GuestCpuState.pairUndefined, decide_eq_false_iff_not, not_or, not_not] at h
  exact h.1

lemma integer_of_scalar (h : GuestCpuState.scalarUndefined w = false) : w &&& 0x04000000#32 = 0#32 := by
  simp only [GuestCpuState.scalarUndefined, decide_eq_false_iff_not, not_or, not_not] at h
  exact h.2.2.1

lemma abortExtra_pair (hfamily : pairFamily w = true) (hinteger : w &&& 0x04000000#32 = 0#32) :
    abortExtra w = (1#32 <<< 25) ||| if !bitSet w 22 then 1#32 <<< 6 else 0#32 := by
  have hpair : w &&& 0x3e000000#32 = 0x28000000#32 := (wider_mask hinteger 0x3a000000#32 _).mpr (of_decide_eq_true hfamily)
  have hread : w &&& 0x00400000#32 = 0#32 ↔ (!bitSet w 22) = true := by
    rw [bitSet, Bool.not_eq_true', decide_eq_false_iff_not, not_not]
    exact Iff.rfl
  unfold abortExtra
  dsimp only
  rw [if_pos hpair, if_neg]
  · simp only [hread]
  rintro ⟨h | h | h | h, -⟩
  · exact mask_ne hpair (by decide) h
  · exact mask_ne hpair (by decide) h
  · exact mask_ne hpair (by decide) h
  · exact mask_ne hpair (by decide) h.1

lemma abortExtra_scalar (hfamily : scalarFamily w = true) (hdefined : GuestCpuState.scalarUndefined w = false) :
    abortExtra w = (1#32 <<< 25) ||| if GuestCpuState.scalarOpc w = 0#32 then 1#32 <<< 6 else 0#32 := by
  have hinteger := integer_of_scalar hdefined
  simp only [GuestCpuState.scalarUndefined, decide_eq_false_iff_not, not_or] at hdefined
  obtain ⟨-, hoption, -, hsize⟩ := hdefined
  have hopc : w &&& 0x00c00000#32 = 0#32 ↔ GuestCpuState.scalarOpc w = 0#32 := by
    unfold GuestCpuState.scalarOpc
    rw [show (3#32) = 0x00c00000#32 >>> 22 by decide, ← Bits.and_shiftRight, Bits.shiftRight_eq_zero_iff, BitVec.and_assoc]
    exact Iff.rfl
  have hbit : w &&& 0x3b200c00#32 = 0x38200800#32 → w &&& (1#32 <<< 14) ≠ 0#32 := by
    intro hregister hzero
    refine hoption ⟨decide_eq_true hregister, ?_⟩
    rw [BitVec.and_assoc, show (7#32 &&& 2#32) = (1#32 <<< 14) >>> 13 by decide, ← Bits.and_shiftRight, hzero]
    rfl
  have hscalar : (w &&& 0x3f000000#32 = 0x39000000#32 ∨ w &&& 0x3f200c00#32 = 0x38000000#32 ∨
      w &&& 0x3f200400#32 = 0x38000400#32 ∨ (w &&& 0x3f200c00#32 = 0x38200800#32 ∧ w &&& (1#32 <<< 14) ≠ 0#32)) := by
    simp only [scalarFamily, unsignedOffsetFamily, registerOffsetFamily, unscaledOffsetFamily, scalarWritebackFamily,
      Bool.or_eq_true, decide_eq_true_eq] at hfamily
    rcases hfamily with ((h | h) | h) | h
    · exact Or.inl ((wider_mask hinteger 0x3b000000#32 _).mpr h)
    · exact Or.inr (Or.inr (Or.inr ⟨(wider_mask hinteger 0x3b200c00#32 _).mpr h, hbit h⟩))
    · exact Or.inr (Or.inl ((wider_mask hinteger 0x3b200c00#32 _).mpr h))
    · exact Or.inr (Or.inr (Or.inl ((wider_mask hinteger 0x3b200400#32 _).mpr h)))
  have hlegal : (w >>> 30 < 3#32 ∨ (w >>> 22) &&& 3#32 < 2#32) ∧ ¬(w >>> 30 = 2#32 ∧ (w >>> 22) &&& 3#32 = 3#32) := by
    unfold GuestCpuState.scalarOpc GuestCpuState.sizeCode at hsize
    have hthree : (w >>> 30).toNat < 4 := by
      rw [BitVec.toNat_ushiftRight, Nat.shiftRight_eq_div_pow]
      have hlt := w.isLt
      omega
    generalize (w >>> 22) &&& 3#32 = opc at *
    generalize w >>> 30 = size at *
    constructor
    · by_cases hopc : 2#32 ≤ opc
      · refine Or.inl ?_
        have hne : size ≠ 3#32 := fun heq => hsize ⟨hopc, Or.inl heq⟩
        bv_omega
      · exact Or.inr (BitVec.not_le.mp hopc)
    · rintro ⟨rfl, rfl⟩
      exact hsize ⟨by decide, Or.inr ⟨rfl, rfl⟩⟩
  unfold abortExtra
  dsimp only
  rw [if_pos ⟨hscalar, hlegal⟩]
  simp only [hopc]

lemma abortExtra_eq (hfamily : memoryFamily w = true) (hshape : decodeMemory w = some shape) :
    abortExtra w = (1#32 <<< 25) ||| if storesOf w then 1#32 <<< 6 else 0#32 := by
  unfold decodeMemory at hshape
  unfold storesOf
  cases hpair : pairFamily w with
  | true =>
    rw [hpair, if_pos rfl] at hshape
    rw [if_pos rfl]
    exact abortExtra_pair hpair (integer_of_pair (decodePair_fields hshape).1)
  | false =>
    rw [memoryFamily, hpair, Bool.false_or] at hfamily
    rw [hpair, if_neg Bool.false_ne_true, if_pos hfamily] at hshape
    rw [if_neg Bool.false_ne_true]
    simp only [decide_eq_true_eq]
    exact abortExtra_scalar hfamily (decodeScalar_fields hshape).1

lemma recorded_syndrome (block : Block) (el : U32) (pc : U64) (w : U32) :
    exceptionSyndromeOf block.exception el pc w =
      match block with
      | .spAlignment => (0x26#32 <<< 26) ||| (1#32 <<< 25)
      | .alignment => ((if el = 0#32 then 0x24#32 else 0x25#32) <<< 26) ||| abortExtra w ||| 0x21#32
      | .data => ((if el = 0#32 then 0x24#32 else 0x25#32) <<< 26) ||| abortExtra w ||| 7#32 := by
  cases block <;> rfl

lemma raised_syndrome (r : GuestCpuState) (w : U32) (block : Block) (store : Bool) :
    r.transferSyndrome w block.kind true store =
      match block with
      | .spAlignment => (0x26#64 <<< 26) ||| (1#64 <<< 25)
      | .alignment => ((if r.currentEl = .el0 then 0x24#64 else 0x25#64) <<< 26) ||| (1#64 <<< 25) ||| 0x21#64 |||
          if store then 1#64 <<< 6 else 0#64
      | .data => ((if r.currentEl = .el0 then 0x24#64 else 0x25#64) <<< 26) ||| (1#64 <<< 25) ||| 7#64 |||
          if store then 1#64 <<< 6 else 0#64 := by
  cases block <;> rfl

lemma encoded_syndrome (r : GuestCpuState) (w : U32) (block : Block) {encoded : Bool} (store : Bool)
    (hencoded : block ≠ .spAlignment → encoded = true) :
    r.transferSyndrome w block.kind encoded store = r.transferSyndrome w block.kind true store := by
  by_cases hsp : block = .spAlignment
  · subst hsp
    rfl
  · rw [hencoded hsp]

lemma syndrome_eq (hfamily : memoryFamily w = true) (hshape : decodeMemory w = some shape) (r : GuestCpuState) (block : Block)
    {encoded : Bool} (hencoded : block ≠ .spAlignment → encoded = true) (pc : U64) :
    exceptionSyndrome block.kind r.currentEl (r.transferSyndrome w block.kind encoded (storesOf w)) =
      (exceptionSyndromeOf block.exception (levelWord r.currentEl) pc w).zeroExtend 64 := by
  rw [encoded_syndrome r w block (storesOf w) hencoded, raised_syndrome, recorded_syndrome, abortExtra_eq hfamily hshape]
  generalize storesOf w = store
  generalize r.currentEl = el
  cases block <;> cases store <;> cases el <;> decide

end Syndrome

section Record

structure SameFault (kind : ExceptionKind) (code : U32) (c : VfCpu) (r : GuestCpuState) : Prop where
  pending : c.exceptionPending = code
  record : ∃ e, r.pendingException = some e ∧ e.kind = kind ∧ e.instruction = c.instruction ∧ e.pc = c.exceptionPc ∧
    e.far = c.exceptionFar ∧ e.syndrome = c.exceptionSyndrome
  target : ∃ el, r.exceptionTarget = some el ∧ c.exceptionTargetEl = levelWord el
  lower : c.exceptionFromLowerEl ≠ 0#32 ↔ r.exceptionFromLowerEl = true
  spsr : ∀ el, el ≠ .el0 → c.spsrEl (VfCpu.bank (levelWord el)) = r.sys.spsr el
  elr : ∀ el, el ≠ .el0 → c.elrEl (VfCpu.bank (levelWord el)) = r.sys.elr el
  esr : ∀ el, el ≠ .el0 → c.esrEl (VfCpu.bank (levelWord el)) = r.sys.esr el
  far : ∀ el, el ≠ .el0 → c.farEl (VfCpu.bank (levelWord el)) = r.sys.far el
  alike : Alike c r
  pc : c.pc = r.pc

lemma lower_eq (h : Unsettled c r) : ((if c.currentEl < c.targetEl then 1#32 else 0#32) ≠ 0#32) ↔
    (decide (r.currentEl ≠ r.targetEl)) = true := by
  have hlower : c.currentEl < c.targetEl ↔ r.currentEl = .el0 := by
    rw [VfCpu.targetEl_lower, h.level]
    exact levelWord_eq_zero
  simp only [hlower]
  unfold GuestCpuState.targetEl
  cases r.currentEl <;> decide

lemma sameFault (h : Unsettled c r) (hnone : r.pendingException = none) {kind : ExceptionKind} {code : U32}
    (hkind : kind.asynchronous = false) (hcode : VfCpu.asynchronous code = false) (w : U32) (far : U64) {supplied : U64}
    {syndrome : U32} (hsyndrome : exceptionSyndrome kind r.currentEl supplied = syndrome.zeroExtend 64) :
    SameFault kind code (c.recordException code c.pc far syndrome w) (r.raise ⟨kind, w, supplied, far, r.pc⟩) := by
  have htarget := targetEl_eq h
  have hraise : r.raise ⟨kind, w, supplied, far, r.pc⟩ =
      { r.writeExceptionBank r.targetEl r.pstate ⟨kind, w, syndrome.zeroExtend 64, far, r.pc⟩ with
        exceptionTarget := some r.targetEl
        exceptionFromLowerEl := r.currentEl ≠ r.targetEl
        pendingException := some ⟨kind, w, syndrome.zeroExtend 64, far, r.pc⟩ } := by
    unfold GuestCpuState.raise
    rw [hnone, ← hsyndrome]
    rfl
  obtain ⟨spEl, hsave⟩ := c.saveActiveSp_eq
  have hrecord : c.recordException code c.pc far syndrome w =
      { c with
        spEl := spEl
        exceptionPending := code
        exceptionTargetEl := c.targetEl
        exceptionFromLowerEl := if c.currentEl < c.targetEl then 1#32 else 0#32
        exceptionSyndrome := syndrome.zeroExtend 64
        exceptionFar := far
        exceptionPc := c.pc
        instruction := w
        spsrEl := Function.update c.spsrEl (VfCpu.bank c.targetEl) c.pstate
        elrEl := Function.update c.elrEl (VfCpu.bank c.targetEl) c.pc
        esrEl := Function.update c.esrEl (VfCpu.bank c.targetEl) (syndrome.zeroExtend 64)
        farEl := Function.update c.farEl (VfCpu.bank c.targetEl) far
        vbar := c.vbarEl (VfCpu.bank c.targetEl)
        esr := Function.update c.esrEl (VfCpu.bank c.targetEl) (syndrome.zeroExtend 64) (VfCpu.bank c.targetEl)
        far := Function.update c.farEl (VfCpu.bank c.targetEl) far (VfCpu.bank c.targetEl)
        elr := c.pc } := by
    unfold VfCpu.recordException
    rw [hsave, hcode]
    rfl
  rw [hraise, hrecord, GuestCpuState.writeExceptionBank, if_neg r.targetEl_ne, hkind, if_neg Bool.false_ne_true,
    if_neg Bool.false_ne_true]
  refine ⟨rfl, ⟨_, rfl, rfl, rfl, h.pc.symm, rfl, rfl⟩, ⟨_, rfl, htarget⟩, lower_eq h, ?_, ?_, ?_, ?_,
    ⟨h.x, h.sp, h.pstate⟩, h.pc⟩
  · rw [htarget, h.pstate]
    exact bank_update h.spsr _ _
  · rw [htarget, h.pc]
    exact bank_update h.elr _ _
  · rw [htarget]
    exact bank_update h.esr _ _
  · rw [htarget]
    exact bank_update h.far _ _

lemma unsettled_stopped (h : Unsettled c r) (w : U32) (far : U64) :
    Unsettled (settle c.retired (finished { c with instruction := w, far := far } c.pc 0#32)) r := by
  have hstopped : settle c.retired (finished { c with instruction := w, far := far } c.pc 0#32) =
      ({ c with instruction := w, far := far, compiledBlocks := c.compiledBlocks + 1#64 } : VfCpu).updateTimerStatus := by
    unfold settle finished VfCpu.advanceCounter VfCpu.updateTimerStatus
    simp
  rw [hstopped]
  exact updateTimerStatus_unsettled { h with valid := h.valid }

end Record

lemma commitStatus_block (hvalid : c.stateValid = true) (hnone : c.exceptionPending = Exception.none) (block : Block) :
    c.commitStatus block.status = VfCpu.recordException { c with status := block.status } block.exception c.pc c.far
      (exceptionSyndromeOf block.exception c.currentEl c.pc c.instruction) c.instruction := by
  have hstatus : VfCpu.statusException { c with status := block.status } block.status = some (block.exception, c.far, c.instruction) := by
    cases block <;> rfl
  have hraise := @VfCpu.raiseException_eq { c with status := block.status } hvalid hnone block.exception
    (by cases block <;> decide) c.pc c.far 0#32 c.instruction
  unfold VfCpu.commitStatus
  dsimp only
  rw [hstatus]
  dsimp only
  rw [hraise]
  rfl

lemma effectOne_memory (hw : Plain w) (hfamily : memoryFamily w = true) (n : U32) :
    effectOne t false w pc n = inlineEffect t w pc n := by
  have hbits := memoryFamily_bits hfamily
  unfold effectOne
  rw [hw.mrsMsr, hw.idRead, if_neg (by simp), if_neg (by simp), if_neg (by simp), if_neg (mask_ne hbits (by decide)),
    if_neg (mask_ne hbits (by decide)), if_neg (mask_ne hbits (by decide)), if_neg (mask_ne hbits (by decide)),
    if_neg (mask_ne hbits (by decide)), if_neg (mask_ne hbits (by decide)), if_neg (mask_ne hbits (by decide)),
    if_neg (by simp), if_neg (by simp),
    if_neg (not_or.mpr ⟨mask_ne hbits (by decide), mask_ne_or hbits (by decide) (by decide)⟩),
    if_neg (mask_ne hbits (by decide)), if_neg (mask_ne hbits (by decide)), if_neg (mask_ne hbits (by decide)),
    if_neg (mask_ne hbits (by decide)), if_neg (mask_ne hbits (by decide)), if_pos hfamily]

/-- Where the reference core faults on a load or store, the inline code stops with the status of the fault, and the
dispatcher records the exception that the reference core raises: its class, syndrome, address and banks. -/
theorem inline_fault_recorded (hmatch : Unsettled c r) (hoff : r.sys.sctlrEl1 &&& 1#64 = 0#64) (hmmu : r.mmu.enabled = false)
    (hpending : c.exceptionPending = Exception.none) (hnone : r.pendingException = none) (hw : Plain w)
    (hfamily : memoryFamily w = true) (hshape : decodeMemory w = some shape)
    (hregime : outsideRegime (Target.ofCpu c) = false) {ram : List Byte} (hram : ram.length < 2 ^ 64) {kind : ExceptionKind}
    {next : GuestCpuState} {s : RamBus}
    (hstep : r.executeWord RamBus.bus ⟨ram, c.guestRamBase⟩ w = (.exception kind, next, s)) :
    s = ⟨ram, c.guestRamBase⟩ ∧ ∃ code more effect block g', Emits (translateOne (Target.ofCpu c) false w c.pc 0#32) more code ∧
      Runs code effect ∧ effect c ram = .stops (Block.status block) g' ram ∧ kind = block.kind ∧
      SameFault kind block.exception ((settle c.retired g').commitStatus block.status) next := by
  have heret : w ≠ 0xd69f03e0#32 := ne_of_mask (memoryFamily_bits hfamily) (by decide)
  have hflat : Flat (Target.ofCpu c) r := ⟨hmatch.level, hmatch.sctlr, hmatch.hcr, hmatch.scr, hoff, hmmu⟩
  have halike : Alike { c with instruction := w } r := ⟨hmatch.x, hmatch.sp, hmatch.pstate⟩
  obtain ⟨code, more, hemits, hruns, -⟩ := translates_one (Target.ofCpu c) false w c.pc 0#32
  obtain ⟨out, hagreed, hmemory⟩ := transfer_agrees hflat halike hfamily hshape hregime hram
  have hexecuted := executeWord_memory hw heret (dataStep_memory r hfamily) hmemory
  rw [show (Target.ofCpu c).base = c.guestRamBase from rfl, hstep] at hexecuted
  unfold Agreed at hagreed
  have hinline : inlineEffect (Target.ofCpu c) w c.pc 0#32 c ram =
      accessEffect (Target.ofCpu c) shape c.pc 0#32 { c with instruction := w } ram := by
    unfold inlineEffect
    rw [hshape, hregime]
    rfl
  cases hfault : accessFault (Target.ofCpu c) shape { c with instruction := w } (BitVec.ofNat 64 ram.length) with
  | none =>
    rw [hfault] at hagreed
    rw [hagreed.ok] at hexecuted
    cases hexecuted
  | some stop =>
    obtain ⟨block, far⟩ := stop
    rw [hfault] at hagreed
    rw [hagreed] at hexecuted
    cases hexecuted
    refine ⟨rfl, code, more, _, block, finished { c with instruction := w, far := far } c.pc 0#32, hemits, hruns, ?_, rfl, ?_⟩
    · rw [effectOne_memory hw hfamily, hinline, accessEffect, hfault]
    have hencoded : block ≠ .spAlignment → (if pairFamily w
        then decide (block.kind = .dataAbort ∨ block.kind = .alignmentFault)
        else decide (block.kind = .dataAbort ∨ block.kind = .translationFault ∨ block.kind = .permissionFault ∨
          block.kind = .alignmentFault)) = true := by
      cases pairFamily w <;> cases block <;> decide
    have hsyndrome := syndrome_eq hfamily hshape r block hencoded c.pc
    have hsettled := unsettled_stopped hmatch w far
    have hkind : block.kind.asynchronous = false := by cases block <;> rfl
    have hcode : VfCpu.asynchronous block.exception = false := by cases block <;> rfl
    rw [commitStatus_block hsettled.valid hpending]
    rw [← hmatch.level] at hsyndrome
    exact @sameFault { settle c.retired (finished { c with instruction := w, far := far } c.pc 0#32) with
      status := block.status } r { hsettled with valid := hsettled.valid } hnone _ _ hkind hcode w far _ _ hsyndrome

def loading : VfCpu := { VfCpu.reset 1#32 with idAa64isar1 := 0x10#64 }

-- ldr x0, [x1] without RAM
theorem inline_fault_recorded_ldr : ∃ next s,
    (GuestCpuState.reset 0#32).executeWord RamBus.bus ⟨[], loading.guestRamBase⟩ 0xf9400020#32 = (.exception .dataAbort, next, s) ∧
      s = ⟨[], loading.guestRamBase⟩ ∧ ∃ code more effect block g',
        Emits (translateOne (Target.ofCpu loading) false 0xf9400020#32 loading.pc 0#32) more code ∧ Runs code effect ∧
          effect loading [] = .stops (Block.status block) g' [] ∧ .dataAbort = block.kind ∧
          SameFault .dataAbort block.exception ((settle loading.retired g').commitStatus block.status) next := by
  have hkind : ((GuestCpuState.reset 0#32).executeWord RamBus.bus ⟨[], loading.guestRamBase⟩ 0xf9400020#32).1 =
      .exception .dataAbort := by decide +kernel
  have hstep : (GuestCpuState.reset 0#32).executeWord RamBus.bus ⟨[], loading.guestRamBase⟩ 0xf9400020#32 =
      (.exception .dataAbort, _, _) := Prod.ext hkind rfl
  have hdecoded : (decodeMemory 0xf9400020#32).isSome = true := by decide
  obtain ⟨shape, hshape⟩ := Option.isSome_iff_exists.mp hdecoded
  exact ⟨_, _, hstep, inline_fault_recorded reset_matches.toUnsettled (by decide) rfl rfl rfl
    ⟨by decide, by decide, by decide, by decide⟩ (by decide) hshape (by decide) (by decide) hstep⟩

end Nextcore.Jit
