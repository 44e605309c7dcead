import Nextcore.Preos.Agreement
import Nextcore.Preos.Exception

/-! Interrupt delivery: the C poll and the poll and commit of the reference core
take the same decision and enter the same vector. -/

namespace Nextcore.Preos

open Mmu Cpu

inductive Delivery
  | nothing
  | trap
  | interrupt (kind : ExceptionKind)
  deriving DecidableEq

structure Lines where
  fiq : Bool
  timer : Bool
  irq : Bool
  unsupported : Bool
  fiqOpen : Bool
  irqOpen : Bool

def Lines.pick (l : Lines) : Option ExceptionKind :=
  if l.fiq && l.fiqOpen then some .fiqInterrupt
  else if l.irqOpen && l.timer then some .timerInterrupt
  else if l.irqOpen && l.irq then some .externalInterrupt
  else none

def Lines.delivery (l : Lines) : Delivery :=
  if (l.irq || l.fiq || l.timer) && l.unsupported then .trap
  else (l.pick.map Delivery.interrupt).getD .nothing

def GuestCpuState.lines (r : GuestCpuState) : Lines :=
  { fiq := r.platform.fiq
    timer := r.timer.pending || r.virtualTimer.pending
    irq := r.platform.irq
    unsupported := 1 < r.currentEl.toNat ∨ r.sys.hcrEl2 &&& 0x18#64 ≠ 0#64 ∨ r.sys.scrEl3 &&& 6#64 ≠ 0#64
    fiqOpen := r.platform.fiqEnabled ∧ r.pstate &&& Pstate.f = 0#32
    irqOpen := r.platform.irqEnabled ∧ r.pstate &&& Pstate.i = 0#32 }

def ExceptionKind.polled : ExceptionKind → U32 × U32
  | .timerInterrupt => (Status.timerInterrupt, Exception.timerInterrupt)
  | .externalInterrupt => (Status.externalInterrupt, Exception.externalInterrupt)
  | .fiqInterrupt => (Status.fiqInterrupt, Exception.fiqInterrupt)
  | _ => (Status.next, Exception.none)

structure SameEntry (c : VfCpu) (r : GuestCpuState) : Prop where
  level : c.currentEl = levelWord r.currentEl
  elr : ∀ el, el ≠ .el0 → c.elrEl (VfCpu.bank (levelWord el)) = r.sys.elr el
  spsr : ∀ el, el ≠ .el0 → c.spsrEl (VfCpu.bank (levelWord el)) = r.sys.spsr el
  spEl : ∀ el, c.spEl (VfCpu.bank (levelWord el)) = r.spEl el
  sp : c.sp = r.sp
  pc : c.pc = r.pc
  pstate : c.pstate = r.pstate.zeroExtend 64
  settled : c.exceptionPending = Exception.none ∧ r.pendingException = none

structure SameTrap (c : VfCpu) (r : GuestCpuState) : Prop where
  record : c.exceptionPending = Exception.systemRegisterTrap ∧
    ∃ e, r.pendingException = some e ∧ e.kind = .systemRegisterTrap ∧ e.pc = c.exceptionPc ∧ e.far = c.exceptionFar
  target : ∃ el, r.exceptionTarget = some el ∧ c.exceptionTargetEl = levelWord el
  lower : c.exceptionFromLowerEl ≠ 0#32 ↔ r.exceptionFromLowerEl = true
  level : c.currentEl = levelWord r.currentEl
  elr : ∀ el, el ≠ .el0 → c.elrEl (VfCpu.bank (levelWord el)) = r.sys.elr el
  spsr : ∀ el, el ≠ .el0 → c.spsrEl (VfCpu.bank (levelWord el)) = r.sys.spsr el
  pc : c.pc = r.pc
  pstate : c.pstate = r.pstate.zeroExtend 64

def Delivers (c : VfCpu) (r : GuestCpuState) : Delivery → Prop
  | .nothing => c.pollInterrupt = (Status.next, c) ∧ r.pollInterrupt = (false, r) ∧
      r.commitPendingInterrupt = (none, r)
  | .trap => c.pollInterrupt.1 = Status.systemRegisterTrap ∧ r.pollInterrupt.1 = true ∧
      r.pollInterrupt.2.commitPendingInterrupt.1 = none ∧
      SameTrap c.pollInterrupt.2 r.pollInterrupt.2.commitPendingInterrupt.2
  | .interrupt kind => c.pollInterrupt.1 = kind.polled.1 ∧ r.pollInterrupt.1 = true ∧
      (∃ e, r.pollInterrupt.2.commitPendingInterrupt.1 = some e ∧ e.kind = kind) ∧
      SameEntry c.pollInterrupt.2 r.pollInterrupt.2.commitPendingInterrupt.2

section Reference

variable {r : GuestCpuState}

def GuestCpuState.deliver (r : GuestCpuState) : Delivery → Bool × GuestCpuState
  | .nothing => (false, r)
  | .trap => (true, r.raise (r.asyncException .systemRegisterTrap))
  | .interrupt kind => (true, r.raise (r.asyncException kind))

lemma GuestCpuState.pollInterrupt_eq (hnone : r.pendingException = none) (hsmp : r.smp.externalPending = 0#64) :
    r.pollInterrupt = r.deliver r.lines.delivery := by
  have hclear : { r with smp := { r.smp with externalPending := r.smp.externalPending &&& ~~~(1#64 <<< r.affinity.toNat) } } =
      r := by
    rw [hsmp, BitVec.zero_and, ← hsmp]
  have hpending : r.pendingException.isSome = false := by rw [hnone]; rfl
  have hrouted : (r.smp.externalPending != 0#64) = false := by rw [hsmp]; rfl
  have hbit : ¬r.smp.externalPending &&& (1#64 <<< r.affinity.toNat) ≠ 0#64 := by
    rw [hsmp, BitVec.zero_and]
    exact not_not_intro rfl
  unfold pollInterrupt Lines.delivery Lines.pick lines
  dsimp only
  rw [hpending, hrouted, hclear, Bool.or_false, if_neg Bool.false_ne_true, Bool.or_assoc (r.platform.irq || r.platform.fiq)]
  generalize (r.timer.pending || r.virtualTimer.pending) = timer
  by_cases htrap : (r.platform.irq || r.platform.fiq || timer) = true ∧
      (1 < r.currentEl.toNat ∨ r.sys.hcrEl2 &&& 0x18#64 ≠ 0#64 ∨ r.sys.scrEl3 &&& 6#64 ≠ 0#64)
  · rw [if_pos htrap, if_pos (Bool.and_eq_true_iff.mpr ⟨htrap.1, decide_eq_true htrap.2⟩)]
    rfl
  rw [if_neg htrap, if_neg fun h => htrap ⟨(Bool.and_eq_true_iff.mp h).1, of_decide_eq_true (Bool.and_eq_true_iff.mp h).2⟩]
  by_cases hfiq : r.platform.fiq = true ∧ r.platform.fiqEnabled = true ∧ r.pstate &&& Pstate.f = 0#32
  · rw [if_pos hfiq, if_pos (Bool.and_eq_true_iff.mpr ⟨hfiq.1, decide_eq_true hfiq.2⟩)]
    rfl
  rw [if_neg hfiq, if_neg fun h => hfiq ⟨(Bool.and_eq_true_iff.mp h).1, of_decide_eq_true (Bool.and_eq_true_iff.mp h).2⟩]
  by_cases hmasked : r.pstate &&& Pstate.i ≠ 0#32 ∨ r.platform.irqEnabled = false
  · have hclosed : decide (r.platform.irqEnabled = true ∧ r.pstate &&& Pstate.i = 0#32) = false := by
      refine decide_eq_false fun h => ?_
      rcases hmasked with hmask | hoff
      · exact hmask h.2
      · rw [hoff] at h
        exact Bool.false_ne_true h.1
    rw [if_pos hmasked, hclosed, Bool.false_and, Bool.false_and, if_neg Bool.false_ne_true, if_neg Bool.false_ne_true]
    rfl
  have hopen : decide (r.platform.irqEnabled = true ∧ r.pstate &&& Pstate.i = 0#32) = true := by
    rw [not_or, not_not, Bool.not_eq_false] at hmasked
    exact decide_eq_true hmasked.symm
  rw [if_neg hmasked, hopen, Bool.true_and, Bool.true_and]
  by_cases htimer : timer = true
  · rw [if_pos htimer, if_pos htimer]
    rfl
  rw [if_neg htimer, if_neg htimer]
  by_cases hirq : r.platform.irq = true
  · rw [if_pos (.inl hirq), if_pos hirq]
    rfl
  · rw [if_neg (not_or.mpr ⟨hirq, hbit⟩), if_neg hirq]
    rfl

end Reference

lemma Lines.pick_kind {l : Lines} {kind : ExceptionKind} (h : l.pick = some kind) :
    kind = .fiqInterrupt ∨ kind = .timerInterrupt ∨ kind = .externalInterrupt := by
  unfold Lines.pick at h
  split at h
  · exact .inl (Option.some.inj h).symm
  split at h
  · exact .inr (.inl (Option.some.inj h).symm)
  split at h
  · exact .inr (.inr (Option.some.inj h).symm)
  · cases h

lemma Lines.delivery_interrupt {l : Lines} {kind : ExceptionKind} (h : l.delivery = .interrupt kind) :
    kind = .fiqInterrupt ∨ kind = .timerInterrupt ∨ kind = .externalInterrupt := by
  unfold Lines.delivery at h
  split at h
  · cases h
  · cases hpick : l.pick with
    | none =>
      rw [hpick] at h
      cases h
    | some kind' =>
      rw [hpick] at h
      obtain rfl : kind' = kind := by
        cases h
        rfl
      exact Lines.pick_kind hpick

def activeOverride (c : VfCpu) : U64 := if c.platformProfile = 1#32 then c.platformOverride else 0#64

def recordLines (c : VfCpu) : Lines :=
  { fiq := c.fiqLevel ≠ 0#32
    timer := c.timerPending
    irq := c.irqLevel ≠ 0#32
    unsupported := 1#32 < c.currentEl ∨ c.hcrEl2 &&& 0x18#64 ≠ 0#64 ∨ c.scrEl3 &&& 6#64 ≠ 0#64
    fiqOpen := c.pstate &&& (1#64 <<< 6) = 0#64 ∧ (activeOverride c >>> 20) &&& 3#64 ≠ 2#64
    irqOpen := c.pstate &&& (1#64 <<< 7) = 0#64 ∧ (activeOverride c >>> 22) &&& 3#64 ≠ 2#64 }

def recordAt (c : VfCpu) (kind : U32) : VfCpu :=
  c.recordException kind c.pc 0#64 (exceptionSyndromeOf kind c.currentEl c.pc 0#32) 0#32

def recordDeliver (c : VfCpu) : Delivery → U32 × VfCpu
  | .nothing => (Status.next, c)
  | .trap => (Status.systemRegisterTrap,
      { recordAt { c with instruction := 0#32 } Exception.systemRegisterTrap with status := Status.systemRegisterTrap })
  | .interrupt kind => (kind.polled.1, { (recordAt c kind.polled.2).entered with status := kind.polled.1 })

section Record

variable {c : VfCpu}

lemma raise_at (hvalid : c.stateValid = true) (hnone : c.exceptionPending = Exception.none) {kind : U32}
    (hkind : validExceptionKind kind = true) : c.raiseException kind c.pc 0#64 0#32 0#32 = some (recordAt c kind) :=
  VfCpu.raiseException_eq hvalid hnone hkind c.pc 0#64 0#32 0#32

lemma take_at (hvalid : c.stateValid = true) {kind : U32} (hkind : validExceptionKind kind = true) :
    (recordAt c kind).takeException = some (recordAt c kind).entered :=
  VfCpu.takeException_recorded ((VfCpu.stateValid_iff c).mp hvalid) hkind c.pc 0#64 _ 0#32

lemma pendingInterrupt_eq : c.pendingInterrupt = (recordLines c).pick.map ExceptionKind.polled := by
  have hoverride : (if c.platformProfile = 1#32 then c.platformOverride else 0#64) = activeOverride c := rfl
  unfold VfCpu.pendingInterrupt Lines.pick recordLines
  dsimp only
  rw [hoverride]
  generalize activeOverride c = ov
  by_cases hfiq : c.fiqLevel ≠ 0#32 ∧ c.pstate &&& (1#64 <<< 6) = 0#64 ∧ (ov >>> 20) &&& 3#64 ≠ 2#64
  · rw [if_pos hfiq, if_pos (Bool.and_eq_true_iff.mpr ⟨decide_eq_true hfiq.1, decide_eq_true hfiq.2⟩)]
    rfl
  rw [if_neg hfiq,
    if_neg fun h => hfiq ⟨of_decide_eq_true (Bool.and_eq_true_iff.mp h).1, of_decide_eq_true (Bool.and_eq_true_iff.mp h).2⟩]
  by_cases hopen : c.pstate &&& (1#64 <<< 7) = 0#64 ∧ (ov >>> 22) &&& 3#64 ≠ 2#64
  · rw [if_pos hopen, decide_eq_true hopen, Bool.true_and, Bool.true_and]
    by_cases htimer : c.timerPending = true
    · rw [if_pos htimer, if_pos htimer]
      rfl
    rw [if_neg htimer, if_neg htimer]
    by_cases hirq : c.irqLevel ≠ 0#32
    · rw [if_pos hirq, if_pos (decide_eq_true hirq)]
      rfl
    · rw [if_neg hirq, if_neg fun h => hirq (of_decide_eq_true h)]
      rfl
  · rw [if_neg hopen, decide_eq_false hopen, Bool.false_and, Bool.false_and, if_neg Bool.false_ne_true,
      if_neg Bool.false_ne_true]
    rfl

lemma polled_valid {kind : ExceptionKind} (h : kind = .fiqInterrupt ∨ kind = .timerInterrupt ∨ kind = .externalInterrupt) :
    validExceptionKind kind.polled.2 = true := by
  rcases h with rfl | rfl | rfl <;> decide

lemma record_pollInterrupt_eq (hvalid : c.stateValid = true) (hnone : c.exceptionPending = Exception.none) :
    c.pollInterrupt = recordDeliver c (recordLines c).delivery := by
  have hready : ¬(c.stateValid = false ∨ c.exceptionPending ≠ 0#32) := by
    rw [hvalid]
    rintro (h | h)
    · cases h
    · exact h hnone
  have hlines : (((recordLines c).irq || (recordLines c).fiq || (recordLines c).timer) && (recordLines c).unsupported) = true ↔
      (c.irqLevel ≠ 0#32 ∨ c.fiqLevel ≠ 0#32 ∨ c.timerPending = true) ∧
        (1#32 < c.currentEl ∨ c.hcrEl2 &&& 0x18#64 ≠ 0#64 ∨ c.scrEl3 &&& 6#64 ≠ 0#64) := by
    simp only [recordLines, Bool.and_eq_true, Bool.or_eq_true, decide_eq_true_eq, or_assoc]
  unfold VfCpu.pollInterrupt Lines.delivery
  rw [if_neg hready]
  by_cases htrap : (c.irqLevel ≠ 0#32 ∨ c.fiqLevel ≠ 0#32 ∨ c.timerPending = true) ∧
      (1#32 < c.currentEl ∨ c.hcrEl2 &&& 0x18#64 ≠ 0#64 ∨ c.scrEl3 &&& 6#64 ≠ 0#64)
  · have hraise : ({ c with instruction := 0#32 } : VfCpu).raiseException Exception.systemRegisterTrap c.pc 0#64 0#32 0#32 =
        some (recordAt { c with instruction := 0#32 } Exception.systemRegisterTrap) := by
      have hsame : ({ c with instruction := 0#32 } : VfCpu).stateValid = true := hvalid
      exact raise_at hsame hnone (by decide)
    rw [if_pos htrap, if_pos (hlines.mpr htrap)]
    dsimp only
    rw [hraise]
    rfl
  rw [if_neg htrap, if_neg fun h => htrap (hlines.mp h), pendingInterrupt_eq]
  cases hpick : (recordLines c).pick with
  | none => rfl
  | some kind =>
    have hkind := polled_valid (Lines.pick_kind hpick)
    dsimp only [Option.map_some, Option.getD_some]
    rw [raise_at hvalid hnone hkind]
    dsimp only
    rw [take_at hvalid hkind]
    rfl

end Record

section Delivery

variable {c : VfCpu} {r : GuestCpuState}

lemma zeroExtend_and_eq_zero (p m : U32) : p.zeroExtend 64 &&& m.zeroExtend 64 = 0#64 ↔ p &&& m = 0#32 := by
  have hand : p.zeroExtend 64 &&& m.zeroExtend 64 = (p &&& m).setWidth 64 := BitVec.setWidth_and.symm
  rw [hand]
  constructor
  · intro h
    have hback := congrArg (BitVec.setWidth 32) h
    rwa [BitVec.setWidth_setWidth_of_le _ (by decide), BitVec.setWidth_eq] at hback
  · intro h
    rw [h]
    rfl

lemma profile_cases {profile : U32} (h : profile ≤ 1#32) : profile = 0#32 ∨ profile = 1#32 := by
  have hle : profile.toNat ≤ 1 := h
  rcases Nat.le_one_iff_eq_zero_or_eq_one.mp hle with h | h
  · exact .inl (BitVec.eq_of_toNat_eq h)
  · exact .inr (BitVec.eq_of_toNat_eq h)

lemma pending_iff {t : GenericTimer} {ctl count cval : U64} (hctl : ctl = t.ctl) (hcount : count = t.counter)
    (hcval : cval = t.cval) (h : VfCpu.TimerCoherent ctl count cval) : (ctl &&& 4#64 ≠ 0#64) ↔ t.pending = true := by
  subst hctl hcount hcval
  exact h.trans (decide_eq_true_iff).symm

lemma lines_eq (h : Matches c r) (htimers : c.TimersCoherent) (hprofile : r.platform.profile ≤ 1#32) :
    recordLines c = r.lines := by
  have htimer : c.timerPending = (r.timer.pending || r.virtualTimer.pending) := by
    rw [Bool.eq_iff_iff, Bool.or_eq_true, VfCpu.timerPending, decide_eq_true_iff,
      pending_iff h.status h.counter h.cval htimers.physical,
      pending_iff h.virtualStatus h.virtualCounter h.virtualCval htimers.virtual]
  have hunsupported : (1#32 < c.currentEl ∨ c.hcrEl2 &&& 0x18#64 ≠ 0#64 ∨ c.scrEl3 &&& 6#64 ≠ 0#64) ↔
      (1 < r.currentEl.toNat ∨ r.sys.hcrEl2 &&& 0x18#64 ≠ 0#64 ∨ r.sys.scrEl3 &&& 6#64 ≠ 0#64) := by
    have hlevel : 1#32 < c.currentEl ↔ 1 < r.currentEl.toNat := by
      rw [h.level]
      cases r.currentEl <;> decide
    rw [hlevel, h.hcr, h.scr]
  have hfiqMask : c.pstate &&& (1#64 <<< 6) = 0#64 ↔ r.pstate &&& Pstate.f = 0#32 := by
    rw [h.pstate]
    exact zeroExtend_and_eq_zero r.pstate Pstate.f
  have hirqMask : c.pstate &&& (1#64 <<< 7) = 0#64 ↔ r.pstate &&& Pstate.i = 0#32 := by
    rw [h.pstate]
    exact zeroExtend_and_eq_zero r.pstate Pstate.i
  have hopen : ∀ i : ℕ, (activeOverride c >>> i) &&& 3#64 ≠ 2#64 ↔
      (r.platform.profile = 0#32 ∨ (r.platform.overrideValue >>> i) &&& 3#64 ≠ 2#64) := by
    intro i
    rw [activeOverride, h.profile, h.platform]
    rcases profile_cases hprofile with hzero | hone
    · rw [hzero, if_neg (by decide), BitVec.zero_ushiftRight]
      exact iff_of_true (by decide) (.inl rfl)
    · rw [hone, if_pos rfl]
      exact ⟨.inr, fun hor => hor.resolve_left (by decide)⟩
  have hfiqOpen : (c.pstate &&& (1#64 <<< 6) = 0#64 ∧ (activeOverride c >>> 20) &&& 3#64 ≠ 2#64) ↔
      (r.platform.fiqEnabled = true ∧ r.pstate &&& Pstate.f = 0#32) := by
    rw [hfiqMask, hopen, PlatformState.fiqEnabled, decide_eq_true_iff, and_comm]
  have hirqOpen : (c.pstate &&& (1#64 <<< 7) = 0#64 ∧ (activeOverride c >>> 22) &&& 3#64 ≠ 2#64) ↔
      (r.platform.irqEnabled = true ∧ r.pstate &&& Pstate.i = 0#32) := by
    rw [hirqMask, hopen, PlatformState.irqEnabled, decide_eq_true_iff, and_comm]
  have hfiq : decide (c.fiqLevel ≠ 0#32) = r.platform.fiq := by
    rw [Bool.eq_iff_iff, decide_eq_true_iff]
    exact h.fiq
  have hirq : decide (c.irqLevel ≠ 0#32) = r.platform.irq := by
    rw [Bool.eq_iff_iff, decide_eq_true_iff]
    exact h.irq
  rw [recordLines, GuestCpuState.lines, htimer, hfiq, hirq, decide_eq_decide.mpr hunsupported,
    decide_eq_decide.mpr hfiqOpen, decide_eq_decide.mpr hirqOpen]

structure AsyncEntry (r taken : GuestCpuState) (kind : ExceptionKind) : Prop where
  level : taken.currentEl = r.targetEl
  elr : taken.sys.elr = Function.update r.sys.elr r.targetEl r.pc
  spsr : taken.sys.spsr = Function.update r.sys.spsr r.targetEl (r.pstate.zeroExtend 64)
  spEl : taken.spEl = Function.update r.spEl r.activeSpIndex r.sp
  sp : taken.sp = taken.spEl taken.currentEl
  pc : taken.pc = (r.sys.vbar r.targetEl &&& ~~~0x7ff#64) + GuestCpuState.exceptionOffset kind r.currentEl r.pstate
  pstate : taken.pstate = (r.pstate &&& ~~~Pstate.modeMask) ||| modeForEl r.targetEl ||| Pstate.d ||| Pstate.a |||
    Pstate.i ||| Pstate.f
  pending : taken.pendingException = none

lemma commit_raised (hnone : r.pendingException = none) {kind : ExceptionKind} (hkind : kind.asynchronous = true) :
    (∃ e, (r.raise (r.asyncException kind)).commitPendingInterrupt.1 = some e ∧ e.kind = kind) ∧
      AsyncEntry r (r.raise (r.asyncException kind)).commitPendingInterrupt.2 kind := by
  have htarget := r.targetEl_ne
  have hhalt : kind ≠ .guestHalt := by
    rintro rfl
    cases hkind
  have hraise : r.raise (r.asyncException kind) =
      { r.writeExceptionBank r.targetEl r.pstate { r.asyncException kind with
          syndrome := exceptionSyndrome kind r.currentEl 0#64 } with
        exceptionTarget := some r.targetEl
        exceptionFromLowerEl := r.currentEl ≠ r.targetEl
        pendingException := some { r.asyncException kind with
          syndrome := exceptionSyndrome kind r.currentEl 0#64 } } := by
    unfold GuestCpuState.raise
    rw [hnone]
    rfl
  rw [hraise]
  simp only [GuestCpuState.commitPendingInterrupt, GuestCpuState.asyncException, hkind, if_true,
    GuestCpuState.takePendingException, hhalt, if_false, Option.getD_some, GuestCpuState.writeExceptionBank, htarget,
    GuestCpuState.saveSp, GuestCpuState.exceptionBank]
  refine ⟨⟨_, rfl, rfl⟩, ⟨rfl, ?_, ?_, rfl, rfl, rfl, rfl, rfl⟩⟩
  · exact Function.update_idem ..
  · exact Function.update_idem ..

lemma targetEl_eq (h : Unsettled c r) : c.targetEl = levelWord r.targetEl := by
  unfold VfCpu.targetEl GuestCpuState.targetEl
  rw [h.level]
  cases r.currentEl <;> decide

lemma pstate_sp_bit (h : Unsettled c r) : c.pstate &&& 1#64 = 0#64 ↔ r.pstate &&& 1#32 = 0#32 := by
  rw [h.pstate]
  exact zeroExtend_and_eq_zero r.pstate 1#32

lemma activeSpIndex_eq (h : Unsettled c r) : c.activeSpIndex = levelWord r.activeSpIndex := by
  have hiff : (c.currentEl = 0#32 ∨ c.pstate &&& 1#64 = 0#64) ↔ (r.currentEl = .el0 ∨ r.pstate &&& 1#32 = 0#32) :=
    or_congr (by rw [h.level]; exact levelWord_eq_zero) (pstate_sp_bit h)
  unfold VfCpu.activeSpIndex GuestCpuState.activeSpIndex
  by_cases hzero : r.currentEl = .el0 ∨ r.pstate &&& 1#32 = 0#32
  · rw [if_pos (hiff.mpr hzero), if_pos hzero]
    rfl
  · rw [if_neg fun h => hzero (hiff.mp h), if_neg hzero]
    exact h.level

lemma offset_eq (h : Unsettled c r) {kind : ExceptionKind}
    (hkind : kind = .fiqInterrupt ∨ kind = .timerInterrupt ∨ kind = .externalInterrupt) :
    ((if c.currentEl = 0#32 then 0x400#64 else if c.pstate &&& 1#64 ≠ 0#64 then 0x200#64 else 0#64) +
      (if kind.polled.2 = Exception.timerInterrupt ∨ kind.polled.2 = Exception.externalInterrupt then 0x80#64
        else if kind.polled.2 = Exception.fiqInterrupt then 0x100#64 else 0#64)) =
      GuestCpuState.exceptionOffset kind r.currentEl r.pstate := by
  have hsynchronous : (if c.currentEl = 0#32 then 0x400#64 else if c.pstate &&& 1#64 ≠ 0#64 then 0x200#64 else 0#64) =
      (if r.currentEl = .el0 then 0x400#64 else if r.pstate &&& 1#32 ≠ 0#32 then 0x200#64 else 0#64) := by
    simp only [h.level, levelWord_eq_zero, ne_eq, pstate_sp_bit h]
  rw [hsynchronous]
  unfold GuestCpuState.exceptionOffset
  rcases hkind with rfl | rfl | rfl <;> rfl

lemma zeroExtend_clear (p m : U32) : p.zeroExtend 64 &&& ~~~m.zeroExtend 64 = (p &&& ~~~m).zeroExtend 64 := by
  apply BitVec.eq_of_getLsbD_eq
  intro i hi
  simp only [BitVec.zeroExtend_eq_setWidth, BitVec.getLsbD_and, BitVec.getLsbD_not, BitVec.getLsbD_setWidth]
  by_cases h : i < 32
  · simp [hi, h]
  · simp [BitVec.getLsbD_of_ge p i (by omega)]

lemma entered_pstate (h : Unsettled c r) :
    (c.pstate &&& ~~~15#64) ||| Cpu.modeForEl (levelWord r.targetEl) ||| 0x3c0#64 =
      ((r.pstate &&& ~~~Pstate.modeMask) ||| modeForEl r.targetEl ||| Pstate.d ||| Pstate.a ||| Pstate.i |||
        Pstate.f).zeroExtend 64 := by
  have hmode : Cpu.modeForEl (levelWord r.targetEl) = (modeForEl r.targetEl).zeroExtend 64 := by
    cases r.targetEl <;> decide
  have hdaif : (r.pstate &&& ~~~Pstate.modeMask) ||| modeForEl r.targetEl ||| Pstate.d ||| Pstate.a ||| Pstate.i |||
      Pstate.f = (r.pstate &&& ~~~15#32) ||| modeForEl r.targetEl ||| 0x3c0#32 := by
    rw [BitVec.or_assoc, BitVec.or_assoc, BitVec.or_assoc]
    rfl
  have hclear := zeroExtend_clear r.pstate 15#32
  have hor : ∀ a b : U32, (a ||| b).zeroExtend 64 = a.zeroExtend 64 ||| b.zeroExtend 64 := fun _ _ => BitVec.setWidth_or
  rw [hdaif, h.pstate, hmode, hor, hor, ← hclear]
  rfl

lemma sameEntry {kind : ExceptionKind} {taken : GuestCpuState} (h : Matches c r)
    (hkind : kind = .fiqInterrupt ∨ kind = .timerInterrupt ∨ kind = .externalInterrupt) (ht : AsyncEntry r taken kind) :
    SameEntry { (recordAt c kind.polled.2).entered with status := kind.polled.1 } taken := by
  have hu := h.toUnsettled
  have htarget := targetEl_eq hu
  have hle := ((VfCpu.stateValid_iff c).mp h.valid).mode.el_le
  have hexact := VfCpu.entered_exact hle kind.polled.2 c.pc 0#64
    (exceptionSyndromeOf kind.polled.2 c.currentEl c.pc 0#32) 0#32
  have hlevel : (recordAt c kind.polled.2).entered.currentEl = levelWord taken.currentEl := by
    rw [ht.level, ← htarget]
    exact hexact.level
  have hsaved : (recordAt c kind.polled.2).entered.spEl =
      Function.update c.spEl (VfCpu.bank (levelWord r.activeSpIndex)) c.sp := by
    rw [← activeSpIndex_eq hu]
    change c.saveActiveSp.spEl = _
    rw [VfCpu.saveActiveSp_of_le hle]
  have hsavedAt : ∀ el, (recordAt c kind.polled.2).entered.spEl (VfCpu.bank (levelWord el)) =
      Function.update r.spEl r.activeSpIndex r.sp el := by
    intro el
    rw [hsaved, h.sp]
    by_cases hel : el = r.activeSpIndex
    · rw [hel, Function.update_self, Function.update_self]
    · rw [Function.update_of_ne (fun h => hel (bank_levelWord_inj h)), Function.update_of_ne hel]
      exact h.spEl el
  refine ⟨hlevel, fun el hel => ?_, fun el hel => ?_, fun el => ?_, ?_, ?_, ?_, rfl, ht.pending⟩
  · rw [ht.elr, ← h.pc, ← bank_update h.elr _ _ el hel, ← htarget]
    rfl
  · rw [ht.spsr, ← h.pstate, ← bank_update h.spsr _ _ el hel, ← htarget]
    rfl
  · rw [ht.spEl, hsavedAt]
  · rw [ht.sp, ht.spEl, ← hsavedAt, ← hlevel]
    exact hexact.sp
  · have hvbar : c.vbarEl (VfCpu.bank c.targetEl) = r.sys.vbar r.targetEl := by
      rw [htarget]
      exact h.vbar _ r.targetEl_ne
    rw [ht.pc, ← offset_eq hu hkind, ← hvbar]
    exact hexact.vector
  · rw [ht.pstate, ← entered_pstate hu, ← htarget]
    exact hexact.pstate

lemma recordAt_same (kind : U32) :
    (recordAt c kind).currentEl = c.currentEl ∧ (recordAt c kind).pc = c.pc ∧ (recordAt c kind).pstate = c.pstate := by
  obtain ⟨spEl, hsave⟩ := c.saveActiveSp_eq
  unfold recordAt VfCpu.recordException
  rw [hsave]
  exact ⟨rfl, rfl, rfl⟩

lemma sameTrap (h : Matches c r) (hnone : r.pendingException = none) :
    SameTrap { recordAt { c with instruction := 0#32 } Exception.systemRegisterTrap with
      status := Status.systemRegisterTrap } (r.raise (r.asyncException .systemRegisterTrap)) := by
  have hu := h.toUnsettled
  have htarget := targetEl_eq hu
  have hlower : ((if c.currentEl < c.targetEl then 1#32 else 0#32) ≠ 0#32) ↔ r.currentEl ≠ r.targetEl := by
    have hiff : c.currentEl < c.targetEl ↔ r.currentEl = .el0 := by
      rw [VfCpu.targetEl_lower, h.level]
      exact levelWord_eq_zero
    have htargetEl : r.currentEl ≠ r.targetEl ↔ r.currentEl = .el0 := by
      unfold GuestCpuState.targetEl
      by_cases hel : r.currentEl = .el0
      · rw [if_pos hel, hel]
        decide
      · rw [if_neg hel]
        exact iff_of_false (fun h => h rfl) hel
    rw [htargetEl]
    by_cases hel : r.currentEl = .el0
    · rw [if_pos (hiff.mpr hel)]
      exact iff_of_true (by decide) hel
    · rw [if_neg fun h => hel (hiff.mp h)]
      exact iff_of_false (fun h => h rfl) hel
  have hraise : r.raise (r.asyncException .systemRegisterTrap) =
      { r.writeExceptionBank r.targetEl r.pstate { r.asyncException .systemRegisterTrap with
          syndrome := exceptionSyndrome .systemRegisterTrap r.currentEl 0#64 } with
        exceptionTarget := some r.targetEl
        exceptionFromLowerEl := r.currentEl ≠ r.targetEl
        pendingException := some { r.asyncException .systemRegisterTrap with
          syndrome := exceptionSyndrome .systemRegisterTrap r.currentEl 0#64 } } := by
    unfold GuestCpuState.raise
    rw [hnone]
    rfl
  have helr : ∀ el, el ≠ .el0 → Function.update c.elrEl (VfCpu.bank c.targetEl) c.pc (VfCpu.bank (levelWord el)) =
      Function.update r.sys.elr r.targetEl r.pc el := by
    rw [htarget, h.pc]
    exact bank_update h.elr _ _
  have hspsr : ∀ el, el ≠ .el0 → Function.update c.spsrEl (VfCpu.bank c.targetEl) c.pstate (VfCpu.bank (levelWord el)) =
      Function.update r.sys.spsr r.targetEl (r.pstate.zeroExtend 64) el := by
    rw [htarget, h.pstate]
    exact bank_update h.spsr _ _
  obtain ⟨hlevel, hpc, hpstate⟩ := @recordAt_same { c with instruction := 0#32 } Exception.systemRegisterTrap
  rw [hraise, GuestCpuState.writeExceptionBank, if_neg r.targetEl_ne]
  exact ⟨⟨rfl, _, rfl, rfl, h.pc.symm, rfl⟩, ⟨_, rfl, htarget⟩, hlower.trans decide_eq_true_iff.symm,
    hlevel.trans h.level, helr, hspsr, hpc.trans h.pc, hpstate.trans h.pstate⟩

end Delivery

/-- Matching states with coherent timers poll alike. `configure` admits no other profile. -/
theorem interrupt_agreement {c : VfCpu} {r : GuestCpuState} (h : Matches c r) (htimers : c.TimersCoherent)
    (hprofile : r.platform.profile ≤ 1#32) (hsmp : r.smp.externalPending = 0#64)
    (hpending : c.exceptionPending = Exception.none) (hnone : r.pendingException = none) :
    Delivers c r r.lines.delivery := by
  have hc := record_pollInterrupt_eq h.valid hpending
  have hr := GuestCpuState.pollInterrupt_eq hnone hsmp
  rw [lines_eq h htimers hprofile] at hc
  cases hdelivery : r.lines.delivery with
  | nothing =>
    rw [hdelivery] at hc hr
    refine ⟨hc, hr, ?_⟩
    unfold GuestCpuState.commitPendingInterrupt
    rw [hnone]
  | trap =>
    rw [hdelivery] at hc hr
    have htrap := sameTrap h hnone
    obtain ⟨-, e, he, hkind, -⟩ := htrap.record
    have hcommit : (r.raise (r.asyncException .systemRegisterTrap)).commitPendingInterrupt =
        (none, r.raise (r.asyncException .systemRegisterTrap)) := by
      unfold GuestCpuState.commitPendingInterrupt
      rw [he]
      dsimp only
      rw [hkind]
      rfl
    unfold Delivers
    rw [hc, hr]
    dsimp only [recordDeliver, GuestCpuState.deliver]
    rw [hcommit]
    exact ⟨rfl, rfl, rfl, htrap⟩
  | interrupt kind =>
    rw [hdelivery] at hc hr
    have hkind := Lines.delivery_interrupt hdelivery
    have hasync : kind.asynchronous = true := by
      rcases hkind with rfl | rfl | rfl <;> rfl
    obtain ⟨htaken, hentry⟩ := commit_raised hnone hasync
    unfold Delivers
    rw [hc, hr]
    exact ⟨rfl, rfl, htaken, sameEntry h hkind hentry⟩

theorem interrupt_agreement_fiq :
    Delivers { VfCpu.reset 1#32 with idAa64isar1 := 0x10#64, fiqLevel := 1#32 }
      { GuestCpuState.reset 0#32 with platform := ⟨0#32, 0#64, false, true⟩ } (.interrupt .fiqInterrupt) :=
  interrupt_agreement
    { reset_matches with
      fiq := iff_of_true (by decide) rfl
      valid := by decide }
    ⟨(VfCpu.reset_good 1#32).timers.physical, (VfCpu.reset_good 1#32).timers.virtual, (VfCpu.reset_good 1#32).timers.tval⟩
    (by decide) rfl rfl rfl

end Nextcore.Preos
