import Nextcore.Preos.State

/-! Exception entry followed by `eret` in the reference core. -/

namespace Nextcore.Preos

open Mmu

namespace GuestCpuState

lemma levelForMode_of_valid {el : ExceptionLevel} {pstate : U32}
    (h : modeValid el (pstate &&& Pstate.modeMask) = true) : levelForMode pstate = some el := by
  unfold levelForMode
  cases el <;> simp only [modeValid, decide_eq_true_eq] at h
  · simp [h]
  · rcases h with h | h <;> simp [h]
  · rcases h with h | h <;> simp [h]
  · rcases h with h | h <;> simp [h]

lemma modeValid_of_stateValid {cpu : GuestCpuState} (h : cpu.stateValid = true) :
    modeValid cpu.currentEl (cpu.pstate &&& Pstate.modeMask) = true := by
  simp only [stateValid, Bool.and_eq_true] at h
  exact h.1.1

lemma targetEl_ne (cpu : GuestCpuState) : cpu.targetEl ≠ .el0 := by
  unfold targetEl
  split
  · simp
  next h => exact h

lemma entry_sp_bit (pstate : U32) {el : ExceptionLevel} (h : el ≠ .el0) :
    ((pstate &&& ~~~Pstate.modeMask) ||| modeForEl el ||| Pstate.d ||| Pstate.a ||| Pstate.i ||| Pstate.f) &&& 1#32
      ≠ 0#32 := by
  intro hzero
  have hbit := congrArg (fun v : U32 => v.getLsbD 0) hzero
  cases el <;> simp [modeForEl] at hbit h

structure Entered (cpu taken : GuestCpuState) (pc : U64) : Prop where
  level : taken.currentEl = cpu.targetEl
  pstate : taken.pstate &&& 1#32 ≠ 0#32
  spsr : taken.sys.spsr taken.currentEl = cpu.pstate.zeroExtend 64
  elr : taken.sys.elr taken.currentEl = pc
  spEl : taken.spEl = Function.update cpu.spEl cpu.activeSpIndex cpu.sp
  sp : taken.sp = taken.spEl taken.currentEl

lemma take_raised {cpu : GuestCpuState} (hnone : cpu.pendingException = none) {exception : GuestException}
    (hkind : exception.kind ≠ .guestHalt) :
    Entered cpu (cpu.raise exception).takePendingException.2 exception.pc := by
  have htarget := cpu.targetEl_ne
  have hraise : cpu.raise exception =
      let exception := { exception with
        syndrome := exceptionSyndrome exception.kind cpu.currentEl exception.syndrome }
      { cpu.writeExceptionBank cpu.targetEl cpu.pstate exception with
        exceptionTarget := some cpu.targetEl
        exceptionFromLowerEl := cpu.currentEl ≠ cpu.targetEl
        pendingException := some exception } := by
    unfold raise
    simp [hnone]
  rw [hraise]
  simp only [takePendingException, hkind, if_false, Option.getD_some, writeExceptionBank, htarget, saveSp]
  refine ⟨rfl, entry_sp_bit _ htarget, ?_, ?_, rfl, rfl⟩
  · exact Function.update_self ..
  · exact Function.update_self ..

lemma activeSpIndex_entered {cpu taken : GuestCpuState} {pc : U64} (h : Entered cpu taken pc) :
    taken.activeSpIndex = taken.currentEl := by
  unfold activeSpIndex
  rw [if_neg]
  simp only [not_or]
  exact ⟨h.level ▸ cpu.targetEl_ne, h.pstate⟩

lemma eret_entered {cpu taken : GuestCpuState} {pc : U64} (hvalid : cpu.stateValid = true)
    (h : Entered cpu taken pc) :
    ∃ restored, taken.eret = .ok restored ∧ restored.pc = pc ∧ restored.pstate = cpu.pstate ∧
      restored.currentEl = cpu.currentEl ∧
      restored.spEl = Function.update cpu.spEl cpu.activeSpIndex cpu.sp ∧
      restored.sp = Function.update cpu.spEl cpu.activeSpIndex cpu.sp cpu.currentEl := by
  have hlevel : taken.currentEl ≠ .el0 := h.level ▸ cpu.targetEl_ne
  have hpstate : ((cpu.pstate.zeroExtend 64).truncate 32 : U32) = cpu.pstate := by
    rw [BitVec.truncate_eq_setWidth, BitVec.zeroExtend_eq_setWidth]
    exact BitVec.setWidth_setWidth_of_le _ (by decide)
  have hsaved : taken.saveSp.spEl = Function.update cpu.spEl cpu.activeSpIndex cpu.sp := by
    unfold saveSp
    rw [activeSpIndex_entered h, h.sp, h.spEl]
    exact Function.update_eq_self _ _
  unfold eret
  rw [if_neg hlevel]
  simp only [exceptionBank, hlevel, if_false, h.spsr, h.elr, hpstate,
    levelForMode_of_valid (modeValid_of_stateValid hvalid)]
  exact ⟨_, rfl, rfl, rfl, rfl, hsaved, by rw [hsaved]⟩

/-- Entry and return give back the program counter, PSTATE, level and live SP, and every SP bank but the one
the live SP shadows. -/
def RoundTrip (cpu : GuestCpuState) (exception : GuestException) : Prop :=
  ∃ restored, (cpu.raise exception).takePendingException.2.eret = .ok restored ∧ restored.pc = cpu.pc ∧
    restored.pstate = cpu.pstate ∧ restored.currentEl = cpu.currentEl ∧ restored.sp = cpu.sp ∧
    ∀ el, el ≠ cpu.activeSpIndex → restored.spEl el = cpu.spEl el

/-- `eret` reloads the bank of the level it returns to, so above EL0 with SPSel clear the live SP comes back
only when that bank already held it. -/
theorem exception_round_trip_iff (cpu : GuestCpuState) (exception : GuestException)
    (hvalid : cpu.stateValid = true) (hnone : cpu.pendingException = none)
    (hkind : exception.kind ≠ .guestHalt) (hpc : exception.pc = cpu.pc) :
    cpu.RoundTrip exception ↔
      cpu.currentEl = .el0 ∨ cpu.pstate &&& 1#32 ≠ 0#32 ∨ cpu.spEl cpu.currentEl = cpu.sp := by
  obtain ⟨restored, heret, hrpc, hpstate, hel, hspEl, hsp⟩ := eret_entered hvalid (take_raised hnone hkind)
  have htrip : cpu.RoundTrip exception ↔ restored.sp = cpu.sp := by
    constructor
    · rintro ⟨other, hother, _, _, _, hlive, _⟩
      rw [heret] at hother
      cases hother
      exact hlive
    · intro hlive
      refine ⟨restored, heret, hrpc.trans hpc, hpstate, hel, hlive, ?_⟩
      intro el hne
      rw [hspEl]
      exact Function.update_of_ne hne _ _
  rw [htrip, hsp]
  unfold activeSpIndex
  by_cases h0 : cpu.currentEl = .el0
  · simp [h0]
  by_cases hsel : cpu.pstate &&& 1#32 = 0#32
  · rw [if_pos (Or.inr hsel), Function.update_of_ne h0]
    simp [h0, hsel]
  · rw [if_neg (by simp [h0, hsel]), Function.update_self]
    simp [hsel]

theorem exception_round_trip_iff_el1h :
    { reset 0#32 with sp := 0x1000#64 }.RoundTrip ⟨.undefinedInstruction, 0#32, 0#64, 0#64, 0#64⟩ :=
  (exception_round_trip_iff { reset 0#32 with sp := 0x1000#64 } ⟨.undefinedInstruction, 0#32, 0#64, 0#64, 0#64⟩
    (by decide) rfl (by decide) rfl).mpr (Or.inr (Or.inl (by decide)))

/-- The same exception on SP_EL0: the return loads SP_EL1. -/
theorem exception_round_trip_el1t_fails :
    { reset 0#32 with pstate := 4#32, sp := 0x1000#64 }.stateValid = true ∧
    ¬{ reset 0#32 with pstate := 4#32, sp := 0x1000#64 }.RoundTrip
      ⟨.undefinedInstruction, 0#32, 0#64, 0#64, 0#64⟩ := by
  refine ⟨by decide, ?_⟩
  rintro ⟨restored, heret, _, _, _, hlive, _⟩
  have hsp : restored.sp = 0#64 := by
    cases heret
    rfl
  rw [hsp] at hlive
  cases hlive

end GuestCpuState

end Nextcore.Preos
