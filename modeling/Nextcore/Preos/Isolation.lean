import Nextcore.Preos.Precise

/-! EL0 is confined: a run that starts there reaches nothing of the levels above but through an exception. -/

namespace Nextcore.Preos.GuestCpuState

open Mmu Loop

variable {cpu next : GuestCpuState}

def barred (sys : SystemRegisters) : SystemRegisters :=
  { sys with
    tpidrEl0 := 0#64, cntpctEl0 := 0#64, cntpCtlEl0 := 0#64, cntpCvalEl0 := 0#64, cntvctEl0 := 0#64, cntvCtlEl0 := 0#64,
    cntvCvalEl0 := 0#64, cntpTvalEl0 := 0#64 }

structure Above where
  sys : SystemRegisters
  spEl : ExceptionLevel → U64
  mode : U32
  level : ExceptionLevel
  mmu : VfMmu
  keys : Fin 5 → Key
  platform : PlatformState
  affinity : U32

def above (cpu : GuestCpuState) : Above :=
  ⟨barred cpu.sys, cpu.spEl, mode cpu.pstate, cpu.currentEl, cpu.mmu.invalidate, cpu.pauth, cpu.platform, cpu.affinity⟩

lemma above_writeSysreg (hel : cpu.currentEl = .el0) {reg : SystemRegister} {value : U64}
    (h : (cpu.writeSysreg reg value).1 = .ok ()) : (cpu.writeSysreg reg value).2.above = cpu.above := by
  have hplain : cpu.plainEl1 = false := by
    unfold plainEl1
    rw [hel]
    simp
  have hrefused (hlevel : cpu.currentEl.toNat < reg.minimumEl.toNat) (hreg : reg ≠ .platformOverride) :
      (cpu.writeSysreg reg value).1 ≠ .ok () := by
    unfold writeSysreg
    rw [if_neg hreg, if_pos hlevel]
    split <;> nofun
  have hstore (hreg : reg ≠ .platformOverride) (hlow : ¬(cpu.currentEl = .el0 ∧ (reg = .tpidrEl1 ∨ reg = .tpidrroEl0)))
      (hlevel : ¬cpu.currentEl.toNat < reg.minimumEl.toNat) : cpu.writeSysreg reg value = cpu.storeSysreg reg value := by
    unfold writeSysreg
    rw [if_neg hreg, if_neg hlow, if_neg hlevel]
  by_cases hlevel : cpu.currentEl.toNat < reg.minimumEl.toNat
  · by_cases hreg : reg = .platformOverride
    · subst hreg
      unfold writeSysreg at h
      rw [if_pos rfl, if_pos (Or.inr hplain)] at h
      cases h
    · exact absurd h (hrefused hlevel hreg)
  rw [hel] at hlevel
  cases reg
  case tpidrroEl0 =>
    unfold writeSysreg at h
    rw [if_neg nofun, if_pos ⟨hel, Or.inr rfl⟩] at h
    cases h
  case tpidrEl0 => rw [hstore nofun (by simp) (by rw [hel]; exact hlevel)] at h ⊢; rfl
  case cntfrqEl0 => rw [hstore nofun (by simp) (by rw [hel]; exact hlevel)] at h ⊢; cases h
  case cntpctEl0 => rw [hstore nofun (by simp) (by rw [hel]; exact hlevel)] at h ⊢; cases h
  case currentEl => rw [hstore nofun (by simp) (by rw [hel]; exact hlevel)] at h ⊢; cases h
  case cntvctEl0 => rw [hstore nofun (by simp) (by rw [hel]; exact hlevel)] at h ⊢; cases h
  case cntpCtlEl0 =>
    rw [hstore nofun (by simp) (by rw [hel]; exact hlevel)]
    unfold storeSysreg
    dsimp only
    split <;> rfl
  case cntvCtlEl0 =>
    rw [hstore nofun (by simp) (by rw [hel]; exact hlevel)]
    unfold storeSysreg
    dsimp only
    split <;> rfl
  case cntpCvalEl0 => rw [hstore nofun (by simp) (by rw [hel]; exact hlevel)]; rfl
  case cntvCvalEl0 => rw [hstore nofun (by simp) (by rw [hel]; exact hlevel)]; rfl
  case cntpTvalEl0 => rw [hstore nofun (by simp) (by rw [hel]; exact hlevel)]; rfl
  all_goals exact absurd (by decide) hlevel

lemma Move.above (h : Move cpu next) (hel : cpu.currentEl = .el0) : next.above = cpu.above := by
  cases h with
  | registers h hmode =>
    obtain ⟨_, _, _, _, rfl⟩ := h
    unfold GuestCpuState.above
    dsimp only at hmode ⊢
    rw [hmode]
  | masks word hne => exact absurd hel hne
  | stack word hne => exact absurd hel hne
  | tlb mmu h =>
    unfold GuestCpuState.above
    dsimp only
    rw [h]
  | monitor monitor => rfl
  | keys keys hne => exact absurd hel hne
  | waits hne => exact absurd hel hne
  | write reg value h => exact above_writeSysreg hel h
  | returns h =>
    unfold eret at h
    rw [if_pos hel] at h
    cases h

lemma Moves.above (h : Moves cpu next) (hel : cpu.currentEl = .el0) : next.above = cpu.above := by
  induction h with
  | refl => rfl
  | tail _ hmove ih => exact (hmove.above ((congrArg Above.level ih).trans hel)).trans ih

lemma SameButTlb.above (h : cpu.SameButTlb next) : next.above = cpu.above := by
  obtain ⟨_, _, rfl⟩ := h
  rfl

def Above.outside (a : Above) : Above :=
  { a with
    sys := { a.sys with
      spsr := Function.update a.sys.spsr .el1 0#64, esr := Function.update a.sys.esr .el1 0#64
      far := Function.update a.sys.far .el1 0#64, elr := Function.update a.sys.elr .el1 0#64 } }

structure EntersEl1 (cpu next : GuestCpuState) : Prop where
  pc : ∃ kind, next.pc = (cpu.sys.vbar .el1 &&& ~~~0x7ff#64) + exceptionOffset kind .el0 cpu.pstate
  above : next.above.outside = { cpu.above.outside with
    level := .el1, mode := mode next.pstate, spEl := Function.update cpu.spEl .el0 cpu.sp }

inductive Leaves (start last final : GuestCpuState) : Prop
  | unchanged (h : final.above = start.above)
  | held (h : final.above.outside = start.above.outside) (htarget : final.exceptionTarget = some .el1)
  | entered (h : last.EntersEl1 final)

section Runs

variable {budget : U64} {m m' last : GuestCpuState × RamBus}

def user : GuestCpuState := { reset 0#32 with currentEl := .el0, pstate := 0#32 }

end Runs

end Nextcore.Preos.GuestCpuState
