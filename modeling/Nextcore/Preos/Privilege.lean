import Nextcore.Preos.Frame

/-! Exception levels over the instructions of the reference: only an exception
return moves the level, and where it moves it the saved state decides alone. -/

namespace Nextcore.Preos.GuestCpuState

open Mmu

variable {β : Type}

def escalates (cpu : GuestCpuState) (word : U32) : Bool :=
  word = 0xd69f03e0#32 ∧ cpu.currentEl = .el1 ∧
    (levelForMode ((cpu.sys.spsr .el1).truncate 32)).any fun level => 1 < level.toNat

lemma pauthStep_eret (cpu : GuestCpuState) : cpu.pauthStep 0xd69f03e0#32 = none := rfl

lemma executeWord_eret (cpu : GuestCpuState) (bus : GuestBus β) (s : β) :
    cpu.executeWord bus s 0xd69f03e0#32 =
      match cpu.eret with
      | .ok next => (.resume, next, s)
      | .error kind => cpu.refuse s 0xd69f03e0#32 kind := by
  unfold executeWord
  rw [pauthStep_eret]
  rfl

lemma eret_el1 {cpu : GuestCpuState} (hel : cpu.currentEl = .el1) :
    (∃ level next, levelForMode ((cpu.sys.spsr .el1).truncate 32) = some level ∧ cpu.eret = .ok next ∧
      next.currentEl = level) ∨
    levelForMode ((cpu.sys.spsr .el1).truncate 32) = none ∧ cpu.eret = .error .undefinedInstruction := by
  have hbank : (cpu.exceptionBank cpu.currentEl).1 = cpu.sys.spsr .el1 := by
    rw [hel]
    rfl
  unfold eret
  rw [if_neg (by rw [hel]; decide)]
  dsimp only
  rw [hbank]
  cases hlevel : levelForMode ((cpu.sys.spsr .el1).truncate 32) with
  | none => exact .inr ⟨rfl, rfl⟩
  | some level => exact .inl ⟨level, _, rfl, rfl, rfl⟩

lemma executeWord_eret_el0 {cpu : GuestCpuState} (hel : cpu.currentEl = .el0) (bus : GuestBus β) (s : β) :
    (cpu.executeWord bus s 0xd69f03e0#32).2.1.currentEl = .el0 := by
  have hrefused : cpu.eret = .error .privilegedInstruction := if_pos hel
  rw [executeWord_eret, hrefused]
  exact (keeps_fault cpu s _ _ _ _).currentEl.trans hel

lemma executeWord_eret_el1 {cpu : GuestCpuState} (hel : cpu.currentEl = .el1) (bus : GuestBus β) (s : β) :
    (cpu.executeWord bus s 0xd69f03e0#32).2.1.currentEl =
      (levelForMode ((cpu.sys.spsr .el1).truncate 32)).getD .el1 := by
  rw [executeWord_eret]
  obtain ⟨level, next, hlevel, hnext, hcurrent⟩ | ⟨hlevel, hrefused⟩ := eret_el1 hel
  · rw [hnext, hlevel]
    exact hcurrent
  · rw [hrefused, hlevel]
    exact (keeps_fault cpu s _ _ _ _).currentEl.trans hel

/-- The level after an instruction that EL0 or EL1 executes is above the level before
exactly at an exception return that names a higher level. An exception is entered
at the vector of its target. -/
theorem level_rises_iff (cpu : GuestCpuState) (bus : GuestBus β) (s : β) (hel : cpu.currentEl.toNat ≤ 1) :
    (∀ word, (cpu.executeWord bus s word).2.1.currentEl.toNat ≤ cpu.currentEl.toNat ↔ cpu.escalates word = false) ∧
    (∀ exception, cpu.pendingException = some exception → exception.kind ≠ .guestHalt →
      cpu.takePendingException.2.currentEl = cpu.exceptionTarget.getD cpu.targetEl ∧
      cpu.takePendingException.2.pc =
        ((cpu.exceptionBank (cpu.exceptionTarget.getD cpu.targetEl)).2.2 &&& ~~~0x7ff#64) +
          exceptionOffset exception.kind cpu.currentEl cpu.pstate) := by
  refine ⟨fun word => ?_, fun exception hpending hkind => ?_⟩
  · by_cases heret : word = 0xd69f03e0#32
    · subst heret
      have hcases : cpu.currentEl = .el0 ∨ cpu.currentEl = .el1 := by
        cases h : cpu.currentEl with
        | el0 => exact .inl rfl
        | el1 => exact .inr rfl
        | el2 => rw [h] at hel; exact absurd hel (by decide)
        | el3 => rw [h] at hel; exact absurd hel (by decide)
      rcases hcases with hel0 | hel1
      · rw [executeWord_eret_el0 hel0, hel0]
        simp [escalates, hel0]
      · rw [executeWord_eret_el1 hel1, hel1]
        cases hlevel : levelForMode ((cpu.sys.spsr .el1).truncate 32) with
        | none => simp [escalates, hlevel]
        | some level => cases level <;> simp [escalates, hel1, hlevel, ExceptionLevel.toNat]
    · rw [(keeps_executeWord cpu bus s heret).currentEl]
      simp [escalates, heret]
  · unfold takePendingException
    rw [hpending]
    dsimp only
    rw [if_neg hkind]
    generalize cpu.exceptionTarget.getD cpu.targetEl = target
    refine ⟨rfl, ?_⟩
    unfold writeExceptionBank exceptionBank
    by_cases htarget : target = .el0
    · simp only [htarget, if_true]
    · simp only [htarget, if_false, saveSp]

def returning : GuestCpuState :=
  let cpu := reset 0#32
  { cpu with sys := { cpu.sys with spsr := fun _ => 9#64 } }

theorem level_rises_reset :
    (returning.executeWord RamBus.bus ⟨[], 0#64⟩ 0xd503201f#32).2.1.currentEl.toNat ≤ returning.currentEl.toNat :=
  ((level_rises_iff returning RamBus.bus ⟨[], 0#64⟩ (by decide)).1 0xd503201f#32).mpr (by decide)

/-- A return at EL1 to EL2h. -/
theorem eret_escalates :
    ¬∀ (cpu : GuestCpuState) (s : RamBus) (word : U32), cpu.currentEl.toNat ≤ 1 →
      (cpu.executeWord RamBus.bus s word).2.1.currentEl.toNat ≤ cpu.currentEl.toNat := by
  intro h
  exact absurd (h returning ⟨[], 0#64⟩ 0xd69f03e0#32 (by decide)) (by decide +kernel)

end Nextcore.Preos.GuestCpuState
