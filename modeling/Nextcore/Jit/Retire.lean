import Nextcore.Cpu.Invariant
import Nextcore.Jit.Frame
import Nextcore.Jit.Runner
import Nextcore.Lib.Bits

/-! The retired count: a turn that goes on has retired its words, so the budget of a
run bounds its turns. -/

namespace Nextcore.Cpu.VfCpu

lemma storeSysreg_retired (cpu : VfCpu) (r : Sysreg) (value : U64) : (cpu.storeSysreg r value).2.retired = cpu.retired := by
  cases r <;> first | rfl | (simp only [storeSysreg]; split <;> rfl)

lemma writeSysreg_retired (cpu : VfCpu) (key : U32) (value : U64) : (cpu.writeSysreg key value).2.retired = cpu.retired := by
  rcases cpu.writeSysreg_cases key value with ⟨_, h⟩ | ⟨_, _, _, _, _, h⟩ | ⟨_, _, h⟩ | ⟨r, _, _, _, _, h⟩
  · rw [h]
  · rw [h]
  · rw [h, configurePlatform]
    split <;> rfl
  · rw [h]
    exact cpu.storeSysreg_retired r value

end Nextcore.Cpu.VfCpu

namespace Nextcore.Jit

open Cpu Emit X86 Loop

@[simp] lemma retireNext_retired (cpu : VfCpu) : (retireNext cpu).retired = cpu.retired + 1#64 := rfl

lemma setTarget_retired (cpu : VfCpu) (w : U32) (value : U64) : (setTarget cpu w value).retired = cpu.retired := by
  unfold setTarget
  split <;> rfl

section Slow

variable {pauth : Option PauthStep} {cpu next : VfCpu}

lemma systemRegisterSlowStep_retired (h : systemRegisterSlowStep cpu = some next) :
    next.retired = cpu.retired + 1#64 := by
  unfold systemRegisterSlowStep at h
  dsimp only at h
  split at h
  · cases h
  split at h
  · split at h
    · cases h
    · cases h
      rw [retireNext_retired, setTarget_retired]
  · have hretired := cpu.writeSysreg_retired (sysregKey cpu.instruction) (sourceOf cpu cpu.instruction)
    split at h
    next hwrite =>
      cases h
      rw [hwrite] at hretired
      rw [retireNext_retired, hretired]
    · cases h

lemma pstateSlowStep_retired (h : pstateSlowStep cpu = some next) : next.retired = cpu.retired + 1#64 := by
  unfold pstateSlowStep at h
  dsimp only at h
  split at h
  · cases h
  split at h
  · cases h
    rfl
  split at h
  · cases h
    rfl
  · cases h

lemma pauthSlowStep_retired (h : pauthSlowStep pauth cpu = some next) : next.retired = cpu.retired + 1#64 := by
  unfold pauthSlowStep at h
  split at h
  · cases h
  split at h
  · cases h
  split at h
  · cases h
  · cases h
    rfl

lemma slowStep_retired (h : slowStep pauth cpu = some next) : next.retired = cpu.retired + 1#64 := by
  simp only [slowStep, Option.orElse_eq_orElse, Option.orElse_eq_or, Option.or_eq_some_iff] at h
  rcases h with h | ⟨-, h | ⟨-, h⟩⟩
  · exact systemRegisterSlowStep_retired h
  · exact pstateSlowStep_retired h
  · exact pauthSlowStep_retired h

lemma writeOnlySlowStep_retired {key : U32} (h : writeOnlySlowStep key cpu = some next) :
    next.retired = cpu.retired + 1#64 := by
  unfold writeOnlySlowStep at h
  split at h
  · cases h
  · exact systemRegisterSlowStep_retired h

lemma memoryControlRead_retired (h : memoryControlRead cpu = some next) : next.retired = cpu.retired + 1#64 := by
  unfold memoryControlRead at h
  dsimp only at h
  split at h
  · cases h
  split at h
  · cases h
  split at h
  · cases h
  · cases h
    rw [retireNext_retired, setTarget_retired]

lemma pauthImmutableStep_retired (h : pauthImmutableStep pauth cpu = some next) : next.retired = cpu.retired + 1#64 := by
  unfold pauthImmutableStep at h
  split at h
  · cases h
  split at h
  · cases h
  split at h
  · cases h
  split at h
  · cases h
  · cases h
    rfl

lemma slowStepV2_retired (h : slowStepV2 pauth cpu = some next) : next.retired = cpu.retired + 1#64 := by
  simp only [slowStepV2, Option.orElse_eq_orElse, Option.orElse_eq_or, Option.or_eq_some_iff] at h
  rcases h with h | ⟨-, h | ⟨-, h | ⟨-, h | ⟨-, h | ⟨-, h⟩⟩⟩⟩⟩
  · unfold systemRegisterReadSlowStep at h
    split at h
    · cases h
    · exact systemRegisterSlowStep_retired h
  · exact writeOnlySlowStep_retired h
  · exact writeOnlySlowStep_retired h
  · exact memoryControlRead_retired h
  · unfold stackSelectImmutableStep at h
    split at h
    · cases h
    · cases h
      rfl
  · exact pauthImmutableStep_retired h

end Slow

lemma dispatch_again {slow : VfCpu → Option VfCpu} (hslow : ∀ cpu next, slow cpu = some next →
      next.retired = cpu.retired + 1#64) {status : U32} {cpu next : VfCpu}
    (h : dispatch slow status cpu = .again next) :
    (status = Status.next ∧ next = cpu) ∨ (status ≠ Status.next ∧ status ≠ Status.halt ∧
      next.retired = cpu.retired + 1#64) := by
  have hfailure : researchSystemRegisterFailure cpu status = Status.next → status = Status.next := by
    unfold researchSystemRegisterFailure
    split
    · intro hgap
      cases hgap
    · exact id
  unfold dispatch at h
  dsimp only at h
  by_cases hstatus : status = Status.undefinedInstruction ∨ status = Status.systemRegisterTrap
  · rw [if_pos hstatus] at h
    have hne : status ≠ Status.next ∧ status ≠ Status.halt := by
      rcases hstatus with rfl | rfl <;> decide
    cases hstep : slow cpu with
    | some cpu' =>
      rw [hstep] at h
      cases h
      exact .inr ⟨hne.1, hne.2, hslow cpu _ hstep⟩
    | none =>
      rw [hstep] at h
      dsimp only at h
      rw [if_pos (mt hfailure hne.1)] at h
      cases h
  · rw [if_neg hstatus] at h
    split at h
    · cases h
    next hnext =>
      cases h
      exact .inl ⟨hfailure (not_not.mp hnext), rfl⟩

lemma effectFrom_one (t : Target) (provider : Bool) (guest : List Byte) (pc : U64) (g : VfCpu) (ram : List Byte) :
    ∃ status g' ram', effectFrom t provider guest 1 0#32 pc g ram = .stops status g' ram' ∧
      ((status = Status.next ∧ g'.retired = g.retired + 1#64) ∨ status = Status.halt ∨
        (FaultStatus status ∧ g'.retired = g.retired)) := by
  obtain ⟨h, hlocal⟩ := localized_one t provider (blockWord t provider guest pc) pc
  obtain ⟨heq, hkeeps⟩ := hlocal 0#32 g ram
  have hzero : g.retired + (0#32).signExtend 64 = g.retired := BitVec.add_zero _
  beta_reduce at heq
  rw [effectFrom]
  dsimp only
  split
  · exact ⟨_, _, _, rfl, .inr (.inr ⟨⟨by decide, by decide⟩, hzero⟩)⟩
  rw [heq]
  cases hout : h g.currentEl g.hcrEl2 g.scrEl3 (working g) ram with
  | next d ram' => exact ⟨_, _, _, rfl, .inl ⟨rfl, rfl⟩⟩
  | branches d target ram' => exact ⟨_, _, _, rfl, .inl ⟨rfl, rfl⟩⟩
  | halts d ram' => exact ⟨_, _, _, rfl, .inr (.inl rfl)⟩
  | faults status d ram' =>
    rw [hout] at hkeeps
    exact ⟨_, _, _, rfl, .inr (.inr ⟨hkeeps.1, hzero⟩)⟩

lemma budget_step {budget start retired : U64} (h : retired - start < budget) :
    (retired + 1#64 - start).toNat = (retired - start).toNat + 1 := by
  rw [BitVec.lt_def] at h
  have hbudget := budget.isLt
  rw [Bits.add_sub_swap, BitVec.toNat_add]
  exact Nat.mod_eq_of_lt (by change _ + 1 < _; omega)

end Nextcore.Jit
