import Nextcore.Preos.Execute

/-! What an instruction leaves alone: the level of the CPU, and the lines and the
latch of its interrupts. -/

namespace Nextcore.Preos

open Mmu

variable {β : Type}

namespace GuestCpuState

def Registers (cpu next : GuestCpuState) : Prop :=
  ∃ x sp pstate pc, next = { cpu with x := x, sp := sp, pstate := pstate, pc := pc }

structure Outside (cpu next : GuestCpuState) : Prop where
  smp : next.smp = cpu.smp
  affinity : next.affinity = cpu.affinity
  irq : next.platform.irq = cpu.platform.irq
  fiq : next.platform.fiq = cpu.platform.fiq

structure Keeps (cpu next : GuestCpuState) : Prop extends Outside cpu next where
  currentEl : next.currentEl = cpu.currentEl

variable {cpu next last : GuestCpuState}

lemma Keeps.refl (cpu : GuestCpuState) : cpu.Keeps cpu := ⟨⟨rfl, rfl, rfl, rfl⟩, rfl⟩

lemma Outside.trans (h : cpu.Outside next) (h' : next.Outside last) : cpu.Outside last :=
  ⟨h'.smp.trans h.smp, h'.affinity.trans h.affinity, h'.irq.trans h.irq, h'.fiq.trans h.fiq⟩

lemma Keeps.trans (h : cpu.Keeps next) (h' : next.Keeps last) : cpu.Keeps last :=
  ⟨h.toOutside.trans h'.toOutside, h'.currentEl.trans h.currentEl⟩

section Families

lemma registers_refl (cpu : GuestCpuState) : cpu.Registers cpu := ⟨cpu.x, cpu.sp, cpu.pstate, cpu.pc, rfl⟩

lemma Registers.trans (h : cpu.Registers next) (h' : next.Registers last) : cpu.Registers last := by
  obtain ⟨_, _, _, _, rfl⟩ := h
  obtain ⟨_, _, _, _, rfl⟩ := h'
  exact ⟨_, _, _, _, rfl⟩

lemma registers_writeReg (cpu : GuestCpuState) (index : U32) (value : U64) (spAllowed wide : Bool) :
    cpu.Registers (cpu.writeReg index value spAllowed wide) := by
  unfold writeReg
  dsimp only
  split
  · split
    · exact ⟨cpu.x, _, cpu.pstate, cpu.pc, rfl⟩
    · exact registers_refl cpu
  · exact ⟨_, cpu.sp, cpu.pstate, cpu.pc, rfl⟩

lemma registers_pstate (cpu : GuestCpuState) (pstate : U32) : cpu.Registers { cpu with pstate := pstate } :=
  ⟨cpu.x, cpu.sp, pstate, cpu.pc, rfl⟩

lemma registers_advance (cpu : GuestCpuState) : cpu.Registers cpu.advance :=
  ⟨cpu.x, cpu.sp, cpu.pstate, _, rfl⟩

lemma registers_addSubResult (cpu : GuestCpuState) (word : U32) (left right : U64) (spAllowed : Bool) :
    cpu.Registers (cpu.addSubResult word left right spAllowed) := by
  have hwrite := cpu.registers_writeReg (rdField word)
    (addSub left right (bitSet word 30) (isWide word)).1 spAllowed (isWide word)
  unfold addSubResult
  dsimp only
  split
  · exact hwrite.trans (registers_pstate _ _)
  · exact hwrite

lemma registers_conditionalCompare (cpu : GuestCpuState) (word : U32) :
    cpu.Registers (cpu.conditionalCompare word) := by
  unfold conditionalCompare
  split
  · exact registers_pstate _ _
  · exact registers_pstate _ _

lemma registers_logicalImmediate (word : U32) (h : cpu.logicalImmediate word = some next) : cpu.Registers next := by
  obtain ⟨mask, -, rfl⟩ := Option.map_eq_some_iff.mp h
  dsimp only
  split
  · exact (registers_writeReg cpu _ _ _ _).trans (registers_pstate _ _)
  · exact registers_writeReg cpu _ _ _ _

lemma registers_logicalShifted (word : U32) (h : cpu.logicalShifted word = some next) : cpu.Registers next := by
  unfold logicalShifted at h
  dsimp only at h
  split at h
  · cases h
  split at h
  · cases h
    exact (registers_writeReg cpu _ _ _ _).trans (registers_pstate _ _)
  · cases h
    exact registers_writeReg cpu _ _ _ _

lemma registers_guarded {p : Prop} [Decidable p] {result : GuestCpuState} (hresult : cpu.Registers result)
    (h : (if p then none else some result) = some next) : cpu.Registers next := by
  by_cases hp : p
  · rw [if_pos hp] at h
    cases h
  · rw [if_neg hp] at h
    exact Option.some.inj h ▸ hresult

lemma chain_ite {P : GuestCpuState → Prop} {p : Prop} [Decidable p] {a b : Option (Option GuestCpuState)}
    (ha : ∀ next, a = some (some next) → P next) (hb : ∀ next, b = some (some next) → P next) :
    ∀ next, (if p then a else b) = some (some next) → P next := by
  intro next h
  by_cases hp : p
  · exact ha next ((if_pos hp).symm.trans h)
  · exact hb next ((if_neg hp).symm.trans h)

lemma chain_total {P : GuestCpuState → Prop} {result : GuestCpuState} (hresult : P result) :
    ∀ next, some (some result) = some (some next) → P next :=
  fun _ h => Option.some.inj (Option.some.inj h) ▸ hresult

lemma registers_dataStep (cpu : GuestCpuState) (word : U32) :
    ∀ next, cpu.dataStep word = some (some next) → cpu.Registers next := by
  unfold dataStep
  refine chain_ite (chain_total (registers_writeReg cpu _ _ _ _)) ?_
  refine chain_ite (chain_total (registers_writeReg cpu _ _ _ _)) ?_
  refine chain_ite (chain_total (registers_conditionalCompare cpu word)) ?_
  refine chain_ite (fun _ h => registers_guarded (registers_writeReg cpu _ _ _ _) (Option.some.inj h)) ?_
  refine chain_ite (fun _ h => registers_guarded (registers_writeReg cpu _ _ _ _) (Option.some.inj h)) ?_
  refine chain_ite (fun _ h => registers_logicalImmediate word (Option.some.inj h)) ?_
  refine chain_ite (fun _ h => registers_logicalShifted word (Option.some.inj h)) ?_
  refine chain_ite (chain_total (registers_writeReg cpu _ _ _ _)) ?_
  refine chain_ite (fun _ h => registers_guarded (registers_writeReg cpu _ _ _ _) (Option.some.inj h)) ?_
  refine chain_ite (chain_total (registers_addSubResult cpu _ _ _ _)) ?_
  refine chain_ite (fun _ h => registers_guarded (registers_addSubResult cpu _ _ _ _) (Option.some.inj h)) ?_
  refine chain_ite (fun _ h => registers_guarded (registers_addSubResult cpu _ _ _ _) (Option.some.inj h)) ?_
  intro next h
  cases h

lemma registers_branchStep (cpu : GuestCpuState) (word : U32) :
    ∀ next, cpu.branchStep word = some (some next) → cpu.Registers next := by
  have hpc : ∀ pc, cpu.Registers { cpu with pc := pc } := fun pc => ⟨cpu.x, cpu.sp, cpu.pstate, pc, rfl⟩
  unfold branchStep
  refine chain_ite (chain_total (hpc _)) (chain_ite (chain_ite ?_ (chain_total ?_)) ?_)
  · intro next h
    cases h
  · exact ⟨_, cpu.sp, cpu.pstate, _, rfl⟩
  · refine chain_ite (chain_total (hpc _)) (chain_ite (chain_total (hpc _)) ?_)
    intro next h
    cases h

lemma Registers.keeps (h : cpu.Registers next) : cpu.Keeps next := by
  obtain ⟨_, _, _, _, rfl⟩ := h
  exact ⟨⟨rfl, rfl, rfl, rfl⟩, rfl⟩

end Families

section Faults

lemma keeps_raise (cpu : GuestCpuState) (exception : GuestException) : cpu.Keeps (cpu.raise exception) := by
  unfold raise writeExceptionBank
  split
  · exact .refl cpu
  · dsimp only
    split
    · exact ⟨⟨rfl, rfl, rfl, rfl⟩, rfl⟩
    · exact ⟨⟨rfl, rfl, rfl, rfl⟩, rfl⟩

lemma keeps_fault (cpu : GuestCpuState) (s : β) (word : U32) (kind : ExceptionKind) (syndrome far : U64) :
    cpu.Keeps (cpu.fault s word kind syndrome far).2.1 := keeps_raise cpu _

lemma keeps_privileged {s : β} {word : U32} {body : Outcome β} (h : cpu.Keeps body.2.1) :
    cpu.Keeps (cpu.privileged s word body).2.1 := by
  unfold privileged
  split
  · exact keeps_fault cpu _ _ _ _ _
  · exact h

lemma keeps_settle {s : β} {word : U32} {out : Option GuestCpuState}
    (h : ∀ next, out = some next → cpu.Keeps next) : cpu.Keeps (cpu.settle s word out).2.1 := by
  cases out with
  | none => exact keeps_fault cpu _ _ _ _ _
  | some next => exact h next rfl

lemma keeps_mmuAddress (cpu : GuestCpuState) (bus : GuestBus β) (s : β) (address : U64) (size : ℕ)
    (access : Access) : cpu.Keeps (cpu.mmuAddress bus s address size access).2 := by
  unfold mmuAddress
  split
  · exact .refl cpu
  · exact ⟨⟨rfl, rfl, rfl, rfl⟩, rfl⟩

end Faults

section Controls

lemma keeps_syncMmu (cpu : GuestCpuState) : cpu.Keeps cpu.syncMmu.2 := by
  unfold syncMmu
  split
  · exact .refl cpu
  split
  · exact ⟨⟨rfl, rfl, rfl, rfl⟩, rfl⟩
  · exact ⟨⟨rfl, rfl, rfl, rfl⟩, rfl⟩

lemma keeps_installControl {next : GuestCpuState} {restore : GuestCpuState → GuestCpuState} (hnext : cpu.Keeps next)
    (hrestore : ∀ c : GuestCpuState, c.Keeps (restore c)) : cpu.Keeps (installControl next restore).2 := by
  have hsynced := hnext.trans (keeps_syncMmu next)
  unfold installControl
  dsimp only
  split
  · exact hsynced
  · exact (hsynced.trans (hrestore _)).trans (keeps_syncMmu _)

lemma keeps_storeSysreg (cpu : GuestCpuState) (reg : SystemRegister) (value : U64) :
    cpu.Keeps (cpu.storeSysreg reg value).2 := by
  have hinstall : ∀ (sys : SystemRegisters) (restore : SystemRegisters → SystemRegisters),
      cpu.Keeps (installControl { cpu with sys := sys } fun next => { next with sys := restore next.sys }).2 :=
    fun sys restore => keeps_installControl ⟨⟨rfl, rfl, rfl, rfl⟩, rfl⟩ fun c => ⟨⟨rfl, rfl, rfl, rfl⟩, rfl⟩
  have hguarded : ∀ (p q : Prop) [Decidable p] [Decidable q] (sys : SystemRegisters)
      (restore : SystemRegisters → SystemRegisters), cpu.Keeps (if p then
        ((.error .invalidValue, cpu) : Except SysRegFault Unit × GuestCpuState)
      else if q then installControl { cpu with sys := sys } fun next => { next with sys := restore next.sys }
      else (.ok (), { cpu with sys := sys })).2 := by
    intro p q _ _ sys restore
    split
    · exact .refl cpu
    split
    · exact hinstall sys restore
    · exact ⟨⟨rfl, rfl, rfl, rfl⟩, rfl⟩
  cases reg with
  | sctlrEl1 => exact hinstall _ fun sys => { sys with sctlrEl1 := cpu.sys.sctlrEl1 }
  | ttbr0El1 => exact hguarded _ _ _ fun sys => { sys with ttbr0El1 := cpu.sys.ttbr0El1 }
  | ttbr1El1 => exact hguarded _ _ _ fun sys => { sys with ttbr1El1 := cpu.sys.ttbr1El1 }
  | tcrEl1 => exact hguarded _ _ _ fun sys => { sys with tcrEl1 := cpu.sys.tcrEl1 }
  | _ => exact ⟨⟨rfl, rfl, rfl, rfl⟩, rfl⟩

lemma configure_lines {p p' : PlatformState} {profile : U32} {value : U64} (h : p.configure profile value = some p') :
    p'.irq = p.irq ∧ p'.fiq = p.fiq := by
  unfold PlatformState.configure at h
  split at h
  · cases h
  · cases h
    exact ⟨rfl, rfl⟩

lemma keeps_writeSysreg (cpu : GuestCpuState) (reg : SystemRegister) (value : U64) :
    cpu.Keeps (cpu.writeSysreg reg value).2 := by
  unfold writeSysreg
  split
  · split
    · exact .refl cpu
    split
    · next platform hplatform =>
      obtain ⟨hirq, hfiq⟩ := configure_lines hplatform
      exact ⟨⟨rfl, rfl, hirq, hfiq⟩, rfl⟩
    · exact .refl cpu
  split
  · exact .refl cpu
  split
  · exact .refl cpu
  · exact keeps_storeSysreg cpu reg value

lemma keeps_sysregStep (cpu : GuestCpuState) (s : β) (word : U32) : cpu.Keeps (cpu.sysregStep s word).2.1 := by
  have hwrite : ∀ reg, cpu.Keeps (cpu.writeSysreg reg (cpu.readReg (rdField word) false)).2 :=
    fun reg => keeps_writeSysreg cpu reg _
  unfold sysregStep
  split
  · exact keeps_fault cpu _ _ _ _ _
  split
  · exact keeps_fault cpu _ _ _ _ _
  next reg hreg =>
  split
  · split
    · exact ((registers_writeReg cpu _ _ _ _).trans (registers_advance _)).keeps
    · exact keeps_fault cpu _ _ _ _ _
  · dsimp only
    split
    · exact (hwrite reg).trans (registers_advance _).keeps
    · exact (hwrite reg).trans (keeps_fault _ s _ _ _ _)

lemma keeps_controlStep {s : β} {word : U32} {out : Outcome β} (h : cpu.controlStep s word = some out) :
    cpu.Keeps out.2.1 := by
  unfold controlStep at h
  split at h
  · cases h
    exact (registers_advance cpu).keeps
  split at h
  · cases h
    exact ⟨⟨rfl, rfl, rfl, rfl⟩, rfl⟩
  split at h
  · cases h
    exact keeps_sysregStep cpu s word
  · cases h

lemma keeps_pauthStep {word : U32} (h : cpu.pauthStep word = some (some next)) : cpu.Keeps next := by
  unfold pauthStep at h
  dsimp only at h
  split at h
  · cases h
  obtain ⟨result, -, hresult⟩ := Option.map_eq_some_iff.mp h
  split at hresult
  · split at hresult
    · cases hresult
      exact ⟨⟨rfl, rfl, rfl, rfl⟩, rfl⟩
    · cases hresult
  · cases hresult

lemma keeps_systemStep {s : β} {word : U32} {out : Outcome β} (h : cpu.systemStep s word = some out)
    (heret : word ≠ 0xd69f03e0#32) : cpu.Keeps out.2.1 := by
  unfold systemStep at h
  split at h
  · cases h
    exact (registers_advance cpu).keeps
  split at h
  · cases h
    split
    · exact (registers_advance cpu).keeps
    · exact keeps_fault cpu _ _ _ _ _
  split at h
  · cases h
    exact keeps_privileged ⟨⟨rfl, rfl, rfl, rfl⟩, rfl⟩
  split at h
  · cases h
    exact keeps_privileged ⟨⟨rfl, rfl, rfl, rfl⟩, rfl⟩
  split at h
  · cases h
    exact keeps_privileged ⟨⟨rfl, rfl, rfl, rfl⟩, rfl⟩
  split at h
  · cases h
    exact keeps_privileged ⟨⟨rfl, rfl, rfl, rfl⟩, rfl⟩
  -- ERET is not the word
  split at h
  · cases h
    exact keeps_fault cpu _ _ _ _ _
  · cases h

end Controls

section Memory

lemma keeps_monitor (cpu : GuestCpuState) (monitor : ExclusiveMonitor) :
    cpu.Keeps { cpu with exclusive := monitor } := ⟨⟨rfl, rfl, rfl, rfl⟩, rfl⟩

lemma keeps_exclusiveLoad (cpu : GuestCpuState) (bus : GuestBus β) (s : β) (word : U32) (address physical : U64) :
    cpu.Keeps (cpu.exclusiveLoad bus s word address physical).2.1 := by
  unfold exclusiveLoad
  split
  · exact keeps_fault cpu _ _ _ _ _
  · have hwrite := (registers_writeReg cpu (rdField word) ‹U64› false (isWide word)).trans (registers_advance _)
    exact hwrite.keeps.trans ⟨⟨rfl, rfl, rfl, rfl⟩, rfl⟩

lemma keeps_exclusiveStatus (cpu : GuestCpuState) (word : U32) (status : U64) :
    cpu.Keeps (cpu.exclusiveStatus word status) :=
  (keeps_monitor cpu _).trans ((registers_writeReg _ _ _ _ _).trans (registers_advance _)).keeps

lemma keeps_exclusiveStore (cpu : GuestCpuState) (bus : GuestBus β) (s : β) (word : U32) (address physical : U64) :
    cpu.Keeps (cpu.exclusiveStore bus s word address physical).2.1 := by
  unfold exclusiveStore
  dsimp only
  split
  · split
    · exact keeps_fault cpu _ _ _ _ _
    · exact keeps_exclusiveStatus cpu _ _
  · exact keeps_exclusiveStatus cpu _ _

lemma keeps_exclusiveStep {bus : GuestBus β} {s : β} {word : U32} {out : Outcome β}
    (h : cpu.exclusiveStep bus s word = some out) : cpu.Keeps out.2.1 := by
  unfold exclusiveStep at h
  split at h
  · cases h
    have htranslated := keeps_mmuAddress cpu bus s (cpu.readReg (rnField word) true) (exclusiveSize word)
      (exclusiveAccess word)
    dsimp only
    split
    · exact keeps_fault cpu _ _ _ _ _
    split
    · exact htranslated.trans (keeps_fault _ s _ _ _ _)
    split
    · exact htranslated.trans (keeps_exclusiveLoad _ bus s _ _ _)
    · exact htranslated.trans (keeps_exclusiveStore _ bus s _ _ _)
  · cases h

lemma keeps_scalarWriteback (cpu : GuestCpuState) (word : U32) (updated : U64) :
    cpu.Keeps (cpu.scalarWriteback word updated) := by
  unfold scalarWriteback
  split
  · exact ((registers_writeReg cpu _ _ _ _).trans (registers_advance _)).keeps
  · exact (registers_advance cpu).keeps

lemma keeps_scalarAccess (cpu : GuestCpuState) (bus : GuestBus β) (s : β) (word : U32)
    (address physical updated : U64) : cpu.Keeps (cpu.scalarAccess bus s word address physical updated).2.1 := by
  unfold scalarAccess
  dsimp only
  split
  · split
    · exact .refl cpu
    · exact (keeps_monitor cpu _).trans (keeps_scalarWriteback _ word updated)
  · split
    · exact .refl cpu
    · exact (registers_writeReg cpu _ _ _ _).keeps.trans (keeps_scalarWriteback _ word updated)

lemma keeps_scalarMemory (cpu : GuestCpuState) (bus : GuestBus β) (s : β) (word : U32) :
    cpu.Keeps (cpu.scalarMemory bus s word).2.1 := by
  have htranslated : ∀ address size access, cpu.Keeps (cpu.mmuAddress bus s address size access).2 :=
    keeps_mmuAddress cpu bus s
  unfold scalarMemory
  split
  · exact .refl cpu
  split
  · exact .refl cpu
  dsimp only
  split
  · exact .refl cpu
  generalize (if isWriteback word = true ∧ bitSet word 11 = false then _ else _ : U64) = address
  split
  · exact .refl cpu
  split
  · exact htranslated _ _ _
  · exact (htranslated _ _ _).trans (keeps_scalarAccess _ bus s word _ _ _)

lemma keeps_pairWriteback (cpu : GuestCpuState) (word : U32) (updated : U64) :
    cpu.Keeps (cpu.pairWriteback word updated) := by
  unfold pairWriteback
  split
  · exact ((registers_writeReg cpu _ _ _ _).trans (registers_advance _)).keeps
  · exact (registers_advance cpu).keeps

lemma keeps_pairTransfer (cpu : GuestCpuState) (bus : GuestBus β) (s : β) (word : U32) (ram : List Byte)
    (address updated : U64) (first second : ℕ) :
    cpu.Keeps (cpu.pairTransfer bus s word ram address updated first second).1 := by
  unfold pairTransfer
  dsimp only
  split
  · exact ((registers_writeReg cpu _ _ _ _).trans (registers_writeReg _ _ _ _ _)).keeps.trans
      (keeps_pairWriteback _ word updated)
  · exact (keeps_monitor cpu _).trans (keeps_pairWriteback _ word updated)

lemma keeps_pairMemory (cpu : GuestCpuState) (bus : GuestBus β) (s : β) (word : U32) :
    cpu.Keeps (cpu.pairMemory bus s word).2.1 := by
  unfold pairMemory
  split
  · exact .refl cpu
  split
  · exact .refl cpu
  dsimp only
  split
  · exact .refl cpu
  generalize (if pairMode word = 1#32 then _ else _ : U64) = address
  split
  · exact .refl cpu
  split
  · exact .refl cpu
  split
  · exact .refl cpu
  · exact .refl cpu
  · exact keeps_pairTransfer cpu bus s word _ _ _ _ _

lemma keeps_memoryStep {bus : GuestBus β} {s : β} {word : U32} {out : Outcome β}
    (h : cpu.memoryStep bus s word = some out) : cpu.Keeps out.2.1 := by
  unfold memoryStep at h
  dsimp only at h
  split at h
  · have hpair := keeps_pairMemory cpu bus s word
    cases h
    split
    · exact hpair
    · exact hpair.trans (keeps_fault _ _ _ _ _ _)
  split at h
  · have hscalar := keeps_scalarMemory cpu bus s word
    cases h
    split
    · exact hscalar
    · exact hscalar.trans (keeps_fault _ _ _ _ _ _)
  · cases h

end Memory

lemma keeps_executeWord (cpu : GuestCpuState) (bus : GuestBus β) (s : β) {word : U32} (heret : word ≠ 0xd69f03e0#32) :
    cpu.Keeps (cpu.executeWord bus s word).2.1 := by
  unfold executeWord
  split
  · next out hout => exact keeps_settle fun next hnext => keeps_pauthStep (hnext ▸ hout)
  split
  · next hout => exact keeps_systemStep hout heret
  split
  · next hout => exact keeps_exclusiveStep hout
  split
  · next hout => exact keeps_controlStep hout
  split
  · next out hout =>
    refine keeps_settle fun next hnext => ?_
    obtain ⟨result, hresult, rfl⟩ := Option.map_eq_some_iff.mp hnext
    exact ((registers_dataStep cpu word result (hresult ▸ hout)).trans (registers_advance _)).keeps
  split
  · next hout => exact keeps_memoryStep hout
  split
  · next out hout => exact keeps_settle fun next hnext => (registers_branchStep cpu word next (hnext ▸ hout)).keeps
  · exact keeps_fault cpu _ _ _ _ _

end GuestCpuState

end Nextcore.Preos
