import Nextcore.Preos.Frame
import Nextcore.Preos.Regime

/-! What one instruction can do to the CPU: the moves it is made of, and what an exception leaves of it. -/

namespace Nextcore.Preos

open Mmu Relation

variable {β : Type}

namespace GuestCpuState

variable {cpu next last : GuestCpuState}

def mode (pstate : U32) : U32 := pstate &&& ~~~0xf0000000#32

inductive Move : GuestCpuState → GuestCpuState → Prop
  | registers {cpu next : GuestCpuState} (h : cpu.Registers next) (hmode : mode next.pstate = mode cpu.pstate) :
      Move cpu next
  -- DAIFSet and DAIFClr.
  | masks (cpu : GuestCpuState) (word : U32) (hel : cpu.currentEl ≠ .el0) : Move cpu (cpu.daifStep word)
  -- MSR SPSel.
  | stack (cpu : GuestCpuState) (word : U32) (hel : cpu.currentEl ≠ .el0) : Move cpu (cpu.spselStep word)
  | tlb (cpu : GuestCpuState) (mmu : VfMmu) (h : mmu.invalidate = cpu.mmu.invalidate) : Move cpu { cpu with mmu := mmu }
  | monitor (cpu : GuestCpuState) (monitor : ExclusiveMonitor) : Move cpu { cpu with exclusive := monitor }
  | keys (cpu : GuestCpuState) (keys : Fin 5 → Key) (hel : cpu.currentEl ≠ .el0) : Move cpu { cpu with pauth := keys }
  | waits (cpu : GuestCpuState) (hel : cpu.currentEl ≠ .el0) : Move cpu { cpu with waiting := true }
  | write (cpu : GuestCpuState) (reg : SystemRegister) (value : U64) (h : (cpu.writeSysreg reg value).1 = .ok ()) :
      Move cpu (cpu.writeSysreg reg value).2
  | returns {cpu next : GuestCpuState} (h : cpu.eret = .ok next) : Move cpu next

abbrev Moves : GuestCpuState → GuestCpuState → Prop := ReflTransGen Move

section Views

lemma mode_flags (p flags : U32) (h : mode flags = 0#32) : mode ((p &&& ~~~0xf0000000#32) ||| flags) = mode p := by
  unfold mode at h ⊢
  rw [BitVec.and_comm, BitVec.and_or_distrib_left, BitVec.and_comm _ flags, h, BitVec.or_zero, BitVec.and_comm,
    BitVec.and_assoc, BitVec.and_self]

lemma mode_or {a b : U32} (ha : mode a = 0#32) (hb : mode b = 0#32) : mode (a ||| b) = 0#32 := by
  unfold mode at *
  rw [BitVec.and_comm, BitVec.and_or_distrib_left, BitVec.and_comm _ a, BitVec.and_comm _ b, ha, hb, BitVec.or_zero]

lemma mode_flag (p : Prop) [Decidable p] {bit : U32} (h : mode bit = 0#32) : mode (if p then bit else 0#32) = 0#32 := by
  by_cases hp : p
  · rw [if_pos hp]
    exact h
  · rw [if_neg hp]
    rfl

structure View {α : Type} (f : GuestCpuState → α) : Prop where
  write (cpu : GuestCpuState) (index : U32) (value : U64) (sp wide : Bool) : f (cpu.writeReg index value sp wide) = f cpu
  flags (cpu : GuestCpuState) (p : U32) (hmode : mode p = mode cpu.pstate) : f { cpu with pstate := p } = f cpu

variable {α : Type} {f : GuestCpuState → α}

lemma View.setNzcv (hf : View f) (cpu : GuestCpuState) (value : U64) (wide carry overflow : Bool) :
    f (cpu.setNzcv value wide carry overflow) = f cpu := by
  refine hf.flags cpu _ ?_
  rw [BitVec.or_assoc, BitVec.or_assoc, BitVec.or_assoc]
  exact mode_flags cpu.pstate _ (mode_or (mode_flag _ (by decide)) (mode_or (mode_flag _ (by decide))
    (mode_or (mode_flag _ (by decide)) (mode_flag _ (by decide)))))

lemma View.addSubResult (hf : View f) (cpu : GuestCpuState) (word : U32) (left right : U64) (sp : Bool) :
    f (cpu.addSubResult word left right sp) = f cpu := by
  have hwrite := hf.write cpu (rdField word) (addSub left right (bitSet word 30) (isWide word)).1 sp (isWide word)
  unfold GuestCpuState.addSubResult
  dsimp only
  split
  · exact (hf.setNzcv _ _ _ _ _).trans hwrite
  · exact hwrite

lemma View.logicalImmediate (hf : View f) (word : U32) (h : cpu.logicalImmediate word = some next) : f next = f cpu := by
  obtain ⟨mask, -, rfl⟩ := Option.map_eq_some_iff.mp h
  dsimp only
  split
  · refine (hf.flags _ _ ?_).trans (hf.write cpu _ _ _ _)
    rw [BitVec.or_assoc]
    refine mode_flags _ _ (mode_or ?_ (mode_flag _ (by decide)))
    -- the sign is one bit
    have hbit : ∀ (v : U64) (k : ℕ), (((v >>> k) &&& 1#64).truncate 32 : U32) = 0#32 ∨
        (((v >>> k) &&& 1#64).truncate 32 : U32) = 1#32 := by
      intro v k
      rw [show (1#64 : U64) = BitVec.twoPow 64 0 from rfl, BitVec.and_twoPow]
      split
      · exact Or.inr rfl
      · exact Or.inl rfl
    rcases hbit (if isWide word then logicalOp ((word >>> 29) &&& 3#32) (cpu.readReg (rnField word) false) mask
      else logicalOp ((word >>> 29) &&& 3#32) (cpu.readReg (rnField word) false) mask &&& 0xffffffff#64)
      (if isWide word then 63 else 31) with h | h
    · rw [h]
      rfl
    · rw [h]
      rfl
  · exact hf.write cpu _ _ _ _

lemma View.logicalShifted (hf : View f) (word : U32) (h : cpu.logicalShifted word = some next) : f next = f cpu := by
  unfold GuestCpuState.logicalShifted at h
  dsimp only at h
  split at h
  · cases h
  · cases h
    split
    · exact (hf.setNzcv _ _ _ _ _).trans (hf.write cpu _ _ _ _)
    · exact hf.write cpu _ _ _ _

lemma View.conditionalCompare (hf : View f) (cpu : GuestCpuState) (word : U32) :
    f (cpu.conditionalCompare word) = f cpu := by
  unfold GuestCpuState.conditionalCompare
  split
  · exact hf.setNzcv _ _ _ _ _
  · refine hf.flags _ _ (mode_flags _ _ ?_)
    unfold mode
    apply BitVec.eq_of_getLsbD_eq
    intro i hi
    rw [BitVec.getLsbD_and, BitVec.getLsbD_shiftLeft, BitVec.getLsbD_zero]
    by_cases h28 : i < 28
    · simp [h28]
    · have hcases : i = 28 ∨ i = 29 ∨ i = 30 ∨ i = 31 := by omega
      rcases hcases with rfl | rfl | rfl | rfl <;> simp

lemma View.guarded {p : Prop} [Decidable p] {result : GuestCpuState} (hresult : f result = f cpu)
    (h : (if p then none else some result) = some next) : f next = f cpu := by
  by_cases hp : p
  · rw [if_pos hp] at h
    cases h
  · rw [if_neg hp] at h
    exact Option.some.inj h ▸ hresult

lemma View.dataStep (hf : View f) (cpu : GuestCpuState) (word : U32) :
    ∀ next, cpu.dataStep word = some (some next) → f next = f cpu := by
  unfold GuestCpuState.dataStep
  refine chain_ite (chain_total (hf.write cpu _ _ _ _)) ?_
  refine chain_ite (chain_total (hf.write cpu _ _ _ _)) ?_
  refine chain_ite (chain_total (hf.conditionalCompare cpu word)) ?_
  refine chain_ite (fun _ h => View.guarded (hf.write cpu _ _ _ _) (Option.some.inj h)) ?_
  refine chain_ite (fun _ h => View.guarded (hf.write cpu _ _ _ _) (Option.some.inj h)) ?_
  refine chain_ite (fun _ h => hf.logicalImmediate word (Option.some.inj h)) ?_
  refine chain_ite (fun _ h => hf.logicalShifted word (Option.some.inj h)) ?_
  refine chain_ite (chain_total (hf.write cpu _ _ _ _)) ?_
  refine chain_ite (fun _ h => View.guarded (hf.write cpu _ _ _ _) (Option.some.inj h)) ?_
  refine chain_ite (chain_total (hf.addSubResult cpu _ _ _ _)) ?_
  refine chain_ite (fun _ h => View.guarded (hf.addSubResult cpu _ _ _ _) (Option.some.inj h)) ?_
  refine chain_ite (fun _ h => View.guarded (hf.addSubResult cpu _ _ _ _) (Option.some.inj h)) ?_
  intro next h
  cases h

lemma pc_writeReg (cpu : GuestCpuState) (index : U32) (value : U64) (sp wide : Bool) :
    (cpu.writeReg index value sp wide).pc = cpu.pc ∧ (cpu.writeReg index value sp wide).pstate = cpu.pstate := by
  unfold writeReg
  dsimp only
  split
  · split <;> exact ⟨rfl, rfl⟩
  · exact ⟨rfl, rfl⟩

lemma view_mode : View fun cpu => mode cpu.pstate :=
  ⟨fun _ _ _ _ _ => congrArg mode (pc_writeReg _ _ _ _ _).2, fun _ _ h => h⟩

end Views

section Outcomes

variable {s : β} {word : U32} {out : Outcome β}

lemma SameButTlb.refl (cpu : GuestCpuState) : cpu.SameButTlb cpu := ⟨cpu.mmu.tlb, cpu.mmu.next, rfl⟩

lemma SameButTlb.trans (h : cpu.SameButTlb next) (h' : next.SameButTlb last) : cpu.SameButTlb last := by
  obtain ⟨_, _, rfl⟩ := h
  obtain ⟨_, _, rfl⟩ := h'
  exact ⟨_, _, rfl⟩

lemma SameButTlb.pc (h : cpu.SameButTlb next) : next.pc = cpu.pc := by
  obtain ⟨_, _, rfl⟩ := h
  rfl

lemma SameButTlb.move (h : cpu.SameButTlb next) : Move cpu next := by
  obtain ⟨tlb, entry, rfl⟩ := h
  exact .tlb cpu { cpu.mmu with tlb := tlb, next := entry } rfl

lemma sameButTlb_mmu {mmu : VfMmu} (h : mmu.invalidate = cpu.mmu.invalidate) : cpu.SameButTlb { cpu with mmu := mmu } := by
  have hsame : mmu = { cpu.mmu with tlb := mmu.tlb, next := mmu.next } := by
    generalize cpu.mmu = other at h
    cases mmu
    cases other
    simp only [VfMmu.invalidate, VfMmu.mk.injEq] at h ⊢
    exact h
  refine ⟨mmu.tlb, mmu.next, ?_⟩
  rw [← hsame]

/-- An instruction goes on through moves, or it raises at its own address, with the bus and all but the TLB as it was. -/
structure Precise (cpu : GuestCpuState) (s : β) (out : Outcome β) : Prop where
  moves : (∀ kind, out.1 ≠ .exception kind) → Moves cpu out.2.1
  faults : ∀ kind, out.1 = .exception kind → out.2.2 = s ∧
    ∃ c e, cpu.SameButTlb c ∧ out.2.1 = c.raise e ∧ e.kind = kind ∧ e.pc = cpu.pc

lemma precise_done (step : StepResult) (hstep : ∀ kind, step ≠ .exception kind) (h : Moves cpu next) (s s' : β) :
    cpu.Precise s (step, next, s') :=
  ⟨fun _ => h, fun kind heq => absurd heq (hstep kind)⟩

lemma precise_resume (h : Moves cpu next) (s s' : β) : cpu.Precise s (.resume, next, s') :=
  precise_done .resume nofun h s s'

lemma precise_fault (cpu : GuestCpuState) (s : β) (word : U32) (kind : ExceptionKind) (syndrome far : U64) :
    cpu.Precise s (cpu.fault s word kind syndrome far) :=
  ⟨fun h => absurd rfl (h kind), fun _ h => ⟨rfl, cpu, _, .refl cpu, rfl, StepResult.exception.inj h, rfl⟩⟩

lemma Precise.behind (htlb : cpu.SameButTlb next) (h : next.Precise s out) : cpu.Precise s out where
  moves hstep := (h.moves hstep).head htlb.move
  faults kind hkind := by
    obtain ⟨hs, c, e, hc, hraise, he, hpc⟩ := h.faults kind hkind
    exact ⟨hs, c, e, htlb.trans hc, hraise, he, hpc.trans htlb.pc⟩

lemma precise_settle {out : Option GuestCpuState} (h : ∀ next, out = some next → Moves cpu next) :
    cpu.Precise s (cpu.settle s word out) := by
  cases out with
  | none => exact precise_fault cpu s word _ _ _
  | some next => exact precise_resume (h next rfl) s s

lemma precise_privileged {body : Outcome β} (h : cpu.currentEl ≠ .el0 → cpu.Precise s body) :
    cpu.Precise s (cpu.privileged s word body) := by
  unfold privileged
  split
  · exact precise_fault cpu s word _ _ _
  next hel => exact h hel

lemma move_advance (cpu : GuestCpuState) : Move cpu cpu.advance := .registers (registers_advance cpu) rfl

lemma move_writeReg (cpu : GuestCpuState) (index : U32) (value : U64) (sp wide : Bool) :
    Move cpu (cpu.writeReg index value sp wide) :=
  .registers (registers_writeReg cpu index value sp wide) (view_mode.write cpu index value sp wide)

lemma moves_writeReg (cpu : GuestCpuState) (index : U32) (value : U64) (sp wide : Bool) :
    Moves cpu (cpu.writeReg index value sp wide).advance :=
  .tail (.single (move_writeReg cpu index value sp wide)) (move_advance _)

lemma sameButTlb_mmuAddress (cpu : GuestCpuState) (bus : GuestBus β) (s : β) (address : U64) (size : ℕ) (access : Access) :
    cpu.SameButTlb (cpu.mmuAddress bus s address size access).2 := by
  unfold mmuAddress
  split
  · exact .refl cpu
  · exact sameButTlb_mmu (VfMmu.translateDetailed_invalidate _ _ _ _ _)

lemma sameButTlb_fetch32 (cpu : GuestCpuState) (bus : GuestBus β) (s : β) : cpu.SameButTlb (cpu.fetch32 bus s).2 := by
  unfold fetch32
  split
  · exact .refl cpu
  · exact sameButTlb_mmuAddress cpu bus s _ _ _

end Outcomes

section System

variable {s : β} {word : U32} {out : Outcome β}

lemma precise_systemStep (h : cpu.systemStep s word = some out) : cpu.Precise s out := by
  unfold systemStep at h
  split at h
  · cases h
    exact precise_resume (.single (move_advance cpu)) s s
  split at h
  · cases h
    split
    · exact precise_done .halt nofun (.single (move_advance cpu)) s s
    · exact precise_fault cpu s word _ _ _
  split at h
  · cases h
    exact precise_privileged fun hel => precise_done .wait nofun
      (.tail (.single (move_advance cpu)) (.waits cpu.advance hel)) s s
  split at h
  · cases h
    exact precise_privileged fun hel => precise_resume (.tail (.single (.masks cpu word hel)) (move_advance _)) s s
  split at h
  · cases h
    exact precise_privileged fun hel => precise_resume (.tail (.single (.stack cpu word hel)) (move_advance _)) s s
  split at h
  · cases h
    exact precise_privileged fun _ => precise_resume
      (.tail (.single (move_advance cpu)) (.tlb cpu.advance cpu.mmu.invalidate rfl)) s s
  split at h
  · cases h
    split
    next heret => exact precise_resume (.single (.returns heret)) s s
    · exact precise_fault cpu s word _ _ _
  split at h
  · cases h
    exact precise_fault cpu s word _ _ _
  · cases h

lemma precise_sysregStep (hsynced : cpu.Synced) (s : β) (word : U32) : cpu.Precise s (cpu.sysregStep s word) := by
  unfold sysregStep
  split
  · exact precise_fault cpu s word _ _ _
  split
  · exact precise_fault cpu s word _ _ _
  next reg hreg =>
  split
  · split
    · exact precise_resume (moves_writeReg cpu _ _ _ _) s s
    · exact precise_fault cpu s word _ _ _
  · dsimp only
    have hsettles := writeSysreg_settles hsynced reg (cpu.readReg (rdField word) false)
    split
    next hok => exact precise_resume (.tail (.single (.write cpu reg _ hok)) (move_advance _)) s s
    next fault hfault => exact .behind (hsettles.sameButTlb hfault) (precise_fault _ s word _ _ _)

lemma precise_controlStep (hsynced : cpu.Synced) (h : cpu.controlStep s word = some out) : cpu.Precise s out := by
  unfold controlStep at h
  split at h
  · cases h
    exact precise_resume (.single (move_advance cpu)) s s
  split at h
  · cases h
    exact precise_resume (.tail (.single (move_advance cpu)) (.monitor cpu.advance _)) s s
  split at h
  · cases h
    exact precise_sysregStep hsynced s word
  · cases h

lemma step_keys {context result : Pauth.PauthContext} (h : Pauth.step context word = some (.ok result)) :
    result.keys = context.keys ∨ context.currentEl = 1#32 := by
  have hput (context : Pauth.PauthContext) (index : U32) (value : U64) : (context.put index value).keys = context.keys := by
    unfold Pauth.PauthContext.put
    split <;> rfl
  unfold Pauth.step at h
  split at h
  · unfold Pauth.genericStep at h
    split at h
    · cases h
    · cases h
      exact Or.inl (hput _ _ _)
  split at h
  · unfold Pauth.registerStep at h
    dsimp only at h
    split at h
    · cases h
    next hel => exact Or.inr (not_not.mp (not_or.mp hel).1)
  obtain ⟨decoded, -, hresult⟩ := Option.map_eq_some_iff.mp h
  cases decoded with
  | error fault => cases hresult
  | ok decoded =>
    change Pauth.operationStep context decoded = .ok result at hresult
    unfold Pauth.operationStep at hresult
    split at hresult
    · cases hresult
    cases hvalue : Pauth.evaluate context decoded with
    | error fault =>
      rw [hvalue] at hresult
      cases hresult
    | ok value =>
      rw [hvalue] at hresult
      change (if decoded.branch = true then _ else _) = _ at hresult
      split at hresult
      · cases hresult
        exact Or.inl rfl
      · cases hresult
        exact Or.inl (hput _ _ _)

lemma moves_pauthStep (h : cpu.pauthStep word = some (some next)) : Moves cpu next := by
  unfold pauthStep at h
  dsimp only at h
  split at h
  · cases h
  obtain ⟨result, hstep, hresult⟩ := Option.map_eq_some_iff.mp h
  split at hresult
  next context =>
    split at hresult
    · cases hresult
      have hregisters : Move cpu { cpu with x := context.x, sp := context.sp, pc := context.pc } :=
        .registers ⟨_, _, _, _, rfl⟩ rfl
      rcases step_keys hstep with hkeys | hel
      · have hkeys : context.keys = cpu.pauth := hkeys
        rw [hkeys]
        exact .single hregisters
      · refine .tail (.single hregisters) (.keys _ context.keys fun hzero => ?_)
        have hlevel : BitVec.ofNat 32 cpu.currentEl.toNat = 1#32 := hel
        rw [show cpu.currentEl = .el0 from hzero] at hlevel
        exact absurd hlevel (by decide)
    · cases hresult
  · cases hresult

end System

section Memory

variable {s : β} {word : U32} {out : Outcome β}

lemma precise_exclusiveLoad (cpu : GuestCpuState) (bus : GuestBus β) (s : β) (word : U32) (address physical : U64) :
    cpu.Precise s (cpu.exclusiveLoad bus s word address physical) := by
  unfold exclusiveLoad
  split
  · exact precise_fault cpu s word _ _ _
  · exact precise_resume (.tail (moves_writeReg cpu _ _ _ _) (.monitor _ _)) s s

lemma moves_exclusiveStatus (cpu : GuestCpuState) (word : U32) (status : U64) : Moves cpu (cpu.exclusiveStatus word status) :=
  .head (.monitor cpu _) (moves_writeReg _ _ _ _ _)

lemma precise_exclusiveStore (cpu : GuestCpuState) (bus : GuestBus β) (s : β) (word : U32) (address physical : U64) :
    cpu.Precise s (cpu.exclusiveStore bus s word address physical) := by
  unfold exclusiveStore
  dsimp only
  split
  · split
    · exact precise_fault cpu s word _ _ _
    · exact precise_resume (moves_exclusiveStatus cpu word _) s _
  · exact precise_resume (moves_exclusiveStatus cpu word _) s s

lemma precise_exclusiveStep {bus : GuestBus β} (h : cpu.exclusiveStep bus s word = some out) : cpu.Precise s out := by
  unfold exclusiveStep at h
  split at h
  · cases h
    have htranslated := sameButTlb_mmuAddress cpu bus s (cpu.readReg (rnField word) true) (exclusiveSize word)
      (exclusiveAccess word)
    dsimp only
    split
    · exact precise_fault cpu s word _ _ _
    split
    · exact .behind htranslated (precise_fault _ s word _ _ _)
    split
    · exact .behind htranslated (precise_exclusiveLoad _ bus s word _ _)
    · exact .behind htranslated (precise_exclusiveStore _ bus s word _ _)
  · cases h

structure Transferred (cpu : GuestCpuState) (s : β) (out : Transfer β) : Prop where
  moves : out.1 = .ok () → Moves cpu out.2.1
  faults : ∀ fault, out.1 = .error fault → cpu.SameButTlb out.2.1 ∧ out.2.2 = s

lemma transferred_ok (h : Moves cpu next) (s s' : β) : cpu.Transferred s (.ok (), next, s') := ⟨fun _ => h, nofun⟩

lemma transferred_error (h : cpu.SameButTlb next) (s : β) (fault : ExceptionKind × U64) :
    cpu.Transferred s (.error fault, next, s) := ⟨nofun, fun _ _ => ⟨h, rfl⟩⟩

lemma moves_scalarWriteback (cpu : GuestCpuState) (word : U32) (updated : U64) :
    Moves cpu (cpu.scalarWriteback word updated) := by
  unfold scalarWriteback
  split
  · exact moves_writeReg cpu _ _ _ _
  · exact .single (move_advance cpu)

lemma transferred_scalarAccess {start : GuestCpuState} (htlb : start.SameButTlb cpu) (bus : GuestBus β) (s : β) (word : U32)
    (address physical updated : U64) : start.Transferred s (cpu.scalarAccess bus s word address physical updated) := by
  unfold scalarAccess
  dsimp only
  split
  · split
    · exact transferred_error htlb s _
    · exact transferred_ok (.head htlb.move (.head (.monitor cpu _) (moves_scalarWriteback _ word updated))) s _
  · split
    · exact transferred_error htlb s _
    · exact transferred_ok (.head htlb.move (.head (move_writeReg cpu _ _ _ _) (moves_scalarWriteback _ word updated))) s s

lemma transferred_scalarMemory (cpu : GuestCpuState) (bus : GuestBus β) (s : β) (word : U32) :
    cpu.Transferred s (cpu.scalarMemory bus s word) := by
  have hrefused (fault : ExceptionKind × U64) : cpu.Transferred s (.error fault, cpu, s) :=
    transferred_error (.refl cpu) s fault
  unfold scalarMemory
  split
  · exact hrefused _
  split
  · exact hrefused _
  dsimp only
  split
  · exact hrefused _
  generalize (if isWriteback word = true ∧ bitSet word 11 = false then _ else _ : U64) = address
  split
  · exact hrefused _
  split
  · exact transferred_error (sameButTlb_mmuAddress cpu bus s _ _ _) s _
  · exact transferred_scalarAccess (sameButTlb_mmuAddress cpu bus s _ _ _) bus s word _ _ _

lemma moves_pairWriteback (cpu : GuestCpuState) (word : U32) (updated : U64) :
    Moves cpu (cpu.pairWriteback word updated) := by
  unfold pairWriteback
  split
  · exact moves_writeReg cpu _ _ _ _
  · exact .single (move_advance cpu)

lemma moves_pairTransfer (cpu : GuestCpuState) (bus : GuestBus β) (s : β) (word : U32) (ram : List Byte)
    (address updated : U64) (first second : ℕ) :
    Moves cpu (cpu.pairTransfer bus s word ram address updated first second).1 := by
  unfold pairTransfer
  dsimp only
  split
  · exact .head (move_writeReg cpu _ _ _ _) (.head (move_writeReg _ _ _ _ _) (moves_pairWriteback _ word updated))
  · exact .head (.monitor cpu _) (moves_pairWriteback _ word updated)

lemma transferred_pairMemory (cpu : GuestCpuState) (bus : GuestBus β) (s : β) (word : U32) :
    cpu.Transferred s (cpu.pairMemory bus s word) := by
  have hrefused (fault : ExceptionKind × U64) : cpu.Transferred s (.error fault, cpu, s) :=
    transferred_error (.refl cpu) s fault
  unfold pairMemory
  split
  · exact hrefused _
  split
  · exact hrefused _
  dsimp only
  split
  · exact hrefused _
  generalize (if pairMode word = 1#32 then _ else _ : U64) = address
  split
  · exact hrefused _
  split
  · exact hrefused _
  split
  · exact hrefused _
  · exact hrefused _
  · exact transferred_ok (moves_pairTransfer cpu bus s word _ _ _ _ _) s _

lemma Transferred.precise {transfer : Transfer β} (h : cpu.Transferred s transfer) (word : U32)
    (syndrome : GuestCpuState → ExceptionKind → U64) :
    cpu.Precise s (match transfer.1 with
      | .ok () => (.resume, transfer.2)
      | .error (kind, far) => transfer.2.1.fault transfer.2.2 word kind (syndrome transfer.2.1 kind) far) := by
  split
  next hok => exact precise_resume (h.moves hok) s _
  next kind far herror =>
    obtain ⟨htlb, hs⟩ := h.faults _ herror
    rw [hs]
    exact .behind htlb (precise_fault _ s word _ _ _)

lemma precise_memoryStep {bus : GuestBus β} (h : cpu.memoryStep bus s word = some out) : cpu.Precise s out := by
  unfold memoryStep at h
  dsimp only at h
  split at h
  · cases h
    exact (transferred_pairMemory cpu bus s word).precise word fun c kind =>
      c.transferSyndrome word kind (decide (kind = .dataAbort ∨ kind = .alignmentFault)) (!bitSet word 22)
  split at h
  · cases h
    exact (transferred_scalarMemory cpu bus s word).precise word fun c kind =>
      c.transferSyndrome word kind (decide (kind = .dataAbort ∨ kind = .translationFault ∨ kind = .permissionFault ∨
        kind = .alignmentFault)) (decide (scalarOpc word = 0#32))
  · cases h

end Memory

section Word

lemma moves_branchStep (cpu : GuestCpuState) (word : U32) :
    ∀ next, cpu.branchStep word = some (some next) → Moves cpu next := by
  have hpc (pc : U64) : Moves cpu { cpu with pc := pc } := .single (.registers ⟨cpu.x, cpu.sp, cpu.pstate, pc, rfl⟩ rfl)
  unfold branchStep
  refine chain_ite (chain_total (hpc _)) (chain_ite (chain_ite ?_ (chain_total ?_)) ?_)
  · intro next h
    cases h
  · exact .single (.registers ⟨_, cpu.sp, cpu.pstate, _, rfl⟩ rfl)
  · refine chain_ite (chain_total (hpc _)) (chain_ite (chain_total (hpc _)) ?_)
    intro next h
    cases h

lemma precise_executeWord (hsynced : cpu.Synced) (bus : GuestBus β) (s : β) (word : U32) :
    cpu.Precise s (cpu.executeWord bus s word) := by
  unfold executeWord
  split
  next out hout => exact precise_settle fun next hnext => moves_pauthStep (hnext ▸ hout)
  split
  next hout => exact precise_systemStep hout
  split
  next hout => exact precise_exclusiveStep hout
  split
  next hout => exact precise_controlStep hsynced hout
  split
  next out hout =>
    refine precise_settle fun next hnext => ?_
    obtain ⟨result, hresult, rfl⟩ := Option.map_eq_some_iff.mp hnext
    have hdata : cpu.dataStep word = some (some result) := hresult ▸ hout
    exact .tail (.single (.registers (registers_dataStep cpu word result hdata) (view_mode.dataStep cpu word result hdata)))
      (move_advance result)
  split
  next hout => exact precise_memoryStep hout
  split
  next out hout => exact precise_settle fun next hnext => moves_branchStep cpu word next (hnext ▸ hout)
  · exact precise_fault cpu s word _ _ _

lemma Synced.sameButTlb (h : cpu.Synced) (htlb : cpu.SameButTlb next) : next.Synced := by
  obtain ⟨tlb, entry, rfl⟩ := htlb
  exact h.of_tlb rfl

lemma precise_executeOne (hsynced : cpu.Synced) (bus : GuestBus β) (s : β) : cpu.Precise s (cpu.executeOne bus s) := by
  have hfetched := sameButTlb_fetch32 cpu bus s
  unfold executeOne
  dsimp only
  split
  next word _ => exact .behind hfetched (precise_executeWord (hsynced.sameButTlb hfetched) bus s word)
  next kind _ =>
    exact ⟨fun h => absurd rfl (h kind), fun _ h => ⟨rfl, _, _, hfetched, rfl, StepResult.exception.inj h, rfl⟩⟩

end Word

end GuestCpuState

end Nextcore.Preos
