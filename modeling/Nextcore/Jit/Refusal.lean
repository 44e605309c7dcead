import Nextcore.Jit.Reach
import Nextcore.Jit.Retire
import Nextcore.Jit.System
import Nextcore.Lib.Bits

/-! A system register write that `vf_cpu_write_sysreg` refuses: what the handlers
behind it make of the word, and what the run that executes it leaves. -/

namespace Nextcore.Cpu

def VfCpu.sysreg (cpu : VfCpu) : Sysreg → U64
  | .cpacrEl1 => cpu.cpacrEl1
  | .platformOverride => cpu.platformOverride
  | r => (cpu.fetchSysreg r).getD 0#64

lemma VfCpu.sysreg_status (cpu : VfCpu) (status : U32) (r : Sysreg) :
    { cpu with status := status }.sysreg r = cpu.sysreg r := by
  cases r <;> rfl

lemma VfCpu.sysreg_reported (cpu : VfCpu) (w status : U32) (r : Sysreg) :
    { cpu with instruction := w, status := status }.sysreg r = cpu.sysreg r := by
  cases r <;> rfl

def recordRegisters (target : U32) : List Sysreg :=
  if target = 1#32 then [.spsrEl1, .elrEl1, .esrEl1, .farEl1]
  else if target = 2#32 then [.spsrEl2, .elrEl2, .esrEl2, .farEl2]
  else [.spsrEl3, .elrEl3, .esrEl3, .farEl3]

end Nextcore.Cpu

namespace Nextcore.Jit

open Cpu Emit X86 Loop Preos.Pauth

def isMsrRegister (w : U32) : Bool := w &&& 0xfff00000#32 = 0xd5100000#32

section Words

variable {w : U32} (hmsr : isMsrRegister w = true)

include hmsr in
lemma msr_system : w &&& 0xffc00000#32 = 0xd5000000#32 := by
  have hw : w &&& 0xfff00000#32 = 0xd5100000#32 := of_decide_eq_true hmsr
  have hmask : (0xffc00000#32) = 0xfff00000#32 &&& 0xffc00000#32 := by decide
  rw [hmask, ← BitVec.and_assoc, hw]
  decide

include hmsr in
lemma msr_ne {k b : U32} (h : 0xd5100000#32 &&& k ≠ b &&& 0xfff00000#32) : ¬w &&& k = b := fun hb =>
  mask_clash (of_decide_eq_true hmsr) hb h

include hmsr in
lemma msr_writes : isMrsMsr w = true ∧ isRead w = false ∧ isMrs w = false ∧ isMsr w = true := by
  obtain ⟨hmrs, hread, hwrite⟩ := isMrsMsr_of_system (msr_system hmsr)
  have hbit : isRead w = false := by
    have hmask : (0x00200000#32) = 0xfff00000#32 &&& 0x00200000#32 := by decide
    rw [isRead, hmask, ← BitVec.and_assoc, show w &&& 0xfff00000#32 = _ from of_decide_eq_true hmsr]
    decide
  rw [hbit] at hread hwrite
  exact ⟨hmrs, hbit, hread, hwrite⟩

lemma effectOne_system (hw : w &&& 0xffc00000#32 = 0xd5000000#32) (t : Target) (provider : Bool) (pc : U64) (n : U32) :
    effectOne t provider w pc n =
      if isMrsMsr w = true ∧ sysregKey w = Key.cpacrEl1 ∧ t.currentEl = 0#32 then
        stopEffect w pc n Status.undefinedInstruction
      else if isMrsMsr w = true ∧ (sysregKey w = Key.fpcr ∨ sysregKey w = Key.fpsr) then
        stopEffect w pc n Status.undefinedInstruction
      else if isIdRead w then idReadEffect w pc n
      else if isMrsMsr w = true ∧ threadOffset (sysregKey w) ≠ 0#32 then
        straightEffect w pc n (threadRegisterResult t w)
      else if w = 0xd503201f#32 then fun g ram => .next g ram
      else stopEffect w pc n (boundaryStatus w t.currentEl) := by
  have not : ∀ {k b : U32}, 0xd5000000#32 &&& k ≠ b &&& 0xffc00000#32 → ¬w &&& k = b := system_ne hw
  have hmemory := system_memoryFamily hw
  unfold effectOne
  rw [if_neg (show ¬(provider = true ∧ memoryFamily w = true) by simp [hmemory]), if_neg (not (by decide)),
    if_neg (not (by decide)), if_neg (not (by decide)), if_neg (not (by decide)), if_neg (not (by decide)),
    if_neg (not (by decide)), if_neg (not (by decide)), if_neg (system_moveWide hw), if_neg (not (by decide)),
    if_neg (not (by decide)), if_neg (not (by decide)), if_neg (not (by decide)), if_neg (not (by decide)),
    if_neg (show ¬memoryFamily w = true by simp [hmemory]), if_neg (not (by decide)), if_neg (not (by decide)),
    if_neg (not (by decide)), if_neg (not (by decide)), if_neg (system_branchRegister hw), if_neg (system_halt hw)]
  rfl

def BoundaryStatus (status : U32) : Prop :=
  status = Status.undefinedInstruction ∨ status = Status.privilegeFault ∨ status = Status.systemRegisterTrap

lemma knownPrivileged_el {el : U32} (h : el ≠ 0#32) (w : U32) : knownPrivileged w el = false := by
  unfold knownPrivileged
  simp only [h, decide_false, Bool.and_false, Bool.false_and, ite_self]

lemma boundaryStatus_cases (w el : U32) : BoundaryStatus (boundaryStatus w el) := by
  unfold boundaryStatus systemBoundary
  cases knownPrivileged w el with
  | true => exact .inr (.inl rfl)
  | false =>
    dsimp only
    simp only [Bool.false_eq_true, if_false]
    split
    · exact .inr (.inr rfl)
    split
    · exact .inl rfl
    split
    · exact .inl rfl
    · exact .inr (.inr rfl)

lemma boundaryStatus_el (w : U32) {el : U32} (h : el ≠ 0#32) : boundaryStatus w el ≠ Status.privilegeFault := by
  unfold boundaryStatus systemBoundary
  rw [knownPrivileged_el h]
  dsimp only
  simp only [Bool.false_eq_true, if_false]
  split
  · decide
  split
  · decide
  split
  · decide
  · decide

variable {cpu : VfCpu} {value : U64}

lemma threadRegister_refused {t : Target} (hvalid : cpu.stateValid = true) (hel : t.currentEl = cpu.currentEl)
    (hkey : threadOffset (sysregKey w) ≠ 0#32) (hwrite : bitOf w 21 = false)
    (hrefused : (cpu.writeSysreg (sysregKey w) value).1 ≠ .ok) : threadRegisterResult t w = none := by
  unfold threadRegisterResult
  dsimp only
  split
  · rfl
  next hlevel =>
    exfalso
    apply hrefused
    rw [hel, hwrite] at hlevel
    have hone : ¬cpu.currentEl = 0#32 → ¬cpu.currentEl < 1#32 := by
      intro h
      bv_omega
    unfold VfCpu.writeSysreg
    rw [if_neg (by simp [hvalid])]
    rcases threadOffset_cases hkey with hk | hk | hk
    · rw [hk, show Sysreg.ofKey Key.tpidrEl0 = some .tpidrEl0 from Sysreg.ofKey_key .tpidrEl0]
      simp [VfCpu.levelCheck, Sysreg.minEl, VfCpu.storeSysreg]
    · have h0 : ¬cpu.currentEl = 0#32 := fun h => hlevel ⟨h, .inr ⟨rfl, hk⟩⟩
      rw [hk, show Sysreg.ofKey Key.tpidrroEl0 = some .tpidrroEl0 from Sysreg.ofKey_key .tpidrroEl0]
      simp [VfCpu.levelCheck, Sysreg.minEl, VfCpu.storeSysreg, h0]
    · have h0 : ¬cpu.currentEl = 0#32 := fun h => hlevel ⟨h, .inl hk⟩
      rw [hk, show Sysreg.ofKey Key.tpidrEl1 = some .tpidrEl1 from Sysreg.ofKey_key .tpidrEl1]
      simp [VfCpu.levelCheck, Sysreg.minEl, VfCpu.storeSysreg, hone h0]

include hmsr in
lemma effectOne_refused {t : Target} (hvalid : cpu.stateValid = true) (hel : t.currentEl = cpu.currentEl)
    (hrefused : (cpu.writeSysreg (sysregKey w) value).1 ≠ .ok) (provider : Bool) (pc : U64) (n : U32) :
    ∃ status, BoundaryStatus status ∧ (t.currentEl ≠ 0#32 → status ≠ Status.privilegeFault) ∧
      effectOne t provider w pc n = stopEffect w pc n status := by
  have hid : isIdRead w = false := by
    rw [isIdRead, decide_eq_false_iff_not]
    intro hmem
    simp only [List.mem_cons, List.not_mem_nil, or_false] at hmem
    rcases hmem with h | h | h | h | h | h | h | h | h | h <;> exact msr_ne hmsr (by decide) h
  have hnop : ¬w = 0xd503201f#32 := by
    rintro rfl
    revert hmsr
    decide
  have hbit : bitOf w 21 = false := by
    have hread : w &&& 0x00200000#32 = 0#32 := by
      simpa [isRead] using (msr_writes hmsr).2.1
    have hshift := Bits.and_shiftRight w 0x00200000#32 21
    rw [hread] at hshift
    rw [bitOf, show (1#32) = 0x00200000#32 >>> 21 by decide, ← hshift]
    decide
  rw [effectOne_system (msr_system hmsr)]
  by_cases hcpacr : isMrsMsr w = true ∧ sysregKey w = Key.cpacrEl1 ∧ t.currentEl = 0#32
  · rw [if_pos hcpacr]
    exact ⟨_, .inl rfl, fun _ => by decide, rfl⟩
  by_cases hfp : isMrsMsr w = true ∧ (sysregKey w = Key.fpcr ∨ sysregKey w = Key.fpsr)
  · rw [if_neg hcpacr, if_pos hfp]
    exact ⟨_, .inl rfl, fun _ => by decide, rfl⟩
  rw [if_neg hcpacr, if_neg hfp, if_neg (show ¬isIdRead w = true by simp [hid])]
  by_cases hthread : isMrsMsr w = true ∧ threadOffset (sysregKey w) ≠ 0#32
  · rw [if_pos hthread, threadRegister_refused hvalid hel hthread.2 hbit hrefused]
    exact ⟨_, .inl rfl, fun _ => by decide, rfl⟩
  · rw [if_neg hthread, if_neg hnop]
    exact ⟨_, boundaryStatus_cases w t.currentEl, boundaryStatus_el w, rfl⟩

end Words

def pacStep (installed : Bool) : Option PauthStep := if installed then some vfPreosPauthStep else none

def PacWritesTcr (installed : Bool) (cpu : VfCpu) (w : U32) : Prop :=
  installed = true ∧ sysregKey w = Sysreg.tcrEl1.key ∧ cpu.plainEl1 = true

section Handlers

variable {cpu : VfCpu} (hmsr : isMsrRegister cpu.instruction = true)

include hmsr in
lemma systemRegisterSlowStep_refused
    (hrefused : (cpu.writeSysreg (sysregKey cpu.instruction) (sourceOf cpu cpu.instruction)).1 ≠ .ok) :
    systemRegisterSlowStep cpu = none := by
  obtain ⟨hmrs, hread, -, -⟩ := msr_writes hmsr
  simp only [systemRegisterSlowStep, hmrs, hread, Bool.true_eq_false, Bool.false_eq_true, if_false]
  split
  next h => exact absurd (by rw [h]) hrefused
  next => rfl

include hmsr in
lemma pstateSlowStep_msr : pstateSlowStep cpu = none := by
  have hspsel : isSpSel cpu.instruction = false := decide_eq_false (msr_ne hmsr (by decide))
  unfold pstateSlowStep
  dsimp only
  split
  · rfl
  rw [if_neg (by
    rintro (h | h)
    · exact msr_ne hmsr (by decide) h
    · exact msr_ne hmsr (by decide) h), hspsel]
  rfl

include hmsr in
lemma step_msr (c : PauthContext) :
    Preos.Pauth.step c cpu.instruction =
      if isRegisterAccess cpu.instruction then some (registerStep c cpu.instruction) else none := by
  have hword : ∀ v : U32, isMsrRegister v = false → ¬cpu.instruction = v := by
    rintro v hv rfl
    rw [hmsr] at hv
    cases hv
  have hstrip : ¬cpu.instruction &&& 0xfffffbff#32 = 0xdac143e0#32 ||| (cpu.instruction &&& 31#32) := by
    intro h
    have htop := congrArg (· &&& 0xfff00000#32) h
    have hw : cpu.instruction &&& 0xfff00000#32 = 0xd5100000#32 := of_decide_eq_true hmsr
    simp only [BitVec.and_or_distrib_right, BitVec.and_assoc] at htop
    rw [show (0xfffffbff#32 &&& 0xfff00000#32) = 0xfff00000#32 by decide,
      show (31#32 &&& 0xfff00000#32) = 0#32 by decide, hw, BitVec.and_zero] at htop
    revert htop
    decide
  have hdecode : Preos.Pauth.decode c cpu.instruction = none := by
    unfold Preos.Pauth.decode
    dsimp only
    rw [if_neg (msr_ne hmsr (by decide)), if_neg hstrip, if_neg (hword _ (by decide)), if_neg (msr_ne hmsr (by decide)),
      if_neg (msr_ne hmsr (by decide)), if_neg (msr_ne hmsr (by decide)), if_neg (msr_ne hmsr (by decide)),
      if_neg (by
        rintro (h | h)
        · exact hword _ (by decide) h
        · exact hword _ (by decide) h)]
  unfold Preos.Pauth.step
  rw [if_neg (msr_ne hmsr (by decide)), hdecode]
  rfl

include hmsr in
lemma registerStep_msr (hkey : sysregKey cpu.instruction ∉ pauthKeyWords) {c next : PauthContext}
    (haccess : isRegisterAccess cpu.instruction = true) (h : registerStep c cpu.instruction = .ok next) :
    c.currentEl = 1#32 ∧
      (sysregKey cpu.instruction = Sysreg.sctlrEl1.key ∨ sysregKey cpu.instruction = Sysreg.tcrEl1.key) := by
  obtain ⟨-, -, hmrs, -⟩ := msr_writes hmsr
  have hslot : keySlot (syskeyOf cpu.instruction) = none := by
    cases hslot : keySlot (syskeyOf cpu.instruction) with
    | none => rfl
    | some slot => exact absurd (mem_pauthKeyWords (Option.isSome_iff_exists.mpr ⟨_, hslot⟩)) hkey
  unfold registerStep at h
  dsimp only at h
  split at h
  · cases h
  next hcontext =>
    refine ⟨by simpa using (not_or.mp hcontext).1, ?_⟩
    simp only [hslot, hmrs, Bool.false_eq_true, if_false] at h
    simp only [isRegisterAccess, hslot, Option.isSome_none, Bool.false_or, Bool.and_eq_true, Bool.or_eq_true,
      decide_eq_true_eq] at haccess
    rcases haccess.2 with (hsctlr | htcr) | hisar
    · exact .inl hsctlr
    · exact .inr htcr
    · rw [if_pos hisar] at h
      cases h

lemma writeSysreg_sctlr (hvalid : cpu.stateValid = true) (hel : cpu.currentEl = 1#32) (value : U64) :
    (cpu.writeSysreg Sysreg.sctlrEl1.key value).1 = .ok := by
  unfold VfCpu.writeSysreg
  rw [if_neg (by simp [hvalid]), Sysreg.ofKey_key]
  simp [VfCpu.levelCheck, Sysreg.minEl, VfCpu.storeSysreg, hel]

include hmsr in
lemma pauthSlowStep_refused {installed : Bool} (hvalid : cpu.stateValid = true)
    (hkey : sysregKey cpu.instruction ∉ pauthKeyWords)
    (hrefused : (cpu.writeSysreg (sysregKey cpu.instruction) (sourceOf cpu cpu.instruction)).1 ≠ .ok)
    (hpac : ¬PacWritesTcr installed cpu cpu.instruction) : pauthSlowStep (pacStep installed) cpu = none := by
  cases installed with
  | false => rfl
  | true =>
    unfold pauthSlowStep pacStep
    simp only [if_true]
    split
    · rfl
    next hguard =>
      simp only [not_or, not_not] at hguard
      obtain ⟨-, -, hhcr, hscr⟩ := hguard
      have hnone : vfPreosPauthStep (pauthContext cpu) cpu.instruction = none := by
        unfold vfPreosPauthStep
        rw [step_msr hmsr]
        cases haccess : isRegisterAccess cpu.instruction with
        | false => rfl
        | true =>
          cases hstep : registerStep (pauthContext cpu) cpu.instruction with
          | error err => rfl
          | ok next =>
            obtain ⟨hel, hsctlr | htcr⟩ := registerStep_msr hmsr hkey haccess hstep
            · rw [hsctlr] at hrefused
              exact absurd (writeSysreg_sctlr hvalid hel _) hrefused
            · exact absurd ⟨rfl, htcr, decide_eq_true ⟨hel, hhcr, hscr⟩⟩ hpac
      rw [hnone]

include hmsr in
lemma pauthSlowStep_tcr {installed : Bool} (hmmu : cpu.sctlr &&& 1#64 = 0#64)
    (hpac : PacWritesTcr installed cpu cpu.instruction) :
    ∃ next, pauthSlowStep (pacStep installed) cpu = some next ∧
      next.tcr = (pauthContext cpu).reg (cpu.instruction &&& 31#32) false := by
  obtain ⟨rfl, hkey, hplain⟩ := hpac
  obtain ⟨hel, hhcr, hscr⟩ : cpu.currentEl = 1#32 ∧ cpu.hcrEl2 = 0#64 ∧ cpu.scrEl3 = 0#64 := of_decide_eq_true hplain
  obtain ⟨-, -, hmrs, hmsr'⟩ := msr_writes hmsr
  have hsys : syskeyOf cpu.instruction = 0x4102#32 := hkey
  have haccess : isRegisterAccess cpu.instruction = true := by
    rw [isRegisterAccess, hmrs, hmsr', hsys]
    decide
  have hstep : registerStep (pauthContext cpu) cpu.instruction = .ok { pauthContext cpu with
      tcr := (pauthContext cpu).reg (cpu.instruction &&& 31#32) false, pc := (pauthContext cpu).pc + 4#64 } := by
    unfold registerStep
    have hslot : keySlot 0x4102#32 = none := by decide
    rw [if_neg (by
      rintro (h | h)
      · exact h hel
      · exact h rfl), hsys, hslot, hmrs]
    rfl
  have hpauth : vfPreosPauthStep (pauthContext cpu) cpu.instruction = some { pauthContext cpu with
      tcr := (pauthContext cpu).reg (cpu.instruction &&& 31#32) false, pc := (pauthContext cpu).pc + 4#64 } := by
    unfold vfPreosPauthStep
    rw [step_msr hmsr, haccess, if_pos rfl, hstep]
  unfold pauthSlowStep pacStep
  simp only [if_true]
  rw [if_neg (by
    simp only [not_or, not_not]
    exact ⟨by rw [hel]; decide, hmmu, hhcr, hscr⟩), hpauth]
  exact ⟨_, rfl, rfl⟩

end Handlers

section Record

/-- The exception a trap status is recorded as; an implementation gap is reported to the owner only. -/
def trapException (status : U32) : U32 :=
  if status = Status.undefinedInstruction then Exception.undefinedInstruction
  else if status = Status.privilegeFault then Exception.privilegedInstruction
  else if status = Status.systemRegisterTrap then Exception.systemRegisterTrap
  else Exception.none

structure Untouched (before : VfCpu) (w status : U32) (after : VfCpu) : Prop where
  trap : BoundaryStatus status ∨ status = Status.implementationGap
  reported : after.status = status
  instruction : after.instruction = w
  retired : after.retired = before.retired
  pc : after.pc = before.pc
  x : after.x = before.x
  sp : after.sp = before.sp
  pstate : after.pstate = before.pstate
  currentEl : after.currentEl = before.currentEl
  registers : ∀ r, r ∉ recordRegisters before.targetEl → after.sysreg r = before.sysreg r
  keys : after.pauthKeys = before.pauthKeys
  recorded : before.exceptionPending = Exception.none → after.exceptionPending = trapException status
  pending : before.exceptionPending ≠ Exception.none →
    after = { before with instruction := w, status := status }

lemma targetEl_cases {cpu : VfCpu} (h : cpu.currentEl ≤ 3#32) :
    cpu.targetEl = 1#32 ∨ cpu.targetEl = 2#32 ∨ cpu.targetEl = 3#32 := by
  unfold VfCpu.targetEl
  split
  · exact .inl rfl
  · bv_omega

lemma recordException_sysreg (cpu : VfCpu) (h : cpu.currentEl ≤ 3#32) (kind : U32) (pc far : U64)
    (syndrome instruction : U32) {r : Sysreg} (hr : r ∉ recordRegisters cpu.targetEl) :
    (cpu.recordException kind pc far syndrome instruction).sysreg r = cpu.sysreg r := by
  obtain ⟨spEl, hsave⟩ := cpu.saveActiveSp_eq
  unfold VfCpu.recordException
  rw [hsave]
  cases VfCpu.asynchronous kind <;> rcases targetEl_cases h with htarget | htarget | htarget <;> rw [htarget] at hr ⊢ <;>
    cases r <;> first | rfl | exact absurd (by decide) hr

lemma recordException_keeps (cpu : VfCpu) (kind : U32) (pc far : U64) (syndrome instruction : U32) :
    let next := cpu.recordException kind pc far syndrome instruction
    next.retired = cpu.retired ∧ next.pc = cpu.pc ∧ next.x = cpu.x ∧ next.sp = cpu.sp ∧ next.pstate = cpu.pstate ∧
      next.currentEl = cpu.currentEl ∧ next.pauthKeys = cpu.pauthKeys := by
  obtain ⟨spEl, hsave⟩ := cpu.saveActiveSp_eq
  simp only [VfCpu.recordException, hsave, and_self]

lemma commitStatus_boundary (cpu : VfCpu) {status : U32} (hstatus : BoundaryStatus status) :
    cpu.commitStatus status =
      ({ cpu with status := status }.raiseException (trapException status) cpu.pc cpu.far 0#32 cpu.instruction).getD
        { cpu with status := status } := by
  rcases hstatus with rfl | rfl | rfl <;> rfl

lemma untouched_commit {before : VfCpu} (hvalid : before.stateValid = true) {w status : U32}
    (hstatus : BoundaryStatus status ∨ status = Status.implementationGap) :
    Untouched before w status { { before with instruction := w }.commitStatus status with status := status } := by
  rcases hstatus with hboundary | rfl
  swap
  · exact ⟨.inr rfl, rfl, rfl, rfl, rfl, rfl, rfl, rfl, rfl, fun r _ => VfCpu.sysreg_reported before w _ r, rfl,
      fun h => h, fun _ => rfl⟩
  have hkind : validExceptionKind (trapException status) = true := by
    rcases hboundary with rfl | rfl | rfl <;> decide
  have hel : before.currentEl ≤ 3#32 := ((VfCpu.stateValid_iff before).mp hvalid).mode.el_le
  rw [commitStatus_boundary _ hboundary]
  unfold VfCpu.raiseException
  by_cases hpending : before.exceptionPending = Exception.none
  · rw [if_neg (by
      rintro (h | h | h)
      · exact Bool.false_ne_true (h.symm.trans hvalid)
      · exact Bool.false_ne_true (h.symm.trans hkind)
      · exact h hpending)]
    obtain ⟨hretired, hpc, hx, hsp, hpstate, hcurrent, hkeys⟩ := recordException_keeps
      { before with instruction := w, status := status } (trapException status) before.pc before.far
      (if (0#32 : U32) = 0#32 then exceptionSyndromeOf (trapException status) before.currentEl before.pc w else 0#32) w
    refine ⟨.inl hboundary, rfl, rfl, hretired, hpc, hx, hsp, hpstate, hcurrent, fun r hr => ?_, hkeys, fun _ => rfl,
      fun h => absurd hpending h⟩
    have hrecord := recordException_sysreg { before with instruction := w, status := status } hel
      (trapException status) before.pc before.far
      (if (0#32 : U32) = 0#32 then exceptionSyndromeOf (trapException status) before.currentEl before.pc w else 0#32) w hr
    rw [Option.getD_some, VfCpu.sysreg_status]
    exact hrecord.trans (VfCpu.sysreg_reported before w status r)
  · rw [if_pos (.inr (.inr hpending)), Option.getD_none]
    exact ⟨.inl hboundary, rfl, rfl, rfl, rfl, rfl, rfl, rfl, rfl, fun r _ => VfCpu.sysreg_reported before w status r,
      rfl, fun h => absurd h hpending, fun _ => rfl⟩

lemma dispatch_traps {slow : VfCpu → Option VfCpu} {status : U32} {cpu : VfCpu} (hstatus : BoundaryStatus status)
    (hslow : slow cpu = none) :
    ∃ status', (BoundaryStatus status' ∨ status' = Status.implementationGap) ∧
      dispatch slow status cpu = .done status' { cpu.commitStatus status' with status := status' } := by
  have hfailure : researchSystemRegisterFailure cpu status = Status.implementationGap ∨
      researchSystemRegisterFailure cpu status = status := by
    unfold researchSystemRegisterFailure
    split
    · exact .inl rfl
    · exact .inr rfl
  have htrap : BoundaryStatus (researchSystemRegisterFailure cpu status) ∨
      researchSystemRegisterFailure cpu status = Status.implementationGap := by
    rcases hfailure with h | h
    · exact .inr h
    · rw [h]
      exact .inl hstatus
  have hne : researchSystemRegisterFailure cpu status ≠ Status.next := by
    rcases htrap with (h | h | h) | h <;> rw [h] <;> decide
  refine ⟨_, htrap, ?_⟩
  unfold dispatch
  dsimp only
  by_cases hslowly : status = Status.undefinedInstruction ∨ status = Status.systemRegisterTrap
  · rw [if_pos hslowly, hslow]
    dsimp only
    rw [if_pos hne]
    rfl
  · rw [if_neg hslowly, if_pos hne]
    rfl

lemma dispatch_slow {slow : VfCpu → Option VfCpu} {status : U32} {cpu next : VfCpu}
    (hstatus : status = Status.undefinedInstruction ∨ status = Status.systemRegisterTrap)
    (hslow : slow cpu = some next) : dispatch slow status cpu = .again next := by
  unfold dispatch
  rw [if_pos hstatus, hslow]

end Record

def NoEffect {S : Type} (cpuOf : S → VfCpu) (before : VfCpu) (w : U32) (turn : Option (Turn S U32)) : Prop :=
  ∃ status s, turn = some (.done status s) ∧ Untouched before w status (cpuOf s)

section Dispatch

variable {before : VfCpu} {w status : U32} {installed : Bool} (hmsr : isMsrRegister w = true)
  (hrefused : (before.writeSysreg (sysregKey w) (sourceOf before w)).1 ≠ .ok)

include hmsr hrefused in
lemma slowStep_refused : slowStep (pacStep installed) { before with instruction := w } =
    pauthSlowStep (pacStep installed) { before with instruction := w } := by
  have hrefused' : ({ before with instruction := w }.writeSysreg (sysregKey w) (sourceOf before w)).1 ≠ .ok := by
    rw [VfCpu.writeSysreg_instruction]
    exact hrefused
  have hsystem : systemRegisterSlowStep { before with instruction := w } = none :=
    systemRegisterSlowStep_refused hmsr hrefused'
  have hpstate : pstateSlowStep { before with instruction := w } = none := pstateSlowStep_msr hmsr
  rw [slowStep, hsystem, hpstate]
  rfl

include hmsr hrefused in
lemma dispatch_pac (hmmu : before.sctlr &&& 1#64 = 0#64) (hstatus : BoundaryStatus status)
    (hlevel : before.currentEl ≠ 0#32 → status ≠ Status.privilegeFault) (hpac : PacWritesTcr installed before w) :
    ∃ next, dispatch (slowStep (pacStep installed)) status { before with instruction := w } = .again next ∧
      next.tcr = (pauthContext before).reg (w &&& 31#32) false ∧ next.retired = before.retired + 1#64 := by
  have hel : before.currentEl = 1#32 := (of_decide_eq_true hpac.2.2 : _ ∧ _).1
  have hword : isMsrRegister { before with instruction := w }.instruction = true := hmsr
  obtain ⟨next, hnext, htcr⟩ := pauthSlowStep_tcr hword hmmu hpac
  have hretired := pauthSlowStep_retired hnext
  have hslowly : status = Status.undefinedInstruction ∨ status = Status.systemRegisterTrap := by
    rcases hstatus with h | h | h
    · exact .inl h
    · exact absurd h (hlevel (by rw [hel]; decide))
    · exact .inr h
  exact ⟨next, dispatch_slow hslowly ((slowStep_refused hmsr hrefused).trans hnext), htcr, hretired⟩

include hmsr hrefused in
lemma noEffect_dispatch {S : Type} {cpuOf : S → VfCpu} {putCpu : VfCpu → S} (hput : ∀ cpu, cpuOf (putCpu cpu) = cpu)
    (hkey : sysregKey w ∉ pauthKeyWords) (hvalid : before.stateValid = true) (hmmu : before.sctlr &&& 1#64 = 0#64)
    (hstatus : BoundaryStatus status) (hlevel : before.currentEl ≠ 0#32 → status ≠ Status.privilegeFault) :
    NoEffect cpuOf before w
        (some (mapTurn putCpu (dispatch (slowStep (pacStep installed)) status { before with instruction := w }))) ↔
      ¬PacWritesTcr installed before w := by
  constructor
  · rintro ⟨status', s, hturn, -⟩ hpac
    obtain ⟨next, hagain, -⟩ := dispatch_pac hmsr hrefused hmmu hstatus hlevel hpac
    rw [hagain] at hturn
    cases hturn
  · intro hpac
    have hrefused' : ({ before with instruction := w }.writeSysreg (sysregKey w) (sourceOf before w)).1 ≠ .ok := by
      rw [VfCpu.writeSysreg_instruction]
      exact hrefused
    have hword : isMsrRegister { before with instruction := w }.instruction = true := hmsr
    have hnone : slowStep (pacStep installed) { before with instruction := w } = none :=
      (slowStep_refused hmsr hrefused).trans (pauthSlowStep_refused hword hvalid hkey hrefused' hpac)
    obtain ⟨status', htrap, hdispatch⟩ := dispatch_traps hstatus hnone
    rw [hdispatch]
    refine ⟨status', _, rfl, ?_⟩
    rw [hput]
    exact untouched_commit hvalid htrap

end Dispatch

section Turn

variable {τ : Type}

structure Arrives (protect : Protect τ) (image : Image) (most : ℕ) (budget start : U64) (s : RunState τ) (k : ℕ) (w : U32)
    (g : VfCpu) (ram : List Byte) : Prop where
  left : s.cpu.retired - start < budget
  valid : s.cpu.stateValid = true
  mmuOff : s.cpu.sctlr &&& 1#64 = 0#64
  quiet : s.cpu.pollInterrupt.1 = Status.next
  writable : (protect s.opaque_ false).2 = 0#32
  fits : (vfTranslateCpu s.code s.cpu (image.bytes s.ram) s.cpu.pc (blockCount most budget start s.cpu)).1 = Status.next
  executable : (protect (protect s.opaque_ false).1 true).2 = 0#32
  position : k < blockCount most budget start s.cpu
  before : reach (Target.ofCpu s.cpu) (image.bytes s.ram) k 0#32 s.cpu.pc s.cpu s.ram = some (g, ram)
  fetched : fetchFails s.cpu.guestRamBase (s.cpu.pc + BitVec.ofNat 64 (4 * k)) image.size = false
  word : blockWord (Target.ofCpu s.cpu) false (image.bytes s.ram) (s.cpu.pc + BitVec.ofNat 64 (4 * k)) = w

variable {protect : Protect τ} {image : Image} {most k : ℕ} {budget start : U64} {s : RunState τ} {w : U32} {g : VfCpu}
  {ram : List Byte}

lemma Arrives.effect (h : Arrives protect image most budget start s k w g ram) {status : U32}
    (hstop : effectOne (Target.ofCpu s.cpu) false w (s.cpu.pc + BitVec.ofNat 64 (4 * k)) (BitVec.ofNat 32 k) =
      stopEffect w (s.cpu.pc + BitVec.ofNat 64 (4 * k)) (BitVec.ofNat 32 k) status) :
    blockEffect (Target.ofCpu s.cpu) false (image.bytes s.ram) s.cpu.pc (blockCount most budget start s.cpu) s.cpu
        s.ram =
      .stops status (finished { g with instruction := w } (s.cpu.pc + BitVec.ofNat 64 (4 * k)) (BitVec.ofNat 32 k))
        ram := by
  obtain ⟨rest, hrest⟩ := Nat.exists_eq_succ_of_ne_zero (Nat.ne_of_gt (Nat.sub_pos_of_lt h.position))
  rw [blockEffect, effectFrom_reach h.position h.before, BitVec.zero_add, hrest, Nat.succ_eq_add_one, effectFrom]
  dsimp only
  rw [if_neg (by
    rintro ⟨-, hfails⟩
    rw [image.length_bytes] at hfails
    exact Bool.false_ne_true (h.fetched.symm.trans hfails)), h.word, hstop]
  rfl

lemma Arrives.turn (h : Arrives protect image most budget start s k w g ram) (caller : Caller)
    (pauth : Option PauthStep) {status : U32}
    (hstop : effectOne (Target.ofCpu s.cpu) false w (s.cpu.pc + BitVec.ofNat 64 (4 * k)) (BitVec.ofNat 32 k) =
      stopEffect w (s.cpu.pc + BitVec.ofNat 64 (4 * k)) (BitVec.ofNat 32 k) status) :
    ∃ s' : RunState τ, vfRunTurn caller pauth protect image most budget start s =
      some (mapTurn (fun cpu => { s' with cpu := cpu })
        (dispatch (slowStep pauth) status { boundary s.cpu k g with instruction := w })) := by
  have hcount : blockCount most budget start s.cpu ≠ 0 := Nat.ne_of_gt (Nat.zero_lt_of_lt h.position)
  obtain ⟨s', -, -, hturn⟩ := vfRunTurn_block h.left h.valid h.mmuOff h.quiet h.writable h.fits h.executable hcount caller
    pauth (h.effect hstop)
  exact ⟨s', hturn⟩

section Refused

variable (h : Arrives protect image most budget start s k w g ram) (hmsr : isMsrRegister w = true)
  (hrefused : ((boundary s.cpu k g).writeSysreg (sysregKey w) (sourceOf (boundary s.cpu k g) w)).1 ≠ .ok)

include h hmsr hrefused in
lemma Arrives.refused (caller : Caller) (pauth : Option PauthStep) :
    (boundary s.cpu k g).stateValid = true ∧ (boundary s.cpu k g).sctlr &&& 1#64 = 0#64 ∧
      ∃ (s' : RunState τ) (status : U32), BoundaryStatus status ∧
        ((boundary s.cpu k g).currentEl ≠ 0#32 → status ≠ Status.privilegeFault) ∧
        vfRunTurn caller pauth protect image most budget start s =
          some (mapTurn (fun cpu => { s' with cpu := cpu })
            (dispatch (slowStep pauth) status { boundary s.cpu k g with instruction := w })) := by
  have hinside := reach_inside h.before
  have hvalid : (boundary s.cpu k g).stateValid = true := hinside.stateValid.trans h.valid
  have hrecord : g.currentEl = s.cpu.currentEl ∧ g.sctlr = s.cpu.sctlr := by
    rw [hinside.record]
    exact ⟨rfl, rfl⟩
  obtain ⟨status, hstatus, hlevel, hstop⟩ := effectOne_refused (t := Target.ofCpu s.cpu) hmsr hvalid hrecord.1.symm
    hrefused false (s.cpu.pc + BitVec.ofNat 64 (4 * k)) (BitVec.ofNat 32 k)
  obtain ⟨s', hturn⟩ := h.turn caller pauth hstop
  exact ⟨hvalid, (congrArg (· &&& 1#64) hrecord.2).trans h.mmuOff, s', status, hstatus,
    fun hel => hlevel fun h0 => hel (hrecord.1.trans h0), hturn⟩

include h hmsr hrefused in
lemma vfRunTurn_refused (caller : Caller) {installed : Bool} (hkey : sysregKey w ∉ pauthKeyWords) :
    NoEffect RunState.cpu (boundary s.cpu k g) w
        (vfRunTurn caller (pacStep installed) protect image most budget start s) ↔
      ¬PacWritesTcr installed (boundary s.cpu k g) w := by
  obtain ⟨hvalid, hmmu, s', status, hstatus, hlevel, hturn⟩ := h.refused hmsr hrefused caller (pacStep installed)
  rw [hturn]
  exact noEffect_dispatch hmsr hrefused (fun _ => rfl) hkey hvalid hmmu hstatus hlevel

include h hmsr hrefused in
lemma vfRunTurn_pac (caller : Caller) {installed : Bool} (hpac : PacWritesTcr installed (boundary s.cpu k g) w) :
    ∃ s', vfRunTurn caller (pacStep installed) protect image most budget start s = some (.again s') ∧
      s'.cpu.tcr = (pauthContext (boundary s.cpu k g)).reg (w &&& 31#32) false ∧
      s'.cpu.retired = (boundary s.cpu k g).retired + 1#64 := by
  obtain ⟨hvalid, hmmu, s', status, hstatus, hlevel, hturn⟩ := h.refused hmsr hrefused caller (pacStep installed)
  obtain ⟨next, hagain, htcr, hretired⟩ := dispatch_pac hmsr hrefused hmmu hstatus hlevel hpac
  rw [hagain] at hturn
  exact ⟨_, hturn, htcr, hretired⟩

end Refused

end Turn

end Nextcore.Jit
