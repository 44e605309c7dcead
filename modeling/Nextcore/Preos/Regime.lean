import Nextcore.Lib.Run
import Nextcore.Mmu.Coherence
import Nextcore.Preos.Sysreg

/-! The MMU and SCTLR, TTBR0, TTBR1 and TCR: what a reconfiguration installs, what
a refused write leaves behind, and how the two follow each other over a run. -/

namespace Nextcore.Mmu.VfMmu

def selectedAsid (ttbr0 ttbr1 tcr : U64) : BitVec 16 :=
  (((if tcr &&& (1#64 <<< 22) ≠ 0#64 then ttbr1 else ttbr0) >>> 48) &&& 255#64).truncate 16

structure Follows (m : VfMmu) (ttbr0 ttbr1 tcr : U64) : Prop where
  lowerBase : m.ttbr0 = ttbr0
  upperBase : m.ttbr1 = ttbr1
  asid : m.asid = selectedAsid ttbr0 ttbr1 tcr
  t0sz : m.tcrT0sz = (tcr &&& 0x3f#64).toNat
  t1sz : m.tcrT1sz = ((tcr >>> 16) &&& 0x3f#64).toNat
  granule : lowerGranule ((tcr >>> 14) &&& 3#64) = some m.granule
  walkDisabled : m.walkDisabled = (decide (tcr &&& (1#64 <<< 7) ≠ 0#64), decide (tcr &&& (1#64 <<< 23) ≠ 0#64))
  output : ∃ bits, physicalBits tcr = some bits ∧ m.physicalAddressMask = (1#64 <<< bits) - 1#64
  strictNc : m.strictNc = false

lemma follows_of_again {m : VfMmu} {ttbr0 ttbr1 tcr : U64}
    (h : m.configureTcr ttbr0 ttbr1 tcr (selectedAsid ttbr0 ttbr1 tcr) = (m.invalidate, true)) :
    m.enabled = true ∧ m.Follows ttbr0 ttbr1 tcr := by
  obtain ⟨bits, granule, hbits, hgranule, -, -, hm⟩ := configureTcr_accepted h
  simp only [invalidate, mk.injEq] at hm
  obtain ⟨henabled, httbr0, httbr1, ht0, ht1, hasid, hg, hwalk, hmask, -, -, hstrict⟩ := hm
  exact ⟨henabled, httbr0, httbr1, hasid, ht0, ht1, hgranule.trans (congrArg some hg.symm), hwalk,
    ⟨bits, hbits, hmask⟩, hstrict⟩

lemma configureTcr_again {m x : VfMmu} {ttbr0 ttbr1 tcr : U64} {asid : BitVec 16}
    (h : m.configureTcr ttbr0 ttbr1 tcr asid = (x, true)) :
    x.configureTcr ttbr0 ttbr1 tcr asid = (x.invalidate, true) := by
  obtain ⟨bits, granule, -, -, -, -, hx⟩ := configureTcr_accepted h
  have hempty : x.invalidate = x := by
    rw [hx]
    rfl
  rw [hempty]
  exact configureTcr_any m x h

end Nextcore.Mmu.VfMmu

namespace Nextcore.Preos.GuestCpuState

open Mmu

def controls (cpu : GuestCpuState) : U64 × U64 × U64 × U64 × VfMmu :=
  (cpu.sys.sctlrEl1, cpu.sys.ttbr0El1, cpu.sys.ttbr1El1, cpu.sys.tcrEl1, cpu.mmu)

structure Synced (cpu : GuestCpuState) : Prop where
  tcr : cpu.sys.tcrEl1 &&& (1#64 <<< 36) = 0#64
  bases : (cpu.sys.ttbr0El1 ||| cpu.sys.ttbr1El1) >>> 56 = 0#64
  off : cpu.sys.sctlrEl1 &&& 1#64 = 0#64 → cpu.mmu.enabled = false
  on : cpu.sys.sctlrEl1 &&& 1#64 ≠ 0#64 →
    cpu.mmu.configureTcr cpu.sys.ttbr0El1 cpu.sys.ttbr1El1 cpu.sys.tcrEl1
      (VfMmu.selectedAsid cpu.sys.ttbr0El1 cpu.sys.ttbr1El1 cpu.sys.tcrEl1) = (cpu.mmu.invalidate, true)

def flushed (cpu : GuestCpuState) : GuestCpuState := { cpu with mmu := cpu.mmu.invalidate }

variable {cpu cpu' next : GuestCpuState}

lemma Synced.of_controls (h : cpu.Synced) (hc : cpu'.controls = cpu.controls) : cpu'.Synced := by
  simp only [controls, Prod.mk.injEq] at hc
  obtain ⟨hsctlr, httbr0, httbr1, htcr, hmmu⟩ := hc
  constructor
  · rw [htcr]
    exact h.tcr
  · rw [httbr0, httbr1]
    exact h.bases
  · rw [hsctlr, hmmu]
    exact h.off
  · rw [hsctlr, httbr0, httbr1, htcr, hmmu]
    exact h.on

lemma syncMmu_refused (h : cpu.syncMmu.1 = false) : cpu.syncMmu.2 = cpu := by
  unfold syncMmu at h ⊢
  dsimp only at h ⊢
  split at h
  · rw [if_pos ‹_›]
  rw [if_neg ‹_›]
  split at h
  · cases h
  rw [if_neg ‹_›]
  dsimp only
  rw [VfMmu.configureTcr_refused _ _ _ _ _ h]

lemma syncMmu_synced (h : cpu.syncMmu.1 = true) : cpu.syncMmu.2.Synced := by
  unfold syncMmu at h ⊢
  dsimp only at h ⊢
  split at h
  · cases h
  rename_i hinstall
  rw [if_neg hinstall]
  obtain ⟨htcr, hbases⟩ := not_or.mp hinstall
  rw [not_not] at htcr hbases
  split at h
  · rename_i hm
    rw [if_pos hm]
    exact ⟨htcr, hbases, fun _ => rfl, fun hne => (hne hm).elim⟩
  · rename_i hm
    rw [if_neg hm]
    exact ⟨htcr, hbases, fun heq => (hm heq).elim, fun _ => VfMmu.configureTcr_again (Prod.ext rfl h)⟩

lemma disable_of_disabled {m : VfMmu} (h : m.enabled = false) : m.disable = m.invalidate := by
  simp only [VfMmu.disable, VfMmu.invalidate, h]

lemma syncMmu_again (h : cpu.Synced) : cpu.syncMmu = (true, cpu.flushed) := by
  have hinstall : ¬(cpu.sys.tcrEl1 &&& (1#64 <<< 36) ≠ 0#64 ∨
      (cpu.sys.ttbr0El1 ||| cpu.sys.ttbr1El1) >>> 56 ≠ 0#64) :=
    not_or.mpr ⟨not_not.mpr h.tcr, not_not.mpr h.bases⟩
  unfold syncMmu
  rw [if_neg hinstall]
  by_cases hm : cpu.sys.sctlrEl1 &&& 1#64 = 0#64
  · rw [if_pos hm, disable_of_disabled (h.off hm)]
    rfl
  · rw [if_neg hm]
    have hon := h.on hm
    unfold VfMmu.selectedAsid at hon
    dsimp only
    rw [hon]
    rfl

lemma flushed_synced (h : cpu.Synced) : cpu.flushed.Synced := by
  have hsync := syncMmu_synced (congrArg Prod.fst (syncMmu_again h))
  rwa [syncMmu_again h] at hsync

lemma installControl_synced {restore : GuestCpuState → GuestCpuState} (h : cpu.Synced)
    (hrestore : restore next = cpu) : (next.installControl restore).2.Synced := by
  unfold installControl
  dsimp only
  cases hsync : next.syncMmu.1 with
  | true => exact syncMmu_synced hsync
  | false =>
    simp only [Bool.false_eq_true, if_false]
    rw [syncMmu_refused hsync, hrestore, syncMmu_again h]
    exact flushed_synced h

lemma installControl_refused {restore : GuestCpuState → GuestCpuState} (h : cpu.Synced)
    (hrestore : restore next = cpu) {fault : SysRegFault} (hfault : (next.installControl restore).1 = .error fault) :
    (next.installControl restore).2 = cpu.flushed := by
  unfold installControl at hfault ⊢
  dsimp only at hfault ⊢
  cases hsync : next.syncMmu.1 with
  | true =>
    rw [hsync] at hfault
    cases hfault
  | false =>
    simp only [Bool.false_eq_true, if_false]
    rw [syncMmu_refused hsync, hrestore, syncMmu_again h]

def installs : SystemRegister → Bool
  | .sctlrEl1 | .ttbr0El1 | .ttbr1El1 | .tcrEl1 => true
  | _ => false

lemma storeSysreg_controls {reg : SystemRegister} (hreg : installs reg = false) (value : U64) :
    (cpu.storeSysreg reg value).2.controls = cpu.controls := by
  cases reg
  all_goals first | rfl | cases hreg

lemma bases_of_write {value other : U64} (hvalue : value >>> 56 = 0#64) {old : U64}
    (hold : (old ||| other) >>> 56 = 0#64) : (value ||| other) >>> 56 = 0#64 := by
  rw [BitVec.ushiftRight_or_distrib] at hold ⊢
  rw [hvalue, (BitVec.or_eq_zero_iff.mp hold).2]
  rfl

lemma base_accepted {value : U64} (h : ¬(value &&& 0xfff#64 ≠ 0#64 ∨ value >>> 56 ≠ 0#64)) : value >>> 56 = 0#64 :=
  not_not.mp (not_or.mp h).2

lemma tcr_accepted {value : U64} (h : ¬value &&& ((1#64 <<< 36) ||| (0xf#64 <<< 39)) ≠ 0#64) :
    value &&& (1#64 <<< 36) = 0#64 := by
  rw [not_not, BitVec.and_or_distrib_left] at h
  exact (BitVec.or_eq_zero_iff.mp h).1

def Settles (cpu : GuestCpuState) (out : Except SysRegFault Unit × GuestCpuState) : Prop :=
  out.2.Synced ∧ ∀ fault, out.1 = .error fault → out.2 = cpu ∨ out.2 = cpu.flushed

lemma settles_refused (h : cpu.Synced) (fault : SysRegFault) : cpu.Settles (.error fault, cpu) :=
  ⟨h, fun _ _ => .inl rfl⟩

lemma settles_done (h : next.Synced) : cpu.Settles (.ok (), next) := ⟨h, fun _ hfault => by cases hfault⟩

lemma settles_install {restore : GuestCpuState → GuestCpuState} (h : cpu.Synced) (hrestore : restore next = cpu) :
    cpu.Settles (next.installControl restore) :=
  ⟨installControl_synced h hrestore, fun _ hfault => .inr (installControl_refused h hrestore hfault)⟩

lemma storeSysreg_settles (h : cpu.Synced) (reg : SystemRegister) (value : U64) :
    cpu.Settles (cpu.storeSysreg reg value) := by
  by_cases hreg : installs reg = true
  · cases reg
    case sctlrEl1 => exact settles_install h rfl
    case ttbr0El1 =>
      unfold storeSysreg
      dsimp only
      split
      · exact settles_refused h _
      rename_i hvalue
      split
      · exact settles_install h rfl
      · rename_i hm
        exact settles_done ⟨h.tcr, bases_of_write (base_accepted hvalue) h.bases, h.off, fun hne => (hm hne).elim⟩
    case ttbr1El1 =>
      unfold storeSysreg
      dsimp only
      split
      · exact settles_refused h _
      rename_i hvalue
      have hbases : (cpu.sys.ttbr0El1 ||| value) >>> 56 = 0#64 := by
        have hold := h.bases
        rw [BitVec.or_comm] at hold ⊢
        exact bases_of_write (base_accepted hvalue) hold
      split
      · exact settles_install h rfl
      · rename_i hm
        exact settles_done ⟨h.tcr, hbases, h.off, fun hne => (hm hne).elim⟩
    case tcrEl1 =>
      unfold storeSysreg
      dsimp only
      split
      · exact settles_refused h _
      rename_i hvalue
      split
      · exact settles_install h rfl
      · rename_i hm
        exact settles_done ⟨tcr_accepted hvalue, h.bases, h.off, fun hne => (hm hne).elim⟩
    all_goals cases hreg
  · rw [Bool.not_eq_true] at hreg
    refine ⟨h.of_controls (storeSysreg_controls hreg value), fun fault hfault => .inl ?_⟩
    cases reg
    all_goals first | rfl | (unfold storeSysreg at hfault; cases hfault) | cases hreg

lemma writeSysreg_settles (h : cpu.Synced) (reg : SystemRegister) (value : U64) :
    cpu.Settles (cpu.writeSysreg reg value) := by
  unfold writeSysreg
  split
  · split
    · exact settles_refused h _
    split
    · exact settles_done (h.of_controls rfl)
    · exact settles_refused h _
  split
  · exact settles_refused h _
  split
  · exact settles_refused h _
  · exact storeSysreg_settles h reg value

section Exceptions

lemma raise_controls (cpu : GuestCpuState) (exception : GuestException) :
    (cpu.raise exception).controls = cpu.controls := by
  unfold raise writeExceptionBank
  split
  · rfl
  · dsimp only
    split
    · rfl
    · rfl

lemma takePendingException_controls (cpu : GuestCpuState) : cpu.takePendingException.2.controls = cpu.controls := by
  unfold takePendingException
  split
  · rfl
  split
  · rfl
  dsimp only
  unfold writeExceptionBank
  split
  · rfl
  · rfl

lemma eret_controls {taken : GuestCpuState} (h : cpu.eret = .ok taken) : taken.controls = cpu.controls := by
  unfold eret at h
  split at h
  · cases h
  dsimp only at h
  split at h
  · cases h
  · cases h
    rfl

lemma pollInterrupt_controls (cpu : GuestCpuState) : cpu.pollInterrupt.2.controls = cpu.controls := by
  unfold pollInterrupt
  dsimp only
  split
  · rfl
  split
  · exact raise_controls _ _
  split
  · exact raise_controls _ _
  split
  · rfl
  split
  · exact raise_controls _ _
  split
  · exact raise_controls _ _
  · rfl

lemma commitPendingInterrupt_controls (cpu : GuestCpuState) :
    cpu.commitPendingInterrupt.2.controls = cpu.controls := by
  unfold commitPendingInterrupt
  split
  · rfl
  split
  · exact takePendingException_controls cpu
  · rfl

end Exceptions

section Run

inductive Operation
  | writeSysreg (reg : SystemRegister) (value : U64)
  | syncMmu
  | invalidate
  | translate (va : U64) (access : Access) (read64 : TableReader)
  | raise (exception : GuestException)
  | takePendingException
  | eret
  | pollInterrupt
  | commitPendingInterrupt

def perform (cpu : GuestCpuState) : Operation → Except SysRegFault Unit × GuestCpuState
  | .writeSysreg reg value => cpu.writeSysreg reg value
  | .syncMmu => (.ok (), cpu.syncMmu.2)
  | .invalidate => (.ok (), cpu.flushed)
  | .translate va access read64 =>
    (.ok (), { cpu with mmu := (cpu.mmu.translateDetailed va access cpu.currentEl read64).2 })
  | .raise exception => (.ok (), cpu.raise exception)
  | .takePendingException => (.ok (), cpu.takePendingException.2)
  | .eret => (.ok (), cpu.eret.toOption.getD cpu)
  | .pollInterrupt => (.ok (), cpu.pollInterrupt.2)
  | .commitPendingInterrupt => (.ok (), cpu.commitPendingInterrupt.2)

lemma Synced.of_tlb (h : cpu.Synced) {mmu : VfMmu} (hmmu : mmu.invalidate = cpu.mmu.invalidate) :
    Synced { cpu with mmu := mmu } := by
  have henabled : mmu.enabled = cpu.mmu.enabled := (VfMmu.mk.inj hmmu).1
  refine ⟨h.tcr, h.bases, fun hm => henabled.trans (h.off hm), fun hm => ?_⟩
  have hagain := VfMmu.configureTcr_any cpu.mmu mmu (h.on hm)
  exact hagain.trans (congrArg (·, true) hmmu.symm)

lemma perform_synced (h : cpu.Synced) (operation : Operation) : (cpu.perform operation).2.Synced := by
  cases operation with
  | writeSysreg reg value => exact (writeSysreg_settles h reg value).1
  | syncMmu =>
    simp only [perform, syncMmu_again h]
    exact flushed_synced h
  | invalidate => exact flushed_synced h
  | translate va access read64 => exact h.of_tlb (VfMmu.translateDetailed_invalidate _ _ _ _ _)
  | raise exception => exact h.of_controls (raise_controls cpu exception)
  | takePendingException => exact h.of_controls (takePendingException_controls cpu)
  | eret =>
    cases heret : cpu.eret with
    | error kind =>
      simp only [perform, heret]
      exact h
    | ok taken =>
      simp only [perform, heret]
      exact h.of_controls (eret_controls heret)
  | pollInterrupt => exact h.of_controls (pollInterrupt_controls cpu)
  | commitPendingInterrupt => exact h.of_controls (commitPendingInterrupt_controls cpu)

lemma synced_of_reset (h : cpu.controls = (reset 0#32).controls) : cpu.Synced := by
  have hoff : (reset 0#32).sys.sctlrEl1 &&& 1#64 = 0#64 := by decide
  have hreset : (reset 0#32).Synced := ⟨by decide, by decide, fun _ => rfl, fun hne => (hne hoff).elim⟩
  exact hreset.of_controls h

lemma perform_run_synced (h : cpu.Synced) (operations : List Operation) :
    (Run.final perform cpu operations).Synced :=
  Run.final_invariant (I := Synced) (C := fun _ => True) (fun _ operation hs _ => perform_synced hs operation)
    operations (fun _ _ => trivial) h

lemma Synced.coherent (h : cpu.Synced) :
    (cpu.mmu.enabled = true ↔ cpu.sys.sctlrEl1 &&& 1#64 ≠ 0#64) ∧
      (cpu.mmu.enabled = true → cpu.mmu.Follows cpu.sys.ttbr0El1 cpu.sys.ttbr1El1 cpu.sys.tcrEl1) := by
  have hiff : cpu.mmu.enabled = true ↔ cpu.sys.sctlrEl1 &&& 1#64 ≠ 0#64 := by
    constructor
    · intro henabled hm
      rw [h.off hm] at henabled
      cases henabled
    · exact fun hm => (VfMmu.follows_of_again (h.on hm)).1
  exact ⟨hiff, fun henabled => (VfMmu.follows_of_again (h.on (hiff.mp henabled))).2⟩

def SameButTlb (cpu next : GuestCpuState) : Prop :=
  ∃ tlb entry, next = { cpu with mmu := { cpu.mmu with tlb := tlb, next := entry } }

lemma Settles.sameButTlb {out : Except SysRegFault Unit × GuestCpuState} (h : cpu.Settles out) {fault : SysRegFault}
    (hfault : out.1 = .error fault) : cpu.SameButTlb out.2 := by
  rcases h.2 fault hfault with hsame | hflushed
  · exact ⟨cpu.mmu.tlb, cpu.mmu.next, hsame⟩
  · exact ⟨_, _, hflushed⟩

/-- Over every run from a machine with the controls of reset, the MMU follows the system registers,
a refused write changes at most the TLB, and a refused configuration changes no MMU. -/
theorem mmu_coherent {start : GuestCpuState} (hstart : start.controls = (reset 0#32).controls)
    (operations : List Operation) :
    let cpu := Run.final perform start operations
    (cpu.mmu.enabled = true ↔ cpu.sys.sctlrEl1 &&& 1#64 ≠ 0#64) ∧
      (cpu.mmu.enabled = true → cpu.mmu.Follows cpu.sys.ttbr0El1 cpu.sys.ttbr1El1 cpu.sys.tcrEl1) ∧
      (∀ reg value fault, (cpu.writeSysreg reg value).1 = .error fault →
        cpu.SameButTlb (cpu.writeSysreg reg value).2) ∧
      (∀ (m : VfMmu) ttbr0 ttbr1 tcr asid, (m.configureTcr ttbr0 ttbr1 tcr asid).2 = false →
        (m.configureTcr ttbr0 ttbr1 tcr asid).1 = m) ∧
      (∀ (m : VfMmu) ttbr0 ttbr1 tcr, (m.configureStrictNc ttbr0 ttbr1 tcr).2 = false →
        (m.configureStrictNc ttbr0 ttbr1 tcr).1 = m) := by
  intro cpu
  have hsynced : cpu.Synced := perform_run_synced (synced_of_reset hstart) operations
  obtain ⟨hiff, hfollows⟩ := hsynced.coherent
  exact ⟨hiff, hfollows, fun reg value fault hfault => (writeSysreg_settles hsynced reg value).sameButTlb hfault,
    VfMmu.configureTcr_refused, VfMmu.configureStrictNc_refused⟩

theorem mmu_coherent_boot :
    let cpu := Run.final perform (reset 0#32) [.writeSysreg .ttbr0El1 0x1000#64, .writeSysreg .sctlrEl1 1#64,
      .writeSysreg .ttbr0El1 0x2001#64]
    (cpu.mmu.enabled = true ↔ cpu.sys.sctlrEl1 &&& 1#64 ≠ 0#64) ∧
      (cpu.mmu.enabled = true → cpu.mmu.Follows cpu.sys.ttbr0El1 cpu.sys.ttbr1El1 cpu.sys.tcrEl1) ∧
      (∀ reg value fault, (cpu.writeSysreg reg value).1 = .error fault →
        cpu.SameButTlb (cpu.writeSysreg reg value).2) ∧
      (∀ (m : VfMmu) ttbr0 ttbr1 tcr asid, (m.configureTcr ttbr0 ttbr1 tcr asid).2 = false →
        (m.configureTcr ttbr0 ttbr1 tcr asid).1 = m) ∧
      (∀ (m : VfMmu) ttbr0 ttbr1 tcr, (m.configureStrictNc ttbr0 ttbr1 tcr).2 = false →
        (m.configureStrictNc ttbr0 ttbr1 tcr).1 = m) :=
  mmu_coherent rfl _

end Run

end Nextcore.Preos.GuestCpuState
