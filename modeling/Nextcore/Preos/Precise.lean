import Nextcore.Preos.Boundary

/-! Exceptions of a run are precise: all before the instruction is done, and nothing of it. -/

namespace Nextcore.Preos.GuestCpuState

open Mmu Loop

variable {cpu next : GuestCpuState}

def kept (cpu : GuestCpuState) : (Fin 31 → U64) × (U64 × U64 × U64) × ExclusiveMonitor × (Fin 5 → Key) × U32 :=
  (cpu.x, cpu.clock, cpu.exclusive, cpu.pauth, cpu.affinity)

lemma kept_raise (cpu : GuestCpuState) (e : GuestException) : (cpu.raise e).kept = cpu.kept := by
  unfold raise writeExceptionBank
  split
  · rfl
  · dsimp only
    split <;> rfl

lemma kept_takePendingException (cpu : GuestCpuState) : cpu.takePendingException.2.kept = cpu.kept := by
  unfold takePendingException
  split
  · rfl
  split
  · rfl
  · dsimp only
    unfold writeExceptionBank
    split <;> rfl

structure Holds (cpu next : GuestCpuState) (e : GuestException) : Prop where
  held : next.pendingException = some e
  target : next.exceptionTarget = some cpu.targetEl
  pc : next.pc = cpu.pc
  pstate : next.pstate = cpu.pstate
  level : next.currentEl = cpu.currentEl
  sp : next.sp = cpu.sp
  spEl : next.spEl = cpu.spEl

/-- What an exception leaves of the boundary that it is taken at: RAM, the registers and the control registers are those
of the boundary, and its pc and PSTATE are saved for the return. -/
structure Precisely (last final : GuestCpuState × RamBus) (e : GuestException) : Prop where
  ram : final.2 = last.2
  kept : final.1.kept = last.1.kept
  controls : (final.1.sys.sctlrEl1, final.1.sys.ttbr0El1, final.1.sys.ttbr1El1, final.1.sys.tcrEl1, final.1.mmu.invalidate) =
    (last.1.sys.sctlrEl1, last.1.sys.ttbr0El1, last.1.sys.ttbr1El1, last.1.sys.tcrEl1, last.1.mmu.invalidate)
  pc : e.pc = last.1.pc
  elr : final.1.sys.elr last.1.targetEl = last.1.pc
  spsr : final.1.sys.spsr last.1.targetEl = last.1.pstate.zeroExtend 64
  taken : last.1.Holds final.1 e ∨
    e.kind.asynchronous = true ∧ Entered last.1 final.1 last.1.pc ∧ final.1.pendingException = none

lemma controls_of {next : GuestCpuState} (h : next.controls = cpu.controls) :
    (next.sys.sctlrEl1, next.sys.ttbr0El1, next.sys.ttbr1El1, next.sys.tcrEl1, next.mmu.invalidate) =
      (cpu.sys.sctlrEl1, cpu.sys.ttbr0El1, cpu.sys.ttbr1El1, cpu.sys.tcrEl1, cpu.mmu.invalidate) := by
  simp only [controls, Prod.mk.injEq] at h ⊢
  exact ⟨h.1, h.2.1, h.2.2.1, h.2.2.2.1, congrArg VfMmu.invalidate h.2.2.2.2⟩

variable {last : GuestCpuState × RamBus} {c : GuestCpuState}

lemma precisely_raised (hidle : last.1.Idle) (htlb : last.1.SameButTlb c) {e : GuestException} (hpc : e.pc = last.1.pc) :
    (c.raise e).pendingException = some (c.recorded e) ∧ Precisely last (c.raise e, last.2) (c.recorded e) := by
  have hnone : c.pendingException = none := congrArg Prod.fst (hidle.sameButTlb htlb)
  have hkept := kept_raise c e
  obtain ⟨sys, hraise, helr, hspsr, -⟩ := raise_record hnone e
  have hcontrols := controls_of (raise_controls c e)
  obtain ⟨tlb, entry, rfl⟩ := htlb
  rw [hraise] at hkept hcontrols ⊢
  exact ⟨rfl, rfl, hkept, hcontrols, hpc, helr.trans hpc, hspsr, Or.inl ⟨rfl, rfl, rfl, rfl, rfl, rfl, rfl⟩⟩

lemma precisely_committed (hidle : last.1.Idle) {pending : U64} {kind : ExceptionKind} {raised : GuestCpuState}
    (h : raised = ({ last.1 with smp := { last.1.smp with externalPending := pending } } : GuestCpuState).raise
      (last.1.asyncException kind)) :
    ∃ e, raised.commitPendingInterrupt.1.or raised.pendingException = some e ∧
      Precisely last (raised.commitPendingInterrupt.2, last.2) e := by
  obtain ⟨c, hlatch⟩ : ∃ c, c = ({ last.1 with smp := { last.1.smp with externalPending := pending } } : GuestCpuState) :=
    ⟨_, rfl⟩
  obtain rfl : raised = c.raise (c.asyncException kind) := by
    rw [h, hlatch]
    rfl
  have hnone : c.pendingException = none := by
    rw [hlatch]
    exact congrArg Prod.fst hidle
  have hkept := kept_raise c (c.asyncException kind)
  have hcontrols := raise_controls c (c.asyncException kind)
  obtain ⟨sys, hraise, helr, hspsr, -⟩ := raise_record hnone (c.asyncException kind)
  have hpending : (c.raise (c.asyncException kind)).pendingException = some (c.recorded (c.asyncException kind)) := by
    rw [hraise]
  have hsame : c.kept = last.1.kept ∧ c.controls = last.1.controls := by
    rw [hlatch]
    exact ⟨rfl, rfl⟩
  cases hkind : kind.asynchronous with
  | false =>
    have hcommit : (c.raise (c.asyncException kind)).commitPendingInterrupt = (none, c.raise (c.asyncException kind)) := by
      unfold commitPendingInterrupt
      rw [hpending]
      exact if_neg (by rw [show (c.recorded (c.asyncException kind)).kind = kind from rfl, hkind]; exact Bool.false_ne_true)
    rw [hcommit]
    refine ⟨_, hpending, rfl, hkept.trans hsame.1, controls_of (hcontrols.trans hsame.2), by rw [hlatch]; rfl, ?_, ?_, Or.inl ?_⟩
    · rw [hraise, hlatch] at *
      exact helr
    · rw [hraise, hlatch] at *
      exact hspsr
    · rw [hraise, hlatch]
      exact ⟨rfl, rfl, rfl, rfl, rfl, rfl, rfl⟩
  | true =>
    have hcommit : (c.raise (c.asyncException kind)).commitPendingInterrupt =
        (c.raise (c.asyncException kind)).takePendingException := by
      unfold commitPendingInterrupt
      rw [hpending]
      exact if_pos hkind
    have hhalt : kind ≠ .guestHalt := by
      rintro rfl
      cases hkind
    have hentered := @take_raised c hnone (c.asyncException kind) hhalt
    have hfirst : (c.raise (c.asyncException kind)).takePendingException.1 = some (c.recorded (c.asyncException kind)) ∧
        (c.raise (c.asyncException kind)).takePendingException.2.pendingException = none := by
      unfold takePendingException
      rw [hpending]
      dsimp only
      rw [if_neg (show (c.recorded (c.asyncException kind)).kind ≠ .guestHalt from hhalt)]
      exact ⟨rfl, rfl⟩
    have hlast : Entered last.1 (c.raise (c.asyncException kind)).takePendingException.2 last.1.pc := by
      rw [hlatch] at hentered ⊢
      exact ⟨hentered.level, hentered.pstate, hentered.spsr, hentered.elr, hentered.spEl, hentered.sp⟩
    rw [hcommit, hfirst.1]
    refine ⟨_, rfl, rfl, (kept_takePendingException _).trans (hkept.trans hsame.1),
      controls_of ((takePendingException_controls _).trans (hcontrols.trans hsame.2)), by rw [hlatch]; rfl, ?_, ?_,
      Or.inr ⟨hkind, hlast, hfirst.2⟩⟩
    · rw [← hlast.level]
      exact hlast.elr
    · rw [← hlast.level]
      exact hlast.spsr

/-- A run that ends with an exception ends at an instruction boundary of the run. -/
theorem exception_precise {m final : GuestCpuState × RamBus} {budget : U64} {result : ArchRunResult} (hsound : m.1.Sound)
    (hidle : m.1.Idle) (hzero : m.1.retired = 0#64)
    (hrun : runLoadedWithBus RamBus.bus budget m = some (result, final)) (hstatus : result.status = .exception) :
    ∃ last e, Visits (body RamBus.bus budget) m last ∧ result.exception = some e ∧ Precisely last final e ∧
      result.retired = last.1.retired ∧ result.retired < budget := by
  obtain ⟨last, hvisits, hlast⟩ := last_turn hrun
  have hboundary := (atBoundary_zero hsound hidle hzero budget).visits hvisits
  have hturn := turnOf RamBus.bus budget last
  rw [show runTurn RamBus.bus budget last = .done result final from Option.some.inj hlast] at hturn
  refine ⟨last, ?_⟩
  generalize hdone : Turn.done result final = turn at hturn
  cases hturn with
  | spent hspent =>
    rw [(Turn.done.inj hdone).1] at hstatus
    cases hstatus
  | @interrupted taken cpu committed hleft hpoll hcommit =>
    obtain ⟨hresult, hfinal⟩ := Turn.done.inj hdone
    obtain ⟨pending, kind, hraise⟩ := pollInterrupt_true (congrArg Prod.fst hpoll)
    rw [hpoll] at hraise
    obtain ⟨e, he, hprecise⟩ := precisely_committed hboundary.idle hraise
    rw [hcommit] at he hprecise
    have hretired : committed.retired = last.1.retired :=
      congrArg (fun kept : _ × (U64 × U64 × U64) × _ => kept.2.1.1) hprecise.kept
    rw [hresult, hfinal]
    exact ⟨e, hvisits, he, hprecise, hretired, lt_of_eq_of_lt hretired hleft⟩
  | @resumed cpu s hleft hpoll hstep => exact absurd hdone (Turn.done_ne_again _ _ _)
  | @stopped cpu s step status hleft hpoll hstep hstop =>
    rw [(Turn.done.inj hdone).1] at hstatus
    rcases hstop with ⟨-, rfl⟩ | ⟨-, rfl⟩ <;> cases hstatus
  | @faulted cpu s kind hleft hpoll hstep =>
    obtain ⟨hresult, hfinal⟩ := Turn.done.inj hdone
    have hprecise := precise_executeOne hboundary.sound.synced RamBus.bus last.2
    rw [hstep] at hprecise
    obtain ⟨hs, c, e, hc, hraise, -, hpc⟩ := hprecise.faults kind rfl
    obtain rfl : cpu = c.raise e := hraise
    obtain rfl : s = last.2 := hs
    obtain ⟨hheld, hprecise⟩ := precisely_raised hboundary.idle hc hpc
    have hretired : (c.raise e).retired = last.1.retired :=
      congrArg (fun kept : _ × (U64 × U64 × U64) × _ => kept.2.1.1) hprecise.kept
    rw [hresult, hfinal]
    refine ⟨c.recorded e, hvisits, ?_, hprecise, hretired, lt_of_eq_of_lt hretired hleft⟩
    change (c.raise e).pendingException.or _ = _
    rw [hheld]
    rfl

theorem exception_precise_undefined :
    ∃ result final, runLoadedWithBus RamBus.bus 1#64 (reset 0#32, ⟨[0#8, 0#8, 0#8, 0#8], 0#64⟩) = some (result, final) ∧
      ∃ last e, Visits (body RamBus.bus 1#64) (reset 0#32, ⟨[0#8, 0#8, 0#8, 0#8], 0#64⟩) last ∧
        result.exception = some e ∧ Precisely last final e ∧ result.retired = last.1.retired ∧ result.retired < 1#64 := by
  have hstatus : (runLoadedWithBus RamBus.bus 1#64 (reset 0#32, ⟨[0#8, 0#8, 0#8, 0#8], 0#64⟩)).map
      (fun out => out.1.status) = some .exception := by decide +kernel
  obtain ⟨⟨result, final⟩, hrun, hresult⟩ := Option.map_eq_some_iff.mp hstatus
  exact ⟨result, final, hrun, exception_precise (sound_reset 0#32) rfl rfl hrun hresult⟩

end Nextcore.Preos.GuestCpuState
