import Nextcore.Preos.Exception
import Nextcore.Preos.Run

/-! What holds whenever the run loop of the reference core starts a turn or returns. -/

namespace Nextcore.Preos.GuestCpuState

open Mmu Loop Relation

variable {cpu next last : GuestCpuState}

section Carries

def held (cpu : GuestCpuState) : Option GuestException × Option ExceptionLevel × Bool :=
  (cpu.pendingException, cpu.exceptionTarget, cpu.exceptionFromLowerEl)

def clock (cpu : GuestCpuState) : U64 × U64 × U64 := (cpu.retired, cpu.timer.counter, cpu.virtualTimer.counter)

def ModeValid (cpu : GuestCpuState) : Prop := modeValid cpu.currentEl (cpu.pstate &&& Pstate.modeMask) = true

structure Carries (cpu next : GuestCpuState) : Prop where
  synced : cpu.Synced → next.Synced
  mode : cpu.ModeValid → next.ModeValid
  held : next.held = cpu.held
  clock : next.clock = cpu.clock

lemma Carries.refl (cpu : GuestCpuState) : cpu.Carries cpu := ⟨id, id, rfl, rfl⟩

lemma Carries.trans (h : cpu.Carries next) (h' : next.Carries last) : cpu.Carries last :=
  ⟨h'.synced ∘ h.synced, h'.mode ∘ h.mode, h'.held.trans h.held, h'.clock.trans h.clock⟩

lemma mode_low (p : U32) : p &&& Pstate.modeMask = mode p &&& Pstate.modeMask := by
  unfold mode
  rw [BitVec.and_assoc]
  rfl

lemma mask_low (word : U32) : (((word >>> 8) &&& 0xf#32) <<< 6) &&& Pstate.modeMask = 0#32 := by
  apply BitVec.eq_of_getLsbD_eq
  intro i hi
  rw [BitVec.getLsbD_and, BitVec.getLsbD_shiftLeft, BitVec.getLsbD_zero]
  by_cases h6 : i < 6
  · simp [h6]
  · have hhigh : (Pstate.modeMask : U32).getLsbD i = false := by
      rw [BitVec.getLsbD, BitVec.toNat_ofNat]
      exact Nat.testBit_lt_two_pow (lt_of_lt_of_le (by decide : 15 % 2 ^ 32 < 2 ^ 4) (Nat.pow_le_pow_right (by decide) (by omega)))
    rw [hhigh, Bool.and_false]

lemma modeValid_daifStep (cpu : GuestCpuState) (word : U32) (h : cpu.ModeValid) : (cpu.daifStep word).ModeValid := by
  have hlow : (cpu.daifStep word).pstate &&& Pstate.modeMask = cpu.pstate &&& Pstate.modeMask := by
    have hmask := mask_low word
    unfold daifStep
    dsimp only
    generalize ((word >>> 8) &&& 0xf#32) <<< 6 = mask at hmask
    split
    · rw [BitVec.and_comm, BitVec.and_or_distrib_left, BitVec.and_comm _ mask, hmask, BitVec.or_zero, BitVec.and_comm]
    · have hclear : ~~~mask &&& Pstate.modeMask = Pstate.modeMask := by
        have hsplit : Pstate.modeMask = (mask &&& Pstate.modeMask) ||| (~~~mask &&& Pstate.modeMask) := by
          ext i hi
          simp only [BitVec.getElem_or, BitVec.getElem_and, BitVec.getElem_not]
          cases mask[i] <;> simp
        rw [hmask, BitVec.zero_or] at hsplit
        exact hsplit.symm
      rw [BitVec.and_assoc, hclear]
  unfold ModeValid
  rw [hlow]
  exact h

lemma modeValid_spselStep (cpu : GuestCpuState) (word : U32) (hel : cpu.currentEl ≠ .el0) (h : cpu.ModeValid) :
    (cpu.spselStep word).ModeValid := by
  have hlow : (cpu.spselStep word).pstate &&& Pstate.modeMask =
      if bitSet word 8 then (cpu.pstate &&& Pstate.modeMask) ||| 1#32 else (cpu.pstate &&& Pstate.modeMask) &&& ~~~1#32 := by
    unfold spselStep
    dsimp only
    split
    · rw [BitVec.and_comm, BitVec.and_or_distrib_left, BitVec.and_comm _ (saveSp cpu).pstate]
      rfl
    · rw [BitVec.and_assoc, BitVec.and_assoc, BitVec.and_comm (~~~1#32)]
      rfl
  have hlevel : (cpu.spselStep word).currentEl = cpu.currentEl := rfl
  unfold ModeValid at h ⊢
  rw [hlow, hlevel]
  generalize cpu.pstate &&& Pstate.modeMask = low at h
  revert h hel
  cases cpu.currentEl with
  | el0 => exact fun hel => absurd rfl hel
  | el1 =>
    intro _ h
    rcases of_decide_eq_true h with rfl | rfl <;> cases bitSet word 8 <;> decide
  | el2 =>
    intro _ h
    rcases of_decide_eq_true h with rfl | rfl <;> cases bitSet word 8 <;> decide
  | el3 =>
    intro _ h
    rcases of_decide_eq_true h with rfl | rfl <;> cases bitSet word 8 <;> decide

lemma modeValid_level {pstate : U32} {el : ExceptionLevel} (h : levelForMode pstate = some el) :
    modeValid el (pstate &&& Pstate.modeMask) = true := by
  unfold levelForMode at h
  dsimp only at h
  split at h
  next hzero =>
    cases h
    exact decide_eq_true hzero
  split at h
  next hone =>
    cases h
    exact decide_eq_true hone
  split at h
  next htwo =>
    cases h
    exact decide_eq_true htwo
  split at h
  next hthree =>
    cases h
    exact decide_eq_true hthree
  · cases h

def Wrote (cpu next : GuestCpuState) : Prop :=
  ∃ sys mmu ctl cval vctl vcval platform, next =
    { cpu with
      sys := sys, mmu := mmu, timer := { cpu.timer with ctl := ctl, cval := cval }
      virtualTimer := { cpu.virtualTimer with ctl := vctl, cval := vcval }, platform := platform }

lemma Wrote.refl (cpu : GuestCpuState) : cpu.Wrote cpu := ⟨_, _, _, _, _, _, _, rfl⟩

lemma Wrote.trans (h : cpu.Wrote next) (h' : next.Wrote last) : cpu.Wrote last := by
  obtain ⟨_, _, _, _, _, _, _, rfl⟩ := h
  obtain ⟨_, _, _, _, _, _, _, rfl⟩ := h'
  exact ⟨_, _, _, _, _, _, _, rfl⟩

lemma wrote_sys (cpu : GuestCpuState) (sys : SystemRegisters) : cpu.Wrote { cpu with sys := sys } :=
  ⟨_, _, _, _, _, _, _, rfl⟩

lemma wrote_syncMmu (cpu : GuestCpuState) : cpu.Wrote cpu.syncMmu.2 := by
  unfold syncMmu
  split
  · exact .refl cpu
  split
  · exact ⟨_, _, _, _, _, _, _, rfl⟩
  · exact ⟨_, _, _, _, _, _, _, rfl⟩

lemma wrote_installControl {next : GuestCpuState} {restore : GuestCpuState → GuestCpuState} (hnext : cpu.Wrote next)
    (hrestore : ∀ c : GuestCpuState, c.Wrote (restore c)) : cpu.Wrote (installControl next restore).2 := by
  have hsynced := hnext.trans (wrote_syncMmu next)
  unfold installControl
  dsimp only
  split
  · exact hsynced
  · exact (hsynced.trans (hrestore _)).trans (wrote_syncMmu _)

lemma wrote_storeSysreg (cpu : GuestCpuState) (reg : SystemRegister) (value : U64) :
    cpu.Wrote (cpu.storeSysreg reg value).2 := by
  have hinstall (sys : SystemRegisters) (restore : SystemRegisters → SystemRegisters) :
      cpu.Wrote (installControl { cpu with sys := sys } fun next => { next with sys := restore next.sys }).2 :=
    wrote_installControl (wrote_sys cpu sys) fun c => wrote_sys c _
  have hguarded (p q : Prop) [Decidable p] [Decidable q] (sys : SystemRegisters) (restore : SystemRegisters → SystemRegisters) :
      cpu.Wrote (if p then ((.error .invalidValue, cpu) : Except SysRegFault Unit × GuestCpuState)
      else if q then installControl { cpu with sys := sys } fun next => { next with sys := restore next.sys }
      else (.ok (), { cpu with sys := sys })).2 := by
    split
    · exact .refl cpu
    split
    · exact hinstall sys restore
    · exact wrote_sys cpu sys
  cases reg with
  | sctlrEl1 => exact hinstall _ fun sys => { sys with sctlrEl1 := cpu.sys.sctlrEl1 }
  | ttbr0El1 => exact hguarded _ _ _ fun sys => { sys with ttbr0El1 := cpu.sys.ttbr0El1 }
  | ttbr1El1 => exact hguarded _ _ _ fun sys => { sys with ttbr1El1 := cpu.sys.ttbr1El1 }
  | tcrEl1 => exact hguarded _ _ _ fun sys => { sys with tcrEl1 := cpu.sys.tcrEl1 }
  | cntpCtlEl0 =>
    unfold storeSysreg
    dsimp only
    split <;> exact ⟨_, _, _, _, _, _, _, rfl⟩
  | cntvCtlEl0 =>
    unfold storeSysreg
    dsimp only
    split <;> exact ⟨_, _, _, _, _, _, _, rfl⟩
  | cntpCvalEl0 => exact ⟨_, _, _, _, _, _, _, rfl⟩
  | cntvCvalEl0 => exact ⟨_, _, _, _, _, _, _, rfl⟩
  | cntpTvalEl0 => exact ⟨_, _, _, _, _, _, _, rfl⟩
  | _ => first | exact .refl cpu | exact wrote_sys cpu _

lemma wrote_writeSysreg (cpu : GuestCpuState) (reg : SystemRegister) (value : U64) :
    cpu.Wrote (cpu.writeSysreg reg value).2 := by
  unfold writeSysreg
  split
  · split
    · exact .refl cpu
    split
    · exact ⟨_, _, _, _, _, _, _, rfl⟩
    · exact .refl cpu
  split
  · exact .refl cpu
  split
  · exact .refl cpu
  · exact wrote_storeSysreg cpu reg value

lemma Move.carries (h : Move cpu next) : cpu.Carries next := by
  cases h with
  | registers h hmode =>
    obtain ⟨_, _, _, _, rfl⟩ := h
    refine ⟨fun h => h.of_controls rfl, fun h => ?_, rfl, rfl⟩
    unfold ModeValid at h ⊢
    rw [mode_low, hmode, ← mode_low]
    exact h
  | masks word hel => exact ⟨fun h => h.of_controls rfl, modeValid_daifStep cpu word, rfl, rfl⟩
  | stack word hel => exact ⟨fun h => h.of_controls rfl, modeValid_spselStep cpu word hel, rfl, rfl⟩
  | tlb mmu h => exact ⟨fun hsynced => hsynced.of_tlb h, id, rfl, rfl⟩
  | monitor monitor => exact ⟨fun h => h.of_controls rfl, id, rfl, rfl⟩
  | keys keys hel => exact ⟨fun h => h.of_controls rfl, id, rfl, rfl⟩
  | waits hel => exact ⟨fun h => h.of_controls rfl, id, rfl, rfl⟩
  | write reg value h =>
    obtain ⟨_, _, _, _, _, _, _, hnext⟩ := wrote_writeSysreg cpu reg value
    refine ⟨fun h => (writeSysreg_settles h reg value).1, ?_, ?_, ?_⟩
    · rw [hnext]
      exact id
    · rw [hnext]
      rfl
    · rw [hnext]
      rfl
  | returns h =>
    refine ⟨fun hsynced => hsynced.of_controls (eret_controls h), fun _ => ?_, ?_, ?_⟩
    all_goals
      unfold eret at h
      split at h
      · cases h
      dsimp only at h
      split at h
      · cases h
      next level hlevel =>
        cases h
        first | exact modeValid_level hlevel | rfl

lemma Moves.carries (h : Moves cpu next) : cpu.Carries next := by
  induction h with
  | refl => exact .refl cpu
  | tail _ hmove ih => exact ih.trans hmove.carries

end Carries

section Sound

/-- What the runs keep of the CPU: the MMU is the one the control registers describe, the level is the mode's and the
held exception has a target, and ISTATUS of either timer is its condition. -/
structure Sound (cpu : GuestCpuState) : Prop where
  synced : cpu.Synced
  valid : cpu.stateValid = true
  timer : cpu.timer.settled = cpu.timer
  virtualTimer : cpu.virtualTimer.settled = cpu.virtualTimer

def Idle (cpu : GuestCpuState) : Prop := cpu.held = (none, none, false)

lemma stateValid_idle (h : cpu.Idle) : cpu.stateValid = true ↔ cpu.ModeValid := by
  obtain ⟨hpending, htarget, hlower⟩ : cpu.pendingException = none ∧ cpu.exceptionTarget = none ∧
      cpu.exceptionFromLowerEl = false := by
    simpa only [Idle, held, Prod.mk.injEq] using h
  unfold stateValid ModeValid
  rw [hpending, htarget, hlower]
  simp only [Option.isNone_none, Bool.not_false, Bool.true_or, Bool.and_true]

lemma settled_bit (t : GenericTimer) {k : U64} (hk : k = 1#64 ∨ k = 2#64) : t.settled.ctl &&& k = t.ctl &&& k := by
  unfold GenericTimer.settled
  dsimp only
  split
  · rw [BitVec.and_comm, BitVec.and_or_distrib_left, BitVec.and_comm k]
    rcases hk with rfl | rfl
    · exact BitVec.or_zero
    · exact BitVec.or_zero
  · rw [BitVec.and_assoc]
    rcases hk with rfl | rfl <;> rfl

lemma settled_settled (t : GenericTimer) : t.settled.settled = t.settled := by
  have hpending : t.settled.pending = t.pending := by
    unfold GenericTimer.pending
    rw [settled_bit t (Or.inl rfl), settled_bit t (Or.inr rfl)]
    rfl
  have hctl : t.settled.settled.ctl = t.settled.ctl := by
    change (if t.settled.pending then t.settled.ctl ||| 4#64 else t.settled.ctl &&& ~~~4#64) = t.settled.ctl
    rw [hpending]
    unfold GenericTimer.settled
    dsimp only
    split
    · rw [BitVec.or_assoc, BitVec.or_self]
    · rw [BitVec.and_assoc, BitVec.and_self]
  change { t.settled with ctl := t.settled.settled.ctl } = t.settled
  rw [hctl]

lemma sound_retire (hsynced : cpu.Synced) (hmode : cpu.ModeValid) (hidle : cpu.Idle) (s : RamBus) :
    (cpu.retire RamBus.bus s).1.Sound ∧ (cpu.retire RamBus.bus s).1.Idle ∧
      (cpu.retire RamBus.bus s).1.clock = (saturatingAdd cpu.retired 1#64, saturatingAdd cpu.timer.counter 1#64,
        saturatingAdd cpu.virtualTimer.counter 1#64) := by
  have hidle' : (cpu.retire RamBus.bus s).1.Idle := hidle
  exact ⟨⟨hsynced.of_controls rfl, (stateValid_idle hidle').mpr hmode, settled_settled _, settled_settled _⟩, hidle', rfl⟩

def recorded (cpu : GuestCpuState) (e : GuestException) : GuestException :=
  { e with syndrome := exceptionSyndrome e.kind cpu.currentEl e.syndrome }

lemma raise_record (hnone : cpu.pendingException = none) (e : GuestException) : ∃ sys, cpu.raise e =
    { cpu with
      sys := sys, exceptionTarget := some cpu.targetEl, exceptionFromLowerEl := cpu.currentEl ≠ cpu.targetEl
      pendingException := some (cpu.recorded e) } ∧
    sys.elr cpu.targetEl = e.pc ∧ sys.spsr cpu.targetEl = cpu.pstate.zeroExtend 64 ∧
    (∀ el, el ≠ cpu.targetEl → sys.elr el = cpu.sys.elr el ∧ sys.spsr el = cpu.sys.spsr el) := by
  unfold raise writeExceptionBank
  simp only [hnone, Option.isSome_none, Bool.false_eq_true, if_false, cpu.targetEl_ne]
  exact ⟨_, rfl, Function.update_self _ _ _, Function.update_self _ _ _,
    fun el hel => ⟨Function.update_of_ne hel _ _, Function.update_of_ne hel _ _⟩⟩

lemma stateValid_raise (hmode : cpu.ModeValid) (hidle : cpu.Idle) (e : GuestException) : (cpu.raise e).stateValid = true := by
  obtain ⟨sys, hraise, -⟩ := raise_record (congrArg Prod.fst hidle) e
  rw [hraise]
  unfold ModeValid at hmode
  unfold stateValid
  dsimp only
  rw [hmode]
  unfold targetEl
  cases cpu.currentEl <;> rfl

lemma raise_timers (cpu : GuestCpuState) (e : GuestException) :
    (cpu.raise e).timer = cpu.timer ∧ (cpu.raise e).virtualTimer = cpu.virtualTimer := by
  unfold raise writeExceptionBank
  split
  · exact ⟨rfl, rfl⟩
  · dsimp only
    split <;> exact ⟨rfl, rfl⟩

lemma Sound.modeValid (h : cpu.Sound) : cpu.ModeValid := modeValid_of_stateValid h.valid

lemma sound_raise (h : cpu.Sound) (hidle : cpu.Idle) (e : GuestException) : (cpu.raise e).Sound := by
  obtain ⟨htimer, hvirtual⟩ := raise_timers cpu e
  refine ⟨h.synced.of_controls (raise_controls cpu e), stateValid_raise h.modeValid hidle e, ?_, ?_⟩
  · rw [htimer]
    exact h.timer
  · rw [hvirtual]
    exact h.virtualTimer

lemma Sound.sameButTlb (h : cpu.Sound) (htlb : cpu.SameButTlb next) : next.Sound := by
  have hsynced := h.synced.sameButTlb htlb
  obtain ⟨_, _, rfl⟩ := htlb
  exact ⟨hsynced, h.valid, h.timer, h.virtualTimer⟩

lemma Idle.sameButTlb (h : cpu.Idle) (htlb : cpu.SameButTlb next) : next.Idle := by
  obtain ⟨_, _, rfl⟩ := htlb
  exact h

lemma sound_takePendingException (h : cpu.Sound) : cpu.takePendingException.2.Sound := by
  have hcontrols := takePendingException_controls cpu
  unfold takePendingException at hcontrols ⊢
  split
  · exact h
  next e hpending =>
  rw [hpending] at hcontrols
  dsimp only at hcontrols
  split
  · exact h
  next hkind =>
  rw [if_neg hkind] at hcontrols
  have hmode (target : ExceptionLevel) (p : U32) :
      modeValid target (((p &&& ~~~Pstate.modeMask) ||| modeForEl target ||| Pstate.d ||| Pstate.a ||| Pstate.i ||| Pstate.f) &&&
        Pstate.modeMask) = true := by
    have hlow : ((p &&& ~~~Pstate.modeMask) ||| modeForEl target ||| Pstate.d ||| Pstate.a ||| Pstate.i ||| Pstate.f) &&&
        Pstate.modeMask = modeForEl target := by
      rw [BitVec.or_assoc, BitVec.or_assoc, BitVec.or_assoc, BitVec.or_assoc, BitVec.and_comm, BitVec.and_or_distrib_left,
        BitVec.and_comm _ (p &&& _), BitVec.and_assoc, show ~~~Pstate.modeMask &&& Pstate.modeMask = 0#32 by decide,
        BitVec.and_zero, BitVec.zero_or]
      cases target <;> decide
    rw [hlow]
    cases target <;> decide
  have hbank (target : ExceptionLevel) : (cpu.saveSp.writeExceptionBank target cpu.pstate e).timer = cpu.timer ∧
      (cpu.saveSp.writeExceptionBank target cpu.pstate e).virtualTimer = cpu.virtualTimer := by
    unfold writeExceptionBank
    split <;> exact ⟨rfl, rfl⟩
  dsimp only
  refine ⟨h.synced.of_controls hcontrols, (stateValid_idle ?_).mpr (hmode _ _), ?_, ?_⟩
  · rfl
  · change (cpu.saveSp.writeExceptionBank _ cpu.pstate e).timer.settled = (cpu.saveSp.writeExceptionBank _ cpu.pstate e).timer
    rw [(hbank _).1]
    exact h.timer
  · change (cpu.saveSp.writeExceptionBank _ cpu.pstate e).virtualTimer.settled =
      (cpu.saveSp.writeExceptionBank _ cpu.pstate e).virtualTimer
    rw [(hbank _).2]
    exact h.virtualTimer

lemma pollInterrupt_true (h : cpu.pollInterrupt.1 = true) : ∃ pending kind, cpu.pollInterrupt.2 =
    ({ cpu with smp := { cpu.smp with externalPending := pending } } : GuestCpuState).raise (cpu.asyncException kind) := by
  unfold pollInterrupt at h ⊢
  dsimp only at h ⊢
  split
  next hidle =>
    rw [if_pos hidle] at h
    cases h
  next hidle =>
  rw [if_neg hidle] at h
  split
  · exact ⟨_, _, rfl⟩
  next htrap =>
  rw [if_neg htrap] at h
  split
  · exact ⟨_, _, rfl⟩
  next hfiq =>
  rw [if_neg hfiq] at h
  split
  next hmasked =>
    rw [if_pos hmasked] at h
    cases h
  next hmasked =>
  rw [if_neg hmasked] at h
  split
  · exact ⟨_, _, rfl⟩
  next htimer =>
  rw [if_neg htimer] at h
  split
  · exact ⟨_, _, rfl⟩
  next hirq =>
    rw [if_neg hirq] at h
    cases h

lemma sound_commitPendingInterrupt (h : cpu.Sound) : cpu.commitPendingInterrupt.2.Sound := by
  unfold commitPendingInterrupt
  split
  · exact h
  split
  · exact sound_takePendingException h
  · exact h

end Sound

section Runs

variable {budget : U64} {m m' final : GuestCpuState × RamBus} {result : ArchRunResult}

lemma toNat_saturatingAdd (a b : U64) : (saturatingAdd a b).toNat = min (a.toNat + b.toNat) (2 ^ 64 - 1) := by
  unfold saturatingAdd
  split
  next h =>
    have hle : 2 ^ 64 ≤ a.toNat + b.toNat := of_decide_eq_true h
    rw [BitVec.toNat_allOnes]
    omega
  next h =>
    have hlt : ¬2 ^ 64 ≤ a.toNat + b.toNat := fun hle => h (decide_eq_true hle)
    rw [BitVec.toNat_add, Nat.mod_eq_of_lt (by omega)]
    omega

def Counts (start counter retired : U64) : Prop := counter.toNat = min (start.toNat + retired.toNat) (2 ^ 64 - 1)

lemma Counts.tick {start counter retired : U64} (h : Counts start counter retired) (hleft : retired < budget) :
    Counts start (saturatingAdd counter 1#64) (saturatingAdd retired 1#64) := by
  have hbudget := budget.isLt
  rw [BitVec.lt_def] at hleft
  unfold Counts at h ⊢
  rw [toNat_saturatingAdd, toNat_saturatingAdd, h, show (1#64 : U64).toNat = 1 from rfl]
  omega

structure AtBoundary (budget physical virtual : U64) (cpu : GuestCpuState) : Prop where
  sound : cpu.Sound
  idle : cpu.Idle
  left : cpu.retired ≤ budget
  physical : Counts physical cpu.timer.counter cpu.retired
  virtual : Counts virtual cpu.virtualTimer.counter cpu.retired

variable {physical virtual : U64}

lemma AtBoundary.retire (h : AtBoundary budget physical virtual m.1) (hleft : m.1.retired < budget) {step : StepResult}
    {cpu : GuestCpuState} {s : RamBus} (hexecute : m.1.executeOne RamBus.bus m.2 = (step, cpu, s))
    (hstep : ∀ kind, step ≠ .exception kind) : AtBoundary budget physical virtual (cpu.retire RamBus.bus s).1 := by
  have hprecise := precise_executeOne h.sound.synced RamBus.bus m.2
  rw [hexecute] at hprecise
  have hcarries := (hprecise.moves hstep).carries
  obtain ⟨hsound, hidle, hclock⟩ := sound_retire (hcarries.synced h.sound.synced) (hcarries.mode h.sound.modeValid)
    (hcarries.held.trans h.idle) s
  have hcarried : (cpu.retired, cpu.timer.counter, cpu.virtualTimer.counter) =
      (m.1.retired, m.1.timer.counter, m.1.virtualTimer.counter) := hcarries.clock
  simp only [Prod.mk.injEq] at hcarried
  simp only [clock, Prod.mk.injEq] at hclock
  obtain ⟨hretired, hphysical, hvirtual⟩ := hcarried
  rw [hretired, hphysical, hvirtual] at hclock
  refine ⟨hsound, hidle, ?_, ?_, ?_⟩
  · have hbudget := budget.isLt
    rw [hclock.1, BitVec.le_def, toNat_saturatingAdd]
    rw [BitVec.lt_def] at hleft
    exact (min_le_left _ _).trans hleft
  · rw [hclock.1, hclock.2.1]
    exact h.physical.tick hleft
  · rw [hclock.1, hclock.2.2]
    exact h.virtual.tick hleft

lemma AtBoundary.turn (h : AtBoundary budget physical virtual m.1) :
    (∀ m', runTurn RamBus.bus budget m = .again m' → AtBoundary budget physical virtual m'.1 ∧
      budget.toNat - m'.1.retired.toNat < budget.toNat - m.1.retired.toNat) ∧
    ∀ result final, runTurn RamBus.bus budget m = .done result final → final.1.Sound := by
  have hturn := turnOf RamBus.bus budget m
  generalize runTurn RamBus.bus budget m = turn at hturn
  cases hturn with
  | spent hspent =>
    refine ⟨fun _ heq => absurd heq (Turn.done_ne_again _ _ _), fun result final heq => ?_⟩
    rw [← (Turn.done.inj heq).2]
    exact h.sound
  | @interrupted taken cpu committed hleft hpoll hcommit =>
    refine ⟨fun _ heq => absurd heq (Turn.done_ne_again _ _ _), fun result final heq => ?_⟩
    rw [← (Turn.done.inj heq).2]
    obtain ⟨pending, kind, hraise⟩ := pollInterrupt_true (congrArg Prod.fst hpoll)
    rw [hpoll] at hraise
    have hlatch : ({ m.1 with smp := { m.1.smp with externalPending := pending } } : GuestCpuState).Sound :=
      ⟨h.sound.synced.of_controls rfl, h.sound.valid, h.sound.timer, h.sound.virtualTimer⟩
    have hsound : cpu.Sound := by
      rw [show cpu = _ from hraise]
      exact sound_raise hlatch h.idle _
    have hcommitted := sound_commitPendingInterrupt hsound
    rw [hcommit] at hcommitted
    exact hcommitted
  | @resumed cpu s hleft hpoll hstep =>
    refine ⟨fun m' heq => ?_, fun _ _ heq => absurd heq.symm (Turn.done_ne_again _ _ _)⟩
    rw [← Turn.again.inj heq]
    have hretire := h.retire hleft hstep nofun
    refine ⟨hretire, ?_⟩
    have hprecise := precise_executeOne h.sound.synced RamBus.bus m.2
    rw [hstep] at hprecise
    have hretired : cpu.retired = m.1.retired := congrArg Prod.fst (hprecise.moves nofun).carries.clock
    have hbudget := budget.isLt
    have hnext : (cpu.retire RamBus.bus s).1.retired = saturatingAdd m.1.retired 1#64 := by
      rw [← hretired]
      rfl
    rw [BitVec.lt_def] at hleft
    rw [hnext, toNat_saturatingAdd, show (1#64 : U64).toNat = 1 from rfl]
    omega
  | @stopped cpu s step status hleft hpoll hstep hstatus =>
    refine ⟨fun _ heq => absurd heq (Turn.done_ne_again _ _ _), fun result final heq => ?_⟩
    rw [← (Turn.done.inj heq).2]
    refine (h.retire hleft hstep ?_).sound
    rcases hstatus with ⟨rfl, -⟩ | ⟨rfl, -⟩ <;> exact nofun
  | @faulted cpu s kind hleft hpoll hstep =>
    refine ⟨fun _ heq => absurd heq (Turn.done_ne_again _ _ _), fun result final heq => ?_⟩
    rw [← (Turn.done.inj heq).2]
    have hprecise := precise_executeOne h.sound.synced RamBus.bus m.2
    rw [hstep] at hprecise
    obtain ⟨-, c, e, hc, hraise, -, -⟩ := hprecise.faults kind rfl
    change cpu.Sound
    rw [show cpu = c.raise e from hraise]
    exact sound_raise (h.sound.sameButTlb hc) (h.idle.sameButTlb hc) e

lemma AtBoundary.visits (h : AtBoundary budget physical virtual m.1) (hvisits : Visits (body RamBus.bus budget) m m') :
    AtBoundary budget physical virtual m'.1 := by
  induction hvisits with
  | refl => exact h
  | tail _ hturn ih => exact (ih.turn.1 _ (Option.some.inj hturn)).1

lemma AtBoundary.returns (h : AtBoundary budget physical virtual m.1) :
    ∃ result final, runLoadedWithBus RamBus.bus budget m = some (result, final) ∧ final.1.Sound := by
  refine @iterate_ends_in (GuestCpuState × RamBus) _ _ _ (fun m => AtBoundary budget physical virtual m.1)
    (fun _ final => final.1.Sound) (fun m => budget.toNat - m.1.retired.toNat) (fun m hm => ?_) _ ?_ h
  · exact ⟨_, rfl, hm.turn.1, hm.turn.2⟩
  · exact Nat.lt_succ_of_le (Nat.sub_le _ _)

lemma atBoundary_zero (h : cpu.Sound) (hidle : cpu.Idle) (hzero : cpu.retired = 0#64) (budget : U64) :
    AtBoundary budget cpu.timer.counter cpu.virtualTimer.counter cpu := by
  have hcounts (start : U64) : Counts start start cpu.retired := by
    have hstart := start.isLt
    unfold Counts
    rw [hzero, show (0#64 : U64).toNat = 0 from rfl]
    omega
  refine ⟨h, hidle, ?_, hcounts _, hcounts _⟩
  rw [hzero]
  exact Nat.zero_le _

lemma atBoundary_started (h : cpu.Sound) (budget : U64) :
    AtBoundary budget cpu.timer.counter cpu.virtualTimer.counter cpu.started := by
  have hidle : cpu.started.Idle := rfl
  have hsound : cpu.started.Sound :=
    ⟨h.synced.of_controls rfl, (stateValid_idle hidle).mpr h.modeValid, h.timer, h.virtualTimer⟩
  exact atBoundary_zero hsound hidle rfl budget

lemma settled_reset : GenericTimer.reset.settled = .reset := by decide

lemma sound_reset (affinity : U32) : (reset affinity).Sound := by
  have hidle : (reset affinity).Idle := rfl
  have hmode : (reset affinity).ModeValid := by
    change modeValid .el1 (5#32 &&& Pstate.modeMask) = true
    decide
  exact ⟨synced_of_reset rfl, (stateValid_idle hidle).mpr hmode, settled_reset, settled_reset⟩

lemma atBoundary_booted (affinity : U32) (entry args stack budget : U64) :
    AtBoundary budget 0#64 0#64 (booted affinity entry args stack) := by
  have hmode : (booted affinity entry args stack).ModeValid := by
    change modeValid .el1 ((5#32 ||| Pstate.d ||| Pstate.a ||| Pstate.i ||| Pstate.f) &&& Pstate.modeMask) = true
    decide
  have hidle : (booted affinity entry args stack).Idle := rfl
  exact ⟨⟨synced_of_reset rfl, (stateValid_idle hidle).mpr hmode, settled_reset, settled_reset⟩, hidle, Nat.zero_le _, rfl, rfl⟩

inductive Call
  | run (code : List Byte) (budget : U64)
  | boot (entry args stack budget : U64)
  | take

def call (m : GuestCpuState × RamBus) : Call → Option (GuestCpuState × RamBus)
  | .run code budget => (runBoundedWithBus RamBus.bus RamBus.loadCode code budget m).map Prod.snd
  | .boot entry args stack budget =>
    (runBootBounded m.1 m.2.ram m.2.base entry args stack budget).map Prod.snd
  | .take => some (m.1.takePendingException.2, m.2)

lemma sound_call (h : m.1.Sound) (c : Call) : ∃ m', call m c = some m' ∧ m'.1.Sound := by
  cases c with
  | run code budget =>
    unfold call runBoundedWithBus
    dsimp only
    split
    · exact ⟨m, rfl, h⟩
    split
    · exact ⟨m, rfl, h⟩
    next s hload =>
      obtain ⟨result, final, hrun, hsound⟩ := AtBoundary.returns (m := (m.1.started, s)) (atBoundary_started h budget)
      rw [hrun]
      exact ⟨final, rfl, hsound⟩
  | boot entry args stack budget =>
    unfold call runBootBounded
    dsimp only
    split
    · exact ⟨m, rfl, h⟩
    · obtain ⟨result, final, hrun, hsound⟩ := AtBoundary.returns
        (m := (booted m.1.affinity entry args stack, ⟨m.2.ram, m.2.base⟩)) (atBoundary_booted _ entry args stack budget)
      rw [hrun]
      exact ⟨final, rfl, hsound⟩
  | take => exact ⟨_, rfl, sound_takePendingException h⟩

lemma sound_session (h : m.1.Sound) (calls : List Call) : ∃ m', calls.foldlM call m = some m' ∧ m'.1.Sound := by
  induction calls generalizing m with
  | nil => exact ⟨m, rfl, h⟩
  | cons c calls ih =>
    obtain ⟨m₁, hcall, hsound⟩ := sound_call h c
    obtain ⟨m', hsession, hsound'⟩ := ih hsound
    refine ⟨m', ?_, hsound'⟩
    rw [List.foldlM_cons, hcall]
    exact hsession

/-- Over every sequence of runs, boots and handler entries from a reset, each call returns and leaves the CPU sound; and
within a run or the run of a boot the CPU is sound and holds no exception at every instruction boundary, where the retired
count is within the budget and both counters have gone on by it. -/
theorem session_sound (affinity : U32) (ram : List Byte) (base : U64) (calls : List Call) :
    ∃ m, calls.foldlM call (reset affinity, ⟨ram, base⟩) = some m ∧ m.1.Sound ∧
      (∀ code budget s, m.2.loadCode code = some s → ∀ m', Visits (body RamBus.bus budget) (m.1.started, s) m' →
        AtBoundary budget m.1.timer.counter m.1.virtualTimer.counter m'.1) ∧
      ∀ entry args stack budget m',
        Visits (body RamBus.bus budget) (booted m.1.affinity entry args stack, ⟨m.2.ram, m.2.base⟩) m' →
        AtBoundary budget 0#64 0#64 m'.1 := by
  obtain ⟨m, hsession, hsound⟩ := sound_session (m := (reset affinity, ⟨ram, base⟩)) (sound_reset affinity) calls
  refine ⟨m, hsession, hsound, ?_, ?_⟩
  · intro code budget s _ m' hvisits
    exact AtBoundary.visits (m := (m.1.started, s)) (atBoundary_started hsound budget) hvisits
  · intro entry args stack budget m' hvisits
    exact AtBoundary.visits (m := (booted m.1.affinity entry args stack, ⟨m.2.ram, m.2.base⟩))
      (atBoundary_booted _ entry args stack budget) hvisits

end Runs

end Nextcore.Preos.GuestCpuState
