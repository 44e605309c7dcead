import Nextcore.Jit.Turns

/-! A run of the translator and a run of the reference core over one program, turn by turn. -/

namespace Nextcore.Jit

open Cpu Emit X86 Loop Preos

def ramImage (size : ℕ) : Image where
  bytes ram := ram.takeD size 0#8
  size := size
  length_bytes _ := List.takeD_length ..

lemma ramImage_bytes {size : ℕ} {ram : List Byte} (h : ram.length = size) : (ramImage size).bytes ram = ram := by
  change ram.takeD size 0#8 = ram
  rw [List.takeD_eq_take _ h.ge, ← h, List.take_length]

inductive Concludes (exact : Bool) (base : U64) :
    U32 → VfCpu → List Byte → ArchRunResult → GuestCpuState × RamBus → Prop
  | budget {c : VfCpu} {ram : List Byte} {r : GuestCpuState} (h : Linked Matches exact base c r) :
      Concludes exact base Status.budget c ram (r.result .budget none) (r, ⟨ram, base⟩)
  | halt {c : VfCpu} {ram : List Byte} {r : GuestCpuState} (h : Linked Matches exact base c r) :
      Concludes exact base Status.halt c ram (r.result .halt none) (r, ⟨ram, base⟩)
  | interrupt {c : VfCpu} {ram : List Byte} {r : GuestCpuState} {e : GuestException}
      (hkind : e.kind = .fiqInterrupt ∨ e.kind = .timerInterrupt ∨ e.kind = .externalInterrupt) (h : SameEntry c r)
      (hretired : c.retired = r.retired) :
      Concludes exact base e.kind.polled.1 c ram (r.result .exception (some e)) (r, ⟨ram, base⟩)
  | trap {c : VfCpu} {ram : List Byte} {r : GuestCpuState} {e : GuestException} (hkind : e.kind = .systemRegisterTrap)
      (h : SameTrap c r) (hretired : c.retired = r.retired) :
      Concludes exact base Status.systemRegisterTrap c ram (r.result .exception (some e)) (r, ⟨ram, base⟩)
  | fault {c : VfCpu} {ram : List Byte} {r : GuestCpuState} {e : GuestException} {status : U32}
      (hstatus : Stops r.pc e.kind status) (halike : Alike c r) (hpc : c.pc = r.pc) (hretired : c.retired = r.retired) :
      Concludes exact base status c ram (r.result .exception (some e)) (r, ⟨ram, base⟩)

section Poll

variable {exact : Bool} {base : U64} {c : VfCpu} {r : GuestCpuState} {ram : List Byte}

lemma coherent_of_settled {t : GenericTimer} (h : t.settled = t) : VfCpu.TimerCoherent t.ctl t.counter t.cval := by
  have hctl : t.ctl = if t.pending then t.ctl ||| 4#64 else t.ctl &&& ~~~4#64 := (congrArg GenericTimer.ctl h).symm
  have hbit : t.ctl &&& 4#64 ≠ 0#64 ↔ t.pending = true := by
    rw [hctl]
    split
    next hpending =>
      refine iff_of_true ?_ hpending
      rw [BitVec.and_or_distrib_right, BitVec.and_self, ne_eq, BitVec.or_eq_zero_iff]
      exact fun h => absurd h.2 (by decide)
    next hpending =>
      rw [BitVec.and_assoc]
      exact iff_of_false (not_not.mpr BitVec.and_zero) hpending
  rw [VfCpu.TimerCoherent, hbit]
  exact decide_eq_true_iff

lemma Linked.coherent (h : Linked Matches exact base c r) (hsound : r.Sound) : c.TimersCoherent := by
  obtain ⟨banks, hidden, -, hmatch⟩ := h.matched
  have hphysical := coherent_of_settled hsound.timer
  have hvirtual := coherent_of_settled hsound.virtualTimer
  rw [← hmatch.status, ← hmatch.counter, ← hmatch.cval] at hphysical
  rw [← hmatch.virtualStatus, ← hmatch.virtualCounter, ← hmatch.virtualCval] at hvirtual
  refine ⟨hphysical, hvirtual, ?_⟩
  have htval : c.cntpTval = saturatingSub c.cntpCval c.cntpct := by
    rw [show c.cntpCval = r.timer.cval from hmatch.cval, show c.cntpct = r.timer.counter from hmatch.counter]
    exact hmatch.tval
  rw [htval, saturatingSub]
  split
  next hle => exact BitVec.toNat_sub_of_le hle
  next hlt => exact (Nat.sub_eq_zero_of_le (BitVec.le_of_lt (BitVec.not_le.mp hlt))).symm

lemma Silent.delivery (h : Silent r) : r.lines.delivery = .nothing := by
  have hpending {t : GenericTimer} (ht : t.ctl &&& 1#64 = 0#64) : t.pending = false :=
    decide_eq_false fun hp => hp.1 ht
  have htimer := hpending h.timer
  have hvirtual := hpending h.virtualTimer
  unfold Lines.delivery Lines.pick GuestCpuState.lines
  simp only [h.irq, h.fiq, htimer, hvirtual, Bool.or_self, Bool.false_and, Bool.and_false, Bool.false_eq_true, if_false,
    Option.map_none, Option.getD_none]

lemma commitPendingInterrupt_retired (r : GuestCpuState) : r.commitPendingInterrupt.2.retired = r.retired := by
  unfold GuestCpuState.commitPendingInterrupt GuestCpuState.takePendingException
  cases r.pendingException with
  | none => rfl
  | some e =>
    dsimp only
    split
    · split
      · rfl
      · unfold GuestCpuState.writeExceptionBank
        dsimp only
        split <;> rfl
    · rfl

lemma recordAt_veiled (hle : c.currentEl ≤ 3#32) (hidden : U64 × U64 × U64 × U64) (kind : U32) :
    recordAt (veiled c c.spEl hidden) kind = veiled (recordAt c kind) (recordAt c kind).spEl hidden := by
  have hle' : (veiled c c.spEl hidden).currentEl ≤ 3#32 := hle
  unfold recordAt VfCpu.recordException
  rw [VfCpu.saveActiveSp_of_le hle, VfCpu.saveActiveSp_of_le hle']
  rfl

lemma recordAt_retired (hle : c.currentEl ≤ 3#32) (kind : U32) : (recordAt c kind).retired = c.retired := by
  unfold recordAt VfCpu.recordException
  rw [VfCpu.saveActiveSp_of_le hle]

lemma Concludes.polled_trap {hidden : U64 × U64 × U64 × U64} (hmatch : Matches (veiled c c.spEl hidden) r)
    (hnone : r.pendingException = none) (ram : List Byte) :
    let stopped : VfCpu := { c with instruction := 0#32 }
    let raised := r.raise (r.asyncException .systemRegisterTrap)
    Concludes exact base Status.systemRegisterTrap
      { recordAt stopped Exception.systemRegisterTrap with status := Status.systemRegisterTrap } ram
      (raised.commitPendingInterrupt.2.result .exception (raised.commitPendingInterrupt.1.or raised.pendingException))
      (raised.commitPendingInterrupt.2, ⟨ram, base⟩) := by
  intro stopped raised
  have hle : stopped.currentEl ≤ 3#32 := ((VfCpu.stateValid_iff _).mp hmatch.valid).mode.el_le
  have htrap : SameTrap { recordAt (veiled stopped stopped.spEl hidden) Exception.systemRegisterTrap with
      status := Status.systemRegisterTrap } raised := sameTrap hmatch hnone
  rw [recordAt_veiled hle] at htrap
  obtain ⟨-, e, he, hkind, -⟩ := htrap.record
  have hraised := raise_registers r (r.asyncException .systemRegisterTrap)
  simp only [Prod.mk.injEq] at hraised
  have hcommit : raised.commitPendingInterrupt = (none, raised) := by
    unfold GuestCpuState.commitPendingInterrupt
    rw [he]
    dsimp only
    rw [hkind]
    rfl
  rw [hcommit, he]
  have hrecord : (recordAt stopped Exception.systemRegisterTrap).retired = c.retired := recordAt_retired hle _
  exact .trap hkind { htrap with } (hrecord.trans (Eq.trans hmatch.retired hraised.2.2.2.2.symm))

lemma Concludes.polled_interrupt {hidden : U64 × U64 × U64 × U64} (hmatch : Matches (veiled c c.spEl hidden) r)
    (hnone : r.pendingException = none) {kind : ExceptionKind}
    (hkind : kind = .fiqInterrupt ∨ kind = .timerInterrupt ∨ kind = .externalInterrupt) (ram : List Byte) :
    let raised := r.raise (r.asyncException kind)
    Concludes exact base kind.polled.1 { (recordAt c kind.polled.2).entered with status := kind.polled.1 } ram
      (raised.commitPendingInterrupt.2.result .exception (raised.commitPendingInterrupt.1.or raised.pendingException))
      (raised.commitPendingInterrupt.2, ⟨ram, base⟩) := by
  intro raised
  have hle : c.currentEl ≤ 3#32 := ((VfCpu.stateValid_iff _).mp hmatch.valid).mode.el_le
  have hasync : kind.asynchronous = true := by
    rcases hkind with rfl | rfl | rfl <;> rfl
  obtain ⟨⟨e, htaken, he⟩, hentry⟩ := commit_raised hnone hasync
  have hcommitted := commitPendingInterrupt_retired raised
  have hraised := raise_registers r (r.asyncException kind)
  simp only [Prod.mk.injEq] at hraised
  have hsame := sameEntry hmatch hkind hentry
  rw [recordAt_veiled hle] at hsame
  rw [htaken]
  subst he
  have hrecord : (recordAt c e.kind.polled.2).retired = c.retired := recordAt_retired hle _
  exact .interrupt hkind { hsame with }
    (hrecord.trans (Eq.trans hmatch.retired (hcommitted.trans hraised.2.2.2.2).symm))

lemma Linked.polls (h : Linked Matches exact base c r) (hsound : r.Sound) (hidle : r.Idle) :
    (c.pollInterrupt.1 = Status.next ∧ r.pollInterrupt = (false, r)) ∨
    (c.pollInterrupt.1 ≠ Status.next ∧ r.pollInterrupt.1 = true ∧ ∀ ram,
      Concludes exact base c.pollInterrupt.1 { c.pollInterrupt.2 with status := c.pollInterrupt.1 } ram
        (r.pollInterrupt.2.commitPendingInterrupt.2.result .exception
          (r.pollInterrupt.2.commitPendingInterrupt.1.or r.pollInterrupt.2.pendingException))
        (r.pollInterrupt.2.commitPendingInterrupt.2, ⟨ram, base⟩)) := by
  have hcoherent := h.coherent hsound
  have hnone : r.pendingException = none := congrArg Prod.fst hidle
  obtain ⟨banks, hidden, hbanks, hmatch⟩ := h.matched
  have hlines : recordLines c = r.lines := @lines_eq (veiled c banks hidden) r hmatch
    ⟨hcoherent.physical, hcoherent.virtual, hcoherent.tval⟩ h.profile
  have hc := @record_pollInterrupt_eq c hmatch.valid h.pending
  have hr := GuestCpuState.pollInterrupt_eq hnone h.routed
  have hbanks' (hsome : r.lines.delivery ≠ .nothing) : banks = c.spEl := by
    refine hbanks ?_
    cases hexact : exact with
    | true => rfl
    | false => exact absurd (h.silent hexact).delivery hsome
  rw [hlines] at hc
  cases hdelivery : r.lines.delivery with
  | nothing =>
    rw [hdelivery] at hc hr
    exact .inl ⟨congrArg Prod.fst hc, hr⟩
  | trap =>
    obtain rfl := hbanks' (by rw [hdelivery]; exact nofun)
    rw [hdelivery] at hc hr
    refine .inr ⟨?_, ?_, fun ram => ?_⟩
    · rw [hc]
      exact (by decide : Status.systemRegisterTrap ≠ Status.next)
    · rw [hr]
      rfl
    · rw [hc, hr]
      exact Concludes.polled_trap hmatch hnone ram
  | interrupt kind =>
    obtain rfl := hbanks' (by rw [hdelivery]; exact nofun)
    rw [hdelivery] at hc hr
    have hkind := Lines.delivery_interrupt hdelivery
    refine .inr ⟨?_, ?_, fun ram => ?_⟩
    · have hpolled : kind.polled.1 ≠ Status.next := by
        rcases hkind with rfl | rfl | rfl <;> decide
      rw [hc]
      exact hpolled
    · rw [hr]
      rfl
    · rw [hc, hr]
      exact Concludes.polled_interrupt hmatch hnone hkind ram

end Poll

section Turn

variable {τ : Type} {exact : Bool} {base budget physical virtual : U64} {capacity size : ℕ}

def Fetches (exact : Bool) (m : GuestCpuState × RamBus) : Prop :=
  fetchFails m.2.base m.1.pc m.2.ram.length = false → Portable exact (word m.2.ram (m.1.pc - m.2.base).toNat)

structure Level (exact : Bool) (base budget physical virtual : U64) (capacity size : ℕ) (t : RunState τ)
    (m : GuestCpuState × RamBus) : Prop where
  linked : Linked Matches exact base t.cpu m.1
  boundary : GuestCpuState.AtBoundary budget physical virtual m.1
  bus : m.2 = ⟨t.ram, base⟩
  size_eq : t.ram.length = size
  capacity_eq : t.code.capacity = capacity

lemma atBoundary_room {r : GuestCpuState} (h : GuestCpuState.AtBoundary budget physical virtual r)
    (hphysical : physical.toNat + budget.toNat < 2 ^ 64) (hvirtual : virtual.toNat + budget.toNat < 2 ^ 64)
    (hleft : r.retired < budget) : Room r := by
  have hcounts {start counter : U64} (hstart : start.toNat + budget.toNat < 2 ^ 64)
      (hcounter : GuestCpuState.Counts start counter r.retired) : counter ≠ BitVec.allOnes 64 := by
    rintro rfl
    rw [GuestCpuState.Counts, BitVec.toNat_allOnes] at hcounter
    rw [BitVec.lt_def] at hleft
    omega
  refine ⟨?_, hcounts hphysical h.physical, hcounts hvirtual h.virtual⟩
  intro hlast
  rw [hlast, BitVec.lt_def, BitVec.toNat_allOnes] at hleft
  have hbudget := budget.isLt
  omega

variable (caller : Caller) {protect : Protect τ} {t : RunState τ} {m : GuestCpuState × RamBus}

lemma Level.turn (h : Level exact base budget physical virtual capacity size t m)
    (hprotect : ∀ o flag, (protect o flag).2 = 0#32) (hroomy : Roomy 1 capacity)
    (hphysical : physical.toNat + budget.toNat < 2 ^ 64) (hvirtual : virtual.toNat + budget.toNat < 2 ^ 64)
    (hsize : size < 2 ^ 64) (hfetches : Fetches exact m) :
    (∃ t' m', vfRunTurn caller none protect (ramImage size) 1 budget 0#64 t = some (.again t') ∧
      GuestCpuState.body RamBus.bus budget m = some (.again m') ∧
      Level exact base budget physical virtual capacity size t' m') ∨
    (∃ status t' result m', vfRunTurn caller none protect (ramImage size) 1 budget 0#64 t = some (.done status t') ∧
      GuestCpuState.body RamBus.bus budget m = some (.done result m') ∧
      Concludes exact base status t'.cpu t'.ram result m') := by
  obtain ⟨hlinked, hboundary, hbus, hsizeEq, hcapacity⟩ := h
  obtain ⟨r, bus⟩ := m
  obtain rfl : bus = ⟨t.ram, base⟩ := hbus
  obtain ⟨banks, hidden, hbanks, hmatch⟩ := hlinked.matched
  have hretired : t.cpu.retired = r.retired := hmatch.retired
  have hmmu : t.cpu.sctlr &&& 1#64 = 0#64 := by
    rw [show t.cpu.sctlr = r.sys.sctlrEl1 from hmatch.sctlr]
    exact hlinked.off
  have hvalid : t.cpu.stateValid = true := hmatch.valid
  have hnone : r.pendingException = none := congrArg Prod.fst hboundary.idle
  by_cases hleft : r.retired < budget
  swap
  · have hearly : early budget 0#64 t.cpu = some (Status.budget, t.cpu) := by
      unfold early
      rw [BitVec.sub_zero, hretired, if_pos hleft]
    obtain ⟨t', hram, hcpu, hturn⟩ := vfRunTurn_early caller none (ramImage size) hprotect 1 hearly
    refine .inr ⟨_, _, _, _, hturn, (GuestCpuState.TurnOf.spent hleft).body_eq, ?_⟩
    rw [hram, hcpu]
    exact .budget (hlinked.reported Status.budget)
  have hbudget : t.cpu.retired - 0#64 < budget := by
    rw [BitVec.sub_zero, hretired]
    exact hleft
  rcases hlinked.polls hboundary.sound hboundary.idle with ⟨hquiet, hpoll⟩ | ⟨hpoll, hinterrupted, hconcludes⟩
  swap
  · have hearly : early budget 0#64 t.cpu = some t.cpu.pollInterrupt := by
      unfold early
      rw [if_neg (not_not.mpr hbudget), if_neg (not_not.mpr hmmu), if_pos hpoll]
    obtain ⟨t', hram, hcpu, hturn⟩ := vfRunTurn_early caller none (ramImage size) hprotect 1 hearly
    refine .inr ⟨_, _, _, _, hturn,
      (GuestCpuState.TurnOf.interrupted hleft (Prod.ext hinterrupted rfl) rfl).body_eq, ?_⟩
    rw [hram, hcpu]
    exact hconcludes t.ram
  have hready : Ready budget 0#64 t := ⟨hbudget, hvalid, hmmu, hquiet⟩
  obtain ⟨status, g, ram, heffect, hlength, hanswers⟩ := @answers_one exact base t.cpu r t.ram hlinked
    (atBoundary_room hboundary hphysical hvirtual hleft) hboundary.sound hnone (hsizeEq ▸ hsize) hfetches
  have heffect' : effectFrom (Target.ofCpu t.cpu) false ((ramImage size).bytes t.ram) 1 0#32 t.cpu.pc t.cpu t.ram =
      .stops status g ram := by
    rw [ramImage_bytes hsizeEq]
    exact heffect
  obtain ⟨t₁, hram, hcapacity₁, hturn⟩ := hready.word caller none hprotect (hcapacity ▸ hroomy) rfl heffect'
  generalize hexecute : r.executeOne RamBus.bus ⟨t.ram, base⟩ = out at hanswers
  generalize dispatch (slowStep none) status (settle t.cpu.retired g) = turn at hanswers hturn
  cases hanswers with
  | @resumes c _ r' hnext =>
    have hretire := GuestCpuState.AtBoundary.retire (m := (r, ⟨t.ram, base⟩)) hboundary hleft hexecute nofun
    exact .inl ⟨{ t₁ with cpu := c }, _, hturn, (GuestCpuState.TurnOf.resumed hleft hpoll hexecute).body_eq,
      ⟨hnext, hretire, by rw [hram]; rfl, by rw [hram]; exact hlength.trans hsizeEq, hcapacity₁.trans hcapacity⟩⟩
  | halts hnext =>
    refine .inr ⟨_, _, _, _, hturn, (GuestCpuState.TurnOf.stopped hleft hpoll hexecute (Or.inl ⟨rfl, rfl⟩)).body_eq, ?_⟩
    rw [← hram] at hnext ⊢
    exact .halt hnext
  | @faults c _ r' kind status hstatus halike hpc hretired' hheld =>
    obtain ⟨e, he, rfl⟩ := hheld
    refine .inr ⟨_, _, _, _, hturn, (GuestCpuState.TurnOf.faulted hleft hpoll hexecute).body_eq, ?_⟩
    rw [he, ← hram]
    exact .fault hstatus halike hpc hretired'

section Words

variable (h : Level exact base budget physical virtual capacity size t m) (hprotect : ∀ o flag, (protect o flag).2 = 0#32)
  (hroomy : Roomy 1 capacity) (hphysical : physical.toNat + budget.toNat < 2 ^ 64)
  (hvirtual : virtual.toNat + budget.toNat < 2 ^ 64) (hsize : size < 2 ^ 64)
  (hfetches : ∀ m', Visits (GuestCpuState.body RamBus.bus budget) m m' → Fetches exact m')

include hprotect hroomy hphysical hvirtual hsize hfetches in
lemma Level.again {t₁ t₂ : RunState τ} {m₁ : GuestCpuState × RamBus}
    (h₁ : Level exact base budget physical virtual capacity size t₁ m₁ ∧
      Visits (GuestCpuState.body RamBus.bus budget) m m₁)
    (hturn : vfRunTurn caller none protect (ramImage size) 1 budget 0#64 t₁ = some (.again t₂)) :
    ∃ m₂, Visits (GuestCpuState.body RamBus.bus budget) m₁ m₂ ∧
      Level exact base budget physical virtual capacity size t₂ m₂ ∧
      Visits (GuestCpuState.body RamBus.bus budget) m m₂ := by
  rcases h₁.1.turn caller hprotect hroomy hphysical hvirtual hsize (hfetches m₁ h₁.2) with
    ⟨t', m₂, hturn', hbody, hlevel⟩ | ⟨_, _, _, _, hturn', -⟩
  · rw [hturn] at hturn'
    cases hturn'
    exact ⟨m₂, .single hbody, hlevel, h₁.2.tail hbody⟩
  · rw [hturn] at hturn'
    cases hturn'

include h hprotect hroomy hphysical hvirtual hsize hfetches

lemma Level.words {t' : RunState τ} (hvisits : Visits (vfRunTurn caller none protect (ramImage size) 1 budget 0#64) t t') :
    ∃ m', Visits (GuestCpuState.body RamBus.bus budget) m m' ∧
      Level exact base budget physical virtual capacity size t' m' := by
  obtain ⟨m', hvisits', hlevel, -⟩ := hvisits.simulated
    (R := fun t₁ m₁ => Level exact base budget physical virtual capacity size t₁ m₁ ∧
      Visits (GuestCpuState.body RamBus.bus budget) m m₁)
    (fun _ _ _ h₁ hturn => Level.again caller hprotect hroomy hphysical hvirtual hsize hfetches h₁ hturn) ⟨h, .refl⟩
  exact ⟨m', hvisits', hlevel⟩

lemma Level.ends {status : U32} {t' : RunState τ}
    (hends : Ends (vfRunTurn caller none protect (ramImage size) 1 budget 0#64) t status t') :
    ∃ result m', Ends (GuestCpuState.body RamBus.bus budget) m result m' ∧
      Concludes exact base status t'.cpu t'.ram result m' := by
  obtain ⟨fuel, hfuel⟩ := hends
  obtain ⟨t₁, hvisits, hlast⟩ := last_turn hfuel
  obtain ⟨m₁, hvisits', hlevel⟩ := h.words caller hprotect hroomy hphysical hvirtual hsize hfetches hvisits
  rcases hlevel.turn caller hprotect hroomy hphysical hvirtual hsize (hfetches m₁ hvisits') with
    ⟨_, _, hturn, -⟩ | ⟨_, _, result, m', hturn, hbody, hconcludes⟩
  · rw [hlast] at hturn
    cases hturn
  · rw [hlast] at hturn
    cases hturn
    exact ⟨result, m', hvisits'.ends (ends_done hbody), hconcludes⟩

end Words

lemma Linked.counted {c : VfCpu} {r : GuestCpuState} (h : Linked Matches exact base c r) (n : U64) :
    Linked Matches exact base (c.counted n) r := by
  obtain ⟨banks, hidden, hbanks, hmatch⟩ := h.matched
  exact { h with matched := ⟨banks, hidden, hbanks, { hmatch with valid := hmatch.valid }⟩ }

lemma Concludes.counted {status : U32} {c : VfCpu} {ram : List Byte} {result : ArchRunResult} {m : GuestCpuState × RamBus}
    (h : Concludes exact base status c ram result m) (n : U64) : Concludes exact base status (c.counted n) ram result m := by
  cases h with
  | budget h => exact .budget (h.counted n)
  | halt h => exact .halt (h.counted n)
  | interrupt hkind h hretired => exact .interrupt hkind { h with } hretired
  | trap hkind h hretired => exact .trap hkind { h with } hretired
  | fault hstatus halike hpc hretired => exact .fault hstatus { halike with } hpc hretired

structure Abreast (protect : Protect τ) (exact : Bool) (base budget physical virtual : U64) (s : RunState τ)
    (m : GuestCpuState × RamBus) (s' : RunState τ) (m' : GuestCpuState × RamBus) : Prop where
  level : ∃ t, Together s.code.capacity s' t ∧
    Level exact base budget physical virtual s.code.capacity s.ram.length t m'
  block : Visits (vfRunTurn caller none protect (ramImage s.ram.length) 32 budget 0#64) s s'
  word : Visits (GuestCpuState.body RamBus.bus budget) m m'

section Blocks

variable {s s₁ s₂ : RunState τ} {m₁ : GuestCpuState × RamBus} {status : U32}
  (h : Abreast caller protect exact base budget physical virtual s m s₁ m₁)
  (hprotect : ∀ o flag, (protect o flag).2 = 0#32) (hphysical : physical.toNat + budget.toNat < 2 ^ 64)
  (hvirtual : virtual.toNat + budget.toNat < 2 ^ 64) (hsize : s.ram.length < 2 ^ 64) (hroomy : Roomy 32 s.code.capacity)
  (hfetches : ∀ m', Visits (GuestCpuState.body RamBus.bus budget) m m' → Fetches exact m')
  (hstable : ∀ s', Visits (vfRunTurn caller none protect (ramImage s.ram.length) 32 budget 0#64) s s' →
    Undisturbed (ramImage s.ram.length) 32 budget 0#64 s')

include h hprotect hphysical hvirtual hsize hroomy hfetches hstable

lemma Abreast.again
    (hturn : vfRunTurn caller none protect (ramImage s.ram.length) 32 budget 0#64 s₁ = some (.again s₂)) :
    ∃ m₂, Visits (GuestCpuState.body RamBus.bus budget) m₁ m₂ ∧
      Abreast caller protect exact base budget physical virtual s m s₂ m₂ := by
  obtain ⟨⟨t, htogether, hlevel⟩, hblock, hword⟩ := h
  rcases htogether.turn caller none hprotect (show 32 ≠ 0 by decide) (le_refl 32) hroomy (hstable s₁ hblock) hturn with
    ⟨_, t', hagain, hwords, htogether'⟩ | ⟨_, _, _, hdone, -⟩
  · cases hagain
    obtain ⟨m₂, hvisits, hlevel'⟩ := hlevel.words caller hprotect (hroomy.mono (by decide)) hphysical hvirtual hsize
      (fun m' hm' => hfetches m' (hword.trans hm')) hwords
    exact ⟨m₂, hvisits, ⟨t', htogether', hlevel'⟩, hblock.tail hturn, hword.trans hvisits⟩
  · cases hdone

lemma Abreast.ends
    (hturn : vfRunTurn caller none protect (ramImage s.ram.length) 32 budget 0#64 s₁ = some (.done status s₂)) :
    ∃ result m₂, Ends (GuestCpuState.body RamBus.bus budget) m₁ result m₂ ∧
      Concludes exact base status s₂.cpu s₂.ram result m₂ := by
  obtain ⟨⟨t, htogether, hlevel⟩, hblock, hword⟩ := h
  rcases htogether.turn caller none hprotect (show 32 ≠ 0 by decide) (le_refl 32) hroomy (hstable s₁ hblock) hturn with
    ⟨_, _, hagain, -⟩ | ⟨_, _, t', hdone, hends, hended⟩
  · cases hagain
  · cases hdone
    obtain ⟨result, m₂, hends', hconcludes⟩ := hlevel.ends caller hprotect (hroomy.mono (by decide)) hphysical hvirtual hsize
      (fun m' hm' => hfetches m' (hword.trans hm')) hends
    refine ⟨result, m₂, hends', ?_⟩
    rw [VfCpu.eq_counted hended.1.symm, hended.2]
    exact hconcludes.counted _

end Blocks

lemma vfRun_runs (hprotect : ∀ o flag, (protect o flag).2 = 0#32) {s : RunState τ} {r : GuestCpuState}
    (hlinked : Linked Matches exact s.cpu.guestRamBase s.cpu r)
    (hboundary : GuestCpuState.AtBoundary budget physical virtual r) (hzero : r.retired = 0#64)
    (hphysical : physical.toNat + budget.toNat < 2 ^ 64) (hvirtual : virtual.toNat + budget.toNat < 2 ^ 64)
    (hram : 8 ≤ s.ram.length) (hsize : s.ram.length < 2 ^ 64) (hroomy : Roomy 32 s.code.capacity)
    (hfetches : ∀ m, Visits (GuestCpuState.body RamBus.bus budget) (r, ⟨s.ram, s.cpu.guestRamBase⟩) m → Fetches exact m)
    (hstable : ∀ s', Visits (vfRunTurn caller none protect (ramImage s.ram.length) 32 budget 0#64) s s' →
      Undisturbed (ramImage s.ram.length) 32 budget 0#64 s') :
    ∃ status s' result m, vfRun caller none protect (ramImage s.ram.length) budget s = some (status, s') ∧
      GuestCpuState.runLoadedWithBus RamBus.bus budget (r, ⟨s.ram, s.cpu.guestRamBase⟩) = some (result, m) ∧
      Concludes exact s.cpu.guestRamBase status s'.cpu s'.ram result m := by
  obtain ⟨banks, hidden, -, hmatch⟩ := hlinked.matched
  have hvalid : s.cpu.stateValid = true := hmatch.valid
  have hstart : s.cpu.retired = 0#64 := hmatch.retired.trans hzero
  have hmeasure : (budget - (s.cpu.retired - 0#64)).toNat < budget.toNat + 1 := by
    rw [hstart, BitVec.sub_zero, BitVec.sub_zero]
    exact Nat.lt_succ_self _
  let m₀ : GuestCpuState × RamBus := (r, ⟨s.ram, s.cpu.guestRamBase⟩)
  -- Both runs return: the first within its budget, since each block counts, the second at its own boundary.
  obtain ⟨status, s', hrun⟩ := @iterate_ends _ _ (vfRunTurn caller none protect (ramImage s.ram.length) 32 budget 0#64) s
    (fun s' : RunState τ => s'.code.capacity = s.code.capacity) (fun s' => (budget - (s'.cpu.retired - 0#64)).toNat)
    (fun s' hs' => vfRunTurn_counts caller none hprotect (show 32 ≠ 0 by decide) (le_refl 32) hroomy s' hs') _ hmeasure rfl
  obtain ⟨result, m, hreference, -⟩ := GuestCpuState.AtBoundary.returns (m := m₀) hboundary
  have hstart' : Abreast caller protect exact s.cpu.guestRamBase budget physical virtual s m₀ s m₀ :=
    ⟨⟨s, ⟨rfl, rfl, rfl, rfl⟩, ⟨hlinked, hboundary, rfl, rfl, rfl⟩⟩, .refl, .refl⟩
  obtain ⟨result', m', hends, hconcludes⟩ := Ends.simulated
    (R := Abreast caller protect exact s.cpu.guestRamBase budget physical virtual s m₀)
    (Q := fun status (s' : RunState τ) result m => Concludes exact s.cpu.guestRamBase status s'.cpu s'.ram result m)
    (fun _ _ _ h hturn => h.again caller hprotect hphysical hvirtual hsize hroomy hfetches hstable hturn)
    (fun _ _ _ _ h hturn => h.ends caller hprotect hphysical hvirtual hsize hroomy hfetches hstable hturn) hstart' ⟨_, hrun⟩
  obtain ⟨rfl, rfl⟩ := hends.unique ⟨_, hreference⟩
  refine ⟨status, s', result', m', ?_, hreference, hconcludes⟩
  unfold vfRun vfRunBlocks
  rw [if_neg (not_or.mpr ⟨Nat.not_lt.mpr hram, by rw [hvalid]; exact nofun⟩), hstart]
  exact hrun

/-- A run of the translator, block by block, is a run of the reference core, instruction by instruction. From linked states
with the MMU off, over words that both engines run and stores that leave the words of their block, both return with the
same report and states that agree: at the end of the budget, at HLT, at an interrupt and at a fault. -/
theorem vfRun_agrees (caller : Caller) (protect : Protect τ) (hprotect : ∀ o flag, (protect o flag).2 = 0#32) (exact : Bool)
    (budget : U64) (s : RunState τ) (r : GuestCpuState) (hlinked : Linked Matches exact s.cpu.guestRamBase s.cpu r)
    (hsound : r.Sound) (hidle : r.Idle) (hzero : r.retired = 0#64)
    (hphysical : r.timer.counter.toNat + budget.toNat < 2 ^ 64)
    (hvirtual : r.virtualTimer.counter.toNat + budget.toNat < 2 ^ 64) (hram : 8 ≤ s.ram.length)
    (hsize : s.ram.length < 2 ^ 64) (hroomy : Roomy 32 s.code.capacity)
    (hfetches : ∀ m, Visits (GuestCpuState.body RamBus.bus budget) (r, ⟨s.ram, s.cpu.guestRamBase⟩) m → Fetches exact m)
    (hstable : ∀ s', Visits (vfRunTurn caller none protect (ramImage s.ram.length) 32 budget 0#64) s s' →
      Undisturbed (ramImage s.ram.length) 32 budget 0#64 s') :
    ∃ status s' result m, vfRun caller none protect (ramImage s.ram.length) budget s = some (status, s') ∧
      GuestCpuState.runLoadedWithBus RamBus.bus budget (r, ⟨s.ram, s.cpu.guestRamBase⟩) = some (result, m) ∧
      Concludes exact s.cpu.guestRamBase status s'.cpu s'.ram result m :=
  vfRun_runs caller hprotect hlinked (GuestCpuState.atBoundary_zero hsound hidle hzero budget) hzero hphysical hvirtual hram
    hsize hroomy hfetches hstable

end Turn

section Example

def haltRam : List Byte := [0x00#8, 0x00#8, 0x40#8, 0xd4#8, 0x00#8, 0x00#8, 0x40#8, 0xd4#8, 0x00#8, 0x00#8, 0x40#8, 0xd4#8,
  0x00#8, 0x00#8, 0x40#8, 0xd4#8]

def haltRun (cpu : VfCpu) : RunState Unit := ⟨cpu, haltRam, ⟨List.replicate 16384 0#8, 0⟩, ()⟩

variable (caller : Caller) {cpu : VfCpu} (hready : Ready 8#64 0#64 (haltRun cpu)) (hpc : cpu.pc = 0#64)
  (hbase : cpu.guestRamBase = 0#64)

include hbase in
lemma haltRun_effect (n : U32) (g : VfCpu) (ram : List Byte) :
    fetchFails (Target.ofCpu cpu).base 0#64 haltRam.length = false ∧
      effectOne (Target.ofCpu cpu) false (blockWord (Target.ofCpu cpu) false haltRam 0#64) 0#64 n g ram =
        .stops Status.halt (finished g 4#64 (n + 1#32)) ram := by
  have htarget : (Target.ofCpu cpu).base = 0#64 := hbase
  unfold blockWord
  rw [htarget]
  exact ⟨by decide, rfl⟩

include hready hpc hbase

lemma haltRun_turn {most : ℕ} (hmost : most ≠ 0) (hroomy : Roomy most 16384) :
    ∃ s', vfRunTurn caller none (fun o _ => (o, 0#32)) (ramImage haltRam.length) most 8#64 0#64 (haltRun cpu) =
      some (.done Status.halt s') := by
  obtain ⟨remaining, hcount⟩ := Nat.exists_eq_succ_of_ne_zero (blockCount_pos hmost hready.left)
  have heffect : blockEffect (Target.ofCpu cpu) false ((ramImage haltRam.length).bytes haltRam) cpu.pc
      (blockCount most 8#64 0#64 cpu) cpu haltRam = .stops Status.halt (finished cpu 4#64 1#32) haltRam := by
    obtain ⟨hfetch, hhalt⟩ := haltRun_effect hbase 0#32 cpu haltRam
    rw [ramImage_bytes rfl, hpc, blockEffect, show blockCount most 8#64 0#64 cpu = remaining + 1 from hcount, effectFrom]
    dsimp only
    rw [if_neg (by rw [hfetch]; exact fun h => Bool.false_ne_true h.2), hhalt]
    rfl
  have hcapacity : (haltRun cpu).code.capacity = 16384 := List.length_replicate
  have hprotect (o : Unit) (_ : Bool) : (o, 0#32).2 = 0#32 := rfl
  obtain ⟨s', -, -, hturn⟩ := hready.turn caller none hprotect hmost (hcapacity ▸ hroomy) heffect
  exact ⟨_, hturn⟩

lemma haltRun_undisturbed {s' : RunState Unit}
    (h : Visits (vfRunTurn caller none (fun o _ => (o, 0#32)) (ramImage haltRam.length) 32 8#64 0#64) (haltRun cpu) s') :
    Undisturbed (ramImage haltRam.length) 32 8#64 0#64 s' := by
  obtain ⟨_, hturn⟩ := haltRun_turn caller hready hpc hbase (show 32 ≠ 0 by decide) (roomy_loader (le_refl _))
  obtain rfl := h.of_done hturn
  intro _ _ k hk g ram hreach _
  cases k with
  | zero =>
    cases hreach
    rfl
  | succ k =>
    obtain ⟨hfetch, hhalt⟩ := haltRun_effect hbase 0#32 cpu haltRam
    have hbytes : (ramImage haltRam.length).bytes (haltRun cpu).ram = haltRam := ramImage_bytes rfl
    rw [hbytes] at hreach
    change reach (Target.ofCpu cpu) haltRam (k + 1) 0#32 cpu.pc cpu haltRam = some (g, ram) at hreach
    rw [hpc, reach, hfetch, if_neg Bool.false_ne_true, hhalt] at hreach
    cases hreach

lemma haltRun_fetches {exact : Bool} {physical virtual : U64} {r : GuestCpuState} (hlinked : Linked Matches exact 0#64 cpu r)
    (hboundary : GuestCpuState.AtBoundary 8#64 physical virtual r) (hphysical : physical.toNat + 8 < 2 ^ 64)
    (hvirtual : virtual.toNat + 8 < 2 ^ 64) {m : GuestCpuState × RamBus}
    (h : Visits (GuestCpuState.body RamBus.bus 8#64) (r, ⟨haltRam, 0#64⟩) m) : Fetches exact m := by
  have hfetches : Fetches exact (r, ⟨haltRam, 0#64⟩) := by
    obtain ⟨banks, hidden, -, hmatch⟩ := hlinked.matched
    have hzero : r.pc = 0#64 := hmatch.pc.symm.trans hpc
    intro _
    dsimp only
    rw [hzero]
    exact .halt
  let host : Caller := ⟨⟨0#64, 0#64⟩, fun _ => ⟨.word 0#64, .word 0#64, .word 0#64, .word 0#64, .undefined⟩⟩
  have hroomy : Roomy 1 16384 := (roomy_loader (le_refl _)).mono (by decide)
  obtain ⟨_, hturn⟩ := haltRun_turn host hready hpc hbase one_ne_zero hroomy
  have hlevel : Level exact 0#64 8#64 physical virtual 16384 haltRam.length (haltRun cpu) (r, ⟨haltRam, 0#64⟩) :=
    ⟨hlinked, hboundary, rfl, rfl, List.length_replicate⟩
  have hprotect (o : Unit) (_ : Bool) : (o, 0#32).2 = 0#32 := rfl
  rcases hlevel.turn host hprotect hroomy hphysical hvirtual (by decide) hfetches with
    ⟨_, _, hturn', -⟩ | ⟨_, _, _, _, -, hbody, -⟩
  · rw [hturn] at hturn'
    cases hturn'
  · rw [h.of_done hbody]
    exact hfetches

end Example

theorem vfRun_agrees_halt : ∃ status s' result m,
    vfRun ⟨⟨0x10000#64, 0x20000#64⟩, fun _ => ⟨.word 0#64, .word 0#64, .word 0#64, .word 0#64, .undefined⟩⟩ none
      (fun o _ => (o, 0#32)) (ramImage haltRam.length) 8#64 (haltRun (VfCpu.reset 1#32)) = some (status, s') ∧
    GuestCpuState.runLoadedWithBus RamBus.bus 8#64 (GuestCpuState.reset 0#32, ⟨haltRam, 0#64⟩) = some (result, m) ∧
    Concludes true 0#64 status s'.cpu s'.ram result m := by
  have hlinked : Linked Matches true 0#64 (VfCpu.reset 1#32) (GuestCpuState.reset 0#32) :=
    ⟨⟨(VfCpu.reset 1#32).spEl, (0#64, 0#64, 0#64, 0x10#64), fun _ => rfl, reset_matches⟩, rfl, rfl, rfl, by decide,
      by decide, fun h => absurd h (by decide)⟩
  have hready : Ready 8#64 0#64 (haltRun (VfCpu.reset 1#32)) := ⟨by decide, by decide, by decide, by decide⟩
  have hsound := GuestCpuState.sound_reset 0#32
  have hidle : (GuestCpuState.reset 0#32).Idle := rfl
  have hboundary := GuestCpuState.atBoundary_zero hsound hidle rfl 8#64
  exact vfRun_agrees _ (fun o _ => (o, 0#32)) (fun _ _ => rfl) true 8#64 (haltRun (VfCpu.reset 1#32)) (GuestCpuState.reset 0#32)
    hlinked hsound hidle rfl (by decide) (by decide) (by decide) (by decide) (roomy_loader List.length_replicate.ge)
    (fun _ h => haltRun_fetches hready rfl rfl hlinked hboundary (by decide) (by decide) h)
    fun _ h => haltRun_undisturbed _ hready rfl rfl h

end Nextcore.Jit
