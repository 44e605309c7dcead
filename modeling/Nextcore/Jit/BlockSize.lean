import Nextcore.Jit.Count
import Nextcore.Jit.Reach
import Nextcore.Jit.Retire
import Nextcore.Jit.Room

/-! A run with blocks of several words ends as the run that polls and translates at
every word: the clock of a block is the sum of the clocks of its words. -/

namespace Nextcore.Jit

open Cpu Emit X86 Loop

lemma signExtend_words {i : ℕ} (h : i ≤ 32) : (BitVec.ofNat 32 i).signExtend 64 = BitVec.ofNat 64 i := by
  have hmsb : (BitVec.ofNat 32 i).msb = false := by
    rw [BitVec.msb_eq_false_iff_two_mul_lt, BitVec.toNat_ofNat]
    omega
  apply BitVec.eq_of_toNat_eq
  rw [BitVec.signExtend_eq_setWidth_of_msb_false hmsb, BitVec.toNat_setWidth, BitVec.toNat_ofNat, BitVec.toNat_ofNat]
  omega

def passed (start : VfCpu) (k : ℕ) (g : VfCpu) : VfCpu :=
  { finished g (start.pc + BitVec.ofNat 64 (4 * k)) (BitVec.ofNat 32 k) with
    cntpct := start.cntpct + BitVec.ofNat 64 k, cntvct := start.cntvct + BitVec.ofNat 64 k }

def refreshed (cpu : VfCpu) : VfCpu := (cpu.counted 0#64).updateTimerStatus

structure Stands (start : VfCpu) (k : ℕ) (g cpu : VfCpu) : Prop where
  record : refreshed cpu = refreshed (passed start k g)
  quiet : cpu.pollInterrupt.1 = Status.next

variable {start g cpu : VfCpu} {ram ram' : List Byte} {k : ℕ}

lemma settle_words (before : VfCpu) {i : ℕ} (hi : i ≤ 32) (d : Working) (target : U64) :
    (settle before.retired (finished (put before d) target (BitVec.ofNat 32 i))).counted 0#64 =
      VfCpu.advanceCounter { put (before.counted 0#64) d with
        pc := target, retired := before.retired + BitVec.ofNat 64 i } (BitVec.ofNat 64 i) := by
  have hretired : (finished (put before d) target (BitVec.ofNat 32 i)).retired =
      before.retired + BitVec.ofNat 64 i := by
    rw [← signExtend_words hi]
    rfl
  have hticks : before.retired + BitVec.ofNat 64 i - before.retired = BitVec.ofNat 64 i := by
    rw [BitVec.add_comm, BitVec.add_sub_cancel]
  have hsettle : (settle before.retired (finished (put before d) target (BitVec.ofNat 32 i))).counted 0#64 =
      VfCpu.advanceCounter { put (before.counted 0#64) d with
        pc := target, retired := (finished (put before d) target (BitVec.ofNat 32 i)).retired }
        ((finished (put before d) target (BitVec.ofNat 32 i)).retired - before.retired) := rfl
  rw [hsettle, hretired, hticks]

lemma Stands.settled (h : Stands start k g cpu) (hinside : Inside start ram g ram') {j : ℕ} (hj : k + j ≤ 32) (d : Working)
    (target : U64) :
    (settle cpu.retired (finished (put cpu d) target (BitVec.ofNat 32 j))).counted 0#64 =
      (settle start.retired (finished (put g d) target (BitVec.ofNat 32 (k + j)))).counted 0#64 := by
  have hput : put g d = put start d := by
    rw [hinside.record]
    rfl
  let late : VfCpu → VfCpu := fun c => { put c d with pc := target, retired := c.retired + BitVec.ofNat 64 j }
  rw [hput, settle_words start hj, settle_words cpu (by omega)]
  change (late (cpu.counted 0#64)).advanceCounter _ = _
  rw [← VfCpu.advanceCounter_update]
  change (late (refreshed cpu)).advanceCounter _ = _
  rw [h.record]
  change (late ((passed start k g).counted 0#64)).updateTimerStatus.advanceCounter _ = _
  rw [VfCpu.advanceCounter_update, hinside.record]
  have hretired : start.retired + (BitVec.ofNat 32 k).signExtend 64 + BitVec.ofNat 64 j =
      start.retired + BitVec.ofNat 64 (k + j) := by
    rw [signExtend_words (by omega), BitVec.add_assoc, ← BitVec.ofNat_add]
  have hticks : ∀ count : U64, count + BitVec.ofNat 64 k + BitVec.ofNat 64 j = count + BitVec.ofNat 64 (k + j) :=
    fun count => by rw [BitVec.add_assoc, ← BitVec.ofNat_add]
  change VfCpu.updateTimerStatus { put (start.counted 0#64) d with
    pc := target
    retired := start.retired + (BitVec.ofNat 32 k).signExtend 64 + BitVec.ofNat 64 j
    cntpct := start.cntpct + BitVec.ofNat 64 k + BitVec.ofNat 64 j
    cntvct := start.cntvct + BitVec.ofNat 64 k + BitVec.ofNat 64 j } = _
  rw [hretired, hticks, hticks]
  rfl

lemma refreshed_passed (hinside : Inside start ram g ram') (hk : k ≤ 32) :
    refreshed (passed start k g) =
      (settle start.retired (finished g (start.pc + BitVec.ofNat 64 (4 * k)) (BitVec.ofNat 32 k))).counted 0#64 := by
  have hput : g = put start (working g) := hinside.record
  generalize working g = w at hput
  subst hput
  rw [settle_words start hk]
  unfold refreshed passed finished
  rw [signExtend_words hk]
  rfl

lemma Stands.working_eq (h : Stands start k g cpu) : working cpu = working g := by
  have hworking : working (refreshed cpu) = working (refreshed (passed start k g)) := congrArg working h.record
  exact hworking

lemma Stands.target_eq (h : Stands start k g cpu) (hinside : Inside start ram g ram') :
    Target.ofCpu cpu = Target.ofCpu start := by
  have htarget : Target.ofCpu (refreshed cpu) = Target.ofCpu (refreshed (passed start k g)) :=
    congrArg Target.ofCpu h.record
  rw [hinside.record] at htarget
  exact htarget

lemma Stands.pc_eq (h : Stands start k g cpu) : cpu.pc = start.pc + BitVec.ofNat 64 (4 * k) :=
  congrArg VfCpu.pc h.record

lemma Stands.retired_eq (h : Stands start k g cpu) (hinside : Inside start ram g ram') (hk : k ≤ 32) :
    cpu.retired = start.retired + BitVec.ofNat 64 k := by
  have hretired : cpu.retired = g.retired + (BitVec.ofNat 32 k).signExtend 64 := congrArg VfCpu.retired h.record
  rw [hretired, hinside.record, signExtend_words hk]
  rfl

lemma Stands.stateValid_eq (h : Stands start k g cpu) (hinside : Inside start ram g ram') :
    cpu.stateValid = start.stateValid := by
  have hvalid : (refreshed cpu).stateValid = (refreshed (passed start k g)).stateValid :=
    congrArg VfCpu.stateValid h.record
  exact Eq.trans hvalid hinside.stateValid

structure NoInputs (cpu : VfCpu) : Prop where
  irq : cpu.irqLevel = 0#32
  fiq : cpu.fiqLevel = 0#32
  timers : (cpu.cntpCtl ||| cpu.cntvCtl) &&& 1#64 = 0#64

lemma noInputs_of_blockCount {most : ℕ} {budget origin : U64} (h : 1 < blockCount most budget origin cpu) :
    NoInputs cpu := by
  unfold blockCount at h
  dsimp only at h
  split at h
  · omega
  next hinputs =>
    rw [not_or, not_or, not_not, not_not, not_not] at hinputs
    exact ⟨hinputs.1, hinputs.2.1, hinputs.2.2⟩

lemma NoInputs.quiet (h : NoInputs start) (hk : k ≤ 32) (d : Working) (target : U64) :
    (settle start.retired (finished (put start d) target (BitVec.ofNat 32 k))).pollInterrupt.1 = Status.next := by
  have htimers := h.timers
  rw [BitVec.and_or_distrib_right, BitVec.or_eq_zero_iff] at htimers
  have hcounted := (settle start.retired (finished (put start d) target (BitVec.ofNat 32 k))).pollInterrupt_counted 0#64
  rw [settle_words start hk] at hcounted
  rw [← congrArg Prod.fst hcounted]
  refine VfCpu.pollInterrupt_quiet _ h.irq h.fiq ?_
  unfold VfCpu.timerPending
  simp only [decide_eq_false_iff_not, not_or, not_not]
  exact ⟨VfCpu.timerStatus_disabled htimers.1 _ _, VfCpu.timerStatus_disabled htimers.2 _ _⟩

lemma Stands.next (h : Stands start k g cpu) (hinside : Inside start ram g ram') (hk : k + 1 ≤ 32)
    (hinputs : NoInputs start) {d : Working} {ram'' : List Byte} (hnext : Inside start ram (put g d) ram'') :
    Stands start (k + 1) (put g d)
      (settle cpu.retired (finished (put cpu d) (cpu.pc + 4#64) (BitVec.ofNat 32 1))) := by
  have hpc : cpu.pc + 4#64 = start.pc + BitVec.ofNat 64 (4 * (k + 1)) := by
    rw [h.pc_eq, BitVec.add_assoc, show 4 * (k + 1) = 4 * k + 4 by omega, BitVec.ofNat_add]
  have hsettle := h.settled hinside hk d (cpu.pc + 4#64)
  have hput : put g d = put start d := by
    rw [hinside.record]
    rfl
  refine ⟨?_, ?_⟩
  · rw [refreshed_passed hnext hk, ← hpc]
    unfold refreshed
    rw [hsettle, hput, settle_words start hk]
    exact VfCpu.updateTimerStatus_idem _
  · have hcounted := VfCpu.pollInterrupt_counted
      (settle cpu.retired (finished (put cpu d) (cpu.pc + 4#64) (BitVec.ofNat 32 1))) 0#64
    rw [hsettle, VfCpu.pollInterrupt_counted, hput] at hcounted
    rw [← congrArg Prod.fst hcounted]
    exact hinputs.quiet hk d _

lemma Stands.outcome (h : Stands start k g cpu) (hinside : Inside start ram g ram') (w : U32) (pc : U64) (n : U32)
    (bytes : List Byte) :
    ∃ out : Outcome, out.Keeps (working g) bytes ∧
      effectOne (Target.ofCpu start) false w pc n g bytes = out.apply pc n g ∧
      effectOne (Target.ofCpu start) false w pc 0#32 cpu bytes = out.apply pc 0#32 cpu := by
  obtain ⟨f, hf⟩ := localized_one (Target.ofCpu start) false w pc
  have htarget := h.target_eq hinside
  have hrecord : Target.ofCpu g = Target.ofCpu start := by
    rw [hinside.record]
    rfl
  rw [← hrecord, Target.ofCpu, Target.ofCpu, Target.mk.injEq] at htarget
  obtain ⟨hbig, hkeeps⟩ := hf n g bytes
  obtain ⟨hsmall, -⟩ := hf 0#32 cpu bytes
  rw [h.working_eq, htarget.1, htarget.2.2.2.1, htarget.2.2.2.2] at hsmall
  exact ⟨_, hkeeps, hbig, hsmall⟩

lemma Stands.effect (h : Stands start k g cpu) (hinside : Inside start ram g ram') {guest guest' : List Byte}
    (hsize : guest'.length = guest.length)
    (hword : fetchFails start.guestRamBase cpu.pc guest.length = false →
      blockWord (Target.ofCpu start) false guest' cpu.pc = blockWord (Target.ofCpu start) false guest cpu.pc)
    (remaining : ℕ) :
    (∃ status d target j ram'', j ≤ 1 ∧
      effectFrom (Target.ofCpu start) false guest (remaining + 1) (BitVec.ofNat 32 k) cpu.pc g ram' =
        .stops status (finished (put g d) target (BitVec.ofNat 32 (k + j))) ram'' ∧
      effectFrom (Target.ofCpu start) false guest' 1 0#32 cpu.pc cpu ram' =
        .stops status (finished (put cpu d) target (BitVec.ofNat 32 j)) ram'') ∨
    (remaining ≠ 0 ∧ fetchFails start.guestRamBase cpu.pc guest.length = false ∧ ∃ d ram'',
      effectOne (Target.ofCpu start) false (blockWord (Target.ofCpu start) false guest cpu.pc) cpu.pc (BitVec.ofNat 32 k) g
        ram' = .next (put g d) ram'' ∧
      effectFrom (Target.ofCpu start) false guest' 1 0#32 cpu.pc cpu ram' =
        .stops Status.next (finished (put cpu d) (cpu.pc + 4#64) (BitVec.ofNat 32 1)) ram'') := by
  rw [effectFrom, effectFrom, hsize]
  dsimp only
  by_cases hfetch : fetchFails start.guestRamBase cpu.pc guest.length = true
  · have hfails : false = false ∧ fetchFails (Target.ofCpu start).base cpu.pc guest.length = true := ⟨rfl, hfetch⟩
    rw [if_pos hfails, if_pos hfails]
    refine .inl ⟨Status.instructionAbort, working g, cpu.pc, 0, ram', by omega, rfl, ?_⟩
    rw [← h.working_eq]
    rfl
  have hfalse := eq_false_of_ne_true hfetch
  have hfetched : ¬(false = false ∧ fetchFails (Target.ofCpu start).base cpu.pc guest.length = true) :=
    fun hfails => hfetch hfails.2
  rw [if_neg hfetched, if_neg hfetched, hword hfalse]
  obtain ⟨out, -, hbig, hsmall⟩ := h.outcome hinside (blockWord (Target.ofCpu start) false guest cpu.pc) cpu.pc
    (BitVec.ofNat 32 k) ram'
  have hsucc : BitVec.ofNat 32 k + 1#32 = BitVec.ofNat 32 (k + 1) := (BitVec.ofNat_add k 1).symm
  rw [hbig, hsmall]
  cases out with
  | next d ram'' =>
    by_cases hlast : remaining = 0
    · subst hlast
      refine .inl ⟨Status.next, d, cpu.pc + 4#64, 1, ram'', le_refl 1, ?_, rfl⟩
      rw [← hsucc]
      rfl
    · exact .inr ⟨hlast, hfalse, d, ram'', rfl, rfl⟩
  | branches d target ram'' =>
    refine .inl ⟨Status.next, d, target, 1, ram'', le_refl 1, ?_, rfl⟩
    rw [← hsucc]
    rfl
  | halts d ram'' =>
    refine .inl ⟨Status.halt, d, cpu.pc + 4#64, 1, ram'', le_refl 1, ?_, rfl⟩
    rw [← hsucc]
    rfl
  | faults status d ram'' => exact .inl ⟨status, d, cpu.pc, 0, ram'', by omega, rfl, rfl⟩

lemma effectFrom_counts (t : Target) (provider : Bool) (guest : List Byte) {remaining : ℕ} (h : remaining ≠ 0) {n : ℕ}
    (hn : n + remaining ≤ 32) (pc : U64) (g : VfCpu) (ram : List Byte) :
    ∃ status g' ram' m, effectFrom t provider guest remaining (BitVec.ofNat 32 n) pc g ram = .stops status g' ram' ∧
      m ≤ remaining ∧ g'.retired = g.retired + BitVec.ofNat 64 (n + m) ∧
      (status = Status.next → 0 < m) ∧ (status ≠ Status.next → status ≠ Status.halt → m < remaining) := by
  induction remaining generalizing n pc g ram with
  | zero => exact absurd rfl h
  | succ remaining ih =>
    have hretired : ∀ i ≤ 32, ∀ (g : VfCpu) (target : U64),
        (finished g target (BitVec.ofNat 32 i)).retired = g.retired + BitVec.ofNat 64 i := by
      intro i hi g target
      rw [← signExtend_words hi]
      rfl
    have hsucc : BitVec.ofNat 32 n + 1#32 = BitVec.ofNat 32 (n + 1) := (BitVec.ofNat_add n 1).symm
    obtain ⟨out, hlocal⟩ := localized_one t provider (blockWord t provider guest pc) pc
    obtain ⟨heq, hkeeps⟩ := hlocal (BitVec.ofNat 32 n) g ram
    beta_reduce at heq
    rw [effectFrom]
    dsimp only
    split
    · exact ⟨_, _, _, 0, rfl, Nat.zero_le _, hretired n (by omega) g pc, fun h => absurd h (by decide),
        fun _ _ => Nat.succ_pos _⟩
    rw [heq, hsucc]
    cases hout : out g.currentEl g.hcrEl2 g.scrEl3 (working g) ram with
    | next d ram' =>
      dsimp only [Outcome.apply, Effect.andThen]
      split
      next hlast =>
        exact ⟨_, _, _, 1, rfl, by omega, hretired (n + 1) (by omega) _ _, fun _ => Nat.one_pos, fun h => absurd rfl h⟩
      next hlast =>
        obtain ⟨status, g', ram'', m, heffect, hm, hg', hnext, hfault⟩ :=
          ih hlast (show n + 1 + remaining ≤ 32 by omega) (pc + 4#64) (put g d) ram'
        refine ⟨status, g', ram'', m + 1, heffect, by omega, ?_, fun _ => Nat.succ_pos m,
          fun h h' => Nat.succ_lt_succ (hfault h h')⟩
        rw [hg', show n + (m + 1) = n + 1 + m by omega]
        rfl
    | branches d target ram' =>
      refine ⟨_, _, _, 1, rfl, by omega, ?_, fun _ => Nat.one_pos, fun h => absurd rfl h⟩
      rw [hsucc]
      exact hretired (n + 1) (by omega) _ _
    | halts d ram' =>
      refine ⟨_, _, _, 1, rfl, by omega, ?_, fun _ => Nat.one_pos, fun _ h => absurd rfl h⟩
      rw [hsucc]
      exact hretired (n + 1) (by omega) _ _
    | faults status d ram' =>
      rw [hout] at hkeeps
      exact ⟨_, _, _, 0, rfl, Nat.zero_le _, hretired n (by omega) _ _, fun h => absurd h hkeeps.1.1,
        fun _ _ => Nat.succ_pos _⟩

def Roomy (most capacity : ℕ) : Prop :=
  ∀ (t : Target) (guest : List Byte) (pc : U64) (limit : ℕ) (code : Buffer), limit ≤ most → code.capacity = capacity →
    (translateImpl code t false guest pc limit).1 = Status.next

lemma Roomy.mono {most fewer capacity : ℕ} (h : Roomy most capacity) (hle : fewer ≤ most) : Roomy fewer capacity :=
  fun t guest pc limit code hlimit => h t guest pc limit code (hlimit.trans hle)

lemma roomy_loader {capacity : ℕ} (h : 16384 ≤ capacity) : Roomy 32 capacity := by
  intro t guest pc limit code hlimit hcapacity
  exact translateImpl_fits (by omega) hlimit t false guest pc

section Run

variable {τ : Type} (caller : Caller) (pauth : Option PauthStep) {protect : Protect τ} {image : Image} {budget origin : U64}
  {most capacity : ℕ}

def Undisturbed (image : Image) (most : ℕ) (budget origin : U64) (s : RunState τ) : Prop :=
  s.cpu.sctlr &&& 1#64 = 0#64 → s.cpu.pollInterrupt.1 = Status.next →
    ∀ k < blockCount most budget origin s.cpu, ∀ g ram,
      reach (Target.ofCpu s.cpu) (image.bytes s.ram) k 0#32 s.cpu.pc s.cpu s.ram = some (g, ram) →
      fetchFails s.cpu.guestRamBase (s.cpu.pc + BitVec.ofNat 64 (4 * k)) image.size = false →
      blockWord (Target.ofCpu s.cpu) false (image.bytes ram) (s.cpu.pc + BitVec.ofNat 64 (4 * k)) =
        blockWord (Target.ofCpu s.cpu) false (image.bytes s.ram) (s.cpu.pc + BitVec.ofNat 64 (4 * k))

structure Ready (budget origin : U64) (s : RunState τ) : Prop where
  left : s.cpu.retired - origin < budget
  valid : s.cpu.stateValid = true
  mmuOff : s.cpu.sctlr &&& 1#64 = 0#64
  quiet : s.cpu.pollInterrupt.1 = Status.next

lemma blockCount_one {cpu : VfCpu} (hleft : cpu.retired - origin < budget) : blockCount 1 budget origin cpu = 1 := by
  unfold blockCount
  dsimp only
  split
  · rfl
  split
  · rfl
  · bv_omega

lemma blockCount_pos {cpu : VfCpu} (hmost : most ≠ 0) (hleft : cpu.retired - origin < budget) :
    blockCount most budget origin cpu ≠ 0 := by
  unfold blockCount
  dsimp only
  split
  · exact one_ne_zero
  split
  · exact hmost
  · bv_omega

lemma blockCount_le {cpu : VfCpu} (hmost : most ≠ 0) : blockCount most budget origin cpu ≤ most := by
  unfold blockCount
  dsimp only
  split
  · omega
  split <;> omega

lemma blockCount_left (most : ℕ) {cpu : VfCpu} (hleft : cpu.retired - origin < budget) :
    blockCount most budget origin cpu ≤ (budget - (cpu.retired - origin)).toNat := by
  unfold blockCount
  dsimp only
  split
  · bv_omega
  split <;> omega

lemma Ready.turn {s : RunState τ} (h : Ready budget origin s) (hprotect : ∀ o flag, (protect o flag).2 = 0#32)
    (hmost : most ≠ 0) (hroomy : Roomy most s.code.capacity) {status : U32} {g : VfCpu} {ram : List Byte}
    (heffect : blockEffect (Target.ofCpu s.cpu) false (image.bytes s.ram) s.cpu.pc
      (blockCount most budget origin s.cpu) s.cpu s.ram = .stops status g ram) :
    ∃ s' : RunState τ, s'.ram = ram ∧ s'.code.capacity = s.code.capacity ∧
      vfRunTurn caller pauth protect image most budget origin s =
        some (mapTurn (fun cpu => { s' with cpu := cpu })
          (dispatch (slowStep pauth) status (settle s.cpu.retired g))) := by
  refine vfRunTurn_block h.left h.valid h.mmuOff h.quiet (hprotect _ _) ?_ (hprotect _ _)
    (blockCount_pos hmost h.left) caller pauth heffect
  unfold vfTranslateCpu
  rw [if_neg (by simp [h.valid]), if_neg (not_not.mpr h.mmuOff)]
  exact hroomy _ _ _ _ _ (blockCount_le hmost) rfl

lemma left_word {cpu : VfCpu} (hleft : cpu.retired - origin < budget) {k : ℕ} (hk : k < blockCount most budget origin cpu) :
    cpu.retired + BitVec.ofNat 64 k - origin < budget := by
  have hwords := blockCount_left most hleft
  rw [Bits.add_sub_swap]
  generalize cpu.retired - origin = used at *
  have hbudget := budget.isLt
  rw [BitVec.lt_def] at hleft ⊢
  rw [BitVec.toNat_sub_of_le (BitVec.le_of_lt hleft)] at hwords
  rw [BitVec.toNat_add, BitVec.toNat_ofNat, Nat.mod_eq_of_lt (show k < 2 ^ 64 by omega), Nat.mod_eq_of_lt (by omega)]
  omega

lemma Stands.ready {s t : RunState τ} {g : VfCpu} {ram : List Byte} {k : ℕ} (h : Stands s.cpu k g t.cpu)
    (hinside : Inside s.cpu s.ram g ram) (hready : Ready budget origin s) (hmost : most ≠ 0) (hmost32 : most ≤ 32)
    (hk : k < blockCount most budget origin s.cpu) : Ready budget origin t := by
  have hcount : blockCount most budget origin s.cpu ≤ most := blockCount_le hmost
  have htarget := h.target_eq hinside
  rw [Target.ofCpu, Target.ofCpu, Target.mk.injEq] at htarget
  refine ⟨?_, (h.stateValid_eq hinside).trans hready.valid, ?_, h.quiet⟩
  · rw [h.retired_eq hinside (by omega)]
    exact left_word hready.left hk
  · rw [htarget.2.2.1]
    exact hready.mmuOff

lemma Ready.word {t : RunState τ} (h : Ready budget origin t) (hprotect : ∀ o flag, (protect o flag).2 = 0#32)
    (hroomy : Roomy 1 t.code.capacity) {target : Target} (htarget : Target.ofCpu t.cpu = target) {status : U32} {g : VfCpu}
    {ram : List Byte}
    (heffect : effectFrom target false (image.bytes t.ram) 1 0#32 t.cpu.pc t.cpu t.ram = .stops status g ram) :
    ∃ t' : RunState τ, t'.ram = ram ∧ t'.code.capacity = t.code.capacity ∧
      vfRunTurn caller pauth protect image 1 budget origin t =
        some (mapTurn (fun cpu => { t' with cpu := cpu })
          (dispatch (slowStep pauth) status (settle t.cpu.retired g))) := by
  refine h.turn caller pauth hprotect one_ne_zero hroomy ?_
  rw [blockCount_one h.left, blockEffect, htarget]
  exact heffect

lemma dispatch_next (slow : VfCpu → Option VfCpu) (cpu : VfCpu) : dispatch slow Status.next cpu = .again cpu := rfl

section Block

variable {s : RunState τ} (hready : Ready budget origin s) (hprotect : ∀ o flag, (protect o flag).2 = 0#32)
  (hmost : most ≠ 0) (hmost32 : most ≤ 32) (hstable : Undisturbed image most budget origin s) (hroomy : Roomy 1 capacity)

structure Between (image : Image) (capacity : ℕ) (s : RunState τ) (k : ℕ) (g : VfCpu) (t : RunState τ) : Prop where
  before : reach (Target.ofCpu s.cpu) (image.bytes s.ram) k 0#32 s.cpu.pc s.cpu s.ram = some (g, t.ram)
  stands : Stands s.cpu k g t.cpu
  capacity_eq : t.code.capacity = capacity

include hready hprotect hmost hmost32 hstable hroomy in
lemma Between.turn {t : RunState τ} {remaining k : ℕ} {g : VfCpu} (h : Between image capacity s k g t)
    (hcount : k + (remaining + 1) = blockCount most budget origin s.cpu) :
    (∃ (status : U32) (g' small : VfCpu) (t' : RunState τ), effectFrom (Target.ofCpu s.cpu) false (image.bytes s.ram) (remaining + 1) (BitVec.ofNat 32 k)
        t.cpu.pc g t.ram = .stops status g' t'.ram ∧
      t'.code.capacity = capacity ∧ small.counted 0#64 = (settle s.cpu.retired g').counted 0#64 ∧
      vfRunTurn caller pauth protect image 1 budget origin t =
        some (mapTurn (fun cpu => { t' with cpu := cpu }) (dispatch (slowStep pauth) status small))) ∨
    (remaining ≠ 0 ∧ ∃ (g' : VfCpu) (t' : RunState τ), Between image capacity s (k + 1) g' t' ∧
      effectFrom (Target.ofCpu s.cpu) false (image.bytes s.ram) (remaining + 1) (BitVec.ofNat 32 k) t.cpu.pc g t.ram =
        effectFrom (Target.ofCpu s.cpu) false (image.bytes s.ram) remaining (BitVec.ofNat 32 (k + 1)) t'.cpu.pc g' t'.ram ∧
      vfRunTurn caller pauth protect image 1 budget origin t = some (.again t')) := by
  obtain ⟨hreach, hstands, hcapacity⟩ := h
  have hinside := reach_inside hreach
  have hk : k < blockCount most budget origin s.cpu := by omega
  have hk32 : k + 1 ≤ 32 := (Nat.succ_le_of_lt hk).trans ((blockCount_le hmost).trans hmost32)
  have hreadyt := hstands.ready hinside hready hmost hmost32 hk
  have hsize : (image.bytes t.ram).length = (image.bytes s.ram).length := by
    rw [image.length_bytes, image.length_bytes]
  have hword : fetchFails s.cpu.guestRamBase t.cpu.pc (image.bytes s.ram).length = false →
      blockWord (Target.ofCpu s.cpu) false (image.bytes t.ram) t.cpu.pc =
        blockWord (Target.ofCpu s.cpu) false (image.bytes s.ram) t.cpu.pc := by
    intro hfetch
    rw [hstands.pc_eq] at hfetch ⊢
    rw [image.length_bytes] at hfetch
    exact hstable hready.mmuOff hready.quiet k hk g t.ram hreach hfetch
  rcases hstands.effect hinside hsize hword remaining with
    ⟨status, d, target, j, ram, hj, hbig, hsmall⟩ | ⟨hne, hfetch, d, ram, hnext, hsmall⟩
  · obtain ⟨t', hram, hcapacity', hturn⟩ := hreadyt.word caller pauth hprotect (hcapacity ▸ hroomy)
      (hstands.target_eq hinside) hsmall
    rw [← hram] at hbig
    exact .inl ⟨status, _, _, t', hbig, hcapacity'.trans hcapacity, hstands.settled hinside (by omega) d target, hturn⟩
  · obtain ⟨t', hram, hcapacity', hturn⟩ := hreadyt.word caller pauth hprotect (hcapacity ▸ hroomy)
      (hstands.target_eq hinside) hsmall
    rw [dispatch_next] at hturn
    have hpc := hstands.pc_eq
    rw [hpc] at hfetch
    have hreach' : reach (Target.ofCpu s.cpu) (image.bytes s.ram) (k + 1) 0#32 s.cpu.pc s.cpu s.ram =
        some (put g d, ram) := by
      rw [hpc] at hnext
      refine reach_snoc hreach hfetch ?_
      rw [BitVec.zero_add]
      exact hnext
    have hinputs : NoInputs s.cpu := @noInputs_of_blockCount _ most budget origin (by omega)
    refine .inr ⟨hne, put g d, { t' with
      cpu := settle t.cpu.retired (finished (put t.cpu d) (t.cpu.pc + 4#64) (BitVec.ofNat 32 1)) }, ⟨?_, hstands.next hinside hk32 hinputs (reach_inside hreach'),
      hcapacity'.trans hcapacity⟩, ?_, hturn⟩
    · rw [hreach', ← hram]
    · rw [effectFrom]
      dsimp only
      rw [if_neg (by
        rintro ⟨-, hfails⟩
        rw [hpc] at hfails
        exact Bool.false_ne_true (hfetch.symm.trans hfails)), hnext, Effect.andThen, if_neg hne, ← BitVec.ofNat_add, hram]
      rfl

include hready hprotect hmost hmost32 hstable hroomy in
lemma Between.block {t : RunState τ} {remaining k : ℕ} {g g' : VfCpu} {ram : List Byte} {status : U32}
    (h : Between image capacity s k g t) (hcount : k + (remaining + 1) = blockCount most budget origin s.cpu)
    (heffect : effectFrom (Target.ofCpu s.cpu) false (image.bytes s.ram) (remaining + 1) (BitVec.ofNat 32 k) t.cpu.pc g
      t.ram = .stops status g' ram) :
    ∃ (t₁ t₂ : RunState τ) (small : VfCpu), Visits (vfRunTurn caller pauth protect image 1 budget origin) t t₁ ∧
      t₂.ram = ram ∧ t₂.code.capacity = capacity ∧ small.counted 0#64 = (settle s.cpu.retired g').counted 0#64 ∧
      vfRunTurn caller pauth protect image 1 budget origin t₁ =
        some (mapTurn (fun cpu => { t₂ with cpu := cpu }) (dispatch (slowStep pauth) status small)) := by
  induction remaining generalizing k g t with
  | zero =>
    rcases h.turn caller pauth hready hprotect hmost hmost32 hstable hroomy hcount with
      ⟨status', g₁, small, t', hbig, hcapacity, hsmall, hturn⟩ | ⟨hne, -⟩
    · rw [hbig] at heffect
      cases heffect
      exact ⟨t, t', small, .refl, rfl, hcapacity, hsmall, hturn⟩
    · exact absurd rfl hne
  | succ remaining ih =>
    rcases h.turn caller pauth hready hprotect hmost hmost32 hstable hroomy hcount with
      ⟨status', g₁, small, t', hbig, hcapacity, hsmall, hturn⟩ | ⟨-, g₁, t', hbetween, hbig, hturn⟩
    · rw [hbig] at heffect
      cases heffect
      exact ⟨t, t', small, .refl, rfl, hcapacity, hsmall, hturn⟩
    · rw [hbig] at heffect
      obtain ⟨t₁, t₂, small, hvisits, hrest⟩ := ih hbetween (by omega) heffect
      exact ⟨t₁, t₂, small, hvisits.head hturn, hrest⟩

end Block

def early (budget origin : U64) (cpu : VfCpu) : Option (U32 × VfCpu) :=
  if ¬(cpu.retired - origin < budget) then some (Status.budget, cpu)
  else if cpu.sctlr &&& 1#64 ≠ 0#64 then some (Status.systemRegisterTrap, { cpu with instruction := 0#32 })
  else if cpu.pollInterrupt.1 ≠ Status.next then some cpu.pollInterrupt
  else if cpu.stateValid = false then some (Status.privilegeFault, cpu.commitStatus Status.privilegeFault)
  else none

lemma early_counted (cpu : VfCpu) (n : U64) :
    early budget origin (cpu.counted n) = (early budget origin cpu).map fun out => (out.1, out.2.counted n) := by
  unfold early
  rw [VfCpu.pollInterrupt_counted, VfCpu.commitStatus_counted]
  simp only [apply_ite (Option.map fun out : U32 × VfCpu => (out.1, out.2.counted n)), Option.map_none, Option.map_some]
  rfl

lemma ready_of_early {s : RunState τ} (h : early budget origin s.cpu = none) : Ready budget origin s := by
  unfold early at h
  by_cases hleft : s.cpu.retired - origin < budget
  swap
  · rw [if_pos hleft] at h
    cases h
  rw [if_neg (not_not.mpr hleft)] at h
  by_cases hmmu : s.cpu.sctlr &&& 1#64 = 0#64
  swap
  · rw [if_pos hmmu] at h
    cases h
  rw [if_neg (not_not.mpr hmmu)] at h
  by_cases hquiet : s.cpu.pollInterrupt.1 = Status.next
  swap
  · rw [if_pos hquiet] at h
    cases h
  rw [if_neg (not_not.mpr hquiet)] at h
  by_cases hvalid : s.cpu.stateValid = false
  · rw [if_pos hvalid] at h
    cases h
  · exact ⟨hleft, eq_true_of_ne_false hvalid, hmmu, hquiet⟩

lemma vfRunTurn_early (image : Image) (hprotect : ∀ o flag, (protect o flag).2 = 0#32) (most : ℕ) {s : RunState τ} {status : U32}
    {cpu : VfCpu} (h : early budget origin s.cpu = some (status, cpu)) :
    ∃ s' : RunState τ, s'.ram = s.ram ∧ s'.cpu = { cpu with status := status } ∧
      vfRunTurn caller pauth protect image most budget origin s = some (.done status s') := by
  unfold early at h
  unfold vfRunTurn
  dsimp only
  by_cases hleft : s.cpu.retired - origin < budget
  swap
  · rw [if_pos hleft] at h ⊢
    refine ⟨{ s with cpu := { cpu with status := status } }, rfl, rfl, ?_⟩
    cases h
    rfl
  rw [if_neg (not_not.mpr hleft)] at h ⊢
  by_cases hmmu : s.cpu.sctlr &&& 1#64 = 0#64
  swap
  · rw [if_pos hmmu] at h ⊢
    refine ⟨{ s with cpu := { cpu with status := status } }, rfl, rfl, ?_⟩
    cases h
    rfl
  rw [if_neg (not_not.mpr hmmu)] at h ⊢
  by_cases hquiet : s.cpu.pollInterrupt.1 = Status.next
  swap
  · rw [if_pos hquiet] at h ⊢
    refine ⟨{ s with cpu := { cpu with status := status } }, rfl, rfl, ?_⟩
    rw [Option.some.inj h]
    rfl
  rw [if_neg (not_not.mpr hquiet)] at h ⊢
  by_cases hvalid : s.cpu.stateValid = false
  swap
  · rw [if_neg hvalid] at h
    cases h
  rw [if_pos hvalid] at h
  refine ⟨{ s with cpu := { cpu with status := status }, opaque_ := (protect s.opaque_ false).1 }, rfl, rfl, ?_⟩
  unfold blockTurn vfTranslateCpu
  rw [VfCpu.pollInterrupt_next hquiet]
  dsimp only
  rw [if_neg (not_not.mpr (hprotect _ _)), if_pos hvalid]
  cases h
  rfl

lemma budget_uses {used : U64} (hleft : used < budget) {i : ℕ} (hpos : 0 < i) (hi : i ≤ (budget - used).toNat) :
    (budget - (used + BitVec.ofNat 64 i)).toNat < (budget - used).toNat := by
  have hbudget := budget.isLt
  have hsum : used + BitVec.ofNat 64 i ≤ budget := by
    rw [BitVec.lt_def] at hleft
    rw [BitVec.toNat_sub_of_le (BitVec.le_of_lt hleft)] at hi
    rw [BitVec.le_def, BitVec.toNat_add, BitVec.toNat_ofNat, Nat.mod_eq_of_lt (show i < 2 ^ 64 by omega),
      Nat.mod_eq_of_lt (by omega)]
    omega
  rw [BitVec.lt_def] at hleft
  rw [BitVec.toNat_sub_of_le hsum]
  rw [BitVec.toNat_sub_of_le (BitVec.le_of_lt hleft)] at hi ⊢
  rw [BitVec.toNat_add, BitVec.toNat_ofNat, Nat.mod_eq_of_lt (show i < 2 ^ 64 by omega), Nat.mod_eq_of_lt (by omega)]
  omega

lemma vfRunTurn_counts (hprotect : ∀ o flag, (protect o flag).2 = 0#32) (hmost : most ≠ 0) (hmost32 : most ≤ 32)
    (hroomy : Roomy most capacity) (s : RunState τ) (hcapacity : s.code.capacity = capacity) :
    ∃ turn, vfRunTurn caller pauth protect image most budget origin s = some turn ∧
      ∀ s', turn = .again s' → s'.code.capacity = capacity ∧
        (budget - (s'.cpu.retired - origin)).toNat < (budget - (s.cpu.retired - origin)).toNat := by
  rcases hearly : early budget origin s.cpu with - | ⟨status, cpu⟩
  swap
  · obtain ⟨s', -, -, hturn⟩ := vfRunTurn_early caller pauth image hprotect most hearly
    exact ⟨_, hturn, fun s' h => nomatch h⟩
  have hready := ready_of_early hearly
  have hcount := blockCount_pos hmost hready.left
  have hcount32 : blockCount most budget origin s.cpu ≤ 32 := (blockCount_le hmost).trans hmost32
  have hleft := blockCount_left most hready.left
  obtain ⟨status, g, ram, m, heffect, hm, hretired, hnext, hfault⟩ := effectFrom_counts (Target.ofCpu s.cpu) false
    (image.bytes s.ram) hcount (n := 0) (by omega) s.cpu.pc s.cpu s.ram
  obtain ⟨s₁, -, hcapacity₁, hturn⟩ := hready.turn caller pauth hprotect hmost (hcapacity ▸ hroomy) heffect
  refine ⟨_, hturn, fun s' h => ?_⟩
  cases hdispatch : dispatch (slowStep pauth) status (settle s.cpu.retired g) with
  | done status' cpu =>
    rw [hdispatch] at h
    cases h
  | again next =>
    rw [hdispatch] at h
    cases h
    refine ⟨hcapacity₁.trans hcapacity, ?_⟩
    have huses : ∃ i, 0 < i ∧ i ≤ blockCount most budget origin s.cpu ∧
        next.retired = s.cpu.retired + BitVec.ofNat 64 i := by
      rw [Nat.zero_add] at hretired
      rcases dispatch_again (fun _ _ h => slowStep_retired h) hdispatch with ⟨hstatus, rfl⟩ | ⟨hstatus, hhalt, hslow⟩
      · exact ⟨m, hnext hstatus, hm, hretired⟩
      · refine ⟨m + 1, Nat.succ_pos m, hfault hstatus hhalt, ?_⟩
        rw [hslow, BitVec.ofNat_add, ← BitVec.add_assoc, ← hretired]
        rfl
    obtain ⟨i, hpos, hi, hnextRetired⟩ := huses
    rw [hnextRetired, Bits.add_sub_swap]
    exact budget_uses hready.left hpos (hi.trans hleft)

structure Together (capacity : ℕ) (s t : RunState τ) : Prop where
  cpu : s.cpu.counted 0#64 = t.cpu.counted 0#64
  ram : s.ram = t.ram
  big : s.code.capacity = capacity
  small : t.code.capacity = capacity

def Ended (s t : RunState τ) : Prop := s.cpu.counted 0#64 = t.cpu.counted 0#64 ∧ s.ram = t.ram

section Matched

variable {s t : RunState τ} (hprotect : ∀ o flag, (protect o flag).2 = 0#32) (hmost : most ≠ 0) (hmost32 : most ≤ 32)
  (hroomy : Roomy most capacity) (hstable : Undisturbed image most budget origin s) (h : Together capacity s t)

include h in
lemma Together.between (hready : Ready budget origin s) : Between image capacity s 0 s.cpu t := by
  have hcpu := VfCpu.eq_counted h.cpu
  have hpassed : passed s.cpu 0 s.cpu = s.cpu := by
    unfold passed finished
    simp
  refine ⟨by rw [h.ram]; rfl, ⟨?_, ?_⟩, h.small⟩
  · rw [hpassed, refreshed, refreshed, h.cpu]
  · rw [hcpu, VfCpu.pollInterrupt_counted]
    exact hready.quiet

include hprotect hmost hmost32 hroomy hstable h in
lemma Together.turn {turn : Turn (RunState τ) U32}
    (hturn : vfRunTurn caller pauth protect image most budget origin s = some turn) :
    (∃ s' t', turn = .again s' ∧ Visits (vfRunTurn caller pauth protect image 1 budget origin) t t' ∧
      Together capacity s' t') ∨
    (∃ a s' t', turn = .done a s' ∧ Ends (vfRunTurn caller pauth protect image 1 budget origin) t a t' ∧ Ended s' t') := by
  have hcpu := VfCpu.eq_counted h.cpu
  rcases hearly : early budget origin s.cpu with - | ⟨status, cpu⟩
  swap
  · have hearly' : early budget origin t.cpu = some (status, cpu.counted t.cpu.compiledBlocks) := by
      rw [hcpu, early_counted, hearly]
      rfl
    obtain ⟨s', hram, hcpu', hbig⟩ := vfRunTurn_early caller pauth image hprotect most hearly
    obtain ⟨t', hram', hcpu'', hsmall⟩ := vfRunTurn_early caller pauth image hprotect 1 hearly'
    rw [hbig] at hturn
    cases hturn
    refine .inr ⟨status, s', t', rfl, ends_done hsmall, ?_, by rw [hram, hram', h.ram]⟩
    rw [hcpu', hcpu'']
    rfl
  have hready := ready_of_early hearly
  have hroomy₁ : Roomy 1 capacity := hroomy.mono (Nat.one_le_iff_ne_zero.mpr hmost)
  obtain ⟨remaining, hcount⟩ := Nat.exists_eq_succ_of_ne_zero (blockCount_pos hmost hready.left)
  obtain ⟨status, g, ram, heffect⟩ := effectFrom_stops (Target.ofCpu s.cpu) false (image.bytes s.ram)
    (Nat.succ_ne_zero remaining) 0#32 s.cpu.pc s.cpu s.ram
  have hpc : t.cpu.pc = s.cpu.pc := by
    rw [hcpu]
    rfl
  obtain ⟨s₁, hram₁, hcapacity₁, hbig⟩ := hready.turn caller pauth hprotect hmost (h.big.symm ▸ hroomy) (by rw [blockEffect, hcount]; exact heffect)
  obtain ⟨t₁, t₂, small, hvisits, hram₂, hcapacity₂, hsmall, hlast⟩ := (h.between hready).block caller pauth
    hready hprotect hmost hmost32 hstable hroomy₁ (show 0 + (remaining + 1) = _ by omega) (by rw [hpc, ← h.ram]; exact heffect)
  rw [VfCpu.eq_counted hsmall.symm, dispatch_counted] at hlast
  rw [hbig] at hturn
  cases hturn
  cases hdispatch : dispatch (slowStep pauth) status (settle s.cpu.retired g) with
  | again cpu =>
    rw [hdispatch] at hlast
    exact .inl ⟨_, _, rfl, hvisits.tail hlast, rfl, hram₁.trans hram₂.symm, hcapacity₁.trans h.big, hcapacity₂⟩
  | done a cpu =>
    rw [hdispatch] at hlast
    exact .inr ⟨a, _, _, rfl, hvisits.ends (ends_done hlast), rfl, hram₁.trans hram₂.symm⟩

end Matched

/-- The size of the blocks of a run shows in its block count, its code buffer and the owner's state only. -/
theorem vfRun_block_size (caller : Caller) (pauth : Option PauthStep) (protect : Protect τ)
    (hprotect : ∀ o flag, (protect o flag).2 = 0#32) (image : Image) (budget : U64) (s : RunState τ)
    (hroomy : Roomy 32 s.code.capacity)
    (hstable : ∀ s', Visits (vfRunTurn caller pauth protect image 32 budget s.cpu.retired) s s' →
      Undisturbed image 32 budget s.cpu.retired s') :
    ∃ status big small, vfRun caller pauth protect image budget s = some (status, big) ∧
      vfRunBlocks caller pauth protect image 1 budget s = some (status, small) ∧ Ended big small := by
  unfold vfRun vfRunBlocks
  by_cases hrejected : s.ram.length < 8 ∨ s.cpu.stateValid = false
  · rw [if_pos hrejected, if_pos hrejected]
    exact ⟨_, _, _, rfl, rfl, rfl, rfl⟩
  rw [if_neg hrejected, if_neg hrejected]
  have hroomy₁ : Roomy 1 s.code.capacity := hroomy.mono (by decide)
  have hmeasure : (budget - (s.cpu.retired - s.cpu.retired)).toNat < budget.toNat + 1 := by
    rw [BitVec.sub_self, BitVec.sub_zero]
    exact Nat.lt_succ_self _
  obtain ⟨status, big, hbig⟩ := iterate_ends (I := fun s' : RunState τ => s'.code.capacity = s.code.capacity)
    (fun s' => (budget - (s'.cpu.retired - s.cpu.retired)).toNat)
    (fun s' hs' => vfRunTurn_counts caller pauth hprotect (show 32 ≠ 0 by decide) (le_refl 32) hroomy s' hs')
    hmeasure rfl
  obtain ⟨status₁, small, hsmall⟩ := iterate_ends (I := fun s' : RunState τ => s'.code.capacity = s.code.capacity)
    (fun s' => (budget - (s'.cpu.retired - s.cpu.retired)).toNat)
    (fun s' hs' => vfRunTurn_counts caller pauth hprotect one_ne_zero (show 1 ≤ 32 by decide) hroomy₁ s' hs')
    hmeasure rfl
  obtain ⟨small', hends, hended⟩ := iterate_matched
    (R := fun s' t => Together s.code.capacity s' t ∧
      Visits (vfRunTurn caller pauth protect image 32 budget s.cpu.retired) s s')
    (fun s' t next hR hturn => by
      obtain ⟨htogether, hvisits⟩ := hR
      rcases htogether.turn caller pauth hprotect (show 32 ≠ 0 by decide) (le_refl 32) hroomy (hstable s' hvisits)
        hturn with ⟨_, t', hagain, hvisits', htogether'⟩ | ⟨_, _, _, hdone, -⟩
      · cases hagain
        exact ⟨t', hvisits', htogether', hvisits.tail hturn⟩
      · cases hdone)
    (fun s' t a next hR hturn => by
      obtain ⟨htogether, hvisits⟩ := hR
      rcases htogether.turn caller pauth hprotect (show 32 ≠ 0 by decide) (le_refl 32) hroomy (hstable s' hvisits)
        hturn with ⟨_, _, hagain, -⟩ | ⟨_, _, t', hdone, hends, hended⟩
      · cases hagain
      · cases hdone
        exact ⟨t', hends, hended⟩)
    ⟨⟨rfl, rfl, rfl, rfl⟩, .refl⟩ hbig
  obtain ⟨rfl, rfl⟩ := hends.unique ⟨_, hsmall⟩
  exact ⟨status, big, small', hbig, hsmall, hended⟩

end Run

section Example

-- add x0, x0, #1; cbz x1, .+8; a word that is skipped; HLT
def skipImage : Image where
  bytes _ := [0x00#8, 0x04#8, 0x00#8, 0x91#8, 0x41#8, 0x00#8, 0x00#8, 0xb4#8, 0xff#8, 0xff#8, 0xff#8, 0xff#8,
    0x00#8, 0x00#8, 0x40#8, 0xd4#8]
  size := 16
  length_bytes _ := rfl

def skipRun : RunState Unit := ⟨VfCpu.reset 1#32, List.replicate 8 0#8, ⟨List.replicate 16384 0#8, 0⟩, ()⟩

end Example

theorem vfRun_block_size_skip : (∀ (o : Unit) (_ : Bool), (o, 0#32).2 = 0#32) ∧ Roomy 32 skipRun.code.capacity ∧
    ∃ status big small,
      vfRun ⟨⟨0x10000#64, 0x20000#64⟩, fun _ => ⟨.word 0#64, .word 0#64, .word 0#64, .word 0#64, .undefined⟩⟩ none
        (fun o _ => (o, 0#32)) skipImage 8#64 skipRun = some (status, big) ∧
      vfRunBlocks ⟨⟨0x10000#64, 0x20000#64⟩, fun _ => ⟨.word 0#64, .word 0#64, .word 0#64, .word 0#64, .undefined⟩⟩ none
        (fun o _ => (o, 0#32)) skipImage 1 8#64 skipRun = some (status, small) ∧ Ended big small := by
  have hcapacity : skipRun.code.capacity = 16384 := List.length_replicate
  have hroomy : Roomy 32 skipRun.code.capacity := roomy_loader hcapacity.ge
  exact ⟨fun _ _ => rfl, hroomy, vfRun_block_size _ none (fun o _ => (o, 0#32)) (fun _ _ => rfl) skipImage 8#64 skipRun
    hroomy fun _ _ _ _ _ _ _ _ _ _ => rfl⟩

end Nextcore.Jit
