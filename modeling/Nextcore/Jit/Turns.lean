import Nextcore.Jit.BlockSize
import Nextcore.Jit.Faults
import Nextcore.Preos.Boundary

/-! One turn on both sides: the poll-free part of a turn with a block of one word, and
the step of the reference core at the same instruction. -/

namespace Nextcore.Jit

open Cpu Emit X86 Loop Preos

section Fetch

variable {ram : List Byte} {base : U64} {r : GuestCpuState}

lemma getD_drop (bs : List Byte) (i k : ℕ) : (bs.drop i).getD k 0#8 = bs.getD (i + k) 0#8 := by
  rw [List.getD_eq_getElem?_getD, List.getD_eq_getElem?_getD, List.getElem?_drop]

lemma word_loadLe {i : ℕ} (h : i + 4 ≤ ram.length) : ((Bytes.loadLe ram i 4).truncate 32 : U32) = word ram i := by
  obtain ⟨b0, b1, b2, b3, rest, hbytes⟩ : ∃ b0 b1 b2 b3 rest, ram.drop i = b0 :: b1 :: b2 :: b3 :: rest := by
    have hlength : 4 ≤ (ram.drop i).length := by
      rw [List.length_drop]
      omega
    match ram.drop i, hlength with
    | b0 :: b1 :: b2 :: b3 :: rest, _ => exact ⟨b0, b1, b2, b3, rest, rfl⟩
  have hget (k : ℕ) : ram.getD (i + k) 0#8 = (b0 :: b1 :: b2 :: b3 :: rest).getD k 0#8 := by
    rw [← getD_drop, hbytes]
  have hword : word ram i = b3 ++ b2 ++ b1 ++ b0 := by
    unfold word
    rw [hget 3, hget 2, hget 1, show ram.getD i 0#8 = ram.getD (i + 0) 0#8 from rfl, hget 0]
    rfl
  unfold Bytes.loadLe Bytes.slice
  rw [hword, hbytes]
  simp only [List.take_succ_cons, List.take_zero, Bytes.leValue]
  apply BitVec.eq_of_getLsbD_eq
  intro k hk
  simp only [BitVec.truncate_eq_setWidth, BitVec.getLsbD_setWidth, BitVec.getLsbD_or, BitVec.getLsbD_shiftLeft,
    BitVec.getLsbD_append]
  grind

inductive Unfetched (pc : U64) : ExceptionKind → Prop
  | outside (h : pc &&& 3#64 = 0#64) : Unfetched pc .instructionAbort
  | misaligned (h : pc &&& 3#64 ≠ 0#64) : Unfetched pc .alignmentFault

lemma fetch32_flat (hdisabled : r.mmu.enabled = false) :
    (fetchFails base r.pc ram.length = false →
      r.fetch32 RamBus.bus ⟨ram, base⟩ = (.ok (word ram (r.pc - base).toNat), r)) ∧
    (fetchFails base r.pc ram.length = true →
      ∃ kind, Unfetched r.pc kind ∧ r.fetch32 RamBus.bus ⟨ram, base⟩ = (.error kind, r)) := by
  unfold GuestCpuState.fetch32
  by_cases haligned : r.pc &&& 3#64 = 0#64
  swap
  · rw [if_pos haligned]
    refine ⟨fun h => ?_, fun _ => ⟨_, .misaligned haligned, rfl⟩⟩
    rw [fetchFails, decide_eq_false_iff_not] at h
    exact absurd (Or.inl haligned) h
  have hthree : r.pc &&& (BitVec.ofNat 64 4 - 1#64) = 0#64 := haligned
  have haddress : r.mmuAddress RamBus.bus ⟨ram, base⟩ r.pc 4 .execute = (.ok r.pc, r) := by
    unfold GuestCpuState.mmuAddress Mmu.VfMmu.translateDetailed
    rw [if_neg fun hm => hm.2.1 hthree, if_neg fun hm => hm.2 haligned, if_pos hdisabled]
  rw [if_neg (not_not.mpr haligned), haddress]
  dsimp only [RamBus.bus]
  have hlast : ¬0xfffffffffffffffc#64 < r.pc := by
    intro hlt
    rw [BitVec.lt_def] at hlt
    have hmod : r.pc.toNat % 4 = 0 := by
      have hnat := congrArg BitVec.toNat haligned
      rwa [BitVec.toNat_and, show (3#64 : U64).toNat = 2 ^ 2 - 1 from rfl, Nat.and_two_pow_sub_one_eq_mod] at hnat
    have hpc := r.pc.isLt
    rw [show (0xfffffffffffffffc#64 : U64).toNat = 2 ^ 64 - 4 from rfl] at hlt
    omega
  by_cases hin : base ≤ r.pc ∧ (r.pc - base).toNat + (4#32 : U32).toNat ≤ ram.length
  · have hread := read_inside hin .execute
    have hspan : (r.pc - base).toNat + 4 ≤ ram.length := hin.2
    rw [show (4#32 : U32).toNat = 4 from rfl] at hread
    rw [hread]
    dsimp only
    rw [word_loadLe hspan]
    refine ⟨fun _ => rfl, fun h => ?_⟩
    rw [fetchFails, decide_eq_true_eq] at h
    rcases h with h | h | h | h | h
    · exact absurd haligned h
    · omega
    · exact absurd h (BitVec.not_lt.mpr hin.1)
    · omega
    · exact absurd h hlast
  · have hread := read_outside hin .execute
    rw [show (4#32 : U32).toNat = 4 from rfl] at hread
    rw [hread]
    refine ⟨fun h => ?_, fun _ => ⟨_, .outside haligned, rfl⟩⟩
    rw [fetchFails, decide_eq_false_iff_not, not_or, not_or, not_or] at h
    obtain ⟨-, hsize, hbelow, hspan⟩ := h
    rw [not_or] at hspan
    refine absurd ⟨BitVec.not_lt.mp hbelow, ?_⟩ hin
    change _ + 4 ≤ _
    omega

end Fetch

section Pstate

variable {w : U32} {t : Target} {cpu : VfCpu}

def isDaif (w : U32) : Bool := w &&& 0xfffff0ff#32 = 0xd50340df#32 ∨ w &&& 0xfffff0ff#32 = 0xd50340ff#32

lemma pstate_bits (h : isDaif w = true ∨ isSpSel w = true) : w &&& 0xfff8f01f#32 = 0xd500401f#32 := by
  simp only [isDaif, isSpSel, decide_eq_true_eq] at h
  rcases h with (h | h) | h <;> exact (and_of_and h (by decide)).trans (by decide)

variable (h : w &&& 0xfff8f01f#32 = 0xd500401f#32)

include h

lemma pstate_key : sysregKey w < 0x4000#32 := by
  have hbit : w &&& 0x80000#32 = 0#32 := (and_of_and h (by decide)).trans (by decide)
  have hshift : (w >>> 5) &&& 0x4000#32 = 0#32 := by
    rw [show 0x4000#32 = 0x80000#32 >>> 5 by decide, ← BitVec.ushiftRight_and_distrib, hbit]
    rfl
  have hkey : sysregKey w = (w >>> 5) &&& 0x3fff#32 := by
    rw [sysregKey, show 0x7fff#32 = 0x3fff#32 ||| 0x4000#32 by decide, BitVec.and_or_distrib_left, hshift, BitVec.or_zero]
  rw [hkey, BitVec.lt_def, BitVec.toNat_and]
  exact lt_of_le_of_lt Nat.and_le_right (by decide)

lemma pstate_ofKey : Sysreg.ofKey (sysregKey w) = none := by
  have hkeys : ∀ r ∈ Sysreg.all, ¬r.key < 0x4000#32 := by decide
  rw [Sysreg.ofKey, List.find?_eq_none]
  intro r hr heq
  exact hkeys r hr (by rw [of_decide_eq_true heq]; exact pstate_key h)

lemma pstate_ne {b : U32} (hb : b &&& 0xfff8f01f#32 ≠ 0xd500401f#32) : ¬w = b := ne_of_mask h hb

lemma systemRegisterSlowStep_pstate (hinstruction : cpu.instruction = w) : systemRegisterSlowStep cpu = none := by
  have hread : isRead w = false := by
    have hbit : w &&& 0x00200000#32 = 0#32 := (and_of_and h (by decide)).trans (by decide)
    simp only [isRead, hbit, ne_eq, not_true_eq_false, decide_false]
  have hwrite (value : U64) : (cpu.writeSysreg (sysregKey w) value).1 ≠ .ok := by
    unfold VfCpu.writeSysreg
    rw [pstate_ofKey h]
    split
    all_goals
      intro hok
      cases hok
  unfold systemRegisterSlowStep
  dsimp only
  rw [hinstruction, hread]
  split
  · rfl
  rw [if_neg Bool.false_ne_true]
  specialize hwrite (sourceOf cpu w)
  generalize cpu.writeSysreg (sysregKey w) (sourceOf cpu w) = out at hwrite
  obtain ⟨result, next⟩ := out
  cases result with
  | ok => exact absurd rfl hwrite
  | _ => rfl

lemma pauthStep_pstate (r : GuestCpuState) : r.pauthStep w = none := by
  have hkey {k : U32} (hk : 0x4000#32 ≤ k) : ¬k ≤ Pauth.syskeyOf w := by
    intro hle
    exact absurd (pstate_key h) (BitVec.not_lt.mpr (BitVec.le_trans hk hle))
  have hkeyNe {k : U32} (hk : 0x4000#32 ≤ k) : ¬Pauth.syskeyOf w = k := fun heq => hkey hk (heq ▸ BitVec.le_refl k)
  have hslot : Pauth.keySlot (Pauth.syskeyOf w) = none := by
    unfold Pauth.keySlot
    rw [if_neg fun hm => hkey (by decide) hm.1, if_neg fun hm => hkey (by decide) hm.1,
      if_neg fun hm => hkey (by decide) hm.1]
  have haccess : Pauth.isRegisterAccess w = false := by
    simp only [Pauth.isRegisterAccess, hslot, hkeyNe (show 0x4000#32 ≤ 0x4080#32 by decide),
      hkeyNe (show 0x4000#32 ≤ 0x4102#32 by decide), hkeyNe (show 0x4000#32 ≤ 0x4031#32 by decide), Option.isSome_none,
      decide_false, Bool.or_false, Bool.and_false]
  have hstrip : ¬w &&& 0xfffffbff#32 = 0xdac143e0#32 ||| (w &&& 31#32) := by
    intro heq
    have hhigh := congrArg (· &&& 0xffe00000#32) heq
    simp only [BitVec.and_assoc, BitVec.and_or_distrib_right] at hhigh
    rw [show (31#32 &&& 0xffe00000#32) = 0#32 by decide, BitVec.and_zero,
      show (0xfffffbff#32 &&& 0xffe00000#32) = 0xffe00000#32 by decide, and_of_and h (by decide)] at hhigh
    exact absurd hhigh (by decide)
  have hdecode (c : Pauth.PauthContext) : Pauth.decode c w = none := by
    unfold Pauth.decode
    dsimp only
    rw [if_neg (mask_ne h (by decide)), if_neg hstrip, if_neg (pstate_ne h (by decide)), if_neg (mask_ne h (by decide)),
      if_neg (mask_ne h (by decide)), if_neg (mask_ne h (by decide)), if_neg (mask_ne h (by decide)),
      if_neg (not_or.mpr ⟨pstate_ne h (by decide), pstate_ne h (by decide)⟩)]
  unfold GuestCpuState.pauthStep Pauth.step
  dsimp only
  rw [if_neg (mask_ne h (by decide)), haccess, hdecode]
  split <;> rfl

lemma effectOne_pstate (hw : isDaif w = true ∨ isSpSel w = true) (pc : U64) (n : U32) :
    effectOne t false w pc n =
      stopEffect w pc n (if t.currentEl = 0#32 then Status.privilegeFault else Status.systemRegisterTrap) := by
  have hkey {k : U32} (hk : 0x4000#32 ≤ k) : sysregKey w ≠ k := by
    rintro rfl
    exact absurd (pstate_key h) (BitVec.not_lt.mpr hk)
  have hreturn : isExceptionReturn w = false :=
    decide_eq_false (not_or.mpr ⟨pstate_ne h (by decide), not_or.mpr ⟨pstate_ne h (by decide), pstate_ne h (by decide)⟩⟩)
  have hid : isIdRead w = false := by
    refine decide_eq_false fun hmem => ?_
    simp only [List.mem_cons, List.not_mem_nil, or_false] at hmem
    rcases hmem with hm | hm | hm | hm | hm | hm | hm | hm | hm | hm <;> exact mask_ne h (by decide) hm
  have hthread : threadOffset (sysregKey w) = 0#32 := by
    unfold threadOffset
    rw [if_neg (hkey (by decide)), if_neg (hkey (by decide)), if_neg (hkey (by decide))]
  have hmemory : memoryFamily w = false := memoryFamily_other (mask_ne h (by decide))
  have hsystem : isSystemEncoding w = true := decide_eq_true ((and_of_and h (by decide)).trans (by decide))
  have hprivileged : knownPrivileged w t.currentEl = decide (t.currentEl = 0#32) := by
    unfold knownPrivileged
    rw [hreturn, if_neg Bool.false_ne_true, if_neg, if_pos]
    · simpa only [isDaif, isSpSel, decide_eq_true_eq, or_assoc] using hw
    · exact not_or.mpr ⟨pstate_ne h (by decide), not_or.mpr ⟨pstate_ne h (by decide), not_or.mpr
        ⟨mask_ne h (by decide), mask_ne h (by decide)⟩⟩⟩
  unfold effectOne
  rw [if_neg fun hm => hkey (by decide) hm.2.1, if_neg fun hm => hm.2.elim (hkey (by decide)) (hkey (by decide)),
    if_neg fun hm => Bool.false_ne_true hm.1, if_neg (mask_ne h (by decide)), if_neg (mask_ne h (by decide)),
    if_neg (mask_ne h (by decide)), if_neg (mask_ne h (by decide)), if_neg (mask_ne h (by decide)),
    if_neg (mask_ne h (by decide)), if_neg (mask_ne h (by decide)), hid, if_neg Bool.false_ne_true,
    if_neg fun hm => hm.2 hthread,
    if_neg (not_or.mpr ⟨mask_ne h (by decide), mask_ne_or h (by decide) (by decide)⟩),
    if_neg (mask_ne h (by decide)), if_neg (mask_ne h (by decide)), if_neg (mask_ne h (by decide)),
    if_neg (mask_ne h (by decide)), if_neg (mask_ne h (by decide)), hmemory, if_neg Bool.false_ne_true,
    if_neg (mask_ne h (by decide)), if_neg (mask_ne h (by decide)), if_neg (mask_ne h (by decide)),
    if_neg (mask_ne h (by decide)), if_neg (not_or.mpr ⟨mask_ne h (by decide), mask_ne_or h (by decide) (by decide)⟩),
    if_neg (pstate_ne h (by decide)), if_neg (pstate_ne h (by decide))]
  unfold systemBoundary
  rw [hprivileged, hreturn, hsystem, if_neg Bool.false_ne_true, if_neg Bool.true_eq_false_eq_False,
    if_neg (pstate_ne h (by decide))]
  by_cases hel : t.currentEl = 0#32
  · simp only [hel, decide_true, if_true]
    rfl
  · simp only [hel, decide_false, Bool.false_eq_true, if_false]
    rfl

lemma executeWord_daif (hdaif : isDaif w = true) (r : GuestCpuState) (s : RamBus) :
    r.executeWord RamBus.bus s w = r.privileged s w (.resume, (r.daifStep w).advance, s) := by
  rw [isDaif, decide_eq_true_eq] at hdaif
  unfold GuestCpuState.executeWord GuestCpuState.systemStep
  rw [pauthStep_pstate h, if_neg (pstate_ne h (by decide)), if_neg (mask_ne h (by decide)),
    if_neg (not_or.mpr ⟨pstate_ne h (by decide), pstate_ne h (by decide)⟩), if_pos hdaif]

lemma executeWord_spSel (hsel : isSpSel w = true) (r : GuestCpuState) (s : RamBus) :
    r.executeWord RamBus.bus s w = r.privileged s w (.resume, (r.spselStep w).advance, s) := by
  rw [isSpSel, decide_eq_true_eq, show (0xfffffeff#32 : U32) = ~~~0x100#32 by decide] at hsel
  unfold GuestCpuState.executeWord GuestCpuState.systemStep
  rw [pauthStep_pstate h, if_neg (pstate_ne h (by decide)), if_neg (mask_ne h (by decide)),
    if_neg (not_or.mpr ⟨pstate_ne h (by decide), pstate_ne h (by decide)⟩),
    if_neg (mask_ne_or hsel (by decide) (by decide)), if_pos hsel]

end Pstate

section Dispatch

variable {w : U32} {cpu : VfCpu} {slow : VfCpu → Option VfCpu} {status : U32}

lemma slowStep_plain (hw : Plain w) (hinstruction : cpu.instruction = w) : slowStep none cpu = none := by
  have hsystem : systemRegisterSlowStep cpu = none := by
    unfold systemRegisterSlowStep
    dsimp only
    rw [hinstruction, hw.mrsMsr, if_pos rfl]
  have hpstate : pstateSlowStep cpu = none := by
    have hsel : isSpSel w = false := decide_eq_false (hw.not_system (by decide) (by decide))
    unfold pstateSlowStep
    dsimp only
    rw [hinstruction, hsel]
    split
    · rfl
    rw [if_neg (not_or.mpr ⟨hw.not_system (by decide) (by decide), hw.not_system (by decide) (by decide)⟩),
      if_neg Bool.false_ne_true]
  rw [slowStep, hsystem, hpstate]
  rfl

lemma dispatch_stops (hslow : status = Status.undefinedInstruction ∨ status = Status.systemRegisterTrap → slow cpu = none)
    (hfp : cpu.fpExecutionProfile = 0#32) (hnext : status ≠ Status.next) :
    dispatch slow status cpu = .done status { cpu.commitStatus status with status := status } := by
  have hsame : researchSystemRegisterFailure cpu status = status := by
    unfold researchSystemRegisterFailure
    rw [if_neg]
    rintro ⟨-, hprofile, -⟩
    rw [hfp] at hprofile
    cases hprofile
  unfold dispatch
  dsimp only
  rw [hsame, if_pos hnext]
  split
  next hrefused =>
    rw [hslow hrefused]
    rfl
  · rfl

lemma commitStatus_registers (cpu : VfCpu) (status : U32) :
    ((cpu.commitStatus status).x, (cpu.commitStatus status).sp, (cpu.commitStatus status).pstate, (cpu.commitStatus status).pc,
      (cpu.commitStatus status).retired) = (cpu.x, cpu.sp, cpu.pstate, cpu.pc, cpu.retired) := by
  cases hexception : ({ cpu with status := status } : VfCpu).statusException status with
  | none =>
    rw [VfCpu.commitStatus_none hexception]
  | some out =>
    obtain ⟨kind, far, instruction⟩ := out
    rw [VfCpu.commitStatus_some hexception]
    unfold VfCpu.raiseException
    split
    · rfl
    · obtain ⟨spEl, hsave⟩ := ({ cpu with status := status } : VfCpu).saveActiveSp_eq
      simp only [Option.getD_some, VfCpu.recordException, hsave]

end Dispatch

/-- The record with other stack banks, thread registers and ID_AA64ISAR1, which the words of a program need not reach. -/
def veiled (c : VfCpu) (banks : Fin 4 → U64) (hidden : U64 × U64 × U64 × U64) : VfCpu :=
  { c with
    spEl := banks, tpidrEl0 := hidden.1, tpidrroEl0 := hidden.2.1, tpidrEl1 := hidden.2.2.1
    idAa64isar1 := hidden.2.2.2 }

structure Silent (r : GuestCpuState) : Prop where
  irq : r.platform.irq = false
  fiq : r.platform.fiq = false
  timer : r.timer.ctl &&& 1#64 = 0#64
  virtualTimer : r.virtualTimer.ctl &&& 1#64 = 0#64

structure Room (r : GuestCpuState) : Prop where
  retired : r.retired ≠ BitVec.allOnes 64
  counter : r.timer.counter ≠ BitVec.allOnes 64
  virtual : r.virtualTimer.counter ≠ BitVec.allOnes 64

/-- Both engines between two instructions, with the MMU off. Where the stack banks differ, no interrupt may come that
would show it. -/
structure Linked (rel : VfCpu → GuestCpuState → Prop) (exact : Bool) (base : U64) (c : VfCpu) (r : GuestCpuState) : Prop where
  matched : ∃ banks hidden, (exact = true → banks = c.spEl) ∧ rel (veiled c banks hidden) r
  base_eq : c.guestRamBase = base
  pending : c.exceptionPending = Exception.none
  routed : r.smp.externalPending = 0#64
  profile : r.platform.profile ≤ 1#32
  off : r.sys.sctlrEl1 &&& 1#64 = 0#64
  silent : exact = false → Silent r

section Linked

variable {exact : Bool} {base : U64} {c : VfCpu} {r r' : GuestCpuState} {d : Working}

lemma Linked.unsettled (h : Linked Matches exact base c r) : Linked Unsettled exact base c r :=
  { h with
    matched := by
      obtain ⟨banks, hidden, hbanks, hmatch⟩ := h.matched
      exact ⟨banks, hidden, hbanks, hmatch.toUnsettled⟩ }

lemma Linked.worked (h : Linked Unsettled exact base c r) (hworked : Worked r r') (halike : Alike (put c d) r')
    (hvalid : (put c d).stateValid = true) (count : U64) :
    Linked Unsettled exact base { put c d with pc := r'.pc, retired := count } { r' with retired := count } := by
  obtain ⟨banks, hidden, hbanks, hmatch⟩ := h.matched
  obtain ⟨x, sp, pstate, pc, exclusive, rfl⟩ := hworked
  refine ⟨⟨banks, hidden, hbanks, ?_⟩, h.base_eq, h.pending, h.routed, h.profile, h.off, fun hfalse => ?_⟩
  · exact { hmatch with
      valid := hvalid, x := halike.x, sp := halike.sp, pc := rfl, pstate := halike.pstate, retired := rfl }
  · obtain ⟨hirq, hfiq, htimer, hvirtual⟩ := h.silent hfalse
    exact ⟨hirq, hfiq, htimer, hvirtual⟩

lemma Linked.tick (h : Linked Unsettled exact base c r) (hcounter : r.timer.counter ≠ BitVec.allOnes 64)
    (hvirtual : r.virtualTimer.counter ≠ BitVec.allOnes 64) (n : U64) :
    Linked Matches exact base ((c.advanceCounter 1#64).counted n) (r.advanceCounter 1#64) := by
  obtain ⟨banks, hidden, hbanks, hmatch⟩ := h.matched
  refine ⟨⟨banks, hidden, hbanks, ?_⟩, h.base_eq, h.pending, h.routed, h.profile, h.off, fun hfalse => ?_⟩
  · have hadvanced := advanceCounter_matches hmatch (hmatch.counter ▸ hcounter) (hmatch.virtualCounter ▸ hvirtual)
    exact { hadvanced with valid := hadvanced.valid }
  · obtain ⟨hirq, hfiq, htimer, hvirtual⟩ := h.silent hfalse
    exact ⟨hirq, hfiq, (GuestCpuState.settled_bit _ (Or.inl rfl)).trans htimer,
      (GuestCpuState.settled_bit _ (Or.inl rfl)).trans hvirtual⟩

lemma Linked.reported (h : Linked Matches exact base c r) (status : U32) :
    Linked Matches exact base { c with status := status } r := by
  obtain ⟨banks, hidden, hbanks, hmatch⟩ := h.matched
  exact { h with matched := ⟨banks, hidden, hbanks, { hmatch with valid := hmatch.valid }⟩ }

lemma saturatingAdd_one {a : U64} (h : a ≠ BitVec.allOnes 64) : saturatingAdd a 1#64 = a + 1#64 := by
  have ha := a.isLt
  have hne : a.toNat ≠ 2 ^ 64 - 1 := fun heq => h (BitVec.eq_of_toNat_eq heq)
  apply BitVec.eq_of_toNat_eq
  rw [GuestCpuState.toNat_saturatingAdd, BitVec.toNat_add, show (1#64 : U64).toNat = 1 from rfl, Nat.mod_eq_of_lt (by omega)]
  omega

lemma Linked.retires (h : Linked Unsettled exact base c r) (hroom : Room r) (hworked : Worked r r')
    (halike : Alike (put c d) r') (hvalid : (put c d).stateValid = true) (s : RamBus) :
    Linked Matches exact base (settle c.retired (finished (put c d) r'.pc (BitVec.ofNat 32 1))) (r'.retire RamBus.bus s).1 := by
  have hretired : c.retired = r.retired := by
    obtain ⟨banks, hidden, -, hmatch⟩ := h.matched
    exact hmatch.retired
  have hcount : r'.retired = r.retired ∧ r'.timer = r.timer ∧ r'.virtualTimer = r.virtualTimer := by
    obtain ⟨x, sp, pstate, pc, exclusive, rfl⟩ := hworked
    exact ⟨rfl, rfl, rfl⟩
  have hlinked := h.worked hworked halike hvalid (c.retired + BitVec.ofNat 64 1)
  have htick := hlinked.tick (hcount.2.1 ▸ hroom.counter) (hcount.2.2 ▸ hroom.virtual) (c.compiledBlocks + 1#64)
  have hwords : (settle c.retired (finished (put c d) r'.pc (BitVec.ofNat 32 1))).counted 0#64 =
      (VfCpu.advanceCounter { put c d with pc := r'.pc, retired := c.retired + BitVec.ofNat 64 1 } 1#64).counted 0#64 :=
    settle_words c (by decide) d r'.pc
  have hsettle := VfCpu.eq_counted hwords.symm
  have hretire : (r'.retire RamBus.bus s).1 = { r' with retired := c.retired + BitVec.ofNat 64 1 }.advanceCounter 1#64 := by
    change { r' with retired := saturatingAdd r'.retired 1#64 }.advanceCounter 1#64 = _
    rw [hcount.1, saturatingAdd_one hroom.retired, hretired]
  rw [hretire, hsettle]
  exact htick

lemma Linked.recorded (h : Linked Unsettled exact base c r) (w : U32) :
    Linked Unsettled exact base (settle c.retired (finished { c with instruction := w } c.pc 0#32)) r := by
  obtain ⟨banks, hidden, hbanks, hmatch⟩ := h.matched
  exact { h with matched := ⟨banks, hidden, hbanks, unsettled_stopped hmatch w c.far⟩ }

end Linked

/-- The words that both engines run as a program; MSR SPSel shows the stack banks. -/
inductive Portable (exact : Bool) : U32 → Prop
  | common {w : U32} (h : Common w) : Portable exact w
  | nop : Portable exact 0xd503201f#32
  | halt : Portable exact 0xd4400000#32
  | daif {w : U32} (h : isDaif w = true) : Portable exact w
  | stack {w : U32} (h : isSpSel w = true) (hexact : exact = true) : Portable exact w

inductive Stops (pc : U64) : ExceptionKind → U32 → Prop
  | reported {kind : ExceptionKind} {status : U32} (h : Reports kind status) : Stops pc kind status
  | privileged : Stops pc .privilegedInstruction Status.privilegeFault
  | unfetched {kind : ExceptionKind} (h : Unfetched pc kind) : Stops pc kind Status.instructionAbort

inductive Answers (exact : Bool) (base : U64) : Turn VfCpu U32 → List Byte → GuestCpuState.Outcome RamBus → Prop
  | resumes {c : VfCpu} {ram : List Byte} {r : GuestCpuState}
      (h : Linked Matches exact base c (r.retire RamBus.bus ⟨ram, base⟩).1) :
      Answers exact base (.again c) ram (.resume, r, ⟨ram, base⟩)
  | halts {c : VfCpu} {ram : List Byte} {r : GuestCpuState}
      (h : Linked Matches exact base c (r.retire RamBus.bus ⟨ram, base⟩).1) :
      Answers exact base (.done Status.halt c) ram (.halt, r, ⟨ram, base⟩)
  | faults {c : VfCpu} {ram : List Byte} {r : GuestCpuState} {kind : ExceptionKind} {status : U32}
      (hstatus : Stops r.pc kind status) (halike : Alike c r) (hpc : c.pc = r.pc) (hretired : c.retired = r.retired)
      (hheld : ∃ e, r.pendingException = some e ∧ e.kind = kind) :
      Answers exact base (.done status c) ram (.exception kind, r, ⟨ram, base⟩)

def wordEffect (t : Target) (w : U32) (pc : U64) (g : VfCpu) (ram : List Byte) : Effect :=
  (effectOne t false w pc 0#32 g ram).andThen fun g ram => .stops Status.next (finished g (pc + 4#64) 1#32) ram

lemma effectFrom_word (t : Target) (guest : List Byte) (pc : U64) (g : VfCpu) (ram : List Byte) :
    effectFrom t false guest 1 0#32 pc g ram =
      if fetchFails t.base pc guest.length = true then .stops Status.instructionAbort (finished g pc 0#32) ram
      else wordEffect t (blockWord t false guest pc) pc g ram := by
  rw [effectFrom]
  simp only [true_and]
  rfl

section Words

variable {exact : Bool} {base : U64} {c : VfCpu} {r r' : GuestCpuState} {ram ram' : List Byte} {w : U32}

lemma effectOne_branches {t : Target} {provider : Bool} {pc : U64} {n : U32} {g g' : VfCpu}
    (h : effectOne t provider w pc n g ram = .stops Status.next g' ram') :
    ∃ d target, g' = finished (put g d) target (n + 1#32) ∧ Inside g ram (put g d) ram' := by
  obtain ⟨f, hf⟩ := localized_one t provider w pc
  obtain ⟨heq, hkeeps⟩ := hf n g ram
  beta_reduce at heq
  rw [h] at heq
  generalize f g.currentEl g.hcrEl2 g.scrEl3 (working g) ram = out at heq hkeeps
  cases out with
  | next d ram => cases heq
  | branches d target ram =>
    cases heq
    exact ⟨d, target, rfl, rfl, hkeeps.1, congrArg List.length hkeeps.2⟩
  | halts d ram => cases heq
  | faults status d ram =>
    injection heq with hstatus
    exact absurd hstatus.symm hkeeps.1.1

lemma raise_registers (r : GuestCpuState) (e : GuestException) :
    ((r.raise e).x, (r.raise e).sp, (r.raise e).pstate, (r.raise e).pc, (r.raise e).retired) =
      (r.x, r.sp, r.pstate, r.pc, r.retired) := by
  unfold GuestCpuState.raise GuestCpuState.writeExceptionBank
  split
  · rfl
  · dsimp only
    split <;> rfl

lemma stopped_registers (c : VfCpu) (w : U32) (far : U64) :
    let g := settle c.retired (finished { c with instruction := w, far := far } c.pc 0#32)
    (g.x, g.sp, g.pstate, g.pc, g.retired) = (c.x, c.sp, c.pstate, c.pc, c.retired) := by
  change (c.x, c.sp, c.pstate, c.pc, c.retired + 0#64) = _
  rw [BitVec.add_zero]

lemma answers_raised {c g : VfCpu} {r : GuestCpuState} (hnone : r.pendingException = none) (halike : Alike c r)
    (hpc : c.pc = r.pc) (hretired : c.retired = r.retired)
    (hregisters : (g.x, g.sp, g.pstate, g.pc, g.retired) = (c.x, c.sp, c.pstate, c.pc, c.retired)) (e : GuestException)
    {status : U32} (hstatus : Stops r.pc e.kind status) :
    Answers exact base (.done status { g.commitStatus status with status := status }) ram
      (.exception e.kind, r.raise e, ⟨ram, base⟩) := by
  have hcommitted := (commitStatus_registers g status).trans hregisters
  have hraised := raise_registers r e
  simp only [Prod.mk.injEq] at hcommitted hraised
  obtain ⟨hx, hsp, hpstate, hpc', hretired'⟩ := hcommitted
  obtain ⟨hx', hsp', hpstate', hpc'', hretired''⟩ := hraised
  have hheld : (r.raise e).pendingException = some (r.recorded e) := by
    obtain ⟨sys, hraise, -⟩ := GuestCpuState.raise_record hnone e
    rw [hraise]
  refine .faults ?_ ⟨fun i => ?_, ?_, ?_⟩ ?_ ?_ ⟨_, hheld, rfl⟩
  · rw [hpc'']
    exact hstatus
  · exact (congrFun hx _).trans ((halike.x i).trans (congrFun hx' i).symm)
  · exact hsp.trans (halike.sp.trans hsp'.symm)
  · rw [hpstate']
    exact hpstate.trans halike.pstate
  · exact hpc'.trans (hpc.trans hpc''.symm)
  · exact hretired'.trans (hretired.trans hretired''.symm)

lemma answers_fault (h : Linked Matches exact base c r) (hsynced : r.Synced) (hnone : r.pendingException = none)
    {kind : ExceptionKind} {status : U32}
    (hkind : (r.executeWord RamBus.bus ⟨ram, base⟩ w).1 = .exception kind) (hstatus : Stops r.pc kind status) (far : U64)
    (hslow : status = Status.undefinedInstruction ∨ status = Status.systemRegisterTrap →
      slowStep none (settle c.retired (finished { c with instruction := w, far := far } c.pc 0#32)) = none)
    (hnext : status ≠ Status.next) :
    Answers exact base
      (dispatch (slowStep none) status (settle c.retired (finished { c with instruction := w, far := far } c.pc 0#32))) ram
      (r.executeWord RamBus.bus ⟨ram, base⟩ w) := by
  obtain ⟨banks, hidden, -, hmatch⟩ := h.matched
  have hprecise := GuestCpuState.precise_executeWord hsynced RamBus.bus ⟨ram, base⟩ w
  generalize r.executeWord RamBus.bus ⟨ram, base⟩ w = out at hkind hprecise
  obtain ⟨step, r', s⟩ := out
  obtain rfl : step = .exception kind := hkind
  obtain ⟨hs, r₁, e, htlb, hraise, he, -⟩ := hprecise.faults kind rfl
  obtain ⟨hnone₁, halike, hpc, hretired, hpc₁⟩ : r₁.pendingException = none ∧ Alike c r₁ ∧ c.pc = r₁.pc ∧
      c.retired = r₁.retired ∧ r₁.pc = r.pc := by
    obtain ⟨tlb, entry, rfl⟩ := htlb
    exact ⟨hnone, ⟨hmatch.x, hmatch.sp, hmatch.pstate⟩, hmatch.pc, hmatch.retired, rfl⟩
  obtain rfl : s = ⟨ram, base⟩ := hs
  obtain rfl : r' = _ := hraise
  obtain rfl := he
  rw [← hpc₁] at hstatus
  rw [dispatch_stops hslow hmatch.fp hnext]
  exact answers_raised hnone₁ halike hpc hretired (stopped_registers c w far) e hstatus

lemma answers_common (h : Linked Matches exact base c r) (hroom : Room r) (hsynced : r.Synced)
    (hnone : r.pendingException = none) (hram : ram.length < 2 ^ 64)
    (hw : Common w) :
    ∃ status g ram', wordEffect (Target.ofCpu c) w c.pc c ram = .stops status g ram' ∧ ram'.length = ram.length ∧
      Answers exact base (dispatch (slowStep none) status (settle c.retired g)) ram'
        (r.executeWord RamBus.bus ⟨ram, base⟩ w) := by
  obtain ⟨banks, hidden, hbanks, hmatch⟩ := h.matched
  have hflat : Flat (Target.ofCpu c) r :=
    ⟨hmatch.level, hmatch.sctlr, hmatch.hcr, hmatch.scr, h.off, hsynced.off h.off⟩
  have halike : Alike c r := ⟨hmatch.x, hmatch.sp, hmatch.pstate⟩
  have hpc : r.pc = c.pc := hmatch.pc.symm
  have hsimulates := @simulates_one w c.pc 0#32 (Target.ofCpu c) hw
  have hbase : (Target.ofCpu c).base = base := h.base_eq
  rcases hw.toPlain.executes hw.notReturn r ⟨ram, base⟩ with hstep | ⟨kind, hstep⟩
  · generalize hout : r.executeWord RamBus.bus ⟨ram, base⟩ w = out at hstep ⊢
    obtain ⟨step, r', s⟩ := out
    obtain rfl : step = .resume := hstep
    rw [← hbase] at hout
    obtain ⟨g', ram', rfl, halike', hworked, heffect⟩ := hsimulates.resumes c r ram r' s hflat halike hpc hram hout
    -- either way the block ends behind the word, with the registers of the reference core
    obtain ⟨d, hstops, hinside, halike'⟩ : ∃ d, wordEffect (Target.ofCpu c) w c.pc c ram =
          .stops Status.next (finished (put c d) r'.pc (BitVec.ofNat 32 1)) ram' ∧ Inside c ram (put c d) ram' ∧
        Alike (put c d) r' := by
      unfold wordEffect
      rcases heffect with ⟨hnext, htarget⟩ | hbranch
      · have hinside := inside_one hnext
        refine ⟨working g', ?_, ?_, ?_⟩
        · rw [hnext, htarget]
          exact congrArg (fun g => Effect.stops Status.next (finished g (c.pc + 4#64) 1#32) ram') hinside.record
        · rw [← hinside.record]
          exact hinside
        · rw [← hinside.record]
          exact halike'
      · obtain ⟨d, target, hrecord, hinside⟩ := effectOne_branches hbranch
        have htarget : r'.pc = target := congrArg VfCpu.pc hrecord
        refine ⟨d, ?_, hinside, ?_⟩
        · rw [hbranch, hrecord, htarget]
          rfl
        · have hx : g'.x = d.x := congrArg VfCpu.x hrecord
          have hsp : g'.sp = d.sp := congrArg VfCpu.sp hrecord
          have hpstate : g'.pstate = d.pstate := congrArg VfCpu.pstate hrecord
          exact ⟨fun i => (congrFun hx _).symm.trans (halike'.x i), hsp.symm.trans halike'.sp,
            hpstate.symm.trans halike'.pstate⟩
    refine ⟨_, _, ram', hstops, hinside.length, ?_⟩
    rw [dispatch_next, hbase]
    exact .resumes (h.unsettled.retires hroom hworked halike' (hinside.stateValid.trans hmatch.valid) _)
  · have hstep' : (r.executeWord RamBus.bus ⟨ram, (Target.ofCpu c).base⟩ w).1 = .exception kind := by
      rw [hbase]
      exact hstep
    obtain ⟨status, far, hreports, heffect⟩ := hsimulates.faults c r ram kind hflat halike hpc hram hstep'
    refine ⟨status, finished { c with instruction := w, far := far } c.pc 0#32, ram, ?_, rfl, ?_⟩
    · unfold wordEffect
      rw [heffect]
      rfl
    have hnext : status ≠ Status.next := by
      cases hreports with
      | undefined => decide
      | trap => decide
      | block b => cases b <;> decide
    exact answers_fault h hsynced hnone hstep (.reported hreports) far (fun _ => slowStep_plain hw.toPlain rfl) hnext

lemma worked_advance (r : GuestCpuState) : Worked r r.advance := ⟨_, _, _, _, _, rfl⟩

lemma answers_nop (h : Linked Matches exact base c r) (hroom : Room r) :
    ∃ status g, wordEffect (Target.ofCpu c) 0xd503201f#32 c.pc c ram = .stops status g ram ∧
      Answers exact base (dispatch (slowStep none) status (settle c.retired g)) ram
        (r.executeWord RamBus.bus ⟨ram, base⟩ 0xd503201f#32) := by
  obtain ⟨banks, hidden, hbanks, hmatch⟩ := h.matched
  refine ⟨Status.next, finished c (c.pc + 4#64) 1#32, rfl, ?_⟩
  have hpc : c.pc + 4#64 = r.advance.pc := congrArg (· + 4#64) hmatch.pc
  have halike : Alike (put c (working c)) r.advance := ⟨hmatch.x, hmatch.sp, hmatch.pstate⟩
  rw [dispatch_next, hpc, show r.executeWord RamBus.bus ⟨ram, base⟩ 0xd503201f#32 = (.resume, r.advance, ⟨ram, base⟩) from rfl]
  exact .resumes (h.unsettled.retires hroom (worked_advance r) halike hmatch.valid _)

lemma answers_halt (h : Linked Matches exact base c r) (hroom : Room r) :
    ∃ status g, wordEffect (Target.ofCpu c) 0xd4400000#32 c.pc c ram = .stops status g ram ∧
      Answers exact base (dispatch (slowStep none) status (settle c.retired g)) ram
        (r.executeWord RamBus.bus ⟨ram, base⟩ 0xd4400000#32) := by
  obtain ⟨banks, hidden, hbanks, hmatch⟩ := h.matched
  refine ⟨Status.halt, finished c (c.pc + 4#64) 1#32, rfl, ?_⟩
  have hpc : c.pc + 4#64 = r.advance.pc := congrArg (· + 4#64) hmatch.pc
  have halike : Alike (put c (working c)) r.advance := ⟨hmatch.x, hmatch.sp, hmatch.pstate⟩
  rw [hpc, show r.executeWord RamBus.bus ⟨ram, base⟩ 0xd4400000#32 = (.halt, r.advance, ⟨ram, base⟩) from rfl,
    @dispatch_stops (settle c.retired (finished c r.advance.pc 1#32)) (slowStep none) Status.halt
      (fun hstatus => absurd hstatus (by decide)) hmatch.fp (by decide), VfCpu.commitStatus_none rfl]
  exact .halts ((h.unsettled.retires hroom (worked_advance r) halike hmatch.valid ⟨ram, base⟩).reported Status.halt)

lemma Linked.slowStep (h : Linked Unsettled exact base c r) (hroom : Room r) (s : RamBus) :
    Linked Matches exact base (retireNext c) (r.advance.retire RamBus.bus s).1 := by
  obtain ⟨banks, hidden, hbanks, hmatch⟩ := h.matched
  have halike : Alike (put c (working c)) r.advance := ⟨hmatch.x, hmatch.sp, hmatch.pstate⟩
  have hworked := h.worked (worked_advance r) halike hmatch.valid (c.retired + 1#64)
  have htick := hworked.tick hroom.counter hroom.virtual c.compiledBlocks
  have hnext : retireNext c = (VfCpu.advanceCounter
      { put c (working c) with pc := r.advance.pc, retired := c.retired + 1#64 } 1#64).counted c.compiledBlocks := by
    rw [show r.advance.pc = c.pc + 4#64 from congrArg (· + 4#64) hmatch.pc.symm]
    rfl
  have hretire : (r.advance.retire RamBus.bus s).1 = { r.advance with retired := c.retired + 1#64 }.advanceCounter 1#64 := by
    change { r.advance with retired := saturatingAdd r.retired 1#64 }.advanceCounter 1#64 = _
    rw [saturatingAdd_one hroom.retired, show r.retired = c.retired from hmatch.retired.symm]
  rw [hretire, hnext]
  exact htick

lemma stateValid_mode (h : Unsettled c r) {p : U32}
    (hmode : GuestCpuState.modeValid r.currentEl (p &&& Preos.Pstate.modeMask) = true) :
    ({ c with pstate := p.zeroExtend 64 } : VfCpu).stateValid = true := by
  have hlow : (p.zeroExtend 64 : U64) &&& 15#64 = (p &&& 15#32).zeroExtend 64 := by
    rw [show 15#64 = (15#32).zeroExtend 64 by decide]
    exact BitVec.setWidth_and.symm
  have hvalid := (VfCpu.stateValid_iff c).mp h.valid
  refine (VfCpu.stateValid_iff _).mpr { hvalid with mode := ?_ }
  change VfCpu.LegalMode c.currentEl (p.zeroExtend 64 &&& 15#64)
  rw [hlow, h.level]
  change GuestCpuState.modeValid r.currentEl (p &&& 15#32) = true at hmode
  generalize p &&& 15#32 = low at hmode
  revert hmode
  cases r.currentEl with
  | el0 =>
    intro hmode
    rw [of_decide_eq_true hmode]
    exact .inl ⟨rfl, rfl⟩
  | el1 =>
    intro hmode
    rcases of_decide_eq_true hmode with rfl | rfl
    · exact .inr (.inl ⟨rfl, .inl rfl⟩)
    · exact .inr (.inl ⟨rfl, .inr rfl⟩)
  | el2 =>
    intro hmode
    rcases of_decide_eq_true hmode with rfl | rfl
    · exact .inr (.inr (.inl ⟨rfl, .inl rfl⟩))
    · exact .inr (.inr (.inl ⟨rfl, .inr rfl⟩))
  | el3 =>
    intro hmode
    rcases of_decide_eq_true hmode with rfl | rfl
    · exact .inr (.inr (.inr ⟨rfl, .inl rfl⟩))
    · exact .inr (.inr (.inr ⟨rfl, .inr rfl⟩))

lemma daif_mask (w : U32) : (((w >>> 8) &&& 15#32).zeroExtend 64 <<< 6 : U64) = (((w >>> 8) &&& 0xf#32) <<< 6).zeroExtend 64 := by
  have hlow : ((w >>> 8) &&& 15#32).toNat ≤ 15 := by
    rw [BitVec.toNat_and]
    exact Nat.and_le_right
  apply BitVec.eq_of_toNat_eq
  simp only [BitVec.zeroExtend_eq_setWidth, BitVec.toNat_shiftLeft, BitVec.toNat_setWidth, Nat.shiftLeft_eq]
  omega

lemma Linked.masks (h : Linked Unsettled exact base c r) (hmode : r.ModeValid) (w : U32) :
    Linked Unsettled exact base
      { c with
        pstate := if w &&& 255#32 = 0xdf#32 then c.pstate ||| ((w >>> 8) &&& 15#32).zeroExtend 64 <<< 6
          else c.pstate &&& ~~~(((w >>> 8) &&& 15#32).zeroExtend 64 <<< 6) }
      (r.daifStep w) := by
  obtain ⟨banks, hidden, hbanks, hmatch⟩ := h.matched
  have hpstate : (if w &&& 255#32 = 0xdf#32 then c.pstate ||| ((w >>> 8) &&& 15#32).zeroExtend 64 <<< 6
      else c.pstate &&& ~~~(((w >>> 8) &&& 15#32).zeroExtend 64 <<< 6)) = (r.daifStep w).pstate.zeroExtend 64 := by
    rw [daif_mask, show c.pstate = r.pstate.zeroExtend 64 from hmatch.pstate]
    unfold GuestCpuState.daifStep
    dsimp only
    split
    · exact BitVec.setWidth_or.symm
    · exact zeroExtend_clear _ _
  rw [hpstate]
  have hvalid := stateValid_mode hmatch (GuestCpuState.modeValid_daifStep r w hmode)
  exact { h with matched := ⟨banks, hidden, hbanks, { hmatch with valid := hvalid, pstate := rfl }⟩, silent := fun hfalse =>
    { h.silent hfalse with } }

lemma bank_activeSp (hel : r.currentEl ≠ .el0) {p : U64} {q : U32} (hp : p = q.zeroExtend 64) :
    VfCpu.bank (if p &&& 1#64 ≠ 0#64 then levelWord r.currentEl else 0#32) =
      VfCpu.bank (levelWord ({ r with pstate := q } : GuestCpuState).activeSpIndex) := by
  have hsp := zeroExtend_and_eq_zero q 1#32
  rw [← hp] at hsp
  change p &&& 1#64 = 0#64 ↔ _ at hsp
  unfold GuestCpuState.activeSpIndex
  dsimp only
  by_cases hbit : q &&& 1#32 = 0#32
  · rw [if_neg (not_not.mpr (hsp.mpr hbit)), if_pos (.inr hbit)]
    rfl
  · rw [if_pos fun hp => hbit (hsp.mp hp), if_neg (not_or.mpr ⟨hel, hbit⟩)]

lemma pstate_spSel (p w : U32) : (p.zeroExtend 64 &&& ~~~1#64) ||| spSelOf w =
    (if bitSet w 8 then p ||| 1#32 else p &&& ~~~1#32).zeroExtend 64 := by
  have hclear : p.zeroExtend 64 &&& ~~~1#64 = (p &&& ~~~1#32).zeroExtend 64 := zeroExtend_clear p 1#32
  have hor (a b : U32) : (a.zeroExtend 64 : U64) ||| b.zeroExtend 64 = (a ||| b).zeroExtend 64 := BitVec.setWidth_or.symm
  have hset : (p &&& ~~~1#32) ||| 1#32 = p ||| 1#32 := by
    ext i hi
    simp only [BitVec.getElem_or, BitVec.getElem_and, BitVec.getElem_not]
    cases (1#32 : U32)[i] <;> simp
  unfold spSelOf
  rw [hclear, hor, bitSet_getLsbD w (by decide), BitVec.and_one_eq_setWidth_ofBool_getLsbD, BitVec.getLsbD_ushiftRight,
    Nat.add_zero]
  cases w.getLsbD 8 with
  | false => exact congrArg _ BitVec.or_zero
  | true => exact congrArg _ hset

lemma Linked.stack (h : Linked Unsettled true base c r) (hmode : r.ModeValid) (hel : r.currentEl ≠ .el0) (w : U32) :
    Linked Unsettled true base (selectStack c (spSelOf w)) (r.spselStep w) := by
  obtain ⟨banks, hidden, hbanks, hmatch⟩ := h.matched
  obtain rfl := hbanks rfl
  let bits : U32 := if bitSet w 8 then r.pstate ||| 1#32 else r.pstate &&& ~~~1#32
  have hlevel : c.currentEl = levelWord r.currentEl := hmatch.level
  have hzero : c.currentEl ≠ 0#32 := fun hc => hel (levelWord_eq_zero.mp (hlevel.symm.trans hc))
  have hbank {p : U64} {q : U32} (hp : p = q.zeroExtend 64) :
      VfCpu.bank (if p &&& 1#64 ≠ 0#64 then c.currentEl else 0#32) =
        VfCpu.bank (levelWord ({ r with pstate := q } : GuestCpuState).activeSpIndex) := by
    rw [hlevel]
    exact bank_activeSp hel hp
  have hpstate : (c.pstate &&& ~~~1#64) ||| spSelOf w = bits.zeroExtend 64 := by
    rw [show c.pstate = r.pstate.zeroExtend 64 from hmatch.pstate]
    exact pstate_spSel r.pstate w
  have hsaved (el : Mmu.ExceptionLevel) : Function.update c.spEl (stackBank c) c.sp (VfCpu.bank (levelWord el)) =
      Function.update r.spEl r.activeSpIndex r.sp el := by
    have hold : stackBank c = VfCpu.bank (levelWord r.activeSpIndex) := hbank hmatch.pstate
    rw [hold, show c.sp = r.sp from hmatch.sp]
    by_cases heq : el = r.activeSpIndex
    · rw [heq, Function.update_self, Function.update_self]
    · rw [Function.update_of_ne (fun h => heq (bank_levelWord_inj h)), Function.update_of_ne heq]
      exact hmatch.spEl el
  have hselect : selectStack c (spSelOf w) =
      { c with
        spEl := Function.update c.spEl (stackBank c) c.sp, pstate := bits.zeroExtend 64
        sp := Function.update c.spEl (stackBank c) c.sp
          (VfCpu.bank (levelWord ({ r with pstate := bits } : GuestCpuState).activeSpIndex)) } := by
    unfold selectStack stackBank
    dsimp only
    rw [hpstate, hbank rfl]
  have hvalid := stateValid_mode hmatch (GuestCpuState.modeValid_spselStep r w hel hmode)
  rw [hselect]
  refine { h with matched := ⟨Function.update c.spEl (stackBank c) c.sp, hidden, fun _ => rfl, ?_⟩, silent := nofun }
  exact { hmatch with valid := hvalid, pstate := rfl, spEl := hsaved, sp := hsaved _ }

lemma dispatch_pstate {stopped next : VfCpu} (hbits : w &&& 0xfff8f01f#32 = 0xd500401f#32)
    (hinstruction : stopped.instruction = w) (hstep : pstateSlowStep stopped = some next) :
    dispatch (slowStep none) Status.systemRegisterTrap stopped = .again next := by
  have hslow : slowStep none stopped = some next := by
    rw [slowStep, systemRegisterSlowStep_pstate hbits hinstruction, hstep]
    rfl
  unfold dispatch
  dsimp only
  rw [if_pos (.inr rfl), hslow]

lemma answers_pstate (h : Linked Matches exact base c r) (hroom : Room r) (hsound : r.Sound)
    (hnone : r.pendingException = none) (hw : isDaif w = true ∨ isSpSel w = true ∧ exact = true) :
    ∃ status g, wordEffect (Target.ofCpu c) w c.pc c ram = .stops status g ram ∧
      Answers exact base (dispatch (slowStep none) status (settle c.retired g)) ram
        (r.executeWord RamBus.bus ⟨ram, base⟩ w) := by
  obtain ⟨banks, hidden, -, hmatch⟩ := h.matched
  have hbits := pstate_bits (hw.imp_right And.left)
  have hlevel : c.currentEl = levelWord r.currentEl := hmatch.level
  let stopped := settle c.retired (finished { c with instruction := w } c.pc 0#32)
  have heffect : wordEffect (Target.ofCpu c) w c.pc c ram =
      .stops (if c.currentEl = 0#32 then Status.privilegeFault else Status.systemRegisterTrap)
        (finished { c with instruction := w } c.pc 0#32) ram := by
    unfold wordEffect
    rw [effectOne_pstate hbits (hw.imp_right And.left)]
    rfl
  obtain ⟨body, hbody⟩ : ∃ body, r.executeWord RamBus.bus ⟨ram, base⟩ w = r.privileged ⟨ram, base⟩ w body := by
    rcases hw with hdaif | ⟨hsel, -⟩
    · exact ⟨_, executeWord_daif hbits hdaif r _⟩
    · exact ⟨_, executeWord_spSel hbits hsel r _⟩
  refine ⟨_, _, heffect, ?_⟩
  by_cases hel : r.currentEl = .el0
  · have hkind : (r.executeWord RamBus.bus ⟨ram, base⟩ w).1 = .exception .privilegedInstruction := by
      rw [hbody]
      unfold GuestCpuState.privileged
      rw [if_pos hel]
      rfl
    rw [if_pos (by rw [hlevel, hel]; rfl)]
    exact answers_fault h hsound.synced hnone hkind .privileged c.far (fun hstatus => absurd hstatus (by decide)) (by decide)
  have hzero : c.currentEl ≠ 0#32 := fun hc => hel (levelWord_eq_zero.mp (hlevel.symm.trans hc))
  have hmmu : c.sctlr &&& 1#64 = 0#64 := by
    rw [show c.sctlr = r.sys.sctlrEl1 from hmatch.sctlr]
    exact h.off
  have hdispatch {next : VfCpu} : pstateSlowStep stopped = some next →
      dispatch (slowStep none) Status.systemRegisterTrap stopped = .again next := dispatch_pstate hbits rfl
  have hstopped := h.unsettled.recorded w
  have hinstruction : stopped.instruction = w := rfl
  have hguard : ¬(stopped.currentEl = 0#32 ∨ stopped.sctlr &&& 1#64 ≠ 0#64) := not_or.mpr ⟨hzero, not_not.mpr hmmu⟩
  rw [if_neg hzero]
  rcases hw with hdaif | ⟨hsel, rfl⟩
  · have hstep : pstateSlowStep stopped = some (retireNext { stopped with
        pstate := if w &&& 255#32 = 0xdf#32 then stopped.pstate ||| ((w >>> 8) &&& 15#32).zeroExtend 64 <<< 6
          else stopped.pstate &&& ~~~(((w >>> 8) &&& 15#32).zeroExtend 64 <<< 6) }) := by
      unfold pstateSlowStep
      dsimp only
      rw [if_neg hguard, hinstruction, if_pos (of_decide_eq_true hdaif)]
    rw [hdispatch hstep, executeWord_daif hbits hdaif, GuestCpuState.privileged, if_neg hel]
    exact .resumes ((hstopped.masks hsound.modeValid w).slowStep ⟨hroom.retired, hroom.counter, hroom.virtual⟩ _)
  · have hstep : pstateSlowStep stopped = some (retireNext (selectStack stopped (spSelOf w))) := by
      have hdaif : ¬(w &&& 0xfffff0ff#32 = 0xd50340df#32 ∨ w &&& 0xfffff0ff#32 = 0xd50340ff#32) := by
        have hbit : w &&& 0xfffffeff#32 = 0xd50040bf#32 := of_decide_eq_true hsel
        exact not_or.mpr ⟨mask_ne hbit (by decide), mask_ne hbit (by decide)⟩
      unfold pstateSlowStep
      dsimp only
      rw [if_neg hguard, hinstruction, if_neg hdaif, if_pos hsel]
    rw [hdispatch hstep, executeWord_spSel hbits hsel, GuestCpuState.privileged, if_neg hel]
    exact .resumes ((hstopped.stack hsound.modeValid hel w).slowStep ⟨hroom.retired, hroom.counter, hroom.virtual⟩ _)

lemma answers_word (h : Linked Matches exact base c r) (hroom : Room r) (hsound : r.Sound)
    (hnone : r.pendingException = none) (hram : ram.length < 2 ^ 64)
    (hw : Portable exact w) :
    ∃ status g ram', wordEffect (Target.ofCpu c) w c.pc c ram = .stops status g ram' ∧ ram'.length = ram.length ∧
      Answers exact base (dispatch (slowStep none) status (settle c.retired g)) ram'
        (r.executeWord RamBus.bus ⟨ram, base⟩ w) := by
  cases hw with
  | common hw => exact answers_common h hroom hsound.synced hnone hram hw
  | nop =>
    obtain ⟨status, g, heffect, hanswers⟩ := @answers_nop _ _ _ _ ram h hroom
    exact ⟨status, g, ram, heffect, rfl, hanswers⟩
  | halt =>
    obtain ⟨status, g, heffect, hanswers⟩ := @answers_halt _ _ _ _ ram h hroom
    exact ⟨status, g, ram, heffect, rfl, hanswers⟩
  | daif hw =>
    obtain ⟨status, g, heffect, hanswers⟩ := @answers_pstate _ _ _ _ ram _ h hroom hsound hnone (.inl hw)
    exact ⟨status, g, ram, heffect, rfl, hanswers⟩
  | stack hw hexact =>
    obtain ⟨status, g, heffect, hanswers⟩ := @answers_pstate _ _ _ _ ram _ h hroom hsound hnone (.inr ⟨hw, hexact⟩)
    exact ⟨status, g, ram, heffect, rfl, hanswers⟩

lemma answers_one (h : Linked Matches exact base c r) (hroom : Room r) (hsound : r.Sound)
    (hnone : r.pendingException = none) (hram : ram.length < 2 ^ 64)
    (hw : fetchFails base r.pc ram.length = false → Portable exact (word ram (r.pc - base).toNat)) :
    ∃ status g ram', effectFrom (Target.ofCpu c) false ram 1 0#32 c.pc c ram = .stops status g ram' ∧
      ram'.length = ram.length ∧
      Answers exact base (dispatch (slowStep none) status (settle c.retired g)) ram'
        (r.executeOne RamBus.bus ⟨ram, base⟩) := by
  obtain ⟨banks, hidden, -, hmatch⟩ := h.matched
  have hpc : c.pc = r.pc := hmatch.pc
  have hbase : (Target.ofCpu c).base = base := h.base_eq
  obtain ⟨hfetched, hfailed⟩ := @fetch32_flat ram base r (hsound.synced.off h.off)
  rw [← hpc] at hw hfetched hfailed
  rw [effectFrom_word, blockWord, if_neg Bool.false_ne_true, hbase]
  unfold GuestCpuState.executeOne
  cases hfetch : fetchFails base c.pc ram.length with
  | false =>
    rw [hfetched hfetch, if_neg Bool.false_ne_true]
    exact answers_word h hroom hsound hnone hram (hw hfetch)
  | true =>
    obtain ⟨kind, hkind, hfetched⟩ := hfailed hfetch
    rw [hfetched, if_pos rfl]
    refine ⟨Status.instructionAbort, finished c c.pc 0#32, ram, rfl, rfl, ?_⟩
    rw [@dispatch_stops (settle c.retired (finished c c.pc 0#32)) (slowStep none) Status.instructionAbort
      (fun hstatus => absurd hstatus (by decide)) hmatch.fp (by decide)]
    have halike : Alike c r := ⟨hmatch.x, hmatch.sp, hmatch.pstate⟩
    exact answers_raised hnone halike hpc hmatch.retired (stopped_registers c c.instruction c.far)
      ⟨kind, 0#32, 0#64, r.pc, r.pc⟩ (.unfetched (hpc ▸ hkind))

end Words

end Nextcore.Jit
