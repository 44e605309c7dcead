import Nextcore.Jit.Block
import Nextcore.Jit.System
import Nextcore.Lib.Bits
import Nextcore.Preos.Execute

/-! The two decoders of A64 words: which words the reference core executes, and which the translator
has code for. -/

namespace Nextcore.Jit

open Cpu Emit X86 Preos

def isExclusiveEncoding (w : U32) : Bool := w &&& 0x3f000000#32 = 0x08000000#32

def isExceptionEncoding (w : U32) : Bool := w &&& 0xff000000#32 = 0xd4000000#32

def isPauthEncoding (w : U32) : Bool :=
  w &&& 0xffff0000#32 = 0xdac10000#32 ∨ w &&& 0xffe0fc00#32 = 0x9ac03000#32 ∨ w &&& 0xfe00f800#32 = 0xd6000800#32

structure Plain (w : U32) : Prop where
  system : isSystemEncoding w = false
  exception : isExceptionEncoding w = false
  exclusive : isExclusiveEncoding w = false
  pauth : isPauthEncoding w = false

def Executes (w : U32) : Prop :=
  ∃ (β : Type) (cpu : GuestCpuState) (bus : GuestBus β) (s : β),
    (cpu.fetch32 bus s).1 = .ok w ∧ (cpu.executeOne bus s).1 ≠ .exception .undefinedInstruction

def Rejects (t : Target) (provider : Bool) (w : U32) (pc : U64) (n : U32) : Prop :=
  Emits (translateOne t provider w pc n) false (stop w pc n Status.undefinedInstruction)

def Translated (w : U32) : Prop := ∀ t provider pc n, ¬Rejects t provider w pc n

section Effects

def Defined (e : VfCpu → List Byte → Effect) : Prop :=
  ∀ g ram g' ram', e g ram ≠ .stops Status.undefinedInstruction g' ram'

variable {e e' : VfCpu → List Byte → Effect} {w : U32} {pc : U64} {n : U32}

lemma defined_ite {p : Prop} [Decidable p] (h : p → Defined e) (h' : ¬p → Defined e') :
    Defined (if p then e else e') := by
  by_cases hp : p
  · rw [if_pos hp]
    exact h hp
  · rw [if_neg hp]
    exact h' hp

lemma defined_stop {status : U32} (h : status ≠ Status.undefinedInstruction) :
    Defined (stopEffect w pc n status) := by
  intro g ram g' ram' heq
  cases heq
  exact h rfl

lemma defined_next (f : VfCpu → VfCpu) : Defined fun g ram => .next (f g) ram := fun _ _ _ _ h => by cases h

lemma defined_branch {taken : U64} (takes : VfCpu → Bool) : Defined (branchEffect taken pc n takes) := by
  intro _ _ _ _ h
  cases h

lemma defined_straight {result : Option (VfCpu → VfCpu)} (h : result ≠ none) :
    Defined (straightEffect w pc n result) := by
  cases result with
  | none => exact absurd rfl h
  | some f => exact defined_next f

lemma defined_inline (t : Target) (h : decodeMemory w ≠ none) : Defined (inlineEffect t w pc n) := by
  intro g ram g' ram' heq
  unfold inlineEffect at heq
  cases hshape : decodeMemory w with
  | none => exact h hshape
  | some shape =>
    simp only [hshape] at heq
    split at heq
    · cases heq
    unfold accessEffect at heq
    split at heq
    next block far _ =>
      cases block <;> cases heq
    · cases heq

lemma emits_unique {α : Type} {m : Emit α} {a a' : α} {code code' : List Byte} (h : Emits m a code)
    (h' : Emits m a' code') : code = code' := by
  have heq := (h []).symm.trans (h' [])
  simpa using congrArg (Option.map Prod.snd) heq

lemma not_rejects {t : Target} {provider : Bool} (h : Defined (effectOne t provider w pc n)) (g : VfCpu) :
    ¬Rejects t provider w pc n := by
  intro hrejects
  obtain ⟨code, more, hemits, hruns, -⟩ := translates_one t provider w pc n
  obtain rfl := emits_unique hemits hrejects
  -- behind the stop stands code that would return another status
  have hrun := hruns ⟨0#64, 0#64⟩ (.word 0#64) (.word 0#64) (.word 0#64) (.word 0#64) .undefined g []
    (finish pc n Status.next)
  have hstop : returned (run (layout ⟨0#64, 0#64⟩)
      (stop w pc n Status.undefinedInstruction ++ finish pc n Status.next)
      (entry (.word 0#64) (.word 0#64) (.word 0#64) (.word 0#64) .undefined g [])) =
      some (Status.undefinedInstruction, finished { g with instruction := w } pc n, []) := returned_stop w pc n _
  cases heffect : effectOne t provider w pc n g [] with
  | next g' ram' =>
    rw [heffect] at hrun
    obtain ⟨rax', r9', r10', r11', f', hrun⟩ := hrun
    have hfinish := @returned_finish ⟨0#64, 0#64⟩ rax' .ram (.word (BitVec.ofNat 64 ram'.length)) r9' r10' r11' f' g'
      ram' [] pc n Status.next
    rw [hrun, ← List.append_nil (finish pc n Status.next)] at hstop
    have hstatus := congrArg (Option.map Prod.fst) (hfinish.symm.trans hstop)
    cases hstatus
  | stops status g' ram' =>
    rw [heffect] at hrun
    have hstatus := congrArg (Option.map Prod.fst) (hrun.symm.trans hstop)
    simp only [Option.map_some, Option.some.injEq] at hstatus
    rw [hstatus] at heffect
    exact h _ _ _ _ heffect

end Effects

section Reference

def Refused (w : U32) : Prop :=
  ∀ (β : Type) (cpu : GuestCpuState) (bus : GuestBus β) (s : β),
    (cpu.executeWord bus s w).1 = .exception .undefinedInstruction

lemma not_refused {w : U32} (h : Executes w) : ¬Refused w := by
  obtain ⟨β, cpu, bus, s, hfetch, hexecutes⟩ := h
  intro hrefused
  apply hexecutes
  simp only [GuestCpuState.executeOne, hfetch]
  exact hrefused β _ bus s

variable {w : U32} {m v : U32}

lemma and_of_and (h : w &&& m = v) {k : U32} (hk : m &&& k = k) : w &&& k = v &&& k := by
  rw [← h, BitVec.and_assoc, hk]

lemma Plain.not_system (hw : Plain w) {k b : U32} (hk : k &&& 0xffc00000#32 = 0xffc00000#32)
    (hb : b &&& 0xffc00000#32 = 0xd5000000#32) : ¬w &&& k = b := by
  intro h
  exact of_decide_eq_false hw.system (by rw [and_of_and h hk, hb])

lemma Plain.not_exception (hw : Plain w) {k b : U32} (hk : k &&& 0xff000000#32 = 0xff000000#32)
    (hb : b &&& 0xff000000#32 = 0xd4000000#32) : ¬w &&& k = b := by
  intro h
  exact of_decide_eq_false hw.exception (by rw [and_of_and h hk, hb])

lemma Plain.ne (hw : Plain w) {b : U32} (hb : b &&& 0xffc00000#32 = 0xd5000000#32) : ¬w = b := by
  rintro rfl
  exact of_decide_eq_false hw.system hb

lemma Plain.registers (hw : Plain w) : Pauth.isMrs w = false ∧ Pauth.isMsr w = false :=
  ⟨decide_eq_false (hw.not_system (by decide) (by decide)), decide_eq_false (hw.not_system (by decide) (by decide))⟩

lemma Plain.mrsMsr (hw : Plain w) : isMrsMsr w = false := by
  obtain ⟨hread, hwrite⟩ := hw.registers
  exact decide_eq_false (not_or.mpr ⟨of_decide_eq_false hread, of_decide_eq_false hwrite⟩)

lemma Plain.idRead (hw : Plain w) : isIdRead w = false := by
  rw [isIdRead, decide_eq_false_iff_not]
  intro hmem
  simp only [List.mem_cons, List.not_mem_nil, or_false] at hmem
  rcases hmem with h | h | h | h | h | h | h | h | h | h <;> exact hw.not_system (by decide) (by decide) h

lemma Plain.pauthStep (hw : Plain w) (cpu : GuestCpuState) : cpu.pauthStep w = none := by
  obtain ⟨hmrs, hmsr⟩ := hw.registers
  have hpauth := hw.pauth
  rw [isPauthEncoding, decide_eq_false_iff_not, not_or, not_or] at hpauth
  obtain ⟨hsign, hgeneric, hbranch⟩ := hpauth
  have hstrip (rd : U32) (hrd : rd &&& 0xffff0000#32 = 0#32) : ¬w &&& 0xfffffbff#32 = 0xdac143e0#32 ||| rd := by
    intro h
    apply hsign
    rw [and_of_and h (by decide), BitVec.and_or_distrib_right, hrd]
    decide
  have hdecode (c : Pauth.PauthContext) : Pauth.decode c w = none := by
    unfold Pauth.decode
    dsimp only
    rw [if_neg fun h => hsign (by rw [and_of_and h (by decide)]; decide),
      if_neg (hstrip _ (by rw [BitVec.and_assoc, show (31#32 &&& 0xffff0000#32) = 0#32 by decide, BitVec.and_zero])),
      if_neg (hw.ne (by decide)), if_neg (hw.not_system (by decide) (by decide)),
      if_neg (hw.not_system (by decide) (by decide)),
      if_neg fun h => hbranch (by rw [and_of_and h (by decide)]; decide),
      if_neg fun h => hbranch (by rw [and_of_and h (by decide)]; decide), if_neg]
    rintro (rfl | rfl)
    · exact hbranch (by decide)
    · exact hbranch (by decide)
  have haccess : Pauth.isRegisterAccess w = false := by
    rw [Pauth.isRegisterAccess, hmrs, hmsr]
    rfl
  unfold GuestCpuState.pauthStep Pauth.step
  dsimp only
  rw [if_neg hgeneric, haccess, hdecode]
  split <;> rfl

lemma Plain.systemStep {β : Type} (hw : Plain w) (heret : w ≠ 0xd69f03e0#32) (cpu : GuestCpuState) (s : β) :
    cpu.systemStep s w = none := by
  unfold GuestCpuState.systemStep
  rw [if_neg (hw.ne (by decide)), if_neg (hw.not_exception (by decide) (by decide)),
    if_neg (not_or.mpr ⟨hw.ne (by decide), hw.ne (by decide)⟩),
    if_neg (not_or.mpr ⟨hw.not_system (by decide) (by decide), hw.not_system (by decide) (by decide)⟩),
    if_neg (hw.not_system (by decide) (by decide)),
    if_neg (not_or.mpr ⟨hw.ne (by decide), hw.not_system (by decide) (by decide)⟩), if_neg heret,
    if_neg (hw.not_exception (by decide) (by decide))]

lemma Plain.exclusiveStep {β : Type} (hw : Plain w) (cpu : GuestCpuState) (bus : GuestBus β) (s : β) :
    cpu.exclusiveStep bus s w = none := by
  have hspace : ¬w &&& 0x3f000000#32 = 0x08000000#32 := of_decide_eq_false hw.exclusive
  have hload : GuestCpuState.isExclusiveLoad w = false :=
    decide_eq_false fun h => hspace (by rw [and_of_and h (by decide)]; decide)
  have hstore : GuestCpuState.isExclusiveStore w = false :=
    decide_eq_false fun h => hspace (by rw [and_of_and h (by decide)]; decide)
  simp only [GuestCpuState.exclusiveStep, hload, hstore, Bool.or_false, Bool.false_eq_true, if_false]

lemma Plain.controlStep {β : Type} (hw : Plain w) (cpu : GuestCpuState) (s : β) : cpu.controlStep s w = none := by
  obtain ⟨hmrs, hmsr⟩ := hw.registers
  have hnot {b : U32} (hb : b &&& 0xffc00000#32 = 0xd5000000#32) : ¬w &&& 0xfffff0ff#32 = b :=
    hw.not_system (by decide) hb
  unfold GuestCpuState.controlStep
  rw [if_neg (not_or.mpr ⟨hnot (by decide), not_or.mpr ⟨hnot (by decide), hnot (by decide)⟩⟩),
    if_neg (hnot (by decide)), hmrs, hmsr]
  rfl

section Refusals

variable (hw : Plain w) (heret : w ≠ 0xd69f03e0#32)

include hw heret

lemma refused_data (h : ∀ cpu : GuestCpuState, cpu.dataStep w = some none) : Refused w := by
  intro β cpu bus s
  simp only [GuestCpuState.executeWord, hw.pauthStep, hw.systemStep heret, hw.exclusiveStep, hw.controlStep, h]
  rfl

lemma refused_memory (hdata : ∀ cpu : GuestCpuState, cpu.dataStep w = none)
    (h : ∀ (β : Type) (cpu : GuestCpuState) (bus : GuestBus β) (s : β),
      (cpu.memoryStep bus s w).map Prod.fst = some (.exception .undefinedInstruction)) : Refused w := by
  intro β cpu bus s
  obtain ⟨out, hout, hkind⟩ := Option.map_eq_some_iff.mp (h β cpu bus s)
  simp only [GuestCpuState.executeWord, hw.pauthStep, hw.systemStep heret, hw.exclusiveStep, hw.controlStep, hdata,
    hout]
  exact hkind

lemma refused_branch (hdata : ∀ cpu : GuestCpuState, cpu.dataStep w = none)
    (hmemory : ∀ (β : Type) (cpu : GuestCpuState) (bus : GuestBus β) (s : β), cpu.memoryStep bus s w = none)
    (h : ∀ cpu : GuestCpuState, cpu.branchStep w = some none ∨ cpu.branchStep w = none) : Refused w := by
  intro β cpu bus s
  simp only [GuestCpuState.executeWord, hw.pauthStep, hw.systemStep heret, hw.exclusiveStep, hw.controlStep, hdata,
    hmemory]
  rcases h cpu with h | h
  · rw [h]
    rfl
  · rw [h]
    rfl

end Refusals

end Reference

section Families

variable {w : U32}

lemma mask_ne {a b m k : U32} (h : w &&& m = a) (hne : a &&& k ≠ b &&& m) : ¬w &&& k = b :=
  fun hb => mask_clash h hb hne

lemma mask_ne_or {a b c m k l : U32} (h : w &&& m = a) (hb : a &&& k ≠ b &&& m) (hc : a &&& l ≠ c &&& m) :
    ¬(w &&& k = b ∨ w &&& l = c) := not_or.mpr ⟨mask_ne h hb, mask_ne h hc⟩

lemma ne_of_mask {a b m : U32} (h : w &&& m = a) (hne : b &&& m ≠ a) : w ≠ b := by
  rintro rfl
  exact hne h

variable (cpu : GuestCpuState)

lemma dataStep_bitfieldMove (h : w &&& 0x7f800000#32 = 0x33000000#32) : cpu.dataStep w = some (cpu.bitfieldMove w) := by
  unfold GuestCpuState.dataStep
  rw [if_neg (mask_ne h (by decide)), if_neg (mask_ne h (by decide)), if_neg (mask_ne h (by decide)), if_pos h]

lemma dataStep_unsignedBitfieldMove (h : w &&& 0x7f800000#32 = 0x53000000#32) :
    cpu.dataStep w = some (cpu.unsignedBitfieldMove w) := by
  unfold GuestCpuState.dataStep
  rw [if_neg (mask_ne h (by decide)), if_neg (mask_ne h (by decide)), if_neg (mask_ne h (by decide)),
    if_neg (mask_ne h (by decide)), if_pos h]

lemma dataStep_logicalImmediate (h : w &&& 0x1f800000#32 = 0x12000000#32) :
    cpu.dataStep w = some (cpu.logicalImmediate w) := by
  unfold GuestCpuState.dataStep
  rw [if_neg (mask_ne h (by decide)), if_neg (mask_ne h (by decide)), if_neg (mask_ne h (by decide)),
    if_neg (mask_ne h (by decide)), if_neg (mask_ne h (by decide)), if_pos h]

lemma dataStep_logicalShifted (h : w &&& 0x1f000000#32 = 0x0a000000#32) :
    cpu.dataStep w = some (cpu.logicalShifted w) := by
  unfold GuestCpuState.dataStep
  rw [if_neg (mask_ne h (by decide)), if_neg (mask_ne h (by decide)), if_neg (mask_ne h (by decide)),
    if_neg (mask_ne h (by decide)), if_neg (mask_ne h (by decide)), if_neg (mask_ne h (by decide)), if_pos h]

lemma dataStep_moveWide (h : w &&& 0x7f800000#32 = 0x52800000#32 ∨ w &&& 0x7f800000#32 = 0x72800000#32) :
    cpu.dataStep w = some (cpu.moveWide w) := by
  have not {k b : U32} (h52 : 0x52800000#32 &&& k ≠ b &&& 0x7f800000#32)
      (h72 : 0x72800000#32 &&& k ≠ b &&& 0x7f800000#32) : ¬w &&& k = b := h.elim (mask_ne · h52) (mask_ne · h72)
  unfold GuestCpuState.dataStep
  rw [if_neg (not (by decide) (by decide)), if_neg (not (by decide) (by decide)), if_neg (not (by decide) (by decide)),
    if_neg (not (by decide) (by decide)), if_neg (not (by decide) (by decide)), if_neg (not (by decide) (by decide)),
    if_neg (not (by decide) (by decide)), if_neg (not (by decide) (by decide)), if_pos h]

lemma dataStep_addSubImmediate (h : w &&& 0x1f000000#32 = 0x11000000#32) :
    cpu.dataStep w = some (some (cpu.addSubImmediate w)) := by
  unfold GuestCpuState.dataStep
  rw [if_neg (mask_ne h (by decide)), if_neg (mask_ne h (by decide)), if_neg (mask_ne h (by decide)),
    if_neg (mask_ne h (by decide)), if_neg (mask_ne h (by decide)), if_neg (mask_ne h (by decide)),
    if_neg (mask_ne h (by decide)), if_neg (mask_ne h (by decide)), if_neg (mask_ne_or h (by decide) (by decide)),
    if_pos h]

lemma dataStep_addSubExtended (h : w &&& 0x1fe00000#32 = 0x0b200000#32) :
    cpu.dataStep w = some (cpu.addSubExtended w) := by
  unfold GuestCpuState.dataStep
  rw [if_neg (mask_ne h (by decide)), if_neg (mask_ne h (by decide)), if_neg (mask_ne h (by decide)),
    if_neg (mask_ne h (by decide)), if_neg (mask_ne h (by decide)), if_neg (mask_ne h (by decide)),
    if_neg (mask_ne h (by decide)), if_neg (mask_ne h (by decide)), if_neg (mask_ne_or h (by decide) (by decide)),
    if_neg (mask_ne h (by decide)), if_pos h]

lemma dataStep_addSubShifted (h : w &&& 0x1f200000#32 = 0x0b000000#32) :
    cpu.dataStep w = some (cpu.addSubShifted w) := by
  unfold GuestCpuState.dataStep
  rw [if_neg (mask_ne h (by decide)), if_neg (mask_ne h (by decide)), if_neg (mask_ne h (by decide)),
    if_neg (mask_ne h (by decide)), if_neg (mask_ne h (by decide)), if_neg (mask_ne h (by decide)),
    if_neg (mask_ne h (by decide)), if_neg (mask_ne h (by decide)), if_neg (mask_ne_or h (by decide) (by decide)),
    if_neg (mask_ne h (by decide)), if_neg (mask_ne h (by decide)), if_pos h]

def dataMasks : List (U32 × U32) :=
  [(0x7fe00000#32, 0x1b000000#32), (0x3fe00800#32, 0x1a800000#32), (0x3fe00410#32, 0x3a400000#32),
    (0x7f800000#32, 0x33000000#32), (0x7f800000#32, 0x53000000#32), (0x1f800000#32, 0x12000000#32),
    (0x1f000000#32, 0x0a000000#32), (0x7fe0f000#32, 0x1ac02000#32), (0x7f800000#32, 0x52800000#32),
    (0x7f800000#32, 0x72800000#32), (0x1f000000#32, 0x11000000#32), (0x1fe00000#32, 0x0b200000#32),
    (0x1f200000#32, 0x0b000000#32)]

lemma dataStep_none (h : ∀ t ∈ dataMasks, ¬w &&& t.1 = t.2) : cpu.dataStep w = none := by
  have not {k b : U32} (hmem : (k, b) ∈ dataMasks) : ¬w &&& k = b := h (k, b) hmem
  unfold GuestCpuState.dataStep
  rw [if_neg (not (by decide)), if_neg (not (by decide)), if_neg (not (by decide)), if_neg (not (by decide)),
    if_neg (not (by decide)), if_neg (not (by decide)), if_neg (not (by decide)), if_neg (not (by decide)),
    if_neg (not_or.mpr ⟨not (by decide), not (by decide)⟩), if_neg (not (by decide)), if_neg (not (by decide)),
    if_neg (not (by decide))]

lemma memoryFamily_bits (h : memoryFamily w = true) : w &&& 0x0a000000#32 = 0x08000000#32 := by
  simp only [memoryFamily, pairFamily, scalarFamily, unsignedOffsetFamily, registerOffsetFamily, unscaledOffsetFamily,
    scalarWritebackFamily, Bool.or_eq_true, decide_eq_true_eq] at h
  rcases h with h | ((h | h) | h) | h
  all_goals
    rw [and_of_and h (by decide)]
    decide

lemma memoryFamily_other (h : ¬w &&& 0x0a000000#32 = 0x08000000#32) : memoryFamily w = false :=
  Bool.eq_false_iff.mpr (mt memoryFamily_bits h)

lemma dataStep_other {a m : U32} (h : w &&& m = a) (hother : dataMasks.all (fun t => a &&& t.1 != t.2 &&& m) = true) :
    cpu.dataStep w = none :=
  dataStep_none cpu fun t ht => mask_ne h (bne_iff_ne.mp (List.all_eq_true.mp hother t ht))

lemma dataStep_memory (h : memoryFamily w = true) : cpu.dataStep w = none :=
  dataStep_other cpu (memoryFamily_bits h) (by decide)

lemma bitOf_eq (w : U32) : bitOf w 22 = bitSet w 22 := by
  have hzero : (w >>> 22) &&& 1#32 = 0#32 ↔ w &&& (1#32 <<< 22) = 0#32 := by
    rw [show (1#32) = (1#32 <<< 22) >>> 22 by decide, ← Bits.and_shiftRight, Bits.shiftRight_eq_zero_iff,
      BitVec.and_assoc]
    exact Iff.rfl
  simp only [bitOf, bitSet, ne_eq, hzero]

lemma wideOf_eq (w : U32) : wideOf w = isWide w := by
  have hzero : w >>> 31 = 0#32 ↔ w &&& (1#32 <<< 31) = 0#32 := by
    rw [Bits.shiftRight_eq_zero_iff]
    exact Iff.rfl
  simp only [wideOf, isWide, ne_eq, hzero]

lemma bitfield_reserved (h : bitfield w = none) : GuestCpuState.bitfieldUndefined w = true := by
  simp only [bitfield, bitOf_eq, wideOf_eq, ite_eq_left_iff, reduceCtorEq, imp_false, not_not] at h
  simp only [GuestCpuState.bitfieldUndefined, Bool.or_eq_true, Bool.and_eq_true, bne_iff_ne, Bool.not_eq_true',
    decide_eq_true_eq]
  exact h

def maskReserved (n s : U32) (width : ℕ) : Bool :=
  let len := tagLength 7 ((n <<< 6) ||| (~~~s &&& 63#32))
  (width = 32 ∧ n ≠ 0#32) ∨ len < 1#32 ∨ width < (1#32 <<< len.toNat).toNat ∨
    s &&& ((1#32 <<< len.toNat) - 1#32) = (1#32 <<< len.toNat) - 1#32

def immediateReserved (n s : U32) (width : ℕ) : Bool :=
  let tag := (n <<< 6) ||| (~~~s &&& 63#32)
  let levels := BitVec.ofNat 32 (2 ^ Nat.log2 tag.toNat - 1)
  (width = 32 ∧ n ≠ 0#32) ∨ tag < 2#32 ∨ width < 2 ^ Nat.log2 tag.toNat ∨ s &&& levels = levels

lemma maskReserved_eq (n : Fin 2) (s : Fin 64) (wide : Bool) :
    maskReserved (BitVec.ofNat 32 n.val) (BitVec.ofNat 32 s.val) (if wide then 64 else 32) =
      immediateReserved (BitVec.ofNat 32 n.val) (BitVec.ofNat 32 s.val) (if wide then 64 else 32) := by
  revert n s wide
  decide +kernel

lemma logicalMask_none (h : logicalMask w = none) :
    maskReserved ((w >>> 22) &&& 1#32) ((w >>> 10) &&& 63#32) (if w >>> 31 ≠ 0#32 then 64 else 32) = true := by
  unfold logicalMask at h
  unfold maskReserved
  dsimp only at h ⊢
  generalize (if w >>> 31 ≠ 0#32 then 64 else 32) = width at *
  rw [decide_eq_true_eq]
  split at h
  next hn => exact Or.inl hn
  split at h
  next hlen => exact Or.inr (Or.inl hlen)
  split at h
  next hrest => exact Or.inr (Or.inr hrest)
  · cases h

lemma immediate_none (h : immediateReserved ((w >>> 22) &&& 1#32) ((w >>> 10) &&& 63#32)
    (if w >>> 31 ≠ 0#32 then 64 else 32) = true) : logicalImmediateMask w = none := by
  unfold immediateReserved at h
  unfold logicalImmediateMask
  dsimp only at h ⊢
  rw [decide_eq_true_eq] at h
  rcases h with h | h | h
  · rw [if_pos h]
  · rw [if_pos h, ite_self]
  · rw [if_pos h, ite_self, ite_self]

lemma logicalMask_reserved (h : logicalMask w = none) : logicalImmediateMask w = none := by
  have hn := Bits.toNat_and_mask (w >>> 22) 1 1#32 rfl
  have hs := Bits.toNat_and_mask (w >>> 10) 6 63#32 rfl
  have heq := maskReserved_eq ⟨((w >>> 22) &&& 1#32).toNat, by omega⟩ ⟨((w >>> 10) &&& 63#32).toNat, by omega⟩
    (decide (w >>> 31 ≠ 0#32))
  simp only [BitVec.ofNat_toNat, BitVec.setWidth_eq, decide_eq_true_eq] at heq
  apply immediate_none
  rw [← heq]
  exact logicalMask_none h

lemma decodeMemory_reserved (hfamily : memoryFamily w = true) (h : decodeMemory w = none) {β : Type}
    (cpu : GuestCpuState) (bus : GuestBus β) (s : β) :
    (cpu.memoryStep bus s w).map Prod.fst = some (.exception .undefinedInstruction) := by
  have hread : ((w >>> 22) &&& 1#32 ≠ 0#32) ↔ bitSet w 22 = true := by
    rw [← bitOf_eq, bitOf, decide_eq_true_eq]
  unfold decodeMemory at h
  unfold GuestCpuState.memoryStep
  by_cases hpair : w &&& 0x3a000000#32 = 0x28000000#32
  · have hreserved : GuestCpuState.pairUndefined w = true := by
      rw [if_pos (show pairFamily w = true from decide_eq_true hpair)] at h
      simp only [decodePair, ite_eq_left_iff, reduceCtorEq, imp_false, not_not, decide_eq_true_eq, hread] at h
      simp only [GuestCpuState.pairUndefined, decide_eq_true_eq, not_or]
      exact h
    rw [if_pos hpair]
    simp only [GuestCpuState.pairMemory, hreserved, if_true]
    rfl
  · have hscalar : scalarFamily w = true := by
      rw [memoryFamily, pairFamily, decide_eq_false hpair, Bool.false_or] at hfamily
      exact hfamily
    have hreserved : GuestCpuState.scalarUndefined w = true := by
      rw [if_neg (by simpa [pairFamily] using hpair), if_pos hscalar] at h
      unfold decodeScalar at h
      dsimp only at h
      simp only [GuestCpuState.scalarUndefined, decide_eq_true_eq]
      split at h
      next hoption =>
        refine Or.inr (Or.inl ⟨hoption.1, ?_⟩)
        have hvalue := hoption.2
        rwa [offsetOption, if_pos hoption.1] at hvalue
      split at h
      next hform => exact Or.inr (Or.inr hform)
      split at h
      next hbase => exact Or.inl hbase
      · cases h
    rw [if_neg hpair, if_pos]
    · simp only [GuestCpuState.scalarMemory, hreserved, if_true]
      rfl
    · simpa only [scalarFamily, unsignedOffsetFamily, registerOffsetFamily, unscaledOffsetFamily, scalarWritebackFamily,
        Bool.or_eq_true, decide_eq_true_eq, or_assoc] using hscalar

lemma branchStep_register (h : w &&& 0xfffffc1f#32 = 0xd61f0000#32 ∨ w &&& 0xfffffc1f#32 = 0xd63f0000#32 ∨
    w &&& 0xfffffc1f#32 = 0xd65f0000#32) (h31 : rnOf w = 31#32) : cpu.branchStep w = some none := by
  have hfield : rnField w = 31#32 := h31
  have hbranch : ¬w &&& 0xfc000000#32 = 0x14000000#32 := by
    rcases h with h | h | h
    · exact mask_ne h (by decide)
    · exact mask_ne h (by decide)
    · exact mask_ne h (by decide)
  unfold GuestCpuState.branchStep
  rw [if_neg hbranch, if_pos h, if_pos hfield]

lemma branchStep_none (hbranch : ¬w &&& 0x7c000000#32 = 0x14000000#32) (htest : ¬w &&& 0x7e000000#32 = 0x36000000#32)
    (hzero : ¬w &&& 0x7e000000#32 = 0x34000000#32)
    (hregister : ¬(w &&& 0xfffffc1f#32 = 0xd61f0000#32 ∨ w &&& 0xfffffc1f#32 = 0xd63f0000#32 ∨
      w &&& 0xfffffc1f#32 = 0xd65f0000#32)) : cpu.branchStep w = none := by
  unfold GuestCpuState.branchStep
  rw [if_neg fun h => hbranch (by rw [and_of_and h (by decide)]; decide), if_neg hregister, if_neg htest, if_neg hzero]

lemma memoryStep_none {β : Type} (h : memoryFamily w = false) (bus : GuestBus β) (s : β) :
    cpu.memoryStep bus s w = none := by
  simp only [memoryFamily, pairFamily, scalarFamily, unsignedOffsetFamily, registerOffsetFamily, unscaledOffsetFamily,
    scalarWritebackFamily, Bool.or_eq_false_iff, decide_eq_false_iff_not] at h
  unfold GuestCpuState.memoryStep
  dsimp only
  rw [if_neg h.1, if_neg]
  rintro (hscalar | hscalar | hscalar | hscalar)
  · exact h.2.1.1.1 hscalar
  · exact h.2.1.1.2 hscalar
  · exact h.2.1.2 hscalar
  · exact h.2.2 hscalar

lemma addSub_class (h : w &&& 0x1f000000#32 = 0x11000000#32) :
    w &&& 0x1f800000#32 = 0x11000000#32 ∨ w &&& 0x1f800000#32 = 0x11800000#32 := by
  have hsplit : w &&& 0x1f800000#32 = w &&& 0x1f000000#32 ||| w &&& BitVec.twoPow 32 23 := by
    rw [← BitVec.and_or_distrib_left]
    congr 1
  rw [hsplit, h, BitVec.and_twoPow]
  split_ifs
  · exact Or.inr (by decide)
  · exact Or.inl (by decide)

section Reserved

variable (hw : Plain w)

include hw

lemma refused_bitfieldMove (h : w &&& 0x7f800000#32 = 0x33000000#32) (hnone : bitfieldMoveResult w = none) :
    Refused w := by
  apply refused_data hw (ne_of_mask h (by decide))
  intro cpu
  rw [dataStep_bitfieldMove cpu h, GuestCpuState.bitfieldMove,
    if_pos (bitfield_reserved (Option.map_eq_none_iff.mp hnone))]

lemma refused_unsignedBitfieldMove (h : w &&& 0x7f800000#32 = 0x53000000#32)
    (hnone : unsignedBitfieldMoveResult w = none) : Refused w := by
  apply refused_data hw (ne_of_mask h (by decide))
  intro cpu
  rw [dataStep_unsignedBitfieldMove cpu h, GuestCpuState.unsignedBitfieldMove,
    if_pos (bitfield_reserved (Option.map_eq_none_iff.mp hnone))]

lemma refused_logicalImmediate (h : w &&& 0x1f800000#32 = 0x12000000#32) (hnone : logicalImmediateResult w = none) :
    Refused w := by
  apply refused_data hw (ne_of_mask h (by decide))
  intro cpu
  rw [dataStep_logicalImmediate cpu h, GuestCpuState.logicalImmediate,
    logicalMask_reserved (Option.map_eq_none_iff.mp hnone), Option.map_none]

lemma refused_moveWide (h : w &&& 0x7f800000#32 = 0x52800000#32 ∨ w &&& 0x7f800000#32 = 0x72800000#32)
    (hnone : moveWideResult w = none) : Refused w := by
  have heret : w ≠ 0xd69f03e0#32 := h.elim (ne_of_mask · (by decide)) (ne_of_mask · (by decide))
  apply refused_data hw heret
  intro cpu
  unfold moveWideResult at hnone
  dsimp only at hnone
  rw [wideOf_eq] at hnone
  split at hnone
  next hreserved =>
    rw [dataStep_moveWide cpu h, GuestCpuState.moveWide]
    dsimp only
    rw [if_pos hreserved]
  split at hnone
  · cases hnone
  · split at hnone <;> cases hnone

lemma refused_moveInverted (h : w &&& 0x7f800000#32 = 0x12800000#32) : Refused w :=
  refused_branch hw (ne_of_mask h (by decide))
    (fun cpu => dataStep_other cpu h (by decide))
    (fun _ _ bus s => memoryStep_none _ (memoryFamily_other (mask_ne h (by decide))) bus s)
    (fun cpu => Or.inr (branchStep_none cpu (mask_ne h (by decide)) (mask_ne h (by decide)) (mask_ne h (by decide))
      (not_or.mpr ⟨mask_ne h (by decide), mask_ne_or h (by decide) (by decide)⟩)))

lemma refused_branchRegister (heret : w ≠ 0xd69f03e0#32) (h : w &&& 0xfffffc1f#32 = 0xd61f0000#32 ∨
    w &&& 0xfffffc1f#32 = 0xd63f0000#32 ∨ w &&& 0xfffffc1f#32 = 0xd65f0000#32) (h31 : rnOf w = 31#32) :
    Refused w := by
  have not {k b : U32} (hbr : 0xd61f0000#32 &&& k ≠ b &&& 0xfffffc1f#32)
      (hblr : 0xd63f0000#32 &&& k ≠ b &&& 0xfffffc1f#32) (hret : 0xd65f0000#32 &&& k ≠ b &&& 0xfffffc1f#32) :
      ¬w &&& k = b :=
    h.elim (mask_ne · hbr) fun h => h.elim (mask_ne · hblr) (mask_ne · hret)
  have hdata (cpu : GuestCpuState) : cpu.dataStep w = none := by
    rcases h with h | h | h
    · exact dataStep_other cpu h (by decide)
    · exact dataStep_other cpu h (by decide)
    · exact dataStep_other cpu h (by decide)
  exact refused_branch hw heret hdata
    (fun _ _ bus s => memoryStep_none _ (memoryFamily_other (not (by decide) (by decide) (by decide))) bus s)
    (fun cpu => Or.inl (branchStep_register cpu h h31))

lemma refused_logicalShifted (h : w &&& 0x1f000000#32 = 0x0a000000#32) (hnone : logicalShiftedResult w = none) :
    Refused w := by
  apply refused_data hw (ne_of_mask h (by decide))
  intro cpu
  unfold logicalShiftedResult at hnone
  dsimp only at hnone
  rw [wideOf_eq] at hnone
  split at hnone
  next hreserved =>
    rw [dataStep_logicalShifted cpu h, GuestCpuState.logicalShifted]
    dsimp only
    rw [if_pos hreserved]
  · cases hnone

lemma refused_addSubExtended (h : w &&& 0x1fe00000#32 = 0x0b200000#32) (hnone : addSubExtendedResult w = none) :
    Refused w := by
  apply refused_data hw (ne_of_mask h (by decide))
  intro cpu
  unfold addSubExtendedResult at hnone
  split at hnone
  next hreserved =>
    rw [dataStep_addSubExtended cpu h, GuestCpuState.addSubExtended]
    dsimp only
    rw [if_pos hreserved]
  · cases hnone

lemma refused_addSubShifted (h : w &&& 0x1f200000#32 = 0x0b000000#32) (hnone : addSubShiftedResult w = none) :
    Refused w := by
  apply refused_data hw (ne_of_mask h (by decide))
  intro cpu
  unfold addSubShiftedResult at hnone
  dsimp only at hnone
  rw [wideOf_eq] at hnone
  split at hnone
  next hreserved =>
    rw [dataStep_addSubShifted cpu h, GuestCpuState.addSubShifted]
    dsimp only
    rw [if_pos hreserved]
  · cases hnone

end Reserved

end Families

section Agreement

variable {w : U32}

lemma effectOne_defined (hw : Plain w) (hclass : w &&& 0x1f800000#32 ≠ 0x11800000#32) (hexecuted : ¬Refused w)
    (t : Target) (provider : Bool) (pc : U64) (n : U32) : Defined (effectOne t provider w pc n) := by
  unfold effectOne
  rw [hw.mrsMsr, hw.idRead]
  refine defined_ite (fun h => absurd h.1 Bool.false_ne_true) fun _ => ?_
  refine defined_ite (fun h => absurd h.1 Bool.false_ne_true) fun _ => ?_
  refine defined_ite (fun _ => defined_stop (by decide)) fun _ => ?_
  refine defined_ite (fun _ => defined_next _) fun hselect => ?_
  refine defined_ite (fun _ => defined_straight (Option.some_ne_none _)) fun hshift => ?_
  refine defined_ite (fun _ => defined_straight (Option.some_ne_none _)) fun hmultiply => ?_
  refine defined_ite (fun _ => defined_next _) fun hcompare => ?_
  refine defined_ite (fun h => defined_straight (mt (refused_bitfieldMove hw h) hexecuted)) fun hbitfield => ?_
  refine defined_ite (fun h => defined_straight (mt (refused_unsignedBitfieldMove hw h) hexecuted)) fun hunsigned => ?_
  refine defined_ite (fun h => defined_straight (mt (refused_logicalImmediate hw h) hexecuted)) fun himmediate => ?_
  refine defined_ite (fun h => absurd h Bool.false_ne_true) fun _ => ?_
  refine defined_ite (fun h => absurd h.1 Bool.false_ne_true) fun _ => ?_
  refine defined_ite (fun h => defined_straight fun hnone => ?_) fun hwide => ?_
  · rcases h with h | h | h
    · exact hexecuted (refused_moveWide hw (Or.inl h) hnone)
    · exact hexecuted (refused_moveWide hw (Or.inr h) hnone)
    · exact hexecuted (refused_moveInverted hw h)
  refine defined_ite (fun _ => defined_straight (Option.some_ne_none _)) fun hrelative => ?_
  refine defined_ite (fun h => defined_straight (mt (refused_logicalShifted hw h) hexecuted)) fun hlogical => ?_
  refine defined_ite (fun _ => defined_straight (Option.some_ne_none _)) fun hadd => ?_
  refine defined_ite (fun h => defined_straight (mt (refused_addSubExtended hw h) hexecuted)) fun hextended => ?_
  refine defined_ite (fun h => defined_straight (mt (refused_addSubShifted hw h) hexecuted)) fun hshifted => ?_
  refine defined_ite (fun h => defined_inline t fun hnone => ?_) fun hmemory => ?_
  · have heret : w ≠ 0xd69f03e0#32 := ne_of_mask (memoryFamily_bits h) (by decide)
    exact hexecuted (refused_memory hw heret (dataStep_memory · h) fun _ => decodeMemory_reserved h hnone)
  refine defined_ite (fun _ => defined_branch _) fun _ => ?_
  refine defined_ite (fun _ => defined_branch _) fun htest => ?_
  refine defined_ite (fun _ => defined_branch _) fun hzero => ?_
  refine defined_ite (fun _ => ?_) fun hbranch => ?_
  · intro g ram g' ram' heq
    cases heq
  refine defined_ite (fun h => ?_) fun hregister => ?_
  · intro g ram g' ram' heq
    unfold branchRegisterResult at heq
    split at heq
    next h31 =>
      have heret : w ≠ 0xd69f03e0#32 := by
        rintro rfl
        revert h
        decide
      exact hexecuted (refused_branchRegister hw heret h h31)
    · cases heq
  refine defined_ite (fun _ => defined_next id) fun _ => ?_
  refine defined_ite (fun _ => ?_) fun _ => ?_
  · intro g ram g' ram' heq
    cases heq
  apply defined_stop
  by_cases heret : w = 0xd69f03e0#32
  · rw [heret]
    by_cases hel : t.currentEl = 0#32
    · simp only [knownPrivileged, show isExceptionReturn 0xd69f03e0#32 = true by decide, hel, decide_true, if_true]
      decide
    · simp only [knownPrivileged, systemBoundary, show isExceptionReturn 0xd69f03e0#32 = true by decide, hel, if_true,
        decide_false, Bool.false_eq_true, if_false]
      decide
  · have hdata (cpu : GuestCpuState) : cpu.dataStep w = none := by
      apply dataStep_none
      simp only [dataMasks, List.forall_mem_cons, List.not_mem_nil, false_imp_iff, implies_true, and_true]
      refine ⟨hmultiply, hselect, hcompare, hbitfield, hunsigned, himmediate, hlogical, hshift,
        fun h => hwide (Or.inl h), fun h => hwide (Or.inr (Or.inl h)), fun h => ?_, hextended, hshifted⟩
      exact (addSub_class h).elim hadd hclass
    exact absurd (refused_branch hw heret hdata
      (fun _ cpu bus s => memoryStep_none cpu (Bool.eq_false_iff.mpr hmemory) bus s)
      fun cpu => Or.inr (branchStep_none cpu hbranch htest hzero hregister)) hexecuted

lemma executes_addSub (hw : Plain w) (h : w &&& 0x1f800000#32 = 0x11800000#32) : Executes w := by
  let bus : GuestBus Unit := { read := fun _ _ _ _ => .ok (w.zeroExtend 64), write := fun s _ _ _ _ => .ok s }
  have hfetch : ((GuestCpuState.reset 0#32).fetch32 bus ()).1 = .ok w := by
    have htruncate : (w.zeroExtend 64).truncate 32 = w := by simp
    exact congrArg Except.ok htruncate
  refine ⟨Unit, GuestCpuState.reset 0#32, bus, (), hfetch, ?_⟩
  have hdata := fun cpu => dataStep_addSubImmediate (w := w) cpu (by rw [and_of_and h (by decide)]; decide)
  simp only [GuestCpuState.executeOne, hfetch, GuestCpuState.executeWord, hw.pauthStep,
    hw.systemStep (ne_of_mask h (by decide)), hw.exclusiveStep, hw.controlStep, hdata]
  intro heq
  cases heq

lemma rejects_addSub (hw : Plain w) (h : w &&& 0x1f800000#32 = 0x11800000#32) (t : Target) (provider : Bool) (pc : U64)
    (n : U32) : Rejects t provider w pc n := by
  have hmemory : memoryFamily w = false := memoryFamily_other (mask_ne h (by decide))
  have hreturn : isExceptionReturn w = false :=
    decide_eq_false (not_or.mpr ⟨ne_of_mask h (by decide),
      not_or.mpr ⟨ne_of_mask h (by decide), ne_of_mask h (by decide)⟩⟩)
  have hprivileged : knownPrivileged w t.currentEl = false := by
    rw [knownPrivileged, hreturn, if_neg Bool.false_ne_true, hw.mrsMsr,
      if_neg (not_or.mpr ⟨ne_of_mask h (by decide), not_or.mpr ⟨ne_of_mask h (by decide),
        mask_ne_or h (by decide) (by decide)⟩⟩),
      if_neg (not_or.mpr ⟨mask_ne h (by decide), mask_ne_or h (by decide) (by decide)⟩)]
    rfl
  have hboundary : systemBoundary w t.currentEl = Status.next := by
    rw [systemBoundary, hreturn, hw.system, if_neg Bool.false_ne_true]
    rfl
  unfold Rejects translateOne
  rw [hw.mrsMsr, hw.idRead, hmemory, hprivileged, hboundary, if_neg (by simp), if_neg (by simp), if_neg (by simp),
    if_neg (mask_ne h (by decide)), if_neg (mask_ne h (by decide)), if_neg (mask_ne h (by decide)),
    if_neg (mask_ne h (by decide)), if_neg (mask_ne h (by decide)), if_neg (mask_ne h (by decide)),
    if_neg (mask_ne h (by decide)), if_neg (by simp), if_neg (by simp),
    if_neg (not_or.mpr ⟨mask_ne h (by decide), mask_ne_or h (by decide) (by decide)⟩),
    if_neg (mask_ne h (by decide)), if_neg (mask_ne h (by decide)), if_neg (mask_ne h (by decide)),
    if_neg (mask_ne h (by decide)), if_neg (mask_ne h (by decide)), if_neg (by simp),
    if_neg (mask_ne h (by decide)), if_neg (mask_ne h (by decide)), if_neg (mask_ne h (by decide)),
    if_neg (mask_ne h (by decide)),
    if_neg (not_or.mpr ⟨mask_ne h (by decide), mask_ne_or h (by decide) (by decide)⟩),
    if_neg (ne_of_mask h (by decide)), if_neg (ne_of_mask h (by decide))]
  exact (emits_bytes _).bind (emits_pure false)

/-- The two decoders accept the same words next to those of ADDG and SUBG, which only the reference core executes. -/
theorem decoders_agree (hw : Plain w) : (Executes w → Translated w) ↔ w &&& 0x1f800000#32 ≠ 0x11800000#32 := by
  constructor
  · intro hagree hclass
    have htranslated := hagree (executes_addSub hw hclass)
    exact htranslated {} false 0#64 0#32 (rejects_addSub hw hclass _ _ _ _)
  · intro hclass hexecutes t provider pc n
    have hdefined := effectOne_defined hw hclass (not_refused hexecutes) t provider pc n
    exact not_rejects hdefined (VfCpu.reset 1#32)

end Agreement

-- add x0, x0, #0
theorem decoders_agree_add : Plain 0x91000000#32 ∧ (Executes 0x91000000#32 → Translated 0x91000000#32) := by
  have hplain : Plain 0x91000000#32 := ⟨by decide, by decide, by decide, by decide⟩
  exact ⟨hplain, (decoders_agree hplain).mpr (by decide)⟩

/-- ADDG X0, X0, #0, #0. -/
theorem addg_only_executed : ¬∀ w, Plain w → Executes w → Translated w := by
  intro h
  have hplain : Plain 0x91800000#32 := ⟨by decide, by decide, by decide, by decide⟩
  have hclass : (0x91800000#32 : U32) &&& 0x1f800000#32 = 0x11800000#32 := by decide
  have htranslated := h _ hplain (executes_addSub hplain hclass)
  exact htranslated {} false 0#64 0#32 (rejects_addSub hplain hclass _ _ _ _)

end Nextcore.Jit
