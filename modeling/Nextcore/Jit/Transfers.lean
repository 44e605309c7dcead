import Nextcore.Jit.Access
import Nextcore.Jit.Bitfields
import Nextcore.Preos.Frame

/-! The inline loads and stores do what the transfers of the reference core do over its RAM bus. -/

namespace Nextcore.Jit

open Cpu X86 Preos Bytes

variable {g : VfCpu} {r : GuestCpuState} {w : U32}

section Offsets

lemma sext_truncate (v : U64) {n : ℕ} (hpos : 0 < n) (hn : n ≤ 32) : sext (v.truncate 32) n = signExtend v n := by
  rw [signed_load hpos hn]
  apply BitVec.eq_of_getLsbD_eq
  intro i hi
  have hlast : (v.truncate n : BitVec n).msb = v.getLsbD (n - 1) := by
    rw [BitVec.msb_eq_getLsbD_last, BitVec.getLsbD_setWidth, decide_eq_true (by omega), Bool.true_and]
  have hfield := getLsbD_extend true v hpos (by omega) hi
  rw [extend, if_pos rfl] at hfield
  rw [hfield, BitVec.getLsbD_signExtend, decide_eq_true hi, Bool.true_and, hlast]
  by_cases h : i < n
  · rw [if_pos h, if_pos h, BitVec.truncate_eq_setWidth, BitVec.getLsbD_setWidth, decide_eq_true h, Bool.true_and]
  · rw [if_neg h, if_neg h, Bool.true_and]

lemma sext_signExtend {x : U32} {n : ℕ} (hpos : 0 < n) (hn : n ≤ 32) : sext x n = signExtend (x.zeroExtend 64) n := by
  have hx : ((x.zeroExtend 64).truncate 32 : U32) = x := by simp
  rw [← sext_truncate _ hpos hn, hx]

lemma displacement_nine (i : Fin 512) :
    ((sext (BitVec.ofNat 32 i.val) 9).truncate 32 : U32).signExtend 64 = signExtend ((BitVec.ofNat 32 i.val).zeroExtend 64) 9 := by
  revert i
  decide +kernel

lemma displacement_seven (i : Fin 128) (wide : Bool) :
    ((sext (BitVec.ofNat 32 i.val) 7 * (if wide then 8#64 else 4#64)).truncate 32 : U32).signExtend 64 =
      signExtend ((BitVec.ofNat 32 i.val).zeroExtend 64) 7 * (if wide then 8#64 else 4#64) := by
  revert i wide
  decide +kernel

lemma displacement_twelve {field : U32} (hfield : field.toNat < 4096) (size : Fin 4) :
    ((field * (1#32 <<< size.val)).signExtend 64 : U64) = field.zeroExtend 64 <<< size.val := by
  have hsize : 1#32 <<< size.val = BitVec.ofNat 32 (2 ^ size.val) ∧ 2 ^ size.val ≤ 8 := by
    revert size
    decide
  have hprod : (field * (1#32 <<< size.val)).toNat = field.toNat * 2 ^ size.val := by
    have hle := Nat.mul_le_mul_left field.toNat hsize.2
    rw [hsize.1, BitVec.toNat_mul, BitVec.toNat_ofNat, Nat.mod_eq_of_lt (show 2 ^ size.val < 2 ^ 32 by omega),
      Nat.mod_eq_of_lt (by omega)]
  have hle := Nat.mul_le_mul_left field.toNat hsize.2
  rw [BitVec.signExtend_eq_setWidth_of_msb_false (by rw [BitVec.msb_eq_decide, hprod]; simp; omega)]
  apply BitVec.eq_of_toNat_eq
  rw [BitVec.toNat_setWidth, hprod, BitVec.toNat_shiftLeft, BitVec.toNat_setWidth, Nat.shiftLeft_eq,
    Nat.mod_eq_of_lt (show field.toNat < 2 ^ 64 by omega)]

lemma index_eq {option : U32} (hlt : option < 8#32) (hoption : option &&& 2#32 ≠ 0#32) (v : U64) :
    (if option &&& 1#32 = 0#32 then
        let low := (v.truncate 32 : U32).zeroExtend 64
        if option = 6#32 ∧ low &&& (1#64 <<< 31) ≠ 0#64 then low ||| 0xffffffff00000000#64 else low
      else v) =
      if option = 2#32 then lowWord v else if option = 6#32 then (v.truncate 32 : U32).signExtend 64 else v := by
  have hcases : option = 2#32 ∨ option = 3#32 ∨ option = 6#32 ∨ option = 7#32 := by
    have hall : ∀ i : Fin 8, BitVec.ofNat 32 i.val &&& 2#32 ≠ 0#32 → i.val = 2 ∨ i.val = 3 ∨ i.val = 6 ∨ i.val = 7 := by
      decide
    have hnat : option.toNat < 8 := hlt
    have hone := hall ⟨option.toNat, hnat⟩ (by rwa [BitVec.ofNat_toNat, BitVec.setWidth_eq])
    rcases hone with h | h | h | h
    · exact Or.inl (BitVec.eq_of_toNat_eq h)
    · exact Or.inr (Or.inl (BitVec.eq_of_toNat_eq h))
    · exact Or.inr (Or.inr (Or.inl (BitVec.eq_of_toNat_eq h)))
    · exact Or.inr (Or.inr (Or.inr (BitVec.eq_of_toNat_eq h)))
  rcases hcases with rfl | rfl | rfl | rfl
  · rfl
  · rfl
  · rw [if_pos (show 6#32 &&& 1#32 = 0#32 by decide), if_neg (show ¬6#32 = 2#32 by decide), if_pos rfl, signed_index]
    simp only [true_and]
  · rfl

end Offsets

section Scalar

variable {shape : MemoryShape}

lemma decodeScalar_fields (h : decodeScalar w = some shape) :
    GuestCpuState.scalarUndefined w = false ∧ shape.width = 1#32 <<< (GuestCpuState.sizeCode w).toNat ∧
      shape.count = 1#32 ∧ shape.read = decide (GuestCpuState.scalarOpc w ≠ 0#32) ∧
      shape.signedLoad = decide (2#32 ≤ GuestCpuState.scalarOpc w) ∧
      shape.result64 = decide (GuestCpuState.scalarOpc w = 2#32 ∨ GuestCpuState.sizeCode w = 3#32) ∧
      shape.mode = (if GuestCpuState.isWriteback w then (w >>> 10) &&& 3#32 else 2#32) ∧ shape.rn = rnField w ∧
      shape.rt = rdField w := by
  unfold decodeScalar at h
  dsimp only at h
  by_cases hoption : registerOffsetFamily w = true ∧ offsetOption w &&& 2#32 = 0#32
  · rw [if_pos hoption] at h
    cases h
  rw [if_neg hoption] at h
  by_cases hform : w &&& (1#32 <<< 26) ≠ 0#32 ∨ (2#32 ≤ (w >>> 22) &&& 3#32 ∧ (w >>> 30 = 3#32 ∨
      ((w >>> 22) &&& 3#32 = 3#32 ∧ w >>> 30 = 2#32)))
  · rw [if_pos hform] at h
    cases h
  rw [if_neg hform] at h
  by_cases hbase : scalarWritebackFamily w = true ∧ (w >>> 5) &&& 31#32 ≠ 31#32 ∧ (w >>> 5) &&& 31#32 = w &&& 31#32
  · rw [if_pos hbase] at h
    cases h
  rw [if_neg hbase] at h
  cases h
  refine ⟨?_, rfl, rfl, rfl, rfl, rfl, rfl, rfl, rfl⟩
  rw [GuestCpuState.scalarUndefined, decide_eq_false_iff_not]
  rintro (hfails | ⟨hindex, hvalue⟩ | hfails)
  · exact hbase hfails
  · refine hoption ⟨hindex, ?_⟩
    rwa [offsetOption, if_pos (show registerOffsetFamily w = true from hindex)]
  · exact hform hfails

lemma Alike.scalarOffset (h : Alike g r) (hshape : decodeScalar w = some shape) :
    memoryOffset g shape = r.scalarOffset w := by
  have hnine := Bits.toNat_and_mask (w >>> 12) 9 511#32 rfl
  have htwelve := Bits.toNat_and_mask (w >>> 10) 12 4095#32 rfl
  have hthree := Bits.toNat_and_mask (w >>> 13) 3 7#32 rfl
  unfold decodeScalar at hshape
  dsimp only at hshape
  by_cases hoption : registerOffsetFamily w = true ∧ offsetOption w &&& 2#32 = 0#32
  · rw [if_pos hoption] at hshape
    cases hshape
  rw [if_neg hoption] at hshape
  split at hshape
  · cases hshape
  split at hshape
  · cases hshape
  cases hshape
  unfold memoryOffset GuestCpuState.scalarOffset
  dsimp only
  by_cases hindex : registerOffsetFamily w = true
  · have hindex' : GuestCpuState.isRegisterOffset w = true := hindex
    have heven : (w >>> 13) &&& 7#32 &&& 2#32 ≠ 0#32 := by
      intro hzero
      exact hoption ⟨hindex, by rwa [offsetOption, if_pos hindex]⟩
    have hvalue := index_eq (show ((w >>> 13) &&& 7#32).toNat < 8 by omega) heven (r.readReg (rmField w) false)
    have hshift : (if registerOffsetFamily w = true ∧ w &&& (1#32 <<< 12) ≠ 0#32 then w >>> 30 else 0#32).toNat =
        if bitSet w 12 then (GuestCpuState.sizeCode w).toNat else 0 := by
      by_cases h12 : w &&& (1#32 <<< 12) ≠ 0#32
      · rw [if_pos ⟨hindex, h12⟩, if_pos (show bitSet w 12 = true from decide_eq_true h12)]
        rfl
      · rw [if_neg fun h => h12 h.2, if_neg (show ¬bitSet w 12 = true by simpa [bitSet] using h12)]
        rfl
    have hrm : (if registerOffsetFamily w = true then (w >>> 16) &&& 31#32 else 0#32) = rmField w := if_pos hindex
    rw [if_neg (by rw [hindex]; decide), if_pos hindex', offsetOption, if_pos hindex, hrm, hshift,
      h.read (show rmField w < 32#32 from and_lt _) false]
    exact congrArg (· <<< _) hvalue
  · have hindex' : ¬GuestCpuState.isRegisterOffset w = true := hindex
    rw [if_pos (Bool.not_eq_true _ ▸ hindex), if_neg hindex', if_neg hindex]
    by_cases hdisplaced : unscaledOffsetFamily w = true ∨ scalarWritebackFamily w = true
    · have hdisplaced' : w &&& 0x3b200c00#32 = 0x38000000#32 ∨ GuestCpuState.isWriteback w = true := by
        rwa [unscaledOffsetFamily, decide_eq_true_eq] at hdisplaced
      have hfield := displacement_nine ⟨((w >>> 12) &&& 511#32).toNat, by omega⟩
      simp only [BitVec.ofNat_toNat, BitVec.setWidth_eq] at hfield
      rw [if_pos hdisplaced, if_pos hdisplaced', hfield]
      rfl
    · have hdisplaced' : ¬(w &&& 0x3b200c00#32 = 0x38000000#32 ∨ GuestCpuState.isWriteback w = true) := by
        rwa [unscaledOffsetFamily, decide_eq_true_eq] at hdisplaced
      have hsize : (w >>> 30).toNat < 4 := by
        rcases size_cases w with h | h | h | h <;> rw [h] <;> decide
      rw [if_neg hdisplaced, if_neg hdisplaced']
      exact displacement_twelve (show ((w >>> 10) &&& 4095#32).toNat < 4096 by omega) ⟨(w >>> 30).toNat, hsize⟩

end Scalar

structure Flat (t : Target) (r : GuestCpuState) : Prop where
  level : t.currentEl = levelWord r.currentEl
  sctlr : t.sctlr = r.sys.sctlrEl1
  hcr : t.hcrEl2 = r.sys.hcrEl2
  scr : t.scrEl3 = r.sys.scrEl3
  off : r.sys.sctlrEl1 &&& 1#64 = 0#64
  disabled : r.mmu.enabled = false

def Block.kind : Block → ExceptionKind
  | .spAlignment => .spAlignmentFault
  | .alignment => .alignmentFault
  | .data => .dataAbort

section Regime

variable {t : Target}

lemma Flat.scalarUnsupported (h : Flat t r) : r.scalarUnsupported = outsideRegime t := by
  have hlevel : 1#32 < t.currentEl ↔ 1 < r.currentEl.toNat := by
    rw [h.level]
    cases r.currentEl <;> decide
  have hzero : t.currentEl = 0#32 ↔ r.currentEl = .el0 := by
    rw [h.level]
    cases r.currentEl <;> decide
  have hoff : ¬(r.sys.sctlrEl1 &&& 1#64 ≠ 0#64 ∧ r.mmu.enabled = false) := fun hm => hm.1 h.off
  unfold GuestCpuState.scalarUnsupported outsideRegime GuestCpuState.endianBit
  simp only [hlevel, hzero, h.hcr, h.scr, h.sctlr, hoff, or_false]

lemma Flat.pairUnsupported (h : Flat t r) : r.pairUnsupported = outsideRegime t := by
  have hcontrols : r.sys.sctlrEl1 &&& (1#64 ||| r.endianBit) = r.sys.sctlrEl1 &&& r.endianBit := by
    rw [BitVec.and_or_distrib_left, h.off, BitVec.zero_or]
  rw [← h.scalarUnsupported]
  unfold GuestCpuState.pairUnsupported GuestCpuState.scalarUnsupported
  rw [hcontrols, h.disabled, h.off]
  simp only [Bool.false_eq_true, false_or, ne_eq, not_true, false_and, or_false]
  exact decide_eq_decide.mpr (by tauto)

lemma Flat.spMisaligned (hflat : Flat t r) (h : Alike g r) (rn : U32) :
    r.spMisaligned rn = decide (checksSp t rn = true ∧ memoryRegister g rn true &&& 15#64 ≠ 0#64) := by
  have hzero : t.currentEl = 0#32 ↔ r.currentEl = .el0 := by
    rw [hflat.level]
    cases r.currentEl <;> decide
  unfold GuestCpuState.spMisaligned checksSp
  simp only [hflat.sctlr, hzero, decide_eq_true_eq, and_assoc]
  refine decide_eq_decide.mpr (and_congr_right fun h31 => and_congr_right fun _ => ?_)
  rw [memoryRegister, if_pos h31, if_pos rfl, h.sp]

lemma Flat.mmuAddress {β : Type} (h : Flat t r) (bus : GuestBus β) (s : β) {address : U64} {size : ℕ} {access : Mmu.Access}
    (haligned : address &&& (BitVec.ofNat 64 size - 1#64) = 0#64) (hdata : access ≠ .execute) :
    r.mmuAddress bus s address size access = (.ok address, r) := by
  unfold GuestCpuState.mmuAddress Mmu.VfMmu.translateDetailed
  rw [if_neg fun hm => hm.2.1 haligned, if_neg fun hm => hdata hm.1, if_pos h.disabled]

end Regime

section Spans

variable {base address : U64} {ram : List Byte} {width : U32}

lemma inRam_iff (hram : ram.length < 2 ^ 64) :
    inRam base (BitVec.ofNat 64 ram.length) address width = true ↔
      base ≤ address ∧ (address - base).toNat + width.toNat ≤ ram.length := by
  have hw : (width.zeroExtend 64 : U64).toNat = width.toNat := by
    have hlt := width.isLt
    rw [BitVec.toNat_setWidth]
    omega
  have hsize : (BitVec.ofNat 64 ram.length).toNat = ram.length := by
    rw [BitVec.toNat_ofNat, Nat.mod_eq_of_lt hram]
  rw [inRam, decide_eq_true_eq]
  refine and_congr_right fun _ => ?_
  constructor
  · rintro ⟨hle, hspan⟩
    rw [BitVec.le_def, BitVec.toNat_sub_of_le hle, hw, hsize] at hspan
    rw [BitVec.le_def, hw, hsize] at hle
    omega
  · intro hspan
    have hle : width.zeroExtend 64 ≤ BitVec.ofNat 64 ram.length := by
      rw [BitVec.le_def, hw, hsize]
      omega
    refine ⟨hle, ?_⟩
    rw [BitVec.le_def, BitVec.toNat_sub_of_le hle, hw, hsize]
    omega

lemma read_inside (hin : base ≤ address ∧ (address - base).toNat + width.toNat ≤ ram.length) (access : Mmu.Access) :
    RamBus.read ⟨ram, base⟩ address width.toNat access = .ok (loadLe ram (address - base).toNat width.toNat) := by
  unfold RamBus.read readWidth
  rw [if_neg (BitVec.not_lt.mpr hin.1), if_pos hin.2]

lemma read_outside (hout : ¬(base ≤ address ∧ (address - base).toNat + width.toNat ≤ ram.length)) (access : Mmu.Access) :
    RamBus.read ⟨ram, base⟩ address width.toNat access = .error .dataAbort := by
  unfold RamBus.read readWidth
  by_cases hbelow : address < base
  · rw [if_pos hbelow]
  · rw [if_neg hbelow, if_neg fun hspan => hout ⟨BitVec.not_lt.mp hbelow, hspan⟩]

lemma write_inside (hin : base ≤ address ∧ (address - base).toNat + width.toNat ≤ ram.length) (value : U64) (access : Mmu.Access) :
    RamBus.write ⟨ram, base⟩ address width.toNat value access =
      .ok ⟨storeLe ram (address - base).toNat width.toNat value, base⟩ := by
  unfold RamBus.write writeWidth
  rw [if_neg (BitVec.not_lt.mpr hin.1), if_pos hin.2]

lemma write_outside (hout : ¬(base ≤ address ∧ (address - base).toNat + width.toNat ≤ ram.length)) (value : U64)
    (access : Mmu.Access) : RamBus.write ⟨ram, base⟩ address width.toNat value access = .error .dataAbort := by
  unfold RamBus.write writeWidth
  by_cases hbelow : address < base
  · rw [if_pos hbelow]
  · rw [if_neg hbelow, if_neg fun hspan => hout ⟨BitVec.not_lt.mp hbelow, hspan⟩]

end Spans

section Scalar

variable {t : Target} {shape : MemoryShape} {ram : List Byte}

def Worked (r r' : GuestCpuState) : Prop :=
  ∃ x sp pstate pc exclusive, r' = { r with x := x, sp := sp, pstate := pstate, pc := pc, exclusive := exclusive }

lemma worked_registers {r' : GuestCpuState} (h : r.Registers r') : Worked r r' := by
  obtain ⟨x, sp, pstate, pc, rfl⟩ := h
  exact ⟨x, sp, pstate, pc, r.exclusive, rfl⟩

lemma Worked.trans {r' r'' : GuestCpuState} (h : Worked r r') (h' : Worked r' r'') : Worked r r'' := by
  obtain ⟨_, _, _, _, _, rfl⟩ := h
  obtain ⟨x, sp, pstate, pc, exclusive, rfl⟩ := h'
  exact ⟨x, sp, pstate, pc, exclusive, rfl⟩

lemma pc_writeReg (r : GuestCpuState) (reg : U32) (v : U64) (sp wide : Bool) : (r.writeReg reg v sp wide).pc = r.pc := by
  unfold GuestCpuState.writeReg
  dsimp only
  split
  · split <;> rfl
  · rfl

lemma scalar_width (h : decodeScalar w = some shape) :
    shape.width.toNat = 2 ^ (GuestCpuState.sizeCode w).toNat ∧
      (shape.width - 1#32).zeroExtend 64 = BitVec.ofNat 64 (2 ^ (GuestCpuState.sizeCode w).toNat) - 1#64 := by
  rw [(decodeScalar_fields h).2.1]
  have hall : ∀ i : Fin 4, (1#32 <<< i.val).toNat = 2 ^ i.val ∧
      (1#32 <<< i.val - 1#32).zeroExtend 64 = BitVec.ofNat 64 (2 ^ i.val) - 1#64 := by
    decide
  have hsize : (GuestCpuState.sizeCode w).toNat < 4 := by
    rcases size_cases w with h | h | h | h <;> rw [GuestCpuState.sizeCode, h] <;> decide
  exact hall ⟨_, hsize⟩

lemma scalar_mode (h : decodeScalar w = some shape) :
    (shape.mode = 1#32 ↔ GuestCpuState.isWriteback w = true ∧ bitSet w 11 = false) ∧
      (shape.mode ≠ 2#32 ↔ GuestCpuState.isWriteback w = true) := by
  obtain ⟨-, -, -, -, -, -, hmode, -, -⟩ := decodeScalar_fields h
  rw [hmode]
  by_cases hback : GuestCpuState.isWriteback w = true
  · have h10 : w.getLsbD 10 = true := by
      have hbits : w &&& 0x3b200400#32 = 0x38000400#32 := of_decide_eq_true hback
      have hbit := congrArg (fun v => v.getLsbD 10) hbits
      simpa using hbit
    have hfield : (w >>> 10) &&& 3#32 = if bitSet w 11 then 3#32 else 1#32 := by
      have hset : bitSet w 11 = w.getLsbD 11 := by
        rw [← bitOf_bitSet w (by decide), bitOf, show (1#32 : U32) = BitVec.twoPow 32 0 from rfl, BitVec.and_twoPow,
          BitVec.getLsbD_ushiftRight, Nat.add_zero]
        cases w.getLsbD 11 <;> decide
      apply BitVec.eq_of_getLsbD_eq
      intro i hi
      have hthree : (3#32).getLsbD i = decide (i < 2) := by
        revert i
        decide
      have hone : (1#32).getLsbD i = decide (i = 0) := by
        revert i
        decide
      rw [hset, BitVec.getLsbD_and, BitVec.getLsbD_ushiftRight, hthree]
      by_cases h0 : i = 0
      · subst h0
        rw [Nat.add_zero, h10]
        split <;> rfl
      by_cases h1 : i = 1
      · subst h1
        cases w.getLsbD 11 <;> rfl
      rw [decide_eq_false (by omega), Bool.and_false]
      split
      · rw [hthree, decide_eq_false (by omega)]
      · rw [hone, decide_eq_false h0]
    rw [if_pos hback, hfield, hback]
    cases bitSet w 11 <;> decide
  · rw [if_neg hback]
    simp [hback]

structure Transferred (shape : MemoryShape) (base : U64) (g : VfCpu) (ram : List Byte) (r : GuestCpuState)
    (out : GuestCpuState.Transfer RamBus) : Prop where
  ok : out.1 = .ok ()
  stored : out.2.2 = ⟨storedAt g shape (accessAddress g shape - base).toNat ram, base⟩
  alike : Alike (writeBase (loadedAt g shape (accessAddress g shape - base).toNat ram) shape
    (memoryRegister g shape.rn true + memoryOffset g shape)) out.2.1
  pc : out.2.1.pc = r.pc + 4#64
  worked : Worked r out.2.1

def Agreed (t : Target) (shape : MemoryShape) (g : VfCpu) (ram : List Byte) (r : GuestCpuState)
    (out : GuestCpuState.Transfer RamBus) : Prop :=
  match accessFault t shape g (BitVec.ofNat 64 ram.length) with
  | some (block, far) => out = (.error (block.kind, far), r, ⟨ram, t.base⟩)
  | none => Transferred shape t.base g ram r out

lemma Alike.writeback {updated : U64} (h : Alike g r) {rn : U32} (hrn : shape.rn = rn) (hlt : rn < 32#32) {back : Bool}
    (hback : shape.mode ≠ 2#32 ↔ back = true) :
    Alike (writeBase g shape updated) ((if back then r.writeReg rn updated true true else r).advance) := by
  unfold writeBase
  cases back
  · rw [if_neg fun hmode => Bool.false_ne_true (hback.mp hmode), if_neg Bool.false_ne_true]
    exact ⟨h.x, h.sp, h.pstate⟩
  · rw [if_pos (hback.mpr rfl), if_pos rfl, hrn]
    have hwrite := h.write hlt true updated true
    exact ⟨hwrite.x, hwrite.sp, hwrite.pstate⟩

lemma worked_writeback (r : GuestCpuState) (rn : U32) (updated : U64) (back : Bool) :
    Worked r (if back then r.writeReg rn updated true true else r).advance ∧
      (if back then r.writeReg rn updated true true else r).advance.pc = r.pc + 4#64 := by
  cases back
  · exact ⟨⟨_, _, _, _, _, rfl⟩, rfl⟩
  · refine ⟨(worked_registers (GuestCpuState.registers_writeReg r rn updated true true)).trans ⟨_, _, _, _, _, rfl⟩, ?_⟩
    exact congrArg (· + 4#64) (pc_writeReg r rn updated true true)

lemma scalarAccess_outside {base address updated : U64} (hshape : decodeScalar w = some shape)
    (hout : ¬(base ≤ address ∧ (address - base).toNat + shape.width.toNat ≤ ram.length)) :
    r.scalarAccess RamBus.bus ⟨ram, base⟩ w address address updated = (.error (.dataAbort, address), r, ⟨ram, base⟩) := by
  obtain ⟨hwidth, -⟩ := scalar_width hshape
  unfold GuestCpuState.scalarAccess
  dsimp only
  rw [← hwidth]
  split
  · rw [show RamBus.bus.write = RamBus.write from rfl, write_outside hout]
  · rw [show RamBus.bus.read = RamBus.read from rfl, read_outside hout]

lemma loaded_value (hshape : decodeScalar w = some shape) (v : U64) :
    (if shape.signedLoad then sext (v.truncate 32) (shape.width * 8#32).toNat else v) =
      if 2#32 ≤ GuestCpuState.scalarOpc w then signExtend v (2 ^ (GuestCpuState.sizeCode w).toNat * 8) else v := by
  obtain ⟨-, hwidth, -, -, hsigned, -⟩ := decodeScalar_fields hshape
  rw [hsigned]
  by_cases hopc : 2#32 ≤ GuestCpuState.scalarOpc w
  · have hnarrow : shape.width ≠ 8#32 :=
      ((decodeScalar_decoded hshape).signed (hsigned.trans (decide_eq_true hopc))).2
    rw [if_pos (decide_eq_true hopc), if_pos hopc]
    rcases size_cases w with hsize | hsize | hsize | hsize
    · rw [hwidth, GuestCpuState.sizeCode, hsize]
      exact sext_truncate v (by decide) (by decide)
    · rw [hwidth, GuestCpuState.sizeCode, hsize]
      exact sext_truncate v (by decide) (by decide)
    · rw [hwidth, GuestCpuState.sizeCode, hsize]
      exact sext_truncate v (by decide) (by decide)
    · rw [hwidth, GuestCpuState.sizeCode, hsize] at hnarrow
      exact absurd rfl hnarrow
  · rw [if_neg (by rw [decide_eq_true_eq]; exact hopc), if_neg hopc]

lemma storeLe_masked (ram : List Byte) (i : ℕ) (v : U64) {k : ℕ} (hk : k < 4) :
    storeLe ram i (2 ^ k) (v &&& if 2 ^ k = 8 then BitVec.allOnes 64 else (1#64 <<< (2 ^ k * 8)) - 1#64) =
      storeLe ram i (2 ^ k) v := by
  refine storeLe_congr (fun j hj => ?_) ram i
  have hpow : 2 ^ k ≤ 8 := Nat.pow_le_pow_right (by decide) (show k ≤ 3 by omega)
  rw [BitVec.getLsbD_and]
  split
  · rw [BitVec.getLsbD_allOnes, decide_eq_true (show j < 64 by omega), Bool.and_true]
  · rw [Bits.getLsbD_low_mask, decide_eq_true (show j < 64 by omega), decide_eq_true (show j < 2 ^ k * 8 by omega),
      Bool.true_and, Bool.and_true]

lemma scalarAccess_inside {base updated : U64} (h : Alike g r) (hshape : decodeScalar w = some shape)
    (hin : base ≤ accessAddress g shape ∧ (accessAddress g shape - base).toNat + shape.width.toNat ≤ ram.length)
    (hupdated : updated = memoryRegister g shape.rn true + memoryOffset g shape) :
    Transferred shape base g ram r
      (r.scalarAccess RamBus.bus ⟨ram, base⟩ w (accessAddress g shape) (accessAddress g shape) updated) := by
  obtain ⟨-, -, hcount, hread, -, hresult, -, hrn, hrt⟩ := decodeScalar_fields hshape
  obtain ⟨hwidth, -⟩ := scalar_width hshape
  obtain ⟨-, hback⟩ := scalar_mode hshape
  have hsize : (GuestCpuState.sizeCode w).toNat < 4 := by
    rcases size_cases w with h | h | h | h <;> rw [GuestCpuState.sizeCode, h] <;> decide
  have hone : ¬shape.count = 2#32 := by
    rw [hcount]
    decide
  subst hupdated
  unfold GuestCpuState.scalarAccess
  dsimp only
  by_cases hstore : GuestCpuState.scalarOpc w = 0#32
  · have hfalse : shape.read = false := by
      rw [hread, hstore]
      rfl
    have hwrite := write_inside hin (r.readReg (rdField w) false &&&
      if 2 ^ (GuestCpuState.sizeCode w).toNat = 8 then BitVec.allOnes 64
        else (1#64 <<< (2 ^ (GuestCpuState.sizeCode w).toNat * 8)) - 1#64) .write
    rw [hwidth, storeLe_masked _ _ _ hsize] at hwrite
    rw [if_pos hstore, show RamBus.bus.write = RamBus.write from rfl, hwrite]
    have hloaded : loadedAt g shape (accessAddress g shape - base).toNat ram = g := by
      rw [loadedAt, loadData, hfalse, if_neg Bool.false_ne_true]
    have hmonitor (monitor : ExclusiveMonitor) : Alike g { r with exclusive := monitor } := ⟨h.x, h.sp, h.pstate⟩
    refine ⟨rfl, ?_, ?_, (worked_writeback { r with exclusive := _ } _ _ _).2,
      Worked.trans ⟨_, _, _, _, _, rfl⟩ (worked_writeback { r with exclusive := _ } _ _ _).1⟩
    · have hregister : memoryRegister g shape.rt false = r.readReg (rdField w) false := by
        rw [hrt]
        exact h.read (and_lt _) false
      rw [storedAt, hfalse, if_neg Bool.false_ne_true, if_neg hone, hwidth, hregister]
    · rw [hloaded]
      exact (hmonitor _).writeback hrn (and_lt _) hback
  · have htrue : shape.read = true := by
      rw [hread]
      exact decide_eq_true hstore
    have hloadRead := read_inside hin .read
    rw [hwidth] at hloadRead
    rw [if_neg hstore, show RamBus.bus.read = RamBus.read from rfl, hloadRead]
    have hwide : shape.result64 =
        decide (GuestCpuState.scalarOpc w = 2#32 ∨ 2 ^ (GuestCpuState.sizeCode w).toNat = 8) := by
      rw [hresult]
      refine decide_eq_decide.mpr (or_congr_right ?_)
      rcases size_cases w with h | h | h | h <;> rw [GuestCpuState.sizeCode, h] <;> decide
    generalize hraw : loadLe ram (accessAddress g shape - base).toNat (2 ^ (GuestCpuState.sizeCode w).toNat) = raw
    have hvalue := loaded_value hshape raw
    dsimp only
    generalize (if 2#32 ≤ GuestCpuState.scalarOpc w then signExtend raw (2 ^ (GuestCpuState.sizeCode w).toNat * 8)
      else raw) = value at *
    have hloaded : loadedAt g shape (accessAddress g shape - base).toNat ram =
        saved g (rdField w) false (low shape.result64 value) := by
      rw [loadedAt, loadData, htrue, if_pos rfl, if_neg hone, memorySave_eq, hrt, hwidth, hraw, hvalue]
    have hload := h.write (and_lt _ : rdField w < 32#32) false value shape.result64
    rw [← hwide]
    refine ⟨rfl, ?_, ?_, (worked_writeback _ _ _ _).2.trans (congrArg (· + 4#64) (pc_writeReg _ _ _ _ _)),
      (worked_registers (GuestCpuState.registers_writeReg r _ _ _ _)).trans (worked_writeback _ _ _ _).1⟩
    · rw [storedAt, htrue, if_pos rfl]
    · rw [hloaded]
      exact hload.writeback hrn (and_lt _) hback

lemma scalar_agrees (hflat : Flat t r) (h : Alike g r) (hshape : decodeScalar w = some shape)
    (hregime : outsideRegime t = false) (hram : ram.length < 2 ^ 64) :
    Agreed t shape g ram r (r.scalarMemory RamBus.bus ⟨ram, t.base⟩ w) := by
  obtain ⟨hdefined, -, hcount, hread, hsigned, hresult, -, hrn, hrt⟩ := decodeScalar_fields hshape
  obtain ⟨hwidth, hmask⟩ := scalar_width hshape
  obtain ⟨hpost, hback⟩ := scalar_mode hshape
  have hbase : memoryRegister g shape.rn true = r.readReg (rnField w) true := by
    rw [hrn]
    exact h.read (and_lt _) true
  have hoffset := h.scalarOffset hshape
  have haddress : (if GuestCpuState.isWriteback w = true ∧ bitSet w 11 = false then r.readReg (rnField w) true
      else r.readReg (rnField w) true + r.scalarOffset w) = accessAddress g shape := by
    unfold accessAddress
    rw [hbase, hoffset]
    by_cases hone : shape.mode = 1#32
    · rw [if_pos hone, if_pos (hpost.mp hone)]
    · rw [if_neg hone, if_neg (mt hpost.mpr hone)]
  have hsp := hflat.spMisaligned h (rnField w)
  have hrefused : ¬r.scalarUnsupported = true := by
    rw [hflat.scalarUnsupported, hregime]
    exact Bool.false_ne_true
  unfold Agreed accessFault GuestCpuState.scalarMemory
  dsimp only
  rw [hdefined, if_neg Bool.false_ne_true, if_neg hrefused, haddress, hsp, hrn]
  by_cases hstack : checksSp t (rnField w) = true ∧ memoryRegister g (rnField w) true &&& 15#64 ≠ 0#64
  · rw [if_pos hstack, decide_eq_true hstack, if_pos rfl]
    dsimp only
    rw [← hbase, hrn]
    rfl
  rw [if_neg hstack, decide_eq_false hstack, if_neg Bool.false_ne_true, hmask]
  by_cases haligned : accessAddress g shape &&& (BitVec.ofNat 64 (2 ^ (GuestCpuState.sizeCode w).toNat) - 1#64) = 0#64
  swap
  · rw [if_pos haligned, if_pos haligned, if_pos (Or.inl hflat.disabled)]
    rfl
  have hdata : (if GuestCpuState.scalarOpc w = 0#32 then Mmu.Access.write else .read) ≠ .execute := by
    split <;> decide
  have hmmu := hflat.mmuAddress RamBus.bus ⟨ram, t.base⟩ haligned hdata
  rw [if_neg (not_not.mpr haligned), if_neg (not_not.mpr haligned), hmmu]
  dsimp only
  have hone : ¬(shape.count = 2#32 ∧ secondOutside t.base (BitVec.ofNat 64 ram.length) (accessAddress g shape) shape.width =
      true) := by
    rw [hcount]
    exact fun hm => absurd hm.1 (by decide)
  rw [if_neg hone, ← hbase, ← hoffset]
  by_cases hin : t.base ≤ accessAddress g shape ∧ (accessAddress g shape - t.base).toNat + shape.width.toNat ≤ ram.length
  · rw [if_neg (by rw [(inRam_iff hram).mpr hin]; decide)]
    exact scalarAccess_inside h hshape hin rfl
  · rw [if_pos (Bool.eq_false_iff.mpr (mt (inRam_iff hram).mp hin))]
    exact scalarAccess_outside hshape hin

end Scalar

section Pairs

variable {t : Target} {shape : MemoryShape} {ram : List Byte}

lemma pair_width (w : U32) : (if w >>> 30 = 2#32 then 8#32 else 4#32 : U32).toNat = GuestCpuState.pairSize w ∧
    ((if w >>> 30 = 2#32 then 8#32 else 4#32) - 1#32 : U32).zeroExtend 64 =
      BitVec.ofNat 64 (GuestCpuState.pairSize w) - 1#64 ∧
    (if w >>> 30 = 2#32 then 8#32 else 4#32 : U32).zeroExtend 64 = BitVec.ofNat 64 (GuestCpuState.pairSize w) := by
  unfold GuestCpuState.pairSize GuestCpuState.sizeCode
  split <;> decide

lemma decodePair_fields (h : decodePair w = some shape) :
    GuestCpuState.pairUndefined w = false ∧ shape.width = (if w >>> 30 = 2#32 then 8#32 else 4#32) ∧ shape.count = 2#32 ∧
      shape.read = GuestCpuState.isPairLoad w ∧ shape.signedLoad = false ∧
      shape.result64 = decide (GuestCpuState.pairSize w = 8) ∧ shape.mode = GuestCpuState.pairMode w ∧ shape.rn = rnField w ∧
      shape.rt = rdField w ∧ shape.rt2 = GuestCpuState.rt2Field w ∧ shape.registerOffset = false ∧
      shape.displacement.signExtend 64 = GuestCpuState.pairOffset w := by
  have hseven := Bits.toNat_and_mask (w >>> 15) 7 127#32 rfl
  have hload : decide ((w >>> 22) &&& 1#32 ≠ 0#32) = GuestCpuState.isPairLoad w := bitOf_bitSet w (by decide)
  unfold decodePair at h
  dsimp only at h
  rw [hload] at h
  split at h
  · cases h
  next hform =>
    cases h
    refine ⟨?_, rfl, rfl, rfl, rfl, ?_, rfl, rfl, rfl, rfl, rfl, ?_⟩
    · rw [GuestCpuState.pairUndefined, decide_eq_false_iff_not]
      rintro (hvector | hsize | hrest)
      · exact hform (Or.inl hvector)
      · exact hform (Or.inr (Or.inl (not_or.mp hsize)))
      · exact hform (Or.inr (Or.inr hrest))
    · unfold GuestCpuState.pairSize GuestCpuState.sizeCode
      split
      next hwide => exact decide_eq_decide.mpr (by simp [hwide])
      next hnarrow => exact decide_eq_decide.mpr (by simp [hnarrow])
    · have hfield := displacement_seven ⟨((w >>> 15) &&& 127#32).toNat, by omega⟩ (w >>> 30 = 2#32)
      simp only [BitVec.ofNat_toNat, BitVec.setWidth_eq, decide_eq_true_eq] at hfield
      unfold GuestCpuState.pairOffset GuestCpuState.pairSize GuestCpuState.sizeCode
      dsimp only
      by_cases hwide : w >>> 30 = 2#32
      · rw [if_pos hwide] at hfield ⊢
        rw [if_pos hwide]
        exact hfield
      · rw [if_neg hwide] at hfield ⊢
        rw [if_neg hwide]
        exact hfield

lemma pairIndex_first {base address : U64} {width : U32} {size : ℕ} (hsize : width.toNat = size) (hram : ram.length < 2 ^ 64) :
    GuestCpuState.pairIndex ram base address size 0 =
      if inRam base (BitVec.ofNat 64 ram.length) address width then .ok (address - base).toNat
      else .error (.dataAbort, address) := by
  have hin := @inRam_iff base address ram width hram
  unfold GuestCpuState.pairIndex
  dsimp only
  rw [Nat.zero_mul, show (BitVec.ofNat 64 0) = 0#64 from rfl, BitVec.add_zero,
    if_neg (by rw [BitVec.uaddOverflow]; simp; omega)]
  by_cases hinside : inRam base (BitVec.ofNat 64 ram.length) address width = true
  · rw [if_pos hinside, if_neg]
    rintro (hbelow | hshort | hfar)
    · exact BitVec.not_lt.mpr (hin.mp hinside).1 hbelow
    · have hspan := (hin.mp hinside).2
      omega
    · have hspan := (hin.mp hinside).2
      omega
  · rw [if_neg hinside, if_pos]
    by_contra hnone
    rw [not_or, not_or] at hnone
    exact hinside (hin.mpr ⟨BitVec.not_lt.mp hnone.1, by omega⟩)

lemma pairIndex_second {base address : U64} {width : U32} {size : ℕ} (hsize : width.toNat = size) (h16 : size ≤ 8)
    (hram : ram.length < 2 ^ 64) (hin : base ≤ address ∧ (address - base).toNat + width.toNat ≤ ram.length) :
    GuestCpuState.pairIndex ram base address size 1 =
      if secondOutside base (BitVec.ofNat 64 ram.length) address width then .error (.dataAbort, address + BitVec.ofNat 64 size)
      else .ok ((address - base).toNat + size) := by
  have hw : width.zeroExtend 64 = BitVec.ofNat 64 size := by
    rw [← hsize]
    exact (BitVec.ofNat_toNat 64 width).symm
  have hword : (BitVec.ofNat 64 size).toNat = size := by
    rw [BitVec.toNat_ofNat]
    omega
  have hlen : (BitVec.ofNat 64 ram.length).toNat = ram.length := by
    rw [BitVec.toNat_ofNat, Nat.mod_eq_of_lt hram]
  have hdouble : ((2#32 * width).zeroExtend 64 : U64).toNat = 2 * size := by
    rw [BitVec.toNat_setWidth, BitVec.toNat_mul, show (2#32).toNat = 2 from rfl]
    omega
  unfold GuestCpuState.pairIndex secondOutside
  dsimp only
  rw [Nat.one_mul, hw]
  by_cases hover : address.uaddOverflow (BitVec.ofNat 64 size) = true
  · rw [if_pos hover, if_pos (decide_eq_true (Or.inl hover))]
  rw [if_neg hover]
  have hsum : (address + BitVec.ofNat 64 size).toNat = address.toNat + size := by
    rw [BitVec.uaddOverflow, decide_eq_true_eq, hword] at hover
    rw [BitVec.toNat_add, hword]
    omega
  have hle := hin.1
  rw [BitVec.le_def] at hle
  have hbase : base ≤ address + BitVec.ofNat 64 size := by
    rw [BitVec.le_def, hsum]
    omega
  have hdiff : (address + BitVec.ofNat 64 size - base).toNat = (address - base).toNat + size := by
    rw [BitVec.toNat_sub_of_le hbase, hsum, BitVec.toNat_sub_of_le hin.1]
    omega
  have hspan := hin.2
  have hfirst : BitVec.ofNat 64 size ≤ BitVec.ofNat 64 ram.length := by
    rw [BitVec.le_def, hword, hlen]
    omega
  by_cases htwo : ram.length < 2 * size
  · rw [if_pos, if_pos]
    · refine decide_eq_true (Or.inr (Or.inl ?_))
      rw [BitVec.lt_def, hdouble, hlen]
      exact htwo
    · refine Or.inr (Or.inr ?_)
      rw [hdiff]
      omega
  have hrest : (BitVec.ofNat 64 ram.length - BitVec.ofNat 64 size - BitVec.ofNat 64 size).toNat = ram.length - size - size := by
    rw [BitVec.toNat_sub_of_le, BitVec.toNat_sub_of_le hfirst, hlen, hword]
    rw [BitVec.le_def, BitVec.toNat_sub_of_le hfirst, hlen, hword]
    omega
  have hnot : ¬(BitVec.ofNat 64 ram.length < (2#32 * width).zeroExtend 64) := by
    rw [BitVec.lt_def, hdouble, hlen]
    exact htwo
  by_cases hfar : ram.length - size < (address + BitVec.ofNat 64 size - base).toNat
  · rw [if_pos (Or.inr (Or.inr hfar)), if_pos]
    refine decide_eq_true (Or.inr (Or.inr ?_))
    rw [BitVec.lt_def, hrest]
    omega
  · rw [if_neg, if_neg, hdiff]
    · rw [decide_eq_true_eq]
      rintro (h | h | h)
      · exact hover h
      · exact hnot h
      · rw [BitVec.lt_def, hrest] at h
        omega
    · rintro (h | h | h)
      · exact BitVec.not_lt.mpr hbase h
      · omega
      · exact hfar h

lemma pairTransfer_inside {base updated : U64} (h : Alike g r) (hshape : decodePair w = some shape)
    (hupdated : updated = memoryRegister g shape.rn true + memoryOffset g shape) :
    Transferred shape base g ram r (.ok (), r.pairTransfer RamBus.bus ⟨ram, base⟩ w ram (accessAddress g shape) updated
      (accessAddress g shape - base).toNat ((accessAddress g shape - base).toNat + GuestCpuState.pairSize w)) := by
  obtain ⟨-, hshapeWidth, hcount, hread, hsigned, hresult, hmode, hrn, hrt, hrt2, -, -⟩ := decodePair_fields hshape
  have hwidth : shape.width.toNat = GuestCpuState.pairSize w := by
    rw [hshapeWidth]
    exact (pair_width w).1
  have hback : shape.mode ≠ 2#32 ↔ decide (GuestCpuState.pairMode w ≠ 2#32) = true := by
    rw [hmode, decide_eq_true_eq]
  have hwritten (cpu : GuestCpuState) : cpu.pairWriteback w updated =
      (if decide (GuestCpuState.pairMode w ≠ 2#32) then cpu.writeReg (rnField w) updated true true else cpu).advance := by
    unfold GuestCpuState.pairWriteback
    simp only [decide_eq_true_eq]
  subst hupdated
  unfold GuestCpuState.pairTransfer
  dsimp only
  by_cases hload : GuestCpuState.isPairLoad w = true
  · have htrue : shape.read = true := hread.trans hload
    rw [if_pos hload, hwritten]
    generalize hfirst : loadLe ram (accessAddress g shape - base).toNat (GuestCpuState.pairSize w) = first
    generalize hsecond : loadLe ram ((accessAddress g shape - base).toNat + GuestCpuState.pairSize w)
      (GuestCpuState.pairSize w) = second
    have hboth := (h.write (and_lt _ : rdField w < 32#32) false first shape.result64).write
      (and_lt _ : GuestCpuState.rt2Field w < 32#32) false second shape.result64
    have hloaded : loadedAt g shape (accessAddress g shape - base).toNat ram =
        saved (saved g (rdField w) false (low shape.result64 first)) (GuestCpuState.rt2Field w) false
          (low shape.result64 second) := by
      rw [loadedAt, loadData, htrue, if_pos rfl, if_pos hcount, if_pos hcount, hsigned, if_neg Bool.false_ne_true,
        memorySave_eq, memorySave_eq, hrt, hrt2, hwidth, hfirst, hsecond]
    rw [← hresult]
    refine ⟨rfl, ?_, ?_, (worked_writeback _ _ _ _).2.trans (congrArg (· + 4#64)
      ((pc_writeReg _ _ _ _ _).trans (pc_writeReg _ _ _ _ _))), (worked_registers
        ((GuestCpuState.registers_writeReg r _ _ _ _).trans (GuestCpuState.registers_writeReg _ _ _ _ _))).trans
        (worked_writeback _ _ _ _).1⟩
    · rw [storedAt, htrue, if_pos rfl]
    · rw [hloaded]
      exact hboth.writeback hrn (and_lt _) hback
  · have hfalse : shape.read = false := hread.trans (Bool.eq_false_iff.mpr hload)
    have hloaded : loadedAt g shape (accessAddress g shape - base).toNat ram = g := by
      rw [loadedAt, loadData, hfalse, if_neg Bool.false_ne_true]
    have hmonitor (monitor : ExclusiveMonitor) : Alike g { r with exclusive := monitor } := ⟨h.x, h.sp, h.pstate⟩
    have hone : memoryRegister g shape.rt false = r.readReg (rdField w) false := by
      rw [hrt]
      exact h.read (and_lt _) false
    have htwo : memoryRegister g shape.rt2 false = r.readReg (GuestCpuState.rt2Field w) false := by
      rw [hrt2]
      exact h.read (and_lt _) false
    rw [if_neg hload, hwritten]
    refine ⟨rfl, ?_, ?_, (worked_writeback { r with exclusive := _ } _ _ _).2,
      Worked.trans ⟨_, _, _, _, _, rfl⟩ (worked_writeback { r with exclusive := _ } _ _ _).1⟩
    · rw [storedAt, hfalse, if_neg Bool.false_ne_true, if_pos hcount, hwidth, hone, htwo]
      rfl
    · rw [hloaded]
      exact (hmonitor _).writeback hrn (and_lt _) hback

lemma pair_agrees (hflat : Flat t r) (h : Alike g r) (hshape : decodePair w = some shape)
    (hregime : outsideRegime t = false) (hram : ram.length < 2 ^ 64) :
    Agreed t shape g ram r (r.pairMemory RamBus.bus ⟨ram, t.base⟩ w) := by
  obtain ⟨hdefined, hshapeWidth, hcount, -, -, -, hmode, hrn, -, -, hindex, hdisplacement⟩ := decodePair_fields hshape
  obtain ⟨hsize, hmask, hwide⟩ := pair_width w
  rw [← hshapeWidth] at hsize hmask hwide
  have h8 : GuestCpuState.pairSize w ≤ 8 := by
    unfold GuestCpuState.pairSize
    split <;> decide
  have hbase : memoryRegister g shape.rn true = r.readReg (rnField w) true := by
    rw [hrn]
    exact h.read (and_lt _) true
  have hoffset : memoryOffset g shape = GuestCpuState.pairOffset w := by
    rw [memoryOffset, if_pos hindex, hdisplacement]
  have haddress : (if GuestCpuState.pairMode w = 1#32 then r.readReg (rnField w) true
      else r.readReg (rnField w) true + GuestCpuState.pairOffset w) = accessAddress g shape := by
    unfold accessAddress
    rw [hbase, hoffset, hmode]
  have hsp := hflat.spMisaligned h (rnField w)
  have hrefused : ¬r.pairUnsupported = true := by
    rw [hflat.pairUnsupported, hregime]
    exact Bool.false_ne_true
  unfold Agreed accessFault GuestCpuState.pairMemory
  dsimp only
  rw [hdefined, if_neg Bool.false_ne_true, if_neg hrefused, haddress, hsp, hrn]
  by_cases hstack : checksSp t (rnField w) = true ∧ memoryRegister g (rnField w) true &&& 15#64 ≠ 0#64
  · rw [if_pos hstack, decide_eq_true hstack, if_pos rfl]
    dsimp only
    rw [← hbase, hrn]
    rfl
  rw [if_neg hstack, decide_eq_false hstack, if_neg Bool.false_ne_true, hmask]
  by_cases haligned : accessAddress g shape &&& (BitVec.ofNat 64 (GuestCpuState.pairSize w) - 1#64) = 0#64
  swap
  · rw [if_pos haligned, if_pos haligned]
    rfl
  rw [if_neg (not_not.mpr haligned), if_neg (not_not.mpr haligned)]
  rw [show RamBus.bus.pairRam ⟨ram, t.base⟩ = some (ram, t.base) from rfl]
  dsimp only
  rw [pairIndex_first hsize hram]
  by_cases hin : inRam t.base (BitVec.ofNat 64 ram.length) (accessAddress g shape) shape.width = true
  swap
  · rw [if_pos (Bool.eq_false_iff.mpr hin), if_neg hin]
    generalize GuestCpuState.pairIndex ram t.base (accessAddress g shape) (GuestCpuState.pairSize w) 1 = second
    cases second <;> rfl
  have hspan := (inRam_iff hram).mp hin
  rw [if_neg (by rw [hin]; decide), if_pos hin, pairIndex_second hsize h8 hram hspan]
  by_cases hsecond : secondOutside t.base (BitVec.ofNat 64 ram.length) (accessAddress g shape) shape.width = true
  · rw [if_pos ⟨hcount, hsecond⟩, if_pos hsecond, hwide]
    rfl
  · rw [if_neg fun hm => hsecond hm.2, if_neg hsecond, ← hbase, ← hoffset]
    exact pairTransfer_inside h hshape rfl

end Pairs

end Nextcore.Jit
