import Nextcore.Jit.Decoders
import Nextcore.Preos.Agreement

/-! The register files, the flags and the operands of the translator and of the reference core, side by side. -/

namespace Nextcore.Jit

open Cpu X86 Preos

structure Alike (g : VfCpu) (r : GuestCpuState) : Prop where
  x : ∀ i : Fin 31, g.x (i.castLE (by decide)) = r.x i
  sp : g.sp = r.sp
  pstate : g.pstate = r.pstate.zeroExtend 64

lemma low_wide (v : U64) : low true v = v := rfl

lemma low_narrow (v : U64) : low false v = lowWord v := rfl

lemma low_eq (wide : Bool) (v : U64) : low wide v = if wide then v else lowWord v := by
  cases wide <;> rfl

lemma getLsbD_width (wide : Bool) (v : U64) (i : ℕ) :
    (low wide v).getLsbD i = (v.getLsbD i && (wide || decide (i < 32))) := by
  cases wide
  · rw [low_narrow, lowWord, BitVec.truncate_eq_setWidth, BitVec.getLsbD_setWidth, BitVec.getLsbD_setWidth]
    by_cases h : i < 32
    · simp [h, show i < 64 by omega]
    · simp [h]
  · simp [low_wide]

section Registers

variable {g : VfCpu} {r : GuestCpuState} {reg : U32}

lemma slot_castLE (h : reg < 31#32) : VfCpu.slot reg = (Fin.ofNat 31 reg.toNat).castLE (by decide) := by
  have hlt : reg.toNat < 31 := h
  apply Fin.ext
  change reg.toNat % 32 = reg.toNat % 31
  rw [Nat.mod_eq_of_lt (by omega), Nat.mod_eq_of_lt hlt]

lemma lt_31 (hreg : reg < 32#32) (h : reg ≠ 31#32) : reg < 31#32 := by
  bv_omega

lemma Alike.read (h : Alike g r) (hreg : reg < 32#32) (sp : Bool) :
    memoryRegister g reg sp = r.readReg reg sp := by
  unfold memoryRegister GuestCpuState.readReg
  split
  · rw [h.sp]
  next h31 => rw [slot_castLE (lt_31 hreg h31), h.x]

lemma Alike.operand (h : Alike g r) (hreg : reg < 32#32) (wide : Bool) :
    operandOf g reg wide = low wide (r.readReg reg false) :=
  congrArg (low wide) (h.read hreg false)

lemma castLE_ne_slot {i : Fin 31} (h : reg < 31#32) (hi : i ≠ Fin.ofNat 31 reg.toNat) :
    (i.castLE (by decide) : Fin 32) ≠ VfCpu.slot reg := by
  rw [slot_castLE h]
  exact fun heq => hi (Fin.castLE_injective _ heq)

lemma Alike.write (h : Alike g r) (hreg : reg < 32#32) (sp : Bool) (v : U64) (wide : Bool) :
    Alike (saved g reg sp (low wide v)) (r.writeReg reg v sp wide) := by
  rw [low_eq]
  unfold saved GuestCpuState.writeReg
  dsimp only
  split
  · split
    · exact ⟨h.x, rfl, h.pstate⟩
    · exact h
  next h31 =>
    refine ⟨fun i => ?_, h.sp, h.pstate⟩
    have hlt := lt_31 hreg h31
    change Function.update g.x (VfCpu.slot reg) _ (i.castLE (by decide)) = Function.update r.x _ _ i
    by_cases hi : i = Fin.ofNat 31 reg.toNat
    · rw [hi, ← slot_castLE hlt, Function.update_self, Function.update_self]
    · rw [Function.update_of_ne (castLE_ne_slot hlt hi), Function.update_of_ne hi, h.x]

end Registers

section Flags

def flags32 (n z c v : Bool) : U32 :=
  (if n then Pstate.n else 0#32) ||| (if z then Pstate.z else 0#32) ||| (if c then Pstate.c else 0#32) |||
    (if v then Pstate.v else 0#32)

lemma nzcv_eq (n z c v : Bool) : nzcv n z c v = (flags32 n z c v).zeroExtend 64 := by
  cases n <;> cases z <;> cases c <;> cases v <;> decide

lemma replaceFlags_eq (p k : U32) :
    (p.zeroExtend 64 &&& ~~~0xf0000000#64) ||| k.zeroExtend 64 = ((p &&& ~~~0xf0000000#32) ||| k).zeroExtend 64 := by
  apply BitVec.eq_of_getLsbD_eq
  intro i hi
  have hmask : (~~~0xf0000000#64).getLsbD i = (decide (32 ≤ i) || (~~~0xf0000000#32).getLsbD i) := by
    revert i
    decide
  simp only [BitVec.getLsbD_or, BitVec.getLsbD_and, BitVec.truncate_eq_setWidth, BitVec.getLsbD_setWidth, hmask]
  by_cases h32 : 32 ≤ i
  · simp [BitVec.getLsbD_of_ge p i h32, BitVec.getLsbD_of_ge k i h32]
  · simp [h32, hi]

variable {g : VfCpu} {r : GuestCpuState}

lemma Alike.replaceFlags (h : Alike g r) (k : U32) :
    Alike (setNzcv g (k.zeroExtend 64)) { r with pstate := (r.pstate &&& ~~~0xf0000000#32) ||| k } :=
  ⟨h.x, h.sp, by rw [← replaceFlags_eq, ← h.pstate]; rfl⟩

lemma and_top (v : U64) (k : ℕ) : v &&& (1#64 <<< k) ≠ 0#64 ↔ v.getLsbD k = true := by
  rw [show (1#64 <<< k) = BitVec.twoPow 64 k from rfl, BitVec.and_twoPow]
  cases hbit : v.getLsbD k
  · simp
  · have hk : k < 64 := BitVec.lt_of_getLsbD hbit
    simp only [if_true, iff_true]
    intro hzero
    have hb := congrArg (fun x => x.getLsbD k) hzero
    simp [hk] at hb

lemma setNzcv_eq (r : GuestCpuState) (v : U64) (wide c o : Bool) :
    r.setNzcv v wide c o = { r with
      pstate := (r.pstate &&& ~~~0xf0000000#32) |||
        flags32 ((low wide v).getLsbD (if wide then 63 else 31)) (low wide v = 0#64) c o } := by
  have hmask : v &&& (if wide then BitVec.allOnes 64 else 0xffffffff#64) = low wide v := by
    apply BitVec.eq_of_getLsbD_eq
    intro i hi
    have hlow : (0xffffffff#64).getLsbD i = decide (i < 32) := by
      revert i
      decide
    rw [getLsbD_width, BitVec.getLsbD_and]
    cases wide
    · rw [if_neg Bool.false_ne_true, hlow, Bool.false_or]
    · rw [if_pos rfl, BitVec.getLsbD_allOnes, Bool.true_or, decide_eq_true hi]
  unfold GuestCpuState.setNzcv
  dsimp only
  rw [hmask, show Pstate.n ||| Pstate.z ||| Pstate.c ||| Pstate.v = 0xf0000000#32 by decide]
  simp only [and_top, flags32, BitVec.or_assoc, decide_eq_true_eq]

end Flags

section Sums

def carries (subtract wide : Bool) (a b : U64) : Bool × Bool :=
  let f := aluFlags (addSubOp subtract) wide a b
  (subtract ^^ f.cf.getD false, f.of.getD false)

lemma and_low (v : U64) : v &&& 0xffffffff#64 = low false v := by
  apply BitVec.eq_of_getLsbD_eq
  intro i hi
  have hmask : (0xffffffff#64).getLsbD i = decide (i < 32) := by
    revert i
    decide
  rw [getLsbD_width, BitVec.getLsbD_and, hmask, Bool.false_or]

lemma low_toNat (v : U64) : (low false v).toNat = v.toNat % 2 ^ 32 := by
  change (BitVec.zeroExtend 64 (v.truncate 32 : U32)).toNat = _
  simp only [BitVec.truncate_eq_setWidth, BitVec.toNat_setWidth]
  omega

lemma sub_overflow {w : ℕ} (a b : BitVec w) : a.ssubOverflow b = ((a.msb ^^ b.msb) && (a.msb ^^ (a - b).msb)) := by
  rw [BitVec.ssubOverflow_eq]
  cases a.msb <;> cases b.msb <;> cases (a - b).msb <;> rfl

lemma add_overflow {w : ℕ} (a b : BitVec w) : a.saddOverflow b = (!(a.msb ^^ b.msb) && (a.msb ^^ (a + b).msb)) := by
  rw [BitVec.saddOverflow_eq]
  cases a.msb <;> cases b.msb <;> cases (a + b).msb <;> rfl

lemma addSub_wide (a b : U64) (subtract : Bool) :
    addSub a b subtract true = (alu (addSubOp subtract) true a b, carries subtract true a b) := by
  have hmsb (v : U64) : v.getLsbD 63 = v.msb := (BitVec.msb_eq_getLsbD_last v).symm
  cases subtract
  · have hsum : (a.zeroExtend 128 + b.zeroExtend 128 : BitVec 128).toNat = a.toNat + b.toNat := by
      simp only [BitVec.toNat_add, BitVec.truncate_eq_setWidth, BitVec.toNat_setWidth]
      omega
    have hvalue : ((a.zeroExtend 128 + b.zeroExtend 128 : BitVec 128).truncate 64 : U64) = a + b := by
      apply BitVec.eq_of_toNat_eq
      rw [BitVec.truncate_eq_setWidth, BitVec.toNat_setWidth, hsum, BitVec.toNat_add]
    have hcarry : (a.zeroExtend 128 + b.zeroExtend 128 : BitVec 128) >>> 64 ≠ 0#128 ↔ a.uaddOverflow b = true := by
      rw [ne_eq, ← BitVec.toNat_inj, BitVec.toNat_ushiftRight, hsum, Nat.shiftRight_eq_div_pow, BitVec.uaddOverflow,
        decide_eq_true_eq]
      change ¬(a.toNat + b.toNat) / 2 ^ 64 = 0 ↔ _
      omega
    have hover : ~~~(a ^^^ b) &&& (a ^^^ (a + b)) &&& (1#64 <<< 63) ≠ 0#64 ↔ a.saddOverflow b = true := by
      rw [and_top, add_overflow, hmsb, BitVec.msb_and, BitVec.msb_not, BitVec.msb_xor, BitVec.msb_xor]
      rfl
    unfold addSub carries
    simp only [if_true, Bool.false_eq_true, if_false, BitVec.and_allOnes, hvalue, hcarry, hover, Bool.decide_eq_true,
      Bool.false_xor]
    rfl
  · have hcarry : decide (b ≤ a) = (true ^^ a.usubOverflow b) := by
      rw [BitVec.usubOverflow, Bool.true_xor, ← decide_not]
      exact decide_eq_decide.mpr Nat.not_lt.symm
    have hover : (a ^^^ b) &&& (a ^^^ (a - b)) &&& (1#64 <<< 63) ≠ 0#64 ↔ a.ssubOverflow b = true := by
      rw [and_top, sub_overflow, hmsb, BitVec.msb_and, BitVec.msb_xor, BitVec.msb_xor]
    unfold addSub
    simp only [if_true, BitVec.and_allOnes, hcarry, hover, Bool.decide_eq_true]
    rfl

lemma addSub_narrow (a b : U64) (subtract : Bool) :
    addSub a b subtract false = (alu (addSubOp subtract) false a b, carries subtract false a b) := by
  have hbit (v : U64) : (low false v).getLsbD 31 = (v.truncate 32 : U32).msb := by
    rw [BitVec.msb_eq_getLsbD_last, getLsbD_width, BitVec.truncate_eq_setWidth, BitVec.getLsbD_setWidth]
    simp
  have hnat (v : U64) : (v.truncate 32 : U32).toNat = (low false v).toNat := by
    rw [low_toNat, BitVec.truncate_eq_setWidth, BitVec.toNat_setWidth]
  have ha := low_toNat a
  have hb := low_toNat b
  cases subtract
  · have hsum : ((low false a).zeroExtend 128 + (low false b).zeroExtend 128 : BitVec 128).toNat =
        (low false a).toNat + (low false b).toNat := by
      simp only [BitVec.toNat_add, BitVec.truncate_eq_setWidth, BitVec.toNat_setWidth]
      omega
    have hvalue : low false (((low false a).zeroExtend 128 + (low false b).zeroExtend 128 : BitVec 128).truncate 64) =
        alu .add false a b := by
      apply BitVec.eq_of_toNat_eq
      change _ = (BitVec.zeroExtend 64 ((a.truncate 32 : U32) + b.truncate 32)).toNat
      rw [low_toNat]
      simp only [BitVec.truncate_eq_setWidth, BitVec.toNat_setWidth, hsum, BitVec.toNat_add]
      omega
    have hcarry : ((low false a).zeroExtend 128 + (low false b).zeroExtend 128 : BitVec 128) >>> 32 ≠ 0#128 ↔
        (a.truncate 32 : U32).uaddOverflow (b.truncate 32) = true := by
      rw [ne_eq, ← BitVec.toNat_inj, BitVec.toNat_ushiftRight, hsum, Nat.shiftRight_eq_div_pow, BitVec.uaddOverflow,
        decide_eq_true_eq, hnat, hnat]
      change ¬((low false a).toNat + (low false b).toNat) / 2 ^ 32 = 0 ↔ _
      omega
    have hover : ~~~(low false a ^^^ low false b) &&& (low false a ^^^ alu .add false a b) &&& (1#64 <<< 31) ≠ 0#64 ↔
        (a.truncate 32 : U32).saddOverflow (b.truncate 32) = true := by
      have hresult : (alu .add false a b).getLsbD 31 = ((a.truncate 32 : U32) + b.truncate 32).msb := by
        rw [← low_alu, hbit]
        congr 1
        change BitVec.truncate 32 (BitVec.zeroExtend 64 ((a.truncate 32 : U32) + b.truncate 32)) = _
        simp
      rw [and_top, add_overflow]
      simp only [BitVec.getLsbD_and, BitVec.getLsbD_not, BitVec.getLsbD_xor, hbit, hresult, decide_true, Bool.true_and,
        show (31 < 64) = True by decide]
    unfold addSub carries
    simp only [Bool.false_eq_true, if_false, and_low, hvalue, hcarry, hover, Bool.decide_eq_true, Bool.false_xor]
    rfl
  · have hvalue : low false (low false a - low false b) = alu .sub false a b := by
      apply BitVec.eq_of_toNat_eq
      change _ = (BitVec.zeroExtend 64 ((a.truncate 32 : U32) - b.truncate 32)).toNat
      rw [low_toNat]
      simp only [BitVec.truncate_eq_setWidth, BitVec.toNat_setWidth, BitVec.toNat_sub]
      omega
    have hcarry : decide (low false b ≤ low false a) = (true ^^ (a.truncate 32 : U32).usubOverflow (b.truncate 32)) := by
      rw [BitVec.usubOverflow, Bool.true_xor, ← decide_not, hnat, hnat]
      exact decide_eq_decide.mpr Nat.not_lt.symm
    have hover : (low false a ^^^ low false b) &&& (low false a ^^^ alu .sub false a b) &&& (1#64 <<< 31) ≠ 0#64 ↔
        (a.truncate 32 : U32).ssubOverflow (b.truncate 32) = true := by
      have hresult : (alu .sub false a b).getLsbD 31 = ((a.truncate 32 : U32) - b.truncate 32).msb := by
        rw [← low_alu, hbit]
        congr 1
        change BitVec.truncate 32 (BitVec.zeroExtend 64 ((a.truncate 32 : U32) - b.truncate 32)) = _
        simp
      rw [and_top, sub_overflow]
      simp only [BitVec.getLsbD_and, BitVec.getLsbD_xor, hbit, hresult]
    unfold addSub
    simp only [Bool.false_eq_true, if_false, if_true, and_low, hvalue, hcarry, hover, Bool.decide_eq_true]
    rfl

lemma addSub_eq (a b : U64) (subtract wide : Bool) :
    addSub a b subtract wide = (alu (addSubOp subtract) wide a b, carries subtract wide a b) := by
  cases wide
  · exact addSub_narrow a b subtract
  · exact addSub_wide a b subtract

lemma zeroExtend_eq_zero (v : U32) : v.zeroExtend 64 = 0#64 ↔ v = 0#32 := by
  constructor
  · intro h
    have h32 := congrArg (BitVec.truncate 32) h
    simpa using h32
  · rintro rfl
    rfl

lemma aluFlags_result (op : AluOp) (wide : Bool) (a b : U64) :
    (aluFlags op wide a b).sf.getD false = (alu op wide a b).getLsbD (if wide then 63 else 31) ∧
      (aluFlags op wide a b).zf.getD false = decide (alu op wide a b = 0#64) := by
  cases wide
  · have hsign (v : U32) : v.msb = (v.zeroExtend 64 : U64).getLsbD 31 := by
      rw [BitVec.msb_eq_getLsbD_last]
      simp
    cases op
    all_goals exact ⟨hsign _, decide_eq_decide.mpr (zeroExtend_eq_zero _).symm⟩
  · cases op
    all_goals exact ⟨BitVec.msb_eq_getLsbD_last _, rfl⟩

lemma guestFlags_sum (subtract wide : Bool) (a b : U64) :
    guestFlags subtract (addSubOp subtract) wide a b =
      (flags32 ((alu (addSubOp subtract) wide a b).getLsbD (if wide then 63 else 31))
        (alu (addSubOp subtract) wide a b = 0#64) (carries subtract wide a b).1
        (carries subtract wide a b).2).zeroExtend 64 := by
  obtain ⟨hsign, hzero⟩ := aluFlags_result (addSubOp subtract) wide a b
  rw [guestFlags, hsign, hzero, nzcv_eq]
  rfl

lemma guestFlags_logical (op : U32) (wide : Bool) (a b : U64) :
    guestFlags false (logicalOp op) wide a b =
      (flags32 ((alu (logicalOp op) wide a b).getLsbD (if wide then 63 else 31))
        (alu (logicalOp op) wide a b = 0#64) false false).zeroExtend 64 := by
  obtain ⟨hsign, hzero⟩ := aluFlags_result (logicalOp op) wide a b
  have hclear : (aluFlags (logicalOp op) wide a b).cf = some false ∧ (aluFlags (logicalOp op) wide a b).of = some false := by
    unfold logicalOp
    split
    · cases wide <;> exact ⟨rfl, rfl⟩
    split <;> cases wide <;> exact ⟨rfl, rfl⟩
  rw [guestFlags, hsign, hzero, hclear.1, hclear.2, nzcv_eq]
  rfl

end Sums

section Fields

lemma bitSet_getLsbD (w : U32) {i : ℕ} (hi : i < 32) : bitSet w i = w.getLsbD i := by
  rw [bitSet, show (1#32 <<< i) = BitVec.twoPow 32 i from rfl, BitVec.and_twoPow]
  cases w.getLsbD i
  · simp
  · have hne : BitVec.twoPow 32 i ≠ 0#32 := by
      intro h
      have hb := congrArg (fun v => v.getLsbD i) h
      simp [hi] at hb
    simp [hne]

lemma bitOf_bitSet (w : U32) {i : ℕ} (hi : i < 32) : bitOf w i = bitSet w i := by
  rw [bitSet_getLsbD w hi, bitOf, show (1#32 : U32) = BitVec.twoPow 32 0 from rfl, BitVec.and_twoPow,
    BitVec.getLsbD_ushiftRight, Nat.add_zero]
  cases w.getLsbD i <;> decide

variable {g : VfCpu} {r : GuestCpuState} {w : U32}

lemma Alike.addSub (h : Alike g r) {left right a b : U64} (ha : low (wideOf w) a = low (wideOf w) left)
    (hb : low (wideOf w) b = low (wideOf w) right) (sp : Bool) :
    Alike
      (let g := saved g (rdOf w) sp (alu (addSubOp (bitOf w 30)) (wideOf w) a b)
        if bitOf w 29 then setNzcv g (guestFlags (bitOf w 30) (addSubOp (bitOf w 30)) (wideOf w) a b) else g)
      (r.addSubResult w left right sp) := by
  have hwrite := h.write (rdOf_lt w) sp (alu (addSubOp (bitOf w 30)) (wideOf w) a b) (wideOf w)
  rw [low_alu] at hwrite
  have halu : alu (addSubOp (bitOf w 30)) (wideOf w) left right = alu (addSubOp (bitOf w 30)) (wideOf w) a b := by
    unfold alu
    rw [← aluAt_low, ← ha, ← hb, aluAt_low]
  have hcarries : carries (bitOf w 30) (wideOf w) left right = carries (bitOf w 30) (wideOf w) a b := by
    unfold carries aluFlags
    rw [← aluAt_low, ← ha, ← hb, aluAt_low]
  unfold GuestCpuState.addSubResult
  dsimp only
  rw [addSub_eq, ← bitOf_bitSet w (by decide), ← bitOf_bitSet w (by decide), ← wideOf_eq, halu, hcarries]
  split
  · rw [setNzcv_eq, low_alu, guestFlags_sum]
    exact hwrite.replaceFlags _
  · exact hwrite

end Fields

end Nextcore.Jit
