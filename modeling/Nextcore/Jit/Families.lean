import Nextcore.Jit.Operands

/-! The data-processing families of the translator and of the reference core compute the same. -/

namespace Nextcore.Jit

open Cpu X86 Preos

variable {g : VfCpu} {r : GuestCpuState} {w : U32}

section Widths

lemma low_not (wide : Bool) (v : U64) : low wide (~~~(low wide v)) = low wide (~~~v) := by
  cases wide
  · apply BitVec.eq_of_getLsbD_eq
    intro i hi
    simp only [getLsbD_width, BitVec.getLsbD_not, Bool.false_or, hi, decide_true, Bool.true_and]
    by_cases h : i < 32 <;> simp [h]
  · rfl

lemma alu_add (wide : Bool) (a b : U64) : alu .add wide a b = low wide (a + b) := by
  cases wide
  · apply BitVec.eq_of_toNat_eq
    change (BitVec.zeroExtend 64 ((a.truncate 32 : U32) + b.truncate 32)).toNat = _
    rw [low_toNat]
    simp only [BitVec.truncate_eq_setWidth, BitVec.toNat_setWidth, BitVec.toNat_add]
    omega
  · rfl

lemma alu_sub (wide : Bool) (a b : U64) : alu .sub wide a b = low wide (a - b) := by
  cases wide
  · apply BitVec.eq_of_toNat_eq
    change (BitVec.zeroExtend 64 ((a.truncate 32 : U32) - b.truncate 32)).toNat = _
    rw [low_toNat]
    simp only [BitVec.truncate_eq_setWidth, BitVec.toNat_setWidth, BitVec.toNat_sub]
    omega
  · rfl

lemma alu_low (op : AluOp) (wide : Bool) (a b : U64) : alu op wide (low wide a) (low wide b) = alu op wide a b := by
  unfold alu
  rw [aluAt_low]

lemma alu_low_left (op : AluOp) (wide : Bool) (a b : U64) : alu op wide (low wide a) b = alu op wide a b := by
  unfold alu
  rw [aluAt_low_left]

lemma product_eq (wide : Bool) (a b : U64) : product wide a b = low wide (a * b) := by
  cases wide
  · apply BitVec.eq_of_toNat_eq
    rw [product, low_toNat, low_toNat, BitVec.toNat_mul, BitVec.toNat_mul, low_toNat, low_toNat]
    have h64 : (2 : ℕ) ^ 32 ∣ 2 ^ 64 := by decide
    rw [Nat.mod_mod_of_dvd _ h64, Nat.mod_mod_of_dvd _ h64, ← Nat.mul_mod]
  · rfl

lemma alu_logical (op : U32) (wide : Bool) (a b : U64) :
    alu (logicalOp op) wide a b = low wide (GuestCpuState.logicalOp op a b) := by
  unfold logicalOp GuestCpuState.logicalOp
  cases wide
  · have hbits (f : U32 → U32 → U32) (f' : U64 → U64 → U64)
        (h : ∀ i < 32, (f (a.truncate 32) (b.truncate 32)).getLsbD i = (f' a b).getLsbD i) :
        (f (a.truncate 32) (b.truncate 32)).zeroExtend 64 = low false (f' a b) := by
      apply BitVec.eq_of_getLsbD_eq
      intro i hi
      rw [getLsbD_width, Bool.false_or]
      rw [BitVec.getLsbD_setWidth, decide_eq_true hi, Bool.true_and]
      by_cases hlt : i < 32
      · rw [h i hlt, decide_eq_true hlt, Bool.and_true]
      · rw [BitVec.getLsbD_of_ge _ i (Nat.le_of_not_lt hlt), decide_eq_false hlt, Bool.and_false]
    split
    · exact hbits (· ||| ·) (· ||| ·) fun i hi => by simp [hi]
    split
    · exact hbits (· ^^^ ·) (· ^^^ ·) fun i hi => by simp [hi]
    · exact hbits (· &&& ·) (· &&& ·) fun i hi => by simp [hi]
  · split
    · rfl
    split <;> rfl

end Widths

section Conditions

lemma holds_eq (n z c v : Bool) (cond : Fin 16) :
    holds n z c v (BitVec.ofNat 32 cond) =
      (let base := [z, c, n, v, c && !z, n == v, n == v && !z].getD ((BitVec.ofNat 32 cond : U32) >>> 1).toNat true
       if (BitVec.ofNat 32 cond : U32) &&& 1#32 ≠ 0#32 ∧ (BitVec.ofNat 32 cond : U32) ≠ 15#32 then !base else base) := by
  revert n z c v cond
  decide

lemma flag_bit (p : U32) {i : ℕ} (hi : i < 32) :
    (p.zeroExtend 64 : U64).getLsbD i = decide (p &&& (1#32 <<< i) ≠ 0#32) := by
  have hbit := bitOf_bitSet p hi
  simp only [bitSet] at hbit
  rw [← hbit, bitOf]
  have hfirst : (p >>> i) &&& 1#32 ≠ 0#32 ↔ p.getLsbD i = true := by
    rw [show (1#32 : U32) = BitVec.twoPow 32 0 from rfl, BitVec.and_twoPow, BitVec.getLsbD_ushiftRight, Nat.add_zero]
    cases p.getLsbD i <;> decide
  simp only [hfirst]
  simp [show i < 64 by omega]

lemma Alike.conditionHolds (h : Alike g r) {cond : U32} (hcond : cond < 16#32) :
    conditionHolds g.pstate cond = r.conditionHolds cond := by
  have heq := holds_eq (r.pstate &&& Pstate.n ≠ 0#32) (r.pstate &&& Pstate.z ≠ 0#32) (r.pstate &&& Pstate.c ≠ 0#32)
    (r.pstate &&& Pstate.v ≠ 0#32) ⟨cond.toNat, hcond⟩
  simp only [BitVec.ofNat_toNat, BitVec.setWidth_eq] at heq
  unfold Jit.conditionHolds
  rw [h.pstate, flag_bit _ (by decide), flag_bit _ (by decide), flag_bit _ (by decide), flag_bit _ (by decide), heq]
  rfl

lemma Alike.condition (h : Alike g r) :
    Jit.conditionHolds g.pstate (conditionOf w) = r.conditionHolds ((w >>> 12) &&& 15#32) :=
  h.conditionHolds (and_fifteen_lt _)

end Conditions

section Straight

lemma Alike.multiplyAdd (h : Alike g r) : Alike (multiplyAddResult w g) (r.multiplyAdd w) := by
  have hsum : alu (addSubOp (bitOf w 15)) (wideOf w) (operandOf g (raOf w) (wideOf w))
      (product (wideOf w) (operandOf g (rnOf w) (wideOf w)) (operandOf g (rmOf w) (wideOf w))) =
      low (wideOf w) (if bitSet w 15 then r.readReg (raOf w) false - r.readReg (rnOf w) false * r.readReg (rmOf w) false
        else r.readReg (raOf w) false + r.readReg (rnOf w) false * r.readReg (rmOf w) false) := by
    have hproduct (a b : U64) : product (wideOf w) (low (wideOf w) a) (low (wideOf w) b) = product (wideOf w) a b := by
      unfold product
      rw [low_low, low_low]
    rw [h.operand (raOf_lt w), h.operand (rnOf_lt w), h.operand (rmOf_lt w), hproduct, product_eq, alu_low,
      bitOf_bitSet w (by decide)]
    cases bitSet w 15
    · exact alu_add _ _ _
    · exact alu_sub _ _ _
  unfold multiplyAddResult GuestCpuState.multiplyAdd
  dsimp only
  rw [hsum, ← wideOf_eq]
  exact h.write (rdOf_lt w) false _ (wideOf w)

lemma Alike.conditionalSelect (h : Alike g r) : Alike (conditionalSelectResult w g) (r.conditionalSelect w) := by
  unfold conditionalSelectResult GuestCpuState.conditionalSelect
  dsimp only
  rw [h.condition, h.operand (rmOf_lt w), h.operand (rnOf_lt w), ← bitOf_bitSet w (by decide),
    ← bitOf_bitSet w (by decide), ← wideOf_eq, low_low, low_not]
  have hinvert (p : Bool) (v : U64) : (if p then low (wideOf w) (~~~v) else low (wideOf w) v) =
      low (wideOf w) (if p then ~~~v else v) := by
    cases p <;> rfl
  have hincrement (p : Bool) (v : U64) : (if p then alu .add (wideOf w) (low (wideOf w) v) 1#64 else low (wideOf w) v) =
      low (wideOf w) (if p then v + 1#64 else v) := by
    cases p
    · rfl
    · exact (alu_low_left _ _ _ _).trans (alu_add _ _ _)
  have hselect (p : Bool) (a b : U64) : (if p then low (wideOf w) a else low (wideOf w) b) =
      low (wideOf w) (if p then a else b) := by
    cases p <;> rfl
  rw [hinvert, hincrement, hselect]
  exact h.write (rdOf_lt w) false _ (wideOf w)

lemma Alike.conditionalCompare (h : Alike g r) : Alike (conditionalCompareResult w g) (r.conditionalCompare w) := by
  unfold conditionalCompareResult GuestCpuState.conditionalCompare
  dsimp only
  rw [h.condition]
  split
  · rw [h.operand (rmOf_lt w), h.operand (rnOf_lt w), addSub_eq, ← bitOf_bitSet w (by decide),
      ← bitOf_bitSet w (by decide), ← wideOf_eq, setNzcv_eq, low_alu]
    have hlow (a b : U64) : guestFlags (bitOf w 30) (addSubOp (bitOf w 30)) (wideOf w) (low (wideOf w) a)
        (if bitOf w 11 then (rmOf w).zeroExtend 64 else low (wideOf w) b) =
        guestFlags (bitOf w 30) (addSubOp (bitOf w 30)) (wideOf w) a (if bitOf w 11 then (rmOf w).zeroExtend 64 else b) := by
      unfold guestFlags aluFlags
      cases bitOf w 11
      · simp only [Bool.false_eq_true, if_false, aluAt_low]
      · simp only [if_true, aluAt_low_left]
    rw [hlow, guestFlags_sum]
    exact h.replaceFlags _
  · have hfield : ((w &&& 15#32).zeroExtend 64 : U64) <<< 28 = ((w &&& 15#32) <<< 28 : U32).zeroExtend 64 := by
      have hlt := and_fifteen_lt w
      bv_omega
    rw [hfield]
    exact h.replaceFlags _

end Straight

section Shifts

lemma shifted_low (op : ShiftOp) (wide : Bool) (v : U64) (k : ℕ) :
    shifted op wide (low wide v) k = shifted op wide v k := by
  cases wide
  · simp only [shifted, Bool.false_eq_true, if_false, truncate_low]
  · rfl

lemma shifted_eq {shift : U32} {k : ℕ} {wide : Bool} (hk : k < if wide then 64 else 32) (v : U64) :
    shifted (shiftOf shift) wide v k = Preos.shifted v shift k wide := by
  unfold shifted Preos.shifted shiftOf
  cases wide
  · rw [if_neg Bool.false_ne_true, if_neg Bool.false_ne_true, Nat.mod_eq_of_lt (show k < 32 from hk)]
    dsimp only
    split
    · rfl
    split
    · rfl
    split <;> rfl
  · rw [if_pos rfl, if_pos rfl, Nat.mod_eq_of_lt (show k < 64 from hk)]
    split
    · rfl
    split
    · rfl
    split <;> rfl

lemma rotateRight_zero {n : ℕ} (v : BitVec n) : v.rotateRight 0 = v := by
  apply BitVec.eq_of_getLsbD_eq
  intro i hi
  rw [BitVec.getLsbD_rotateRight, Nat.zero_mod, Nat.sub_zero, decide_eq_true hi, Nat.zero_add]
  rfl

lemma shifted_zero (v : U64) (shift : U32) (wide : Bool) : Preos.shifted v shift 0 wide = low wide v := by
  unfold Preos.shifted
  cases wide
  · rw [if_neg Bool.false_ne_true]
    simp only [BitVec.shiftLeft_zero, BitVec.ushiftRight_zero, BitVec.sshiftRight_zero, rotateRight_zero, ite_self]
    rfl
  · rw [if_pos rfl]
    simp only [BitVec.shiftLeft_zero, BitVec.ushiftRight_zero, BitVec.sshiftRight_zero, rotateRight_zero, ite_self]
    rfl

lemma amount_lt (w : U32) : ((w >>> 10) &&& 63#32).toNat < 64 := by
  have h := Bits.toNat_and_mask (w >>> 10) 6 63#32 rfl
  omega

lemma low_shifted_reference (v : U64) (shift : U32) {k : ℕ} {wide : Bool} (hk : k < if wide then 64 else 32) :
    low wide (Preos.shifted v shift k wide) = Preos.shifted v shift k wide := by
  rw [← shifted_eq hk, low_shifted]

lemma Alike.shiftedOperand (h : Alike g r) (hamount : ((w >>> 10) &&& 63#32).toNat < if wideOf w then 64 else 32) :
    shiftedOperand g w = Preos.shifted (r.readReg (rmField w) false) ((w >>> 22) &&& 3#32)
      ((w >>> 10) &&& 63#32).toNat (wideOf w) := by
  unfold Jit.shiftedOperand
  dsimp only
  rw [h.operand (rmOf_lt w)]
  split
  · rw [shifted_low, shifted_eq hamount]
    rfl
  next hzero =>
    rw [not_not] at hzero
    rw [hzero]
    exact (shifted_zero _ _ _).symm

lemma Alike.variableShift (h : Alike g r) : Alike (variableShiftResult w g) (r.variableShift w) := by
  have hcount : ∀ wide v, (low wide v : U64).toNat % (if wide then 64 else 32) =
      (v &&& (if wide then 63#64 else 31#64)).toNat := by
    intro wide v
    cases wide
    · rw [low_toNat, if_neg Bool.false_ne_true, if_neg Bool.false_ne_true, Bits.toNat_and_mask v 5 31#64 rfl]
      omega
    · rw [if_pos rfl, if_pos rfl, Bits.toNat_and_mask v 6 63#64 rfl]
      rfl
  have hshift (op : ShiftOp) (wide : Bool) (v : U64) (k : ℕ) :
      shifted op wide v k = shifted op wide v (k % if wide then 64 else 32) := by
    unfold shifted
    cases wide
    · simp only [Bool.false_eq_true, if_false, Nat.mod_mod]
    · simp only [if_true, Nat.mod_mod]
  have hlt (v : U64) : (v &&& (if wideOf w then 63#64 else 31#64)).toNat < if wideOf w then 64 else 32 := by
    rw [← hcount]
    exact Nat.mod_lt _ (by split <;> decide)
  unfold variableShiftResult GuestCpuState.variableShift
  dsimp only
  rw [h.operand (rmOf_lt w), h.operand (rnOf_lt w), ← wideOf_eq, shifted_low, hshift, hcount, ← low_shifted,
    shifted_eq (hlt _)]
  exact h.write (rdOf_lt w) false _ (wideOf w)

lemma not_reserved_amount {amount : U32} (h64 : amount.toNat < 64) {wide : Bool} (h : ¬(wide = false ∧ 32#32 ≤ amount)) :
    amount.toNat < if wide then 64 else 32 := by
  cases wide
  · have hlt : ¬32#32 ≤ amount := fun hle => h ⟨rfl, hle⟩
    have hnat : ¬32 ≤ amount.toNat := hlt
    simpa using hnat
  · exact h64

lemma Alike.logicalShifted (h : Alike g r) {f : VfCpu → VfCpu} (hf : logicalShiftedResult w = some f) :
    ∃ r', r.logicalShifted w = some r' ∧ Alike (f g) r' := by
  unfold logicalShiftedResult at hf
  unfold GuestCpuState.logicalShifted
  dsimp only at hf ⊢
  rw [← wideOf_eq]
  by_cases hreserved : wideOf w = false ∧ 32#32 ≤ (w >>> 10) &&& 63#32
  · rw [if_pos hreserved] at hf
    cases hf
  rw [if_neg hreserved] at hf ⊢
  cases hf
  refine ⟨_, rfl, ?_⟩
  dsimp only
  have hamount := not_reserved_amount (amount_lt w) hreserved
  have hinvert (p : Bool) (v : U64) (hv : low (wideOf w) v = v) :
      (if p then low (wideOf w) (~~~(low (wideOf w) v)) else v) = low (wideOf w) (if p then ~~~v else v) := by
    cases p
    · exact hv.symm
    · exact low_not _ _
  have hlow (v : U64) : (if wideOf w then v else lowWord v) = low (wideOf w) v := (low_eq _ _).symm
  rw [h.shiftedOperand hamount, h.operand (rnOf_lt w), hinvert _ _ (low_shifted_reference _ _ hamount), hlow,
    ← bitOf_bitSet w (by decide)]
  generalize hright : (if bitOf w 21 = true then ~~~(Preos.shifted (r.readReg (rmField w) false) ((w >>> 22) &&& 3#32)
    ((w >>> 10) &&& 63#32).toNat (wideOf w)) else Preos.shifted (r.readReg (rmField w) false) ((w >>> 22) &&& 3#32)
    ((w >>> 10) &&& 63#32).toNat (wideOf w)) = right
  have hwrite (v : U64) : Alike (saved g (rdOf w) false (low (wideOf w) v))
      (r.writeReg (rdField w) (low (wideOf w) v) false (wideOf w)) := by
    have hboth := h.write (rdOf_lt w) false (low (wideOf w) v) (wideOf w)
    rwa [low_low] at hboth
  by_cases halias : (w >>> 29) &&& 3#32 = 1#32 ∧ rnOf w = 31#32 ∧ (w >>> 22) &&& 3#32 = 0#32 ∧ (w >>> 10) &&& 63#32 = 0#32
  · have hzero : r.readReg (rnField w) false = 0#64 := if_pos halias.2.1
    have hor : GuestCpuState.logicalOp 1#32 0#64 right = right := by
      rw [GuestCpuState.logicalOp, if_pos rfl, BitVec.zero_or]
    rw [if_pos halias, halias.1, if_neg (by decide), hzero, hor]
    exact hwrite right
  rw [if_neg halias, alu_low, alu_logical]
  split
  · rw [setNzcv_eq, low_low, guestFlags_logical, alu_low, alu_logical]
    exact (hwrite _).replaceFlags _
  · exact hwrite _

end Shifts

section Sums

lemma Alike.addSubImmediate (h : Alike g r) : Alike (addSubImmediateResult w g) (r.addSubImmediate w) := by
  have himmediate : ((((w >>> 10) &&& 4095#32) <<< (if bitOf w 22 then 12 else 0)).signExtend 64 : U64) =
      ((w >>> 10) &&& 0xfff#32).zeroExtend 64 <<< (if bitSet w 22 then 12 else 0) := by
    have hfield := Bits.toNat_and_mask (w >>> 10) 12 4095#32 rfl
    rw [bitOf_bitSet w (by decide)]
    generalize (w >>> 10) &&& 4095#32 = field at *
    have hlt : field.toNat < 4096 := by omega
    cases bitSet w 22
    · rw [if_neg Bool.false_ne_true, BitVec.shiftLeft_zero, BitVec.shiftLeft_zero]
      exact BitVec.signExtend_eq_setWidth_of_msb_false (by rw [BitVec.msb_eq_decide]; simp; omega)
    · rw [if_pos rfl, BitVec.signExtend_eq_setWidth_of_msb_false]
      · bv_omega
      · rw [BitVec.msb_eq_decide, decide_eq_false_iff_not, BitVec.toNat_shiftLeft, Nat.shiftLeft_eq]
        omega
  unfold addSubImmediateResult GuestCpuState.addSubImmediate
  dsimp only
  rw [h.read (rnOf_lt w), himmediate, bitOf_bitSet w (show 29 < 32 by decide)]
  have hsum := h.addSub (low_low (wideOf w) (r.readReg (rnOf w) true))
    (b := ((w >>> 10) &&& 0xfff#32).zeroExtend 64 <<< (if bitSet w 22 then 12 else 0)) rfl (!bitSet w 29)
  rw [bitOf_bitSet w (show 29 < 32 by decide)] at hsum
  exact hsum

lemma shifted_cut {shift : U32} (hshift : shift ≠ 3#32) (hlt : shift < 4#32) (v : U64) (k : ℕ) (wide : Bool) :
    low wide (Preos.shifted v shift k wide) =
      low wide (
        let right := if wide then v else v &&& 0xffffffff#64
        if shift = 0#32 then right <<< k
        else if shift = 1#32 then right >>> k
        else if wide then right.sshiftRight k
        else ((right.truncate 32 : U32).sshiftRight k).zeroExtend 64) := by
  have hcases : shift = 0#32 ∨ shift = 1#32 ∨ shift = 2#32 := by
    bv_omega
  cases wide
  · have hcut : (low false v).truncate 32 = (v.truncate 32 : U32) := truncate_low v
    simp only [Preos.shifted, Bool.false_eq_true, if_false, and_low, hcut]
    rcases hcases with rfl | rfl | rfl
    · rw [if_pos rfl, if_pos rfl]
      apply BitVec.eq_of_getLsbD_eq
      intro i hi
      simp only [getLsbD_width, BitVec.getLsbD_setWidth, BitVec.getLsbD_shiftLeft, BitVec.truncate_eq_setWidth,
        Bool.false_or, hi, decide_true, Bool.true_and]
      by_cases h : i < 32
      · simp [h, show i - k < 32 by omega]
      · simp [h]
    · rw [if_neg (by decide), if_pos rfl, if_neg (by decide), if_pos rfl]
      apply BitVec.eq_of_getLsbD_eq
      intro i hi
      simp only [getLsbD_width, BitVec.getLsbD_setWidth, BitVec.getLsbD_ushiftRight, BitVec.truncate_eq_setWidth,
        Bool.false_or, hi, decide_true, Bool.true_and]
      rw [Bool.and_comm (v.getLsbD _)]
    · rfl
  · rcases hcases with rfl | rfl | rfl <;> rfl

lemma Alike.addSubShifted (h : Alike g r) {f : VfCpu → VfCpu} (hf : addSubShiftedResult w = some f) :
    ∃ r', r.addSubShifted w = some r' ∧ Alike (f g) r' := by
  unfold addSubShiftedResult at hf
  unfold GuestCpuState.addSubShifted
  dsimp only at hf ⊢
  rw [← wideOf_eq]
  by_cases hreserved : (w >>> 22) &&& 3#32 = 3#32 ∨ (wideOf w = false ∧ 32#32 ≤ (w >>> 10) &&& 63#32)
  · rw [if_pos hreserved] at hf
    cases hf
  rw [if_neg hreserved] at hf ⊢
  cases hf
  refine ⟨_, rfl, ?_⟩
  dsimp only
  rw [not_or] at hreserved
  have hamount := not_reserved_amount (amount_lt w) hreserved.2
  have hshift : (w >>> 22) &&& 3#32 < 4#32 := by
    have hfield := Bits.toNat_and_mask (w >>> 22) 2 3#32 rfl
    exact show ((w >>> 22) &&& 3#32).toNat < 4 by omega
  rw [h.shiftedOperand hamount, h.operand (rnOf_lt w)]
  exact h.addSub (low_low _ _) (shifted_cut hreserved.1 hshift _ _ _) false

def extend (signed : Bool) (v : U64) (bits : ℕ) : U64 :=
  if signed then signExtend v bits else v &&& (BitVec.allOnes 64 >>> (64 - bits))

lemma getLsbD_extend (signed : Bool) (v : U64) {bits i : ℕ} (hpos : 0 < bits) (hbits : bits ≤ 64) (hi : i < 64) :
    (extend signed v bits).getLsbD i = if i < bits then v.getLsbD i else signed && v.getLsbD (bits - 1) := by
  cases signed
  · rw [extend, if_neg Bool.false_ne_true, BitVec.getLsbD_and, BitVec.getLsbD_ushiftRight, BitVec.getLsbD_allOnes,
      Bool.false_and]
    by_cases h : i < bits
    · rw [if_pos h, decide_eq_true (by omega), Bool.and_true]
    · rw [if_neg h, decide_eq_false (by omega), Bool.and_false]
  · rw [extend, if_pos rfl, signExtend, BitVec.getLsbD_sshiftRight, decide_eq_false (by omega), Bool.not_false,
      Bool.true_and, Bool.true_and, BitVec.msb_eq_getLsbD_last, BitVec.getLsbD_shiftLeft, BitVec.getLsbD_shiftLeft]
    by_cases h : i < bits
    · rw [if_pos h, if_pos (by omega), decide_eq_true (show 64 - bits + i < 64 by omega),
        decide_eq_false (show ¬64 - bits + i < 64 - bits by omega), show 64 - bits + i - (64 - bits) = i by omega]
      rfl
    · rw [if_neg h, if_neg (by omega), decide_eq_true (show 64 - 1 < 64 by decide),
        decide_eq_false (show ¬64 - 1 < 64 - bits by omega), show 64 - 1 - (64 - bits) = bits - 1 by omega]
      rfl

lemma shifted_extend (signed wide : Bool) (v : U64) {bits : ℕ} (hpos : 0 < bits)
    (hbits : bits ≤ if wide then 64 else 32) :
    shifted (if signed then .sar else .shr) wide (shifted .shl wide v ((if wide then 64 else 32) - bits))
        ((if wide then 64 else 32) - bits) = low wide (extend signed v bits) := by
  apply BitVec.eq_of_getLsbD_eq
  intro i hi
  cases wide
  · have hle : bits ≤ 32 := hbits
    rw [getLsbD_width, getLsbD_extend signed v hpos (by omega) hi, Bool.false_or]
    have hcut (x : U32) : (BitVec.truncate 32 (x.zeroExtend 64 : U64) : U32) = x := by
      simp
    simp only [shifted, Bool.false_eq_true, if_false, hcut, Nat.mod_eq_of_lt (show 32 - bits < 32 by omega)]
    rw [BitVec.getLsbD_setWidth, decide_eq_true hi, Bool.true_and]
    by_cases h32 : i < 32
    swap
    · rw [BitVec.getLsbD_of_ge _ i (Nat.le_of_not_lt h32), decide_eq_false h32, Bool.and_false]
    rw [decide_eq_true h32, Bool.and_true]
    have hinner (j : ℕ) (hj : j < 32) (hk : 32 - bits ≤ j) :
        (BitVec.truncate 32 v <<< (32 - bits) : U32).getLsbD j = v.getLsbD (j - (32 - bits)) := by
      rw [BitVec.getLsbD_shiftLeft, decide_eq_true hj, decide_eq_false (by omega), BitVec.truncate_eq_setWidth,
        BitVec.getLsbD_setWidth, decide_eq_true (by omega)]
      rfl
    cases signed
    · change (((BitVec.truncate 32 v : U32) <<< (32 - bits)) >>> (32 - bits)).getLsbD i = _
      rw [BitVec.getLsbD_ushiftRight, Bool.false_and]
      by_cases h : i < bits
      · rw [if_pos h, hinner _ (by omega) (by omega), show 32 - bits + i - (32 - bits) = i by omega]
      · rw [if_neg h, BitVec.getLsbD_of_ge _ _ (by omega)]
    · change (((BitVec.truncate 32 v : U32) <<< (32 - bits)).sshiftRight (32 - bits)).getLsbD i = _
      rw [BitVec.getLsbD_sshiftRight, decide_eq_false (by omega), Bool.not_false, Bool.true_and, Bool.true_and,
        BitVec.msb_eq_getLsbD_last]
      by_cases h : i < bits
      · rw [if_pos h, if_pos (by omega), hinner _ (by omega) (by omega), show 32 - bits + i - (32 - bits) = i by omega]
      · rw [if_neg h, if_neg (by omega), hinner _ (by omega) (by omega),
          show 32 - 1 - (32 - bits) = bits - 1 by omega]
  · have hle : bits ≤ 64 := hbits
    simp only [shifted, if_true, Nat.mod_eq_of_lt (show 64 - bits < 64 by omega), low_wide]
    cases signed
    · change ((v <<< (64 - bits)) >>> (64 - bits)).getLsbD i = _
      rw [getLsbD_extend false v hpos hle hi, BitVec.getLsbD_ushiftRight, BitVec.getLsbD_shiftLeft, Bool.false_and]
      by_cases h : i < bits
      · rw [if_pos h, decide_eq_true (by omega), decide_eq_false (by omega), show 64 - bits + i - (64 - bits) = i by omega]
        rfl
      · rw [if_neg h, decide_eq_false (by omega)]
        rfl
    · rfl

lemma low_shiftLeft {wide : Bool} {a b : U64} (h : low wide a = low wide b) (k : ℕ) :
    low wide (a <<< k) = low wide (b <<< k) := by
  apply BitVec.eq_of_getLsbD_eq
  intro i hi
  have hbit := congrArg (fun v => v.getLsbD (i - k)) h
  simp only [getLsbD_width] at hbit ⊢
  rw [BitVec.getLsbD_shiftLeft, BitVec.getLsbD_shiftLeft]
  by_cases hlt : wide = true ∨ i < 32
  · have hsub : (wide || decide (i - k < 32)) = true := by
      rcases hlt with rfl | hlt
      · rfl
      · rw [decide_eq_true (by omega), Bool.or_true]
    rw [hsub, Bool.and_true, Bool.and_true] at hbit
    rw [hbit]
  · rw [not_or, Bool.not_eq_true] at hlt
    rw [hlt.1, decide_eq_false hlt.2, Bool.or_false, Bool.and_false, Bool.and_false]

lemma shifted_shl (wide : Bool) (v : U64) {k : ℕ} (hk : k < 32) : shifted .shl wide v k = low wide (v <<< k) := by
  rw [show ShiftOp.shl = shiftOf 0#32 from rfl, shifted_eq (by split <;> omega), ← low_shifted_reference _ _ (by split <;> omega),
    shifted_cut (by decide) (by decide)]
  cases wide
  · rw [if_neg Bool.false_ne_true, and_low]
    exact low_shiftLeft (low_low false v) k
  · rfl

lemma low_extend (signed wide : Bool) (v : U64) {bits : ℕ} (hbits : bits = if wide then 64 else 32) :
    low wide (extend signed v bits) = low wide v := by
  apply BitVec.eq_of_getLsbD_eq
  intro i hi
  have hpos : 0 < bits := by
    rw [hbits]
    split <;> decide
  have hle : bits ≤ 64 := by
    rw [hbits]
    split <;> decide
  rw [getLsbD_width, getLsbD_width, getLsbD_extend signed v hpos hle hi, hbits]
  cases wide
  · by_cases h : i < 32
    · rw [if_neg Bool.false_ne_true, if_pos h]
    · rw [decide_eq_false h, Bool.or_false, Bool.and_false, Bool.and_false]
  · rw [if_pos rfl, if_pos hi]

lemma extension_bits (e : Fin 4) (wide : Bool) :
    let width := if wide then 64#32 else 32#32
    let bits := if width < 8#32 <<< (BitVec.ofNat 32 e.val).toNat then width else 8#32 <<< (BitVec.ofNat 32 e.val).toNat
    bits.toNat = min (8 * 2 ^ (BitVec.ofNat 32 e.val).toNat) (if wide then 64 else 32) ∧
      (width - bits).toNat = (if wide then 64 else 32) - min (8 * 2 ^ (BitVec.ofNat 32 e.val).toNat) (if wide then 64 else 32) ∧
      0 < min (8 * 2 ^ (BitVec.ofNat 32 e.val).toNat) (if wide then 64 else 32) ∧
      (bits < width ↔ min (8 * 2 ^ (BitVec.ofNat 32 e.val).toNat) (if wide then 64 else 32) < if wide then 64 else 32) := by
  revert e wide
  decide

lemma Alike.extendedOperand (h : Alike g r) (hamount : ((w >>> 10) &&& 7#32).toNat ≤ 4) :
    low (wideOf w) (extendedOperand g w) =
      low (wideOf w) (extend (((w >>> 13) &&& 7#32) &&& 4#32 ≠ 0#32) (r.readReg (rmField w) false)
        (min (8 * 2 ^ (((w >>> 13) &&& 7#32) &&& 3#32).toNat) (if wideOf w then 64 else 32)) <<<
          ((w >>> 10) &&& 7#32).toNat) := by
  have hfield := Bits.toNat_and_mask ((w >>> 13) &&& 7#32) 2 3#32 rfl
  obtain ⟨-, hshift, hpos, hbits⟩ := extension_bits ⟨(((w >>> 13) &&& 7#32) &&& 3#32).toNat, by omega⟩ (wideOf w)
  simp only [BitVec.ofNat_toNat, BitVec.setWidth_eq] at hshift hpos hbits
  unfold Jit.extendedOperand
  dsimp only
  rw [h.operand (rmOf_lt w), hshift]
  generalize hsize : min (8 * 2 ^ (((w >>> 13) &&& 7#32) &&& 3#32).toNat) (if wideOf w then 64 else 32) = size at *
  have hle : size ≤ if wideOf w then 64 else 32 := hsize ▸ min_le_right _ _
  change low (wideOf w) _ = low (wideOf w) (extend _ (r.readReg (rmOf w) false) size <<< _)
  generalize r.readReg (rmOf w) false = v
  simp only [hbits, shifted_low]
  have hcut : (if size < if wideOf w then 64 else 32 then
      shifted (if ((w >>> 13) &&& 7#32) &&& 4#32 ≠ 0#32 then .sar else .shr) (wideOf w)
        (shifted .shl (wideOf w) v ((if wideOf w then 64 else 32) - size)) ((if wideOf w then 64 else 32) - size)
      else low (wideOf w) v) = low (wideOf w) (extend (((w >>> 13) &&& 7#32) &&& 4#32 ≠ 0#32) v size) := by
    by_cases hlt : size < if wideOf w then 64 else 32
    · have hextend := shifted_extend (((w >>> 13) &&& 7#32) &&& 4#32 ≠ 0#32) (wideOf w) v hpos hle
      rw [if_pos hlt]
      simpa only [decide_eq_true_eq] using hextend
    · rw [if_neg hlt, low_extend _ _ _ (Nat.le_antisymm hle (Nat.le_of_not_lt hlt))]
  rw [hcut]
  split
  · rw [shifted_low, shifted_shl _ _ (by omega), low_low]
  next hzero =>
    rw [Classical.not_not.mp hzero, low_low, BitVec.toNat_ofNat, Nat.zero_mod, BitVec.shiftLeft_zero]

lemma Alike.addSubExtended (h : Alike g r) {f : VfCpu → VfCpu} (hf : addSubExtendedResult w = some f) :
    ∃ r', r.addSubExtended w = some r' ∧ Alike (f g) r' := by
  unfold addSubExtendedResult at hf
  unfold GuestCpuState.addSubExtended
  dsimp only at hf ⊢
  by_cases hreserved : 4#32 < (w >>> 10) &&& 7#32
  · rw [if_pos hreserved] at hf
    cases hf
  rw [if_neg hreserved] at hf ⊢
  cases hf
  refine ⟨_, rfl, ?_⟩
  have hright := h.extendedOperand (Nat.le_of_not_lt hreserved)
  dsimp only
  rw [h.read (rnOf_lt w), ← bitOf_bitSet w (show 29 < 32 by decide), ← wideOf_eq]
  refine h.addSub (low_low _ _) (hright.trans ?_) _
  simp only [extend, decide_eq_true_eq]

end Sums

end Nextcore.Jit
