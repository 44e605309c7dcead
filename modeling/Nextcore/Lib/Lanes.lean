import Nextcore.Lib.Bits

/-! Lanes of a word: fields of one width, side by side from the lowest. Fixed fields of an instruction word, and a sign
put on a field by arithmetic. -/

namespace Nextcore.Lanes

variable {n : ℕ}

def lane (q : BitVec n) (bits i : ℕ) : BitVec bits := q.extractLsb' (i * bits) bits

@[simp] lemma getLsbD_lane (q : BitVec n) (bits i k : ℕ) :
    (lane q bits i).getLsbD k = (decide (k < bits) && q.getLsbD (i * bits + k)) :=
  BitVec.getLsbD_extractLsb' _ _ _ _

lemma and_bit {x : BitVec n} {k : ℕ} (hk : k < n) : x &&& (1#n <<< k) = 0#n ↔ x.getLsbD k = false := by
  have hpow : BitVec.twoPow n k ≠ 0#n := by
    intro hzero
    have hbit := congrArg (BitVec.getLsbD · k) hzero
    simp [hk] at hbit
  change x &&& BitVec.twoPow n k = 0#n ↔ _
  rw [BitVec.and_twoPow]
  cases x.getLsbD k
  · simp
  · simpa using hpow

lemma and_eq_iff_fields {m v : BitVec n} (runs : List (ℕ × ℕ))
    (hm : ∀ i < n, m.getLsbD i = runs.any fun r => decide (r.1 ≤ i ∧ i < r.1 + r.2)) (hv : v &&& m = v) (x : BitVec n) :
    x &&& m = v ↔ ∀ r ∈ runs, x.extractLsb' r.1 r.2 = v.extractLsb' r.1 r.2 := by
  constructor
  · rintro rfl r hr
    apply BitVec.eq_of_getLsbD_eq
    intro i hi
    rw [BitVec.getLsbD_extractLsb', BitVec.getLsbD_extractLsb', BitVec.getLsbD_and]
    by_cases hn : r.1 + i < n
    · have hon : m.getLsbD (r.1 + i) = true := by
        rw [hm _ hn, List.any_eq_true]
        exact ⟨r, hr, by simpa using hi⟩
      rw [hon, Bool.and_true]
    · rw [BitVec.getLsbD_of_ge x _ (by omega), Bool.false_and]
  · intro h
    rw [← hv]
    apply BitVec.eq_of_getLsbD_eq
    intro i hi
    rw [BitVec.getLsbD_and, BitVec.getLsbD_and, hm i hi]
    cases hon : runs.any fun r => decide (r.1 ≤ i ∧ i < r.1 + r.2) with
    | false => rw [Bool.and_false, Bool.and_false]
    | true =>
      obtain ⟨r, hr, hin⟩ := List.any_eq_true.mp hon
      rw [decide_eq_true_eq] at hin
      have hbit := congrArg (BitVec.getLsbD · (i - r.1)) (h r hr)
      simp only [BitVec.getLsbD_extractLsb', Nat.add_sub_cancel' hin.1] at hbit
      simp only [show i - r.1 < r.2 by omega, decide_true, Bool.true_and] at hbit
      rw [hbit]

lemma xor_sub_sign {bits : ℕ} (hpos : 0 < bits) (hn : bits ≤ n) (e : BitVec bits) :
    (e.setWidth n ^^^ 1#n <<< (bits - 1)) - 1#n <<< (bits - 1) = e.signExtend n := by
  have hsignBit (i : ℕ) : (1#n <<< (bits - 1)).getLsbD i = decide (i = bits - 1) := by
    change (BitVec.twoPow n (bits - 1)).getLsbD i = _
    rw [BitVec.getLsbD_twoPow, decide_eq_true (show bits - 1 < n by omega), Bool.true_and]
    exact decide_eq_decide.mpr eq_comm
  have htop : e.getLsbD (bits - 1) = e.msb := BitVec.msb_eq_getLsbD_last e |>.symm
  generalize hs : 1#n <<< (bits - 1) = s at hsignBit ⊢
  cases hmsb : e.msb with
  | false =>
    have hclear : e.setWidth n &&& s = 0#n := by
      apply BitVec.eq_of_getLsbD_eq
      intro i hi
      by_cases htopBit : i = bits - 1
      · subst htopBit
        simp [htop, hmsb]
      · simp [hsignBit, htopBit]
    have hxor : e.setWidth n ^^^ s = e.setWidth n + s := by
      rw [BitVec.add_eq_or_of_and_eq_zero _ _ hclear]
      apply BitVec.eq_of_getLsbD_eq
      intro i hi
      by_cases htopBit : i = bits - 1
      · subst htopBit
        simp [htop, hmsb]
      · simp [hsignBit, htopBit]
    rw [hxor, BitVec.add_sub_cancel, BitVec.signExtend_eq_setWidth_of_msb_false hmsb]
  | true =>
    have hlow : (e.setWidth n ^^^ s) + s = e.setWidth n := by
      have hclear : (e.setWidth n ^^^ s) &&& s = 0#n := by
        apply BitVec.eq_of_getLsbD_eq
        intro i hi
        by_cases htopBit : i = bits - 1
        · subst htopBit
          simp [htop, hmsb, hi]
        · simp [hsignBit, htopBit]
      rw [BitVec.add_eq_or_of_and_eq_zero _ _ hclear]
      apply BitVec.eq_of_getLsbD_eq
      intro i hi
      by_cases htopBit : i = bits - 1
      · subst htopBit
        simp [htop, hmsb, hi]
      · simp [hsignBit, htopBit]
    have hwhole : e.signExtend n + (s + s) = e.setWidth n := by
      have hbits : 2 ^ bits = 2 ^ (bits - 1) + 2 ^ (bits - 1) := by
        rw [← Nat.two_mul, ← pow_succ', Nat.sub_add_cancel hpos]
      have hle : 2 ^ bits ≤ 2 ^ n := Nat.pow_le_pow_right (by decide) hn
      have hsign : s.toNat = 2 ^ (bits - 1) := by
        rw [← hs]
        change (BitVec.twoPow n (bits - 1)).toNat = _
        rw [BitVec.toNat_twoPow, Nat.mod_eq_of_lt (Nat.pow_lt_pow_right (by decide) (by omega))]
      apply BitVec.eq_of_toNat_eq
      rw [BitVec.toNat_add, BitVec.toNat_add, BitVec.toNat_signExtend, hmsb, hsign, if_pos rfl, Nat.add_mod_mod, ← hbits,
        Nat.add_assoc, Nat.sub_add_cancel hle, Nat.add_mod_right, Nat.mod_eq_of_lt (BitVec.isLt _)]
    rw [← BitVec.eq_sub_iff_add_eq] at hlow hwhole
    rw [hlow, hwhole, BitVec.sub_sub]

end Nextcore.Lanes
