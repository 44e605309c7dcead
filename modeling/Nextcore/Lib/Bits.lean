import Mathlib.Data.List.Nodup
import Mathlib.Tactic

/-! Masks, fields and shifts of bit vectors, in the form the translation and
code-generation proofs use them. -/

namespace Nextcore.Bits

variable {w : ℕ}

lemma low_mask_eq (k : ℕ) : (1#w <<< k) - 1#w = ~~~(BitVec.allOnes w <<< k) := by
  rw [← BitVec.neg_one_eq_allOnes, BitVec.shiftLeft_neg, BitVec.not_neg]

lemma getLsbD_low_mask (k i : ℕ) :
    ((1#w <<< k) - 1#w).getLsbD i = (decide (i < w) && decide (i < k)) := by
  rw [low_mask_eq, BitVec.getLsbD_not, BitVec.getLsbD_shiftLeft, BitVec.getLsbD_allOnes]
  by_cases hi : i < w
  · have hd : i - k < w := by omega
    simp [hi, hd]
  · simp [hi]

lemma shiftRight_congr {x y : BitVec w} {k s : ℕ} (h : x >>> k = y >>> k) (hk : k ≤ s) :
    x >>> s = y >>> s := by
  obtain ⟨d, rfl⟩ := Nat.exists_eq_add_of_le hk
  rw [BitVec.shiftRight_add, BitVec.shiftRight_add, h]

lemma and_shiftRight (x y : BitVec w) (k : ℕ) : (x &&& y) >>> k = (x >>> k) &&& (y >>> k) :=
  BitVec.ushiftRight_and_distrib x y k

lemma and_not_eq_zero_iff (x m : BitVec w) :
    x &&& ~~~m = 0#w ↔ ∀ i, x.getLsbD i = true → m.getLsbD i = true := by
  constructor
  · intro h i hx
    have hi : i < w := BitVec.lt_of_getLsbD hx
    have hb := congrArg (fun v => v.getLsbD i) h
    simpa [hx, hi] using hb
  · intro h
    apply BitVec.eq_of_getLsbD_eq
    intro i hi
    have hh := h i
    cases hx : x.getLsbD i <;> simp_all

lemma low_mask_subset {x : BitVec w} {k n : ℕ} (hkn : k ≤ n) :
    x &&& ((1#w <<< k) - 1#w) &&& ~~~((1#w <<< n) - 1#w) = 0#w := by
  rw [and_not_eq_zero_iff]
  intro i hi
  simp only [BitVec.getLsbD_and, getLsbD_low_mask, Bool.and_eq_true, decide_eq_true_eq] at hi ⊢
  omega

lemma or_and_not_eq_zero {x y m : BitVec w} (hx : x &&& ~~~m = 0#w) (hy : y &&& ~~~m = 0#w) :
    (x ||| y) &&& ~~~m = 0#w := by
  rw [and_not_eq_zero_iff] at *
  intro i hi
  rcases Bool.or_eq_true _ _ |>.mp (by simpa using hi) with h | h
  · exact hx i h
  · exact hy i h

lemma and_and_not_eq_zero {x m : BitVec w} (y : BitVec w) (hx : x &&& ~~~m = 0#w) :
    x &&& y &&& ~~~m = 0#w := by
  rw [and_not_eq_zero_iff] at *
  intro i hi
  rw [BitVec.getLsbD_and, Bool.and_eq_true] at hi
  exact hx i hi.1

lemma toNat_and_mask (x : BitVec w) (k : ℕ) (m : BitVec w) (hm : m.toNat = 2 ^ k - 1) :
    (x &&& m).toNat = x.toNat % 2 ^ k := by
  rw [BitVec.toNat_and, hm, Nat.and_two_pow_sub_one_eq_mod]

lemma two_bits_of_odd {x : BitVec 64} (h : x &&& 1#64 ≠ 0#64) :
    x &&& 3#64 = 1#64 ∨ x &&& 3#64 = 3#64 := by
  have h1 := toNat_and_mask x 1 1#64 rfl
  have h3 := toNat_and_mask x 2 3#64 rfl
  have hne : (x &&& 1#64).toNat ≠ 0 := fun hz => h (BitVec.eq_of_toNat_eq hz)
  have hc : (x &&& 3#64).toNat = 1 ∨ (x &&& 3#64).toNat = 3 := by omega
  exact hc.imp (fun hh => BitVec.eq_of_toNat_eq hh) (fun hh => BitVec.eq_of_toNat_eq hh)

lemma and_eq_zero_of_subset {x m k : BitVec w} (h : x &&& m = 0#w) (hk : m &&& k = k) :
    x &&& k = 0#w := by
  rw [← hk, ← BitVec.and_assoc, h, BitVec.zero_and]

lemma and_or_eq_zero {x m k : BitVec w} (hm : x &&& m = 0#w) (hk : x &&& k = 0#w) :
    x &&& (m ||| k) = 0#w := by
  rw [BitVec.and_or_distrib_left, hm, hk, BitVec.or_self]

lemma shiftRight_eq_zero_iff (x : BitVec w) (k : ℕ) :
    x >>> k = 0#w ↔ x &&& (BitVec.allOnes w <<< k) = 0#w := by
  constructor
  · intro h
    ext i hi
    have hb := congrArg (fun v => v.getLsbD (i - k)) h
    simp only [BitVec.getLsbD_ushiftRight, BitVec.getLsbD_zero] at hb
    by_cases hk : i < k
    · simp [hk]
    · rw [show k + (i - k) = i by omega] at hb
      simp [← BitVec.getLsbD_eq_getElem, hb]
  · intro h
    ext i hi
    have hb := congrArg (fun v => v.getLsbD (k + i)) h
    by_cases hk : k + i < w
    · simpa [hk, hi] using hb
    · simp [BitVec.getLsbD_of_ge x (k + i) (by omega)]

lemma shiftRight_top_eq_zero_iff (x : BitVec 64) : x >>> 63 = 0#64 ↔ x.getLsbD 63 = false := by
  constructor
  · intro h
    have hb := congrArg (fun v => v.getLsbD 0) h
    simpa only [BitVec.getLsbD_ushiftRight, BitVec.getLsbD_zero] using hb
  · intro h
    apply BitVec.eq_of_getLsbD_eq
    intro i hi
    rw [BitVec.getLsbD_ushiftRight, BitVec.getLsbD_zero]
    rcases Nat.eq_zero_or_pos i with rfl | hpos
    · exact h
    · exact BitVec.getLsbD_of_ge x _ (by omega)

lemma and_eq_of_and_not {x m : BitVec w} (h : x &&& ~~~m = 0#w) : x &&& m = x := by
  have hsplit : x &&& m ||| x &&& ~~~m = x := by
    rw [← BitVec.and_or_distrib_left, BitVec.or_not_self, BitVec.and_allOnes]
  rwa [h, BitVec.or_zero] at hsplit

lemma lt_of_and_not {x m : BitVec w} {k : ℕ} (hm : m.toNat = 2 ^ k - 1) (h : x &&& ~~~m = 0#w) :
    x.toNat < 2 ^ k := by
  rw [← and_eq_of_and_not h, toNat_and_mask x k m hm]
  exact Nat.mod_lt _ (by positivity)

lemma and_not_of_lt {x m : BitVec w} {k : ℕ} (hm : m.toNat = 2 ^ k - 1) (h : x.toNat < 2 ^ k) :
    x &&& ~~~m = 0#w := by
  have hx : x &&& m = x := by
    apply BitVec.eq_of_toNat_eq
    rw [toNat_and_mask x k m hm, Nat.mod_eq_of_lt h]
  rw [← hx, BitVec.and_assoc, BitVec.and_not_self]
  exact BitVec.and_zero

lemma truncate_signExtend {n m k : ℕ} (x : BitVec n) (h : k ≤ m) :
    (x.signExtend m).setWidth k = x.signExtend k := by
  apply BitVec.eq_of_getLsbD_eq
  intro i hi
  simp only [BitVec.getLsbD_setWidth, BitVec.getLsbD_signExtend, hi, show i < m by omega]
  simp

lemma add_sub_swap (x y z : BitVec w) : x + y - z = x - z + y := by
  rw [BitVec.sub_eq_add_neg, BitVec.sub_eq_add_neg, BitVec.add_assoc, BitVec.add_comm y, BitVec.add_assoc]

end Nextcore.Bits
