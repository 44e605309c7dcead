import Mathlib.Algebra.Polynomial.Eval.Degree
import Mathlib.Data.ZMod.Basic
import Mathlib.Tactic

/-! Carry-less products of words. Both products of two words come from the same columns of partial products: one adds a
column, the other takes its parity. -/

namespace Nextcore.Clmul

open Polynomial Finset

variable {m n : ℕ}

def column (a : BitVec m) (b : BitVec n) (k : ℕ) : ℕ :=
  ∑ i ∈ range (k + 1), (a.getLsbD i && b.getLsbD (k - i)).toNat

def carryless (a : BitVec m) (b : BitVec n) : BitVec (m + n) :=
  BitVec.ofNat (m + n) (Nat.ofBits fun k : Fin (m + n) => column a b k % 2 == 1)

section Digits

variable (R : Type) [CommSemiring R]

noncomputable def digits (x : BitVec n) : R[X] := ∑ i ∈ range n, C ((x.getLsbD i).toNat : R) * X ^ i

lemma coeff_digits (x : BitVec n) (k : ℕ) : (digits R x).coeff k = ((x.getLsbD k).toNat : R) := by
  rw [digits, finsetSum_coeff]
  simp only [coeff_C_mul_X_pow]
  by_cases hk : k < n
  · rw [sum_ite_eq (range n) k, if_pos (mem_range.mpr hk)]
  · rw [sum_ite_eq (range n) k, if_neg (mt mem_range.mp hk), BitVec.getLsbD_of_ge x k (by omega)]
    exact Nat.cast_zero.symm

lemma digits_injective [Nontrivial R] {x y : BitVec n} (h : digits R x = digits R y) : x = y := by
  apply BitVec.eq_of_getLsbD_eq
  intro i _
  have hcoeff := congrArg (coeff · i) h
  simp only [coeff_digits] at hcoeff
  cases hx : x.getLsbD i <;> cases hy : y.getLsbD i <;> simp_all

lemma coeff_mul_digits (a : BitVec m) (b : BitVec n) (k : ℕ) :
    (digits R a * digits R b).coeff k = (column a b k : R) := by
  rw [coeff_mul, Nat.sum_antidiagonal_eq_sum_range_succ_mk, column, Nat.cast_sum]
  refine sum_congr rfl fun i _ => ?_
  rw [coeff_digits, coeff_digits]
  cases a.getLsbD i <;> cases b.getLsbD (k - i) <;> simp

end Digits

section Columns

variable (a : BitVec m) (b : BitVec n)

lemma column_eq_zero {k : ℕ} (h : m + n ≤ k) : column a b k = 0 := by
  refine sum_eq_zero fun i _ => ?_
  by_cases hi : i < m
  · rw [BitVec.getLsbD_of_ge b (k - i) (by omega), Bool.and_false]
    rfl
  · rw [BitVec.getLsbD_of_ge a i (by omega), Bool.false_and]
    rfl

lemma getLsbD_carryless (k : ℕ) : (carryless a b).getLsbD k = (column a b k % 2 == 1) := by
  by_cases hk : k < m + n
  · rw [carryless, BitVec.getLsbD_ofNat, decide_eq_true hk, Bool.true_and, Nat.testBit_ofBits, dif_pos hk]
  · rw [BitVec.getLsbD_of_ge _ k (by omega), column_eq_zero a b (by omega)]
    rfl

lemma digits_carryless : digits (ZMod 2) (carryless a b) = digits (ZMod 2) a * digits (ZMod 2) b := by
  ext k
  rw [coeff_digits, coeff_mul_digits, getLsbD_carryless, ← ZMod.natCast_mod (column a b k) 2]
  rcases Nat.mod_two_eq_zero_or_one (column a b k) with h | h <;> rw [h] <;> rfl

end Columns

section Values

lemma mod_two_pow_eq_sum (v n : ℕ) : v % 2 ^ n = ∑ i ∈ range n, (v.testBit i).toNat * 2 ^ i := by
  induction n with
  | zero => exact Nat.mod_one v
  | succ n ih => rw [Nat.mod_pow_succ, ih, sum_range_succ, Nat.toNat_testBit, mul_comm (2 ^ n)]

lemma eval_digits (x : BitVec n) : (digits ℕ x).eval 2 = x.toNat := by
  rw [← Nat.mod_eq_of_lt x.isLt, mod_two_pow_eq_sum, digits, eval_finsetSum]
  refine sum_congr rfl fun i _ => ?_
  rw [eval_mul, eval_C, eval_pow, eval_X, BitVec.testBit_toNat]
  rfl

lemma eval_two_eq_sum {p : ℕ[X]} {N : ℕ} (h : ∀ k, N ≤ k → p.coeff k = 0) :
    p.eval 2 = ∑ k ∈ range N, p.coeff k * 2 ^ k := by
  have hdegree : p.natDegree < N + 1 :=
    Nat.lt_succ_of_le (natDegree_le_iff_coeff_eq_zero.mpr fun k hk => h k hk.le)
  rw [eval_eq_sum_range' hdegree, sum_range_succ, h N (le_refl N), zero_mul, add_zero]

variable (a : BitVec m) (b : BitVec n)

lemma toNat_mul_eq_sum : a.toNat * b.toNat = ∑ k ∈ range (m + n), column a b k * 2 ^ k := by
  have hcoeff (k : ℕ) : (digits ℕ a * digits ℕ b).coeff k = column a b k := coeff_mul_digits ℕ a b k
  rw [← eval_digits, ← eval_digits, ← eval_mul, eval_two_eq_sum fun k hk => (hcoeff k).trans (column_eq_zero a b hk)]
  simp only [hcoeff]

lemma toNat_carryless : (carryless a b).toNat = ∑ k ∈ range (m + n), column a b k % 2 * 2 ^ k := by
  have hcoeff (k : ℕ) : (digits ℕ (carryless a b)).coeff k = column a b k % 2 := by
    rw [coeff_digits, getLsbD_carryless]
    rcases Nat.mod_two_eq_zero_or_one (column a b k) with h | h <;> rw [h] <;> rfl
  rw [← eval_digits, eval_two_eq_sum fun k hk => by rw [hcoeff, column_eq_zero a b hk]]
  simp only [hcoeff]

lemma toNat_mul_eq_carryless_iff : a.toNat * b.toNat = (carryless a b).toNat ↔ ∀ k, column a b k ≤ 1 := by
  have hle : ∀ k ∈ range (m + n), column a b k % 2 * 2 ^ k ≤ column a b k * 2 ^ k :=
    fun k _ => Nat.mul_le_mul_right _ (Nat.mod_le _ _)
  rw [toNat_mul_eq_sum, toNat_carryless, eq_comm, sum_eq_sum_iff_of_le hle]
  constructor
  · intro h k
    by_cases hk : k < m + n
    · have hmod := Nat.eq_of_mul_eq_mul_right (by positivity) (h k (mem_range.mpr hk))
      omega
    · rw [column_eq_zero a b (by omega)]
      exact Nat.zero_le 1
  · intro h k _
    rw [Nat.mod_eq_of_lt (by have := h k; omega)]

end Values

end Nextcore.Clmul
