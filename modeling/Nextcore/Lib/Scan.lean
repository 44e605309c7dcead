import Mathlib.Order.Bounds.Basic
import Nextcore.Lib.Bits

/-! Scanning the set bits of a word from the lowest, each taken off with
`p & (p - 1)`. -/

namespace Nextcore.Scan

variable {w : ℕ}

/-- The loop `while (p) { … ctz (p) …; p &= p - 1; }`, with a bound on its rounds. -/
def scan (accept : ℕ → Bool) : ℕ → BitVec w → Option ℕ
  | 0, _ => none
  | n + 1, p =>
    if p = 0#w then none
    else if accept p.ctz.toNat then some p.ctz.toNat
    else scan accept n (p &&& (p - 1#w))

lemma toNat_eq_above_ctz {p : BitVec w} (hp : p ≠ 0#w) :
    ∃ q, p.toNat = 2 ^ p.ctz.toNat * (2 * q + 1) := by
  have hlow : 2 ^ p.ctz.toNat ∣ p.toNat := by
    rw [Nat.dvd_iff_mod_eq_zero]
    apply Nat.eq_of_testBit_eq
    intro i
    rw [Nat.testBit_mod_two_pow, Nat.zero_testBit]
    by_cases hi : i < p.ctz.toNat
    · rw [BitVec.testBit_toNat, BitVec.getLsbD_false_of_lt_ctz hi, Bool.and_false]
    · simp [hi]
  obtain ⟨m, hm⟩ := hlow
  have hbit : p.toNat.testBit p.ctz.toNat = true := BitVec.getLsbD_true_ctz_of_ne_zero hp
  rw [hm, Nat.testBit_two_pow_mul] at hbit
  have hodd : m % 2 = 1 := by simpa using hbit
  exact ⟨m / 2, by rw [hm]; congr 1; omega⟩

lemma getLsbD_and_sub_one {p : BitVec w} (hp : p ≠ 0#w) (i : ℕ) :
    (p &&& (p - 1#w)).getLsbD i = (p.getLsbD i && decide (i ≠ p.ctz.toNat)) := by
  obtain ⟨q, hq⟩ := toNat_eq_above_ctz hp
  set k := p.ctz.toNat with hk
  have hpos : 0 < 2 ^ k := Nat.two_pow_pos k
  have hsub : (p - 1#w).toNat = 2 ^ k * (2 * q) + (2 ^ k - 1) := by
    have hone : 1 ≤ p.toNat := by rw [hq]; exact Nat.mul_pos hpos (by omega)
    have hw : 0 < w := by
      by_contra h
      have hzero : w = 0 := by omega
      subst hzero
      exact hp (BitVec.eq_nil p)
    have hone' : (1#w).toNat = 1 := by
      rw [BitVec.toNat_ofNat, Nat.mod_eq_of_lt (Nat.one_lt_two_pow (by omega))]
    rw [BitVec.toNat_sub_of_le (by rw [BitVec.le_def, hone']; exact hone), hone', hq, Nat.mul_add]
    omega
  have hp' : p.getLsbD i = (2 ^ k * (2 * q + 1) + 0).testBit i := by rw [BitVec.getLsbD, hq]; rfl
  rw [BitVec.getLsbD_and, hp', BitVec.getLsbD, hsub, Nat.testBit_two_pow_mul_add _ hpos,
    Nat.testBit_two_pow_mul_add _ (by omega)]
  rcases lt_trichotomy i k with hi | rfl | hi
  · simp [hi]
  · simp
  · obtain ⟨d, hd⟩ := Nat.exists_eq_succ_of_ne_zero (by omega : i - k ≠ 0)
    have hne : i ≠ k := by omega
    have hhalf : (2 * q + 1) / 2 = q := by omega
    simp [Nat.not_lt_of_gt hi, hd, hne, Nat.testBit_succ, hhalf]

lemma scan_spec (accept : ℕ → Bool) (n : ℕ) (p : BitVec w) (hn : ∀ i, p.getLsbD i = true → w ≤ i + n) :
    (∀ i, scan accept n p = some i → IsLeast {i | p.getLsbD i = true ∧ accept i = true} i) ∧
      (scan accept n p = none → ∀ i, ¬(p.getLsbD i = true ∧ accept i = true)) := by
  induction n generalizing p with
  | zero =>
    refine ⟨by simp [scan], fun _ i ⟨hi, _⟩ => ?_⟩
    have := hn i hi
    have := BitVec.lt_of_getLsbD hi
    omega
  | succ n ih =>
    simp only [scan]
    by_cases hp : p = 0#w
    · subst hp
      simp
    · rw [if_neg hp]
      have hset : p.getLsbD p.ctz.toNat = true := BitVec.getLsbD_true_ctz_of_ne_zero hp
      have hlow : ∀ i, p.getLsbD i = true → p.ctz.toNat ≤ i := by
        intro i hi
        by_contra hlt
        rw [BitVec.getLsbD_false_of_lt_ctz (by omega)] at hi
        exact Bool.false_ne_true hi
      by_cases ha : accept p.ctz.toNat = true
      · rw [if_pos ha]
        refine ⟨?_, by simp⟩
        rintro i ⟨⟩
        exact ⟨⟨hset, ha⟩, fun j hj => hlow j hj.1⟩
      · rw [if_neg ha]
        have hrest : ∀ i, (p &&& (p - 1#w)).getLsbD i = true ∧ accept i = true ↔
            p.getLsbD i = true ∧ accept i = true := by
          intro i
          rw [getLsbD_and_sub_one hp, Bool.and_eq_true, decide_eq_true_eq]
          constructor
          · rintro ⟨⟨hi, -⟩, hacc⟩
            exact ⟨hi, hacc⟩
          · rintro ⟨hi, hacc⟩
            exact ⟨⟨hi, fun heq => ha (heq ▸ hacc)⟩, hacc⟩
        have hn' : ∀ i, (p &&& (p - 1#w)).getLsbD i = true → w ≤ i + n := by
          intro i hi
          rw [getLsbD_and_sub_one hp, Bool.and_eq_true, decide_eq_true_eq] at hi
          have := hlow i hi.1
          have := hn _ hset
          omega
        have hs := ih _ hn'
        simp only [hrest] at hs
        exact hs

lemma findSome?_range {α : Type} {f : ℕ → Option α} {n : ℕ} {x : α}
    (h : (List.range n).findSome? f = some x) : ∃ k < n, f k = some x ∧ ∀ j < k, f j = none := by
  induction n with
  | zero => simp at h
  | succ n ih =>
    rw [List.range_succ, List.findSome?_append, Option.or_eq_some_iff] at h
    rcases h with h | ⟨hnone, h⟩
    · obtain ⟨k, hk, hf, hlow⟩ := ih h
      exact ⟨k, by omega, hf, hlow⟩
    · refine ⟨n, by omega, by simpa using h, fun j hj => ?_⟩
      exact List.findSome?_eq_none_iff.mp hnone j (List.mem_range.mpr hj)

end Nextcore.Scan
