import Nextcore.Fp.Format

/-! The normalising loops end, and an unpacked operand has the magnitude of its word. -/

namespace Nextcore.Fp

open Loop Bits

section Normalise

variable {w k : ℕ} {leading x : BitVec w}

lemma and_leading (hleading : leading.toNat = 2 ^ k) (hx : x.toNat < 2 ^ (k + 1)) :
    x &&& leading = 0#w ↔ x.toNat < 2 ^ k := by
  have hpos := Nat.two_pow_pos k
  rw [pow_succ] at hx
  rw [← BitVec.toNat_inj, toNat_and_bit x k leading hleading, BitVec.toNat_zero]
  rcases lt_or_ge x.toNat (2 ^ k) with h | h
  · simp [h, Nat.div_eq_of_lt h]
  · have hone : x.toNat / 2 ^ k = 1 := Nat.div_eq_of_lt_le (by omega) (by omega)
    simp [hone, h]

lemma toNat_double (hk : k < w) (hx : x.toNat < 2 ^ k) : (x <<< 1).toNat = 2 * x.toNat := by
  have hle : 2 ^ (k + 1) ≤ 2 ^ w := Nat.pow_le_pow_right (by norm_num) hk
  rw [pow_succ] at hle
  rw [BitVec.toNat_shiftLeft, Nat.shiftLeft_eq, Nat.mod_eq_of_lt (by omega), pow_one, mul_comm]

lemma normalise_ends (hk : k < w) (hleading : leading.toNat = 2 ^ k) (hpos : 0 < x.toNat) (hx : x.toNat < 2 ^ (k + 1))
    (e : ℤ) {fuel : ℕ} (hfuel : k < fuel) :
    ∃ (r : BitVec w) (j : ℕ), normalise leading fuel x e = some (r, e - j) ∧ r.toNat = x.toNat * 2 ^ j ∧
      2 ^ k ≤ r.toNat ∧ r.toNat < 2 ^ (k + 1) := by
  have hstart : ∃ j : ℕ, x.toNat = x.toNat * 2 ^ j ∧ e = e - j := ⟨0, by simp, by simp⟩
  obtain ⟨⟨⟩, ⟨r, e'⟩, hiterate, ⟨j, hr, rfl⟩, hlow, hhigh⟩ := @iterate_ends_in _ _ (normaliseTurn leading) (x, e)
    (fun s => (∃ j : ℕ, s.1.toNat = x.toNat * 2 ^ j ∧ s.2 = e - j) ∧ s.1.toNat < 2 ^ (k + 1))
    (fun _ s => (∃ j : ℕ, s.1.toNat = x.toNat * 2 ^ j ∧ s.2 = e - j) ∧ 2 ^ k ≤ s.1.toNat ∧ s.1.toNat < 2 ^ (k + 1))
    (fun s => k - Nat.log 2 s.1.toNat) (fun s hs => by
      obtain ⟨⟨j, hj, he⟩, hlt⟩ := hs
      have hspos : 0 < s.1.toNat := hj ▸ Nat.mul_pos hpos (Nat.two_pow_pos j)
      by_cases hshort : s.1.toNat < 2 ^ k
      · refine ⟨.again (s.1 <<< 1, s.2 - 1), if_pos ((and_leading hleading hlt).mpr hshort), ?_, by simp⟩
        rintro s' ⟨rfl⟩
        have hdouble := toNat_double hk hshort
        have hlog : Nat.log 2 s.1.toNat < k := Nat.log_lt_of_lt_pow hspos.ne' hshort
        refine ⟨⟨⟨j + 1, ?_, ?_⟩, ?_⟩, ?_⟩
        · rw [hdouble, hj, pow_succ]
          ring
        · rw [he]
          push_cast
          ring
        · rw [hdouble, pow_succ]
          omega
        · rw [hdouble, mul_comm, Nat.log_mul_base (by norm_num) hspos.ne']
          omega
      · refine ⟨.done () s, if_neg (mt (and_leading hleading hlt).mp hshort), by simp, ?_⟩
        rintro a t ⟨rfl⟩
        exact ⟨⟨j, hj, he⟩, not_lt.mp hshort, hlt⟩)
    fuel (by omega) ⟨hstart, hx⟩
  exact ⟨r, j, by rw [normalise, hiterate]; rfl, hr, hlow, hhigh⟩

end Normalise

lemma unpack_ends {bits : U32} (hfinite : Finite bits) (hzero : ¬Zero bits) {fuel : ℕ} (hfuel : 23 < fuel) :
    ∃ (m : U32) (e : ℤ), unpack fuel bits = some (m, e) ∧ 2 ^ 23 ≤ m.toNat ∧ m.toNat < 2 ^ 24 ∧ -149 ≤ e ∧ e ≤ 127 ∧
      magnitude bits = m.toNat * 2 ^ (e - 23) := by
  have hencoded := toNat_encoded bits
  have hfraction := toNat_fraction bits
  have hlt := fractionOf_lt bits
  have hlt' := encodedOf_lt bits
  have hif : (bits >>> 23) &&& 255#32 ≠ 0#32 ↔ encodedOf bits ≠ 0 := by
    rw [ne_eq, ← BitVec.toNat_inj, hencoded, BitVec.toNat_zero]
  unfold unpack
  by_cases hsub : encodedOf bits = 0
  · have hpos : 0 < (bits &&& fraction).toNat := by
      rw [hfraction]
      exact Nat.pos_of_ne_zero fun h => hzero ⟨hsub, h⟩
    obtain ⟨m, j, hnormal, hm, hlow, hhigh⟩ :=
      @normalise_ends 32 23 hidden (bits &&& fraction) (by norm_num) rfl hpos (by omega) (-126) fuel hfuel
    have hj : j < 24 := by
      rw [← Nat.pow_lt_pow_iff_right (by norm_num : 1 < 2)]
      calc 2 ^ j ≤ (bits &&& fraction).toNat * 2 ^ j := Nat.le_mul_of_pos_left _ hpos
        _ < 2 ^ 24 := hm ▸ hhigh
    refine ⟨m, -126 - j, ?_, hlow, hhigh, by omega, by omega, ?_⟩
    · simp only [hif, hsub, ne_eq, not_true_eq_false, if_false]
      exact hnormal
    · rw [magnitude, if_pos hsub, hm, hfraction, show (-126 : ℤ) - j - 23 = -149 + -j by ring, zpow_add₀ (by norm_num),
        zpow_neg 2 (j : ℤ), zpow_natCast]
      push_cast
      field_simp
  · have hm : ((bits &&& fraction) ||| hidden).toNat = fractionOf bits + 2 ^ 23 := by
      rw [BitVec.toNat_or, hfraction]
      exact Nat.or_two_pow_eq_add_of_lt hlt
    refine ⟨_, _, if_pos (hif.mpr hsub), by omega, by omega, by omega, ?_, ?_⟩
    · rw [Finite] at hfinite
      omega
    · rw [magnitude, if_neg hsub, hm, hencoded, show (encodedOf bits : ℤ) - 127 - 23 = encodedOf bits - 150 by ring]
      push_cast
      ring

end Nextcore.Fp
