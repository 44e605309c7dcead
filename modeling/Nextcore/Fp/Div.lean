import Nextcore.Fp.Pack
import Nextcore.Fp.Unpack

/-! The quotient digits and the remainder as a sticky bit deliver the exact quotient. -/

namespace Nextcore.Fp

open Round Bits

lemma xor_and_sign (a b : U32) : (a ^^^ b) &&& sign = signBit (SignsDiffer a b) := by
  have hsplit : (a ^^^ b) &&& sign = (a &&& sign) ^^^ (b &&& sign) := by
    ext i
    simp only [BitVec.getElem_and, BitVec.getElem_xor, Bool.and_xor_distrib_right]
  rw [hsplit, and_sign, and_sign]
  by_cases ha : Negative a <;> by_cases hb : Negative b <;> simp [signBit, SignsDiffer, ha, hb]

lemma value_div (a b : U32) : value a / value b = signed (SignsDiffer a b) (magnitude a / magnitude b) := by
  unfold value signed SignsDiffer
  by_cases ha : Negative a <;> by_cases hb : Negative b <;> simp [ha, hb, neg_div, div_neg]

lemma quotient_agrees {ma mb : ℕ} {e : ℤ} (hb : 0 < mb) (hle : mb ≤ ma) (hlt : ma < 2 * mb) :
    2 ^ 26 ≤ sticky (ma * 2 ^ 26) mb ∧ sticky (ma * 2 ^ 26) mb < 2 ^ 27 ∧
      Agrees 4 (sticky (ma * 2 ^ 26) mb : ℕ) ((ma : ℚ) / mb * 2 ^ e * 2 ^ (26 - e)) := by
  have hlow : 2 ^ 26 ≤ ma * 2 ^ 26 / mb := by
    rw [Nat.le_div_iff_mul_le hb, mul_comm]
    exact Nat.mul_le_mul_right _ hle
  have hhigh : ma * 2 ^ 26 / mb < 2 * 2 ^ 26 := by
    rw [Nat.div_lt_iff_lt_mul hb]
    omega
  have hagree := (@agrees_self ℚ _ _ _ 1 (ma * 2 ^ 26 : ℕ)).sticky hb (one_dvd _)
  have hscale : (ma : ℚ) / mb * 2 ^ e * 2 ^ (26 - e) = ((ma * 2 ^ 26 : ℕ) : ℤ) / mb := by
    rw [mul_assoc, ← zpow_add₀ (by norm_num), add_sub_cancel]
    push_cast
    ring
  rw [hscale]
  exact ⟨hlow.trans (div_le_sticky _ _), sticky_lt hhigh, hagree.coarsen ⟨2, rfl⟩⟩

lemma toNat_quotient {m d : U32} (hm : m.toNat < 2 ^ 25) :
    (if m.setWidth 64 <<< 26 % d.setWidth 64 ≠ 0#64 then m.setWidth 64 <<< 26 / d.setWidth 64 ||| 1#64
      else m.setWidth 64 <<< 26 / d.setWidth 64).toNat = sticky (m.toNat * 2 ^ 26) d.toNat := by
  have hnumerator : (m.setWidth 64 <<< 26).toNat = m.toNat * 2 ^ 26 := by
    rw [BitVec.toNat_shiftLeft, BitVec.toNat_setWidth, Nat.shiftLeft_eq]
    omega
  have hwide : (d.setWidth 64).toNat = d.toNat := by
    rw [BitVec.toNat_setWidth]
    omega
  have hrest : m.setWidth 64 <<< 26 % d.setWidth 64 = 0#64 ↔ m.toNat * 2 ^ 26 % d.toNat = 0 := by
    rw [← BitVec.toNat_inj, BitVec.toNat_umod, hnumerator, hwide, BitVec.toNat_zero]
  unfold sticky
  by_cases hzero : m.toNat * 2 ^ 26 % d.toNat = 0
  · rw [if_neg (not_not.mpr (hrest.mpr hzero)), if_pos hzero, BitVec.toNat_udiv, hnumerator, hwide, Nat.or_zero]
  · rw [if_pos (mt hrest.mp hzero), if_neg hzero, BitVec.toNat_or, BitVec.toNat_udiv, hnumerator, hwide]
    rfl

lemma dividend_ratio {ma mb : U32} (ea eb : ℤ) (hloa : 2 ^ 23 ≤ ma.toNat) (hhia : ma.toNat < 2 ^ 24)
    (hlob : 2 ^ 23 ≤ mb.toNat) (hhib : mb.toNat < 2 ^ 24) :
    ∃ (m : U32) (e : ℤ), (if ma < mb then ma <<< 1 else ma) = m ∧ (if ma < mb then ea - eb - 1 else ea - eb) = e ∧
      mb.toNat ≤ m.toNat ∧ m.toNat < 2 * mb.toNat ∧ ea - eb - 1 ≤ e ∧
      (ma.toNat : ℚ) / mb.toNat * 2 ^ (ea - eb) = (m.toNat : ℚ) / mb.toNat * 2 ^ e := by
  refine ⟨_, _, rfl, rfl, ?_⟩
  by_cases hlt : ma < mb
  · have hdouble : (ma <<< 1).toNat = 2 * ma.toNat := @toNat_double 32 24 ma (by norm_num) (by omega)
    rw [if_pos hlt, if_pos hlt, hdouble, zpow_sub_one₀ (by norm_num)]
    rw [BitVec.lt_def] at hlt
    refine ⟨by omega, by omega, by omega, ?_⟩
    push_cast
    ring
  · rw [if_neg hlt, if_neg hlt]
    rw [BitVec.lt_def, not_lt] at hlt
    exact ⟨hlt, by omega, by omega, rfl⟩

lemma divFinite_delivered (state : Fp32State) {a b : U32} (hfa : Finite a) (hfb : Finite b) (hza : ¬Zero a)
    (hzb : ¬Zero b) {fuel : ℕ} (hfuel : 23 < fuel) :
    ∃ bits raised, divFinite fuel state a b = some (result state bits raised) ∧
      Delivered state.rounding.mode (value a / value b) bits raised := by
  obtain ⟨ma, ea, ha, hloa, hhia, hlea, -, hmaga⟩ := unpack_ends hfa hza hfuel
  obtain ⟨mb, eb, hb, hlob, hhib, -, hleb, hmagb⟩ := unpack_ends hfb hzb hfuel
  obtain ⟨m, e, hm, he, hlow, hhigh, hlee, hratio⟩ := dividend_ratio ea eb hloa hhia hlob hhib
  have hexact : value a / value b = signed (SignsDiffer a b) ((m.toNat : ℚ) / mb.toNat * 2 ^ e) := by
    rw [value_div, ← hratio, hmaga, hmagb, show ea - eb = ea - 23 - (eb - 23) by ring, zpow_sub₀ (by norm_num) (ea - 23),
      mul_div_mul_comm]
  obtain ⟨hqlow, hqhigh, hagree⟩ := @quotient_agrees m.toNat mb.toNat e (by omega) hlow hhigh
  rw [← toNat_quotient (by omega)] at hqlow hqhigh hagree
  obtain ⟨bits, raised, hpack, hdelivered⟩ := pack_delivered state (SignsDiffer a b) (by omega) hqlow hqhigh hagree
  refine ⟨bits, raised, ?_, hexact ▸ hdelivered⟩
  simp only [divFinite, ha, hb, Option.bind_eq_bind, Option.bind_some, hm, he, xor_and_sign]
  exact congrArg some hpack

/-- The quotient, the flags and the end of every loop, for all operands. -/
theorem div_correctly_rounded (state : Fp32State) (a b : U32) {fuel : ℕ} (hfuel : 23 < fuel) :
    ∃ bits raised, ncFp32Div fuel state a b = some
        ({ bits := bits, status := state.status ||| raised }, { state with status := state.status ||| raised }) ∧
      IsQuotient state.rounding.mode a b bits raised := by
  have hinf := @fields_or (SignsDiffer a b) _ inf 255 0 (by norm_num) (by norm_num) rfl
  have hzero := @fields_or (SignsDiffer a b) _ 0#32 0 0 (by norm_num) (by norm_num) rfl
  rw [BitVec.or_zero] at hzero
  unfold ncFp32Div
  simp only [isNan_iff, abs_eq_inf, abs_eq_zero, xor_and_sign]
  by_cases hnan : Nan a ∨ Nan b
  · obtain ⟨bits, raised, hresult, hpropagated⟩ := nanResult_propagated state hnan
    refine ⟨bits, raised, ?_, fun _ => hpropagated, ?_, ?_, ?_, ?_, ?_, ?_⟩
    · rw [if_pos hnan, hresult]
      rfl
    all_goals grind [Nan, Infinite, Zero, Finite]
  rw [if_neg hnan]
  by_cases hinvalid : (Zero a ∧ Zero b) ∨ (Infinite a ∧ Infinite b)
  · refine ⟨_, _, if_pos hinvalid, fun h => absurd h hnan, fun _ => ⟨rfl, rfl⟩, ?_, ?_, ?_, ?_, ?_⟩
    all_goals grind [Nan, Infinite, Zero, Finite]
  rw [if_neg hinvalid]
  by_cases hia : Infinite a
  · refine ⟨_, _, if_pos hia, fun h => absurd h hnan, fun h => absurd h hinvalid,
      fun _ _ => ⟨⟨hinf.1, hinf.2.1⟩, hinf.2.2, rfl⟩, ?_, ?_, ?_, ?_⟩
    all_goals grind [Nan, Infinite, Zero, Finite]
  rw [if_neg hia]
  by_cases hib : Infinite b
  · refine ⟨_, _, if_pos hib, fun h => absurd h hnan, fun h => absurd h hinvalid, fun h => absurd h hia,
      fun _ _ => ⟨⟨hzero.1, hzero.2.1⟩, hzero.2.2, rfl⟩, ?_, ?_, ?_⟩
    all_goals grind [Nan, Infinite, Zero, Finite]
  rw [if_neg hib]
  by_cases hzb : Zero b
  · refine ⟨_, _, if_pos hzb, fun h => absurd h hnan, fun h => absurd h hinvalid, fun h => absurd h hia,
      fun _ h => absurd h hib, fun _ _ _ => ⟨⟨hinf.1, hinf.2.1⟩, hinf.2.2, rfl⟩, fun _ _ h => absurd hzb h,
      fun _ _ _ h => absurd hzb h⟩
  rw [if_neg hzb]
  by_cases hza : Zero a
  · exact ⟨_, _, if_pos hza, fun h => absurd h hnan, fun h => absurd h hinvalid, fun h => absurd h hia,
      fun _ h => absurd h hib, fun _ h => absurd hza h, fun _ _ _ => ⟨⟨hzero.1, hzero.2.1⟩, hzero.2.2, rfl⟩,
      fun _ _ h => absurd hza h⟩
  rw [if_neg hza]
  have hfa : Finite a := by grind [Nan, Infinite, Finite]
  have hfb : Finite b := by grind [Nan, Infinite, Finite]
  obtain ⟨bits, raised, hresult, hdelivered⟩ := divFinite_delivered state hfa hfb hza hzb hfuel
  exact ⟨bits, raised, hresult, fun h => absurd h hnan, fun h => absurd h hinvalid, fun h => absurd h hia,
    fun _ h => absurd h hib, fun _ _ h => absurd h hzb, fun h => absurd h hza, fun _ _ _ _ => hdelivered⟩

theorem div_correctly_rounded_third :
    ncFp32Div 24 init 0x3f800000#32 0x40400000#32 =
        some ({ bits := 0x3eaaaaab#32, status := ixc }, { rounding := .rn, status := ixc }) ∧
      ∃ bits raised, ncFp32Div 24 init 0x3f800000#32 0x40400000#32 = some
          ({ bits := bits, status := init.status ||| raised }, { init with status := init.status ||| raised }) ∧
        IsQuotient .nearest 0x3f800000#32 0x40400000#32 bits raised :=
  ⟨by decide +kernel, div_correctly_rounded init _ _ (by norm_num)⟩

end Nextcore.Fp
