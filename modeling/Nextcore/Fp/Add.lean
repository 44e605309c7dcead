import Nextcore.Fp.Pack
import Nextcore.Fp.Unpack

/-! Alignment with a sticky bit and the normalising shifts deliver the exact sum. -/

namespace Nextcore.Fp

open Round Bits

def combined (p q : Prop) [Decidable p] [Decidable q] (y z : ℚ) : ℚ := if p ↔ q then y + z else y - z

lemma signed_add (p q : Prop) [Decidable p] [Decidable q] (y z : ℚ) :
    signed p y + signed q z = signed p (combined p q y z) := by
  by_cases hp : p <;> by_cases hq : q <;> simp [signed, combined, hp, hq] <;> ring

section Align

variable {m d : ℕ}

lemma align_agrees (m d : ℕ) : Agrees 2 (sticky m (2 ^ d) : ℕ) ((m : ℚ) / 2 ^ d) := by
  have h := (@agrees_self ℚ _ _ _ 1 m).sticky (Nat.two_pow_pos d) (one_dvd _)
  push_cast at h
  exact h

lemma align_exact (h : 2 ^ d ∣ m) : (sticky m (2 ^ d) : ℚ) = (m : ℚ) / 2 ^ d := by
  obtain ⟨k, rfl⟩ := h
  have hpos := Nat.two_pow_pos d
  rw [sticky, Nat.mul_mod_right, if_pos rfl, Nat.or_zero, Nat.mul_div_cancel_left k hpos]
  push_cast
  field_simp

end Align

lemma normalise_agrees {s : U64} {x : ℚ} (hpos : 0 < s.toNat) (hlt : s.toNat < 2 ^ 27) (h : Agrees 2 s.toNat x)
    (hexact : s.toNat < 2 ^ 25 → (s.toNat : ℚ) = x) (e : ℤ) {fuel : ℕ} (hfuel : 26 < fuel) :
    ∃ (r : U64) (j : ℕ), normalise (1#64 <<< 26) fuel s e = some (r, e - j) ∧ j ≤ 26 ∧ 2 ^ 26 ≤ r.toNat ∧
      r.toNat < 2 ^ 27 ∧ Agrees 4 r.toNat (x * 2 ^ j) := by
  obtain ⟨r, j, hnormal, hr, hlow, hhigh⟩ :=
    @normalise_ends 64 26 (1#64 <<< 26) s (by norm_num) rfl hpos hlt e fuel hfuel
  have hj : 2 ^ j < 2 ^ 27 := by
    calc 2 ^ j ≤ s.toNat * 2 ^ j := Nat.le_mul_of_pos_left _ hpos
      _ < 2 ^ 27 := hr ▸ hhigh
  rw [Nat.pow_lt_pow_iff_right (by norm_num : 1 < 2)] at hj
  refine ⟨r, j, hnormal, by omega, hlow, hhigh, ?_⟩
  rcases j with _ | _ | j
  · rw [hr, pow_zero, mul_one, pow_zero, mul_one]
    exact h.coarsen ⟨2, rfl⟩
  · have hscale := h.scale (show (0 : ℤ) < 2 by norm_num)
    rw [hr, zero_add, pow_one, pow_one, mul_comm x]
    push_cast
    push_cast at hscale
    rwa [mul_comm (s.toNat : ℤ)]
  · have hshort : s.toNat < 2 ^ 25 := by
      have hgrow : s.toNat * 2 ^ 2 ≤ s.toNat * 2 ^ (j + 1 + 1) :=
        Nat.mul_le_mul_left _ (Nat.pow_le_pow_right (by norm_num) (by omega))
      omega
    have hcast : ((r.toNat : ℤ) : ℚ) = x * 2 ^ (j + 1 + 1) := by
      rw [← hexact hshort, hr]
      push_cast
      ring
    rw [← hcast]
    exact agrees_self 4 _

section Ordered

variable {p q : Prop} [Decidable p] [Decidable q] {e : ℤ} {y x : ℚ} {fuel : ℕ}

lemma finish_delivered (state : Fp32State) (p : Prop) [Decidable p] {t : U64} (hpos : 0 < t.toNat)
    (hlt : t.toNat < 2 ^ 27) (h : Agrees 2 t.toNat x) (hexact : t.toNat < 2 ^ 25 → (t.toNat : ℚ) = x) (he : -900 ≤ e)
    (hy : y = x * 2 ^ (e - 26)) (hfuel : 26 < fuel) :
    ∃ bits raised, ((normalise (1#64 <<< 26) fuel t e).map fun s => pack state (signBit p) s.2 s.1) =
        some (result state bits raised) ∧ Delivered state.rounding.mode (signed p y) bits raised := by
  obtain ⟨r, j, hnormal, hj, hlow, hhigh, hagree⟩ := normalise_agrees hpos hlt h hexact e hfuel
  have hscale : x * 2 ^ j = y * 2 ^ (26 - (e - j)) := by
    rw [hy, mul_assoc, ← zpow_add₀ (by norm_num), show e - 26 + (26 - (e - j)) = (j : ℤ) by ring, zpow_natCast]
  rw [hscale] at hagree
  obtain ⟨bits, raised, hpack, hdelivered⟩ := pack_delivered state p (by omega) hlow hhigh hagree
  refine ⟨bits, raised, ?_, hdelivered⟩
  rw [hnormal]
  exact congrArg some hpack

lemma long_iff {s : U64} (h : s.toNat < 2 ^ 28) : s &&& (1#64 <<< 27) ≠ 0#64 ↔ 2 ^ 27 ≤ s.toNat := by
  rw [ne_eq, @and_leading 64 27 (1#64 <<< 27) s rfl h, not_lt]

lemma sum_delivered (state : Fp32State) (p : Prop) [Decidable p] {s : U64} (hpos : 0 < s.toNat)
    (hlt : s.toNat < 2 ^ 28) (h : Agrees 2 s.toNat x) (hexact : s.toNat < 2 ^ 25 → (s.toNat : ℚ) = x) (he : -900 ≤ e)
    (hy : y = x * 2 ^ (e - 26)) (hfuel : 26 < fuel) :
    ∃ bits raised, ((normalise (1#64 <<< 26) fuel
          (if decide (s &&& (1#64 <<< 27) ≠ 0#64) = true then shiftJam s 1 else s)
          (if decide (s &&& (1#64 <<< 27) ≠ 0#64) = true then e + 1 else e)).map
          fun t => pack state (signBit p) t.2 t.1) = some (result state bits raised) ∧
      Delivered state.rounding.mode (signed p y) bits raised := by
  simp only [decide_eq_true_eq, long_iff hlt]
  by_cases hlong : 2 ^ 27 ≤ s.toNat
  · rw [if_pos hlong, if_pos hlong]
    have hjam : (shiftJam s 1).toNat = sticky s.toNat 2 := toNat_shiftJam s 1
    have hlow := div_le_sticky s.toNat 2
    have hhigh := @sticky_lt s.toNat 2 (2 ^ 26) (by omega)
    have hagree := h.sticky (show 0 < 2 by norm_num) ⟨2, rfl⟩
    rw [← hjam] at hlow hhigh hagree
    apply finish_delivered state p (by omega) (by omega) hagree (fun hshort => by omega) (by omega) _ hfuel
    rw [hy, show e + 1 - 26 = e - 26 + 1 by ring, zpow_add_one₀ (by norm_num)]
    push_cast
    ring
  · rw [if_neg hlong, if_neg hlong]
    exact finish_delivered state p hpos (not_le.mp hlong) h hexact he hy hfuel

lemma difference_exact {ma mb d : ℕ} (hlow : 2 ^ 26 ≤ ma) (hhigh : mb < 2 ^ 27) (h8 : 8 ∣ mb)
    (hshort : ma - sticky mb (2 ^ d) < 2 ^ 25) : (sticky mb (2 ^ d) : ℚ) = (mb : ℚ) / 2 ^ d := by
  apply align_exact
  rcases d with _ | _ | d
  · exact one_dvd _
  · exact dvd_trans (by norm_num) h8
  · exfalso
    have hle := sticky_le mb (2 ^ (d + 1 + 1))
    have hdiv : mb / 2 ^ (d + 1 + 1) ≤ mb / 2 ^ 2 :=
      Nat.div_le_div_left (Nat.pow_le_pow_right (by norm_num) (by omega)) (by norm_num)
    omega

structure Aligned (m : U64) : Prop where
  low : 2 ^ 26 ≤ m.toNat
  high : m.toNat < 2 ^ 27
  spare : 8 ∣ m.toNat

lemma aligned_sum (p q : Prop) [Decidable p] [Decidable q] {ma mb : U64} {d : ℕ} (ha : Aligned ma) (hb : Aligned mb)
    (hd : d = 0 → mb.toNat ≤ ma.toNat) {s : U64}
    (hs : (if signBit p = signBit q then ma + shiftJam mb d else ma - shiftJam mb d) = s) :
    Agrees 2 s.toNat (combined p q ma.toNat (mb.toNat / 2 ^ d)) ∧ s.toNat < 2 ^ 28 ∧
      (s.toNat < 2 ^ 25 → (s.toNat : ℚ) = combined p q ma.toNat (mb.toNat / 2 ^ d)) ∧ ((p ↔ q) → s.toNat ≠ 0) := by
  obtain ⟨hloa, hhia, h8a⟩ := ha
  obtain ⟨hlob, hhib, h8b⟩ := hb
  have hjam := toNat_shiftJam mb d
  have hagree := align_agrees mb.toNat d
  have hdiv : mb.toNat / 2 ^ d ≤ mb.toNat := Nat.div_le_self _ _
  have hbound := @sticky_lt mb.toNat (2 ^ d) (2 ^ 26) (by omega)
  have heven : (2 : ℤ) ∣ ma.toNat := by omega
  unfold combined
  by_cases hpq : p ↔ q
  · rw [if_pos ((signBit_eq_iff p q).mpr hpq)] at hs
    have hsum : s.toNat = ma.toNat + sticky mb.toNat (2 ^ d) := by
      rw [← hs, BitVec.toNat_add, hjam]
      omega
    have hadd := hagree.add heven
    rw [if_pos hpq, hsum]
    push_cast at hadd ⊢
    exact ⟨hadd, by omega, fun hshort => by omega, fun _ => by omega⟩
  · rw [if_neg (mt (signBit_eq_iff p q).mp hpq)] at hs
    have hle : sticky mb.toNat (2 ^ d) ≤ ma.toNat := by
      rcases d with _ | d
      · rw [pow_zero, sticky, Nat.mod_one, if_pos rfl, Nat.or_zero, Nat.div_one]
        exact hd rfl
      · have hsmall := sticky_le mb.toNat (2 ^ (d + 1))
        have hhalf : mb.toNat / 2 ^ (d + 1) ≤ mb.toNat / 2 ^ 1 :=
          Nat.div_le_div_left (Nat.pow_le_pow_right (by norm_num) (by omega)) (by norm_num)
        omega
    have hsum : s.toNat = ma.toNat - sticky mb.toNat (2 ^ d) := by
      rw [← hs, BitVec.toNat_sub, hjam]
      omega
    have hadd := hagree.neg.add heven
    rw [if_neg hpq, hsum]
    push_cast [Nat.cast_sub hle]
    push_cast at hadd
    rw [← sub_eq_add_neg, ← sub_eq_add_neg] at hadd
    refine ⟨hadd, by omega, fun hshort => ?_, fun h => absurd h hpq⟩
    rw [difference_exact hloa hhib h8b hshort]

lemma addOrdered_delivered (state : Fp32State) (p q : Prop) [Decidable p] [Decidable q] {ea eb : ℤ} {ma mb : U64}
    {y z : ℚ} (ha : Aligned ma) (hb : Aligned mb) (hy : y = ma.toNat * 2 ^ (ea - 26))
    (hz : z = mb.toNat * 2 ^ (eb - 26)) (hea : -149 ≤ ea) (hle : eb ≤ ea) (hnear : ea - eb < 2 ^ 32)
    (heq : ea = eb → mb.toNat ≤ ma.toNat) (hfuel : 26 < fuel) :
    ∃ bits raised, addOrdered fuel state (signBit p) ea ma (signBit q) eb mb = some (result state bits raised) ∧
      (signed p y + signed q z = 0 → ¬(p ↔ q) ∧ bits = signBit (state.rounding = .rm) ∧ raised = 0#32) ∧
      (signed p y + signed q z ≠ 0 → Delivered state.rounding.mode (signed p y + signed q z) bits raised) := by
  rw [signed_add]
  have hsigned : signed p (combined p q y z) = 0 ↔ combined p q y z = 0 := by
    unfold signed
    split_ifs
    · exact neg_eq_zero
    · exact Iff.rfl
  obtain ⟨d, hd⟩ := Int.eq_ofNat_of_zero_le (show 0 ≤ ea - eb by omega)
  have hdistance : unsigned (ea - eb) = d := by
    rw [unsigned_eq (by omega) hnear, hd, Int.toNat_natCast]
  have hscale : combined p q y z = combined p q ma.toNat (mb.toNat / 2 ^ d) * 2 ^ (ea - 26) := by
    rw [hy, hz, show eb - 26 = ea - 26 - d by omega, zpow_sub₀ (by norm_num) (ea - 26), zpow_natCast]
    unfold combined
    split_ifs <;> ring
  have hfirst : d = 0 → mb.toNat ≤ ma.toNat := fun h => heq (by omega)
  obtain ⟨hagree, hlt, hexact, hsame⟩ := aligned_sum p q ha hb hfirst rfl
  unfold addOrdered
  simp only [hdistance]
  generalize (if signBit p = signBit q then ma + shiftJam mb d else ma - shiftJam mb d) = s at *
  have hpower : (2 : ℚ) ^ (ea - 26) ≠ 0 := zpow_ne_zero _ (by norm_num)
  have hzero : s = 0#64 ↔ signed p (combined p q y z) = 0 := by
    have hiff := hagree.eq 0
    rw [mul_zero, Int.cast_zero] at hiff
    rw [hsigned, hscale, mul_eq_zero, or_iff_left hpower, ← hiff, ← BitVec.toNat_inj]
    exact Nat.cast_eq_zero.symm
  by_cases hs : s = 0#64
  · have hx0 := hzero.mp hs
    refine ⟨_, _, if_pos hs, fun _ => ⟨fun hpq => ?_, rfl, rfl⟩, fun hne => absurd hx0 hne⟩
    exact hsame hpq (by rw [hs]; rfl)
  · have hpos : 0 < s.toNat := Nat.pos_of_ne_zero fun h => hs (BitVec.eq_of_toNat_eq h)
    obtain ⟨bits, raised, hresult, hdelivered⟩ :=
      sum_delivered state p hpos hlt hagree hexact (by omega) hscale hfuel
    refine ⟨bits, raised, ?_, fun hx0 => absurd (hzero.mpr hx0) hs, fun _ => hdelivered⟩
    rw [if_neg hs]
    exact hresult

end Ordered

lemma aligned_widened {m : U32} (hlow : 2 ^ 23 ≤ m.toNat) (hhigh : m.toNat < 2 ^ 24) :
    Aligned (m.setWidth 64 <<< 3) ∧ (m.setWidth 64 <<< 3).toNat = m.toNat * 2 ^ 3 := by
  have hwide : (m.setWidth 64 <<< 3).toNat = m.toNat * 2 ^ 3 := by
    rw [BitVec.toNat_shiftLeft, BitVec.toNat_setWidth, Nat.shiftLeft_eq]
    omega
  exact ⟨⟨by omega, by omega, by omega⟩, hwide⟩

lemma addFinite_delivered (state : Fp32State) {a b : U32} (hfa : Finite a) (hfb : Finite b) (hza : ¬Zero a)
    (hzb : ¬Zero b) {fuel : ℕ} (hfuel : 26 < fuel) :
    ∃ bits raised, addFinite fuel state a b = some (result state bits raised) ∧
      (value a + value b = 0 → SignsDiffer a b ∧ bits = signBit (state.rounding = .rm) ∧ raised = 0#32) ∧
      (value a + value b ≠ 0 → Delivered state.rounding.mode (value a + value b) bits raised) := by
  obtain ⟨ma, ea, ha, hloa, hhia, hlea, hlta, hmaga⟩ := @unpack_ends a hfa hza fuel (by omega)
  obtain ⟨mb, eb, hb, hlob, hhib, hleb, hltb, hmagb⟩ := @unpack_ends b hfb hzb fuel (by omega)
  obtain ⟨hala, hwa⟩ := aligned_widened hloa hhia
  obtain ⟨halb, hwb⟩ := aligned_widened hlob hhib
  have hscale (m : ℕ) (e : ℤ) : (m : ℚ) * 2 ^ (e - 23) = (m * 2 ^ 3 : ℕ) * 2 ^ (e - 26) := by
    rw [show e - 23 = 3 + (e - 26) by ring, zpow_add₀ (by norm_num)]
    push_cast
    ring
  have hxa : magnitude a = (ma.setWidth 64 <<< 3).toNat * 2 ^ (ea - 26) := by rw [hmaga, hscale, hwa]
  have hxb : magnitude b = (mb.setWidth 64 <<< 3).toNat * 2 ^ (eb - 26) := by rw [hmagb, hscale, hwb]
  simp only [addFinite, ha, hb, Option.bind_eq_bind, Option.bind_some, and_sign, BitVec.lt_def]
  by_cases hswap : ea < eb ∨ (ea = eb ∧ (ma.setWidth 64 <<< 3).toNat < (mb.setWidth 64 <<< 3).toNat)
  · obtain ⟨bits, raised, hresult, hzero, hdelivered⟩ := addOrdered_delivered state (Negative b) (Negative a) halb hala
      hxb hxa hleb (by omega) (by omega) (by omega) hfuel
    rw [if_pos hswap, add_comm]
    exact ⟨bits, raised, hresult, fun h => ⟨fun hsame => (hzero h).1 hsame.symm, (hzero h).2⟩, hdelivered⟩
  · obtain ⟨bits, raised, hresult, hzero, hdelivered⟩ := addOrdered_delivered state (Negative a) (Negative b) hala halb
      hxa hxb hlea (by omega) (by omega) (by omega) hfuel
    rw [if_neg hswap]
    exact ⟨bits, raised, hresult, hzero, hdelivered⟩

lemma lastPlace_magnitude {bits : U32} (hpos : 0 < magnitude bits) :
    lastPlace 24 (-149) (magnitude bits) = if encodedOf bits = 0 then -149 else (encodedOf bits : ℤ) - 150 := by
  have hfraction : (fractionOf bits : ℚ) < 2 ^ 23 := by exact_mod_cast fractionOf_lt bits
  by_cases hsub : encodedOf bits = 0
  · rw [if_pos hsub, lastPlace, abs_of_pos hpos]
    have hlog : Int.log 2 (magnitude bits) < -126 := by
      apply (Int.lt_zpow_iff_log_lt (by norm_num) hpos).mp
      rw [magnitude, if_pos hsub]
      calc (fractionOf bits : ℚ) * 2 ^ (-149 : ℤ) < 2 ^ 23 * 2 ^ (-149 : ℤ) :=
            mul_lt_mul_of_pos_right hfraction (by positivity)
        _ = ((2 : ℕ) : ℚ) ^ (-126 : ℤ) := by norm_num
    omega
  · have hpower : (0 : ℚ) < 2 ^ ((encodedOf bits : ℤ) - 150) := by positivity
    have hsplit (k : ℤ) : (2 : ℚ) ^ (k + ((encodedOf bits : ℤ) - 150)) = 2 ^ k * 2 ^ ((encodedOf bits : ℤ) - 150) :=
      zpow_add₀ (by norm_num) k _
    have hmagnitude : magnitude bits = (2 ^ 23 + fractionOf bits) * 2 ^ ((encodedOf bits : ℤ) - 150) := if_neg hsub
    have hplace := @lastPlace_eq (23 + ((encodedOf bits : ℤ) - 150)) (magnitude bits)
      (by
        rw [hmagnitude, hsplit]
        apply mul_le_mul_of_nonneg_right _ hpower.le
        norm_num)
      (by
        rw [hmagnitude, show 23 + ((encodedOf bits : ℤ) - 150) + 1 = 24 + ((encodedOf bits : ℤ) - 150) by ring, hsplit]
        apply mul_lt_mul_of_pos_right _ hpower
        norm_num
        linarith)
    rw [hplace, if_neg hsub]
    omega

lemma rounded_magnitude (m : Mode) {bits : U32} (hpos : 0 < magnitude bits) :
    rounded m (magnitude bits) = magnitude bits := by
  rw [rounded, round_eq_self, Int.fract_eq_zero_iff, lastPlace_magnitude hpos, magnitude]
  split_ifs
  · exact ⟨fractionOf bits, by field_simp; norm_num⟩
  · exact ⟨2 ^ 23 + fractionOf bits, by push_cast; field_simp; norm_num⟩

lemma delivered_self (mode : Mode) {bits : U32} (hfinite : Finite bits) (hzero : ¬Zero bits) :
    Delivered mode (value bits) bits 0#32 := by
  have hpos : 0 < magnitude bits := lt_of_le_of_ne (magnitude_nonneg bits) (Ne.symm (mt (magnitude_eq_zero bits).mp hzero))
  have hexact : rounded mode (value bits) = value bits := by
    rw [value, rounded_signed, rounded_magnitude _ hpos]
  obtain ⟨m, e, -, -, hhigh, -, he, hmagnitude⟩ := unpack_ends hfinite hzero (by norm_num : 23 < 24)
  have hbound : |value bits| < 2 ^ 128 := by
    have hm : (m.toNat : ℚ) < 2 ^ 24 := by exact_mod_cast hhigh
    have hpow : (2 : ℚ) ^ (e - 23) ≤ 2 ^ (104 : ℤ) := zpow_le_zpow_right₀ (by norm_num) (by omega)
    rw [value, abs_signed, abs_of_pos hpos, hmagnitude]
    calc (m.toNat : ℚ) * 2 ^ (e - 23) < (2 : ℚ) ^ 24 * (2 : ℚ) ^ (104 : ℤ) :=
          mul_lt_mul hm hpow (by positivity) (by positivity)
      _ = 2 ^ 128 := by norm_num
  refine ⟨(signed_neg_iff _ hpos).symm, fun _ => ⟨hfinite, hexact.symm, ?_⟩, fun hlarge => ?_⟩
  · rw [if_pos hexact]
  · rw [hexact] at hlarge
    exact absurd hbound (not_lt.mpr hlarge)

/-- The sum, the flags and the end of every loop, for all operands. -/
theorem add_correctly_rounded (state : Fp32State) (a b : U32) {fuel : ℕ} (hfuel : 26 < fuel) :
    ∃ bits raised, ncFp32Add fuel state a b = some
        ({ bits := bits, status := state.status ||| raised }, { state with status := state.status ||| raised }) ∧
      IsSum state.rounding.mode a b bits raised := by
  have hzeros (p : Prop) [Decidable p] : Zero (signBit p) ∧ (Negative (signBit p) ↔ p) := by
    have hfields := @fields_or p _ 0#32 0 0 (by norm_num) (by norm_num) rfl
    rw [BitVec.or_zero] at hfields
    exact ⟨⟨hfields.1, hfields.2.1⟩, hfields.2.2⟩
  have hdown : state.rounding = .rm ↔ state.rounding.mode = .down := by cases state.rounding <;> simp [Rounding.mode]
  unfold ncFp32Add
  simp only [isNan_iff, abs_eq_inf, abs_eq_zero, and_sign, ne_eq, signBit_eq_iff]
  by_cases hnan : Nan a ∨ Nan b
  · obtain ⟨bits, raised, hresult, hpropagated⟩ := nanResult_propagated state hnan
    refine ⟨bits, raised, ?_, fun _ => hpropagated, ?_, ?_, ?_, ?_, ?_⟩
    · rw [if_pos hnan, hresult]
      rfl
    all_goals grind [Nan, Infinite, Finite]
  rw [if_neg hnan]
  by_cases hinf : Infinite a ∨ Infinite b
  · rw [if_pos hinf]
    by_cases hopposite : Infinite a ∧ Infinite b ∧ ¬(Negative a ↔ Negative b)
    · refine ⟨_, _, if_pos hopposite, fun h => absurd h hnan, fun _ _ _ => ⟨rfl, rfl⟩, ?_, ?_, ?_, ?_⟩
      all_goals grind [Nan, Infinite, Finite]
    · refine ⟨_, _, if_neg hopposite, fun h => absurd h hnan, ?_, ?_, ?_, ?_, ?_⟩
      all_goals grind [Nan, Infinite, Finite]
  rw [if_neg hinf]
  have hfa : Finite a := by grind [Nan, Infinite, Finite]
  have hfb : Finite b := by grind [Nan, Infinite, Finite]
  -- with finite operands only the last two clauses speak
  suffices h : ∃ bits raised, (if Zero a ∧ Zero b then some (result state (if Negative a ↔ Negative b then
        signBit (Negative a) else if state.rounding = .rm then sign else 0#32) 0#32)
      else if Zero a ∨ Zero b then some (result state (if Zero a then b else a) 0#32)
      else addFinite fuel state a b) = some (result state bits raised) ∧
      (value a + value b = 0 → Zero bits ∧ raised = 0#32 ∧
        (Negative bits ↔ if Negative a ↔ Negative b then Negative a else state.rounding.mode = .down)) ∧
      (value a + value b ≠ 0 → Delivered state.rounding.mode (value a + value b) bits raised) by
    obtain ⟨bits, raised, hresult, hzero, hdelivered⟩ := h
    exact ⟨bits, raised, hresult, fun h => absurd h hnan, fun h => absurd (Or.inl h) hinf,
      fun h => absurd (Or.inl h) hinf, fun _ h => absurd (Or.inr h) hinf, fun _ _ => hzero, fun _ _ => hdelivered⟩
  by_cases hboth : Zero a ∧ Zero b
  · have hsum : value a + value b = 0 := by
      rw [(value_eq_zero a).mpr hboth.1, (value_eq_zero b).mpr hboth.2, add_zero]
    refine ⟨_, _, if_pos hboth, fun _ => ?_, fun h => absurd hsum h⟩
    by_cases hsame : Negative a ↔ Negative b
    · rw [if_pos hsame, if_pos hsame]
      exact ⟨(hzeros _).1, rfl, (hzeros _).2⟩
    · rw [if_neg hsame, if_neg hsame]
      exact ⟨(hzeros (state.rounding = .rm)).1, rfl, (hzeros (state.rounding = .rm)).2.trans hdown⟩
  rw [if_neg hboth]
  by_cases hone : Zero a ∨ Zero b
  · refine ⟨_, _, if_pos hone, ?_⟩
    by_cases hza : Zero a
    · have hzb : ¬Zero b := fun h => hboth ⟨hza, h⟩
      rw [if_pos hza, (value_eq_zero a).mpr hza, zero_add]
      exact ⟨fun h => absurd ((value_eq_zero b).mp h) hzb, fun _ => delivered_self _ hfb hzb⟩
    · rw [if_neg hza, (value_eq_zero b).mpr (hone.resolve_left hza), add_zero]
      exact ⟨fun h => absurd ((value_eq_zero a).mp h) hza, fun _ => delivered_self _ hfa hza⟩
  rw [if_neg hone]
  obtain ⟨hza, hzb⟩ := not_or.mp hone
  obtain ⟨bits, raised, hresult, hzero, hdelivered⟩ := addFinite_delivered state hfa hfb hza hzb hfuel
  refine ⟨bits, raised, hresult, fun hsum => ?_, hdelivered⟩
  obtain ⟨hdiffer, rfl, rfl⟩ := hzero hsum
  rw [if_neg hdiffer]
  exact ⟨(hzeros _).1, rfl, (hzeros _).2.trans hdown⟩

theorem add_correctly_rounded_halfway :
    ncFp32Add 27 init 0x3f800000#32 0x33800000#32 =
        some ({ bits := 0x3f800000#32, status := ixc }, { rounding := .rn, status := ixc }) ∧
      ∃ bits raised, ncFp32Add 27 init 0x3f800000#32 0x33800000#32 = some
          ({ bits := bits, status := init.status ||| raised }, { init with status := init.status ||| raised }) ∧
        IsSum .nearest 0x3f800000#32 0x33800000#32 bits raised :=
  ⟨by decide +kernel, add_correctly_rounded init _ _ (by norm_num)⟩

end Nextcore.Fp
