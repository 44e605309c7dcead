import Nextcore.Fp.Format

/-! Rounding and packing: a significand with a sticky bit delivers the number it stands for. -/

namespace Nextcore.Fp

open Round Bits

lemma unsigned_eq {value : ℤ} (h : 0 ≤ value) (hlt : value < 2 ^ 32) : unsigned value = value.toNat := by
  rw [unsigned, Int.emod_eq_of_lt h hlt]

lemma shiftLeft_ne_zero (value : U64) {distance : ℕ} (h : distance < 64) :
    value <<< (64 - distance) ≠ 0#64 ↔ value.toNat % 2 ^ distance ≠ 0 := by
  have hsplit : 2 ^ 64 = 2 ^ distance * 2 ^ (64 - distance) := by
    rw [← pow_add, Nat.add_sub_cancel' h.le]
  have hpos : 0 < 2 ^ (64 - distance) := Nat.two_pow_pos _
  rw [ne_eq, ← BitVec.toNat_inj, BitVec.toNat_shiftLeft, BitVec.toNat_zero, Nat.shiftLeft_eq, hsplit,
    Nat.mul_mod_mul_right, Nat.mul_eq_zero, not_or]
  exact ⟨And.left, fun hne => ⟨hne, hpos.ne'⟩⟩

lemma toNat_shiftJam (value : U64) (distance : ℕ) :
    (shiftJam value distance).toNat = sticky value.toNat (2 ^ distance) := by
  unfold shiftJam sticky
  by_cases h0 : distance = 0
  · simp [h0, Nat.mod_one]
  rw [if_neg h0]
  by_cases h64 : 64 ≤ distance
  · have hlt : value.toNat < 2 ^ distance := value.isLt.trans_le (Nat.pow_le_pow_right (by norm_num) h64)
    rw [if_pos h64, Nat.div_eq_of_lt hlt, Nat.mod_eq_of_lt hlt, Nat.zero_or]
    by_cases hv : value = 0#64
    · simp [hv]
    · have hne : value.toNat ≠ 0 := fun h => hv (BitVec.eq_of_toNat_eq h)
      rw [if_pos hv, if_neg hne]
      rfl
  · rw [if_neg h64, BitVec.toNat_or, BitVec.toNat_ushiftRight, Nat.shiftRight_eq_div_pow]
    by_cases hrest : value.toNat % 2 ^ distance = 0
    · rw [if_neg (mt (shiftLeft_ne_zero value (not_le.mp h64)).mp (not_not.mpr hrest)), if_pos hrest]
      rfl
    · rw [if_pos ((shiftLeft_ne_zero value (not_le.mp h64)).mpr hrest), if_neg hrest]
      rfl

def facing (mode : Mode) (negative : Prop) [Decidable negative] : Mode := if negative then mode.mirror else mode

lemma rounded_signed (mode : Mode) (p : Prop) [Decidable p] (y : ℚ) :
    rounded mode (signed p y) = signed p (rounded (facing mode p) y) := by
  unfold rounded signed facing
  split_ifs
  · exact round_neg mode 24 (-149) y
  · rfl

lemma signed_inj (p : Prop) [Decidable p] (x y : ℚ) : signed p x = signed p y ↔ x = y := by
  unfold signed
  split_ifs
  · exact neg_inj
  · exact Iff.rfl

lemma abs_signed (p : Prop) [Decidable p] (y : ℚ) : |signed p y| = |y| := by
  unfold signed
  split_ifs
  · exact abs_neg y
  · rfl

lemma signed_neg_iff (p : Prop) [Decidable p] {y : ℚ} (hy : 0 < y) : signed p y < 0 ↔ p := by
  unfold signed
  split_ifs with h <;> simp [h, hy, hy.le]

lemma signed_pos_iff (p : Prop) [Decidable p] {y : ℚ} (hy : 0 < y) : 0 < signed p y ↔ ¬p := by
  unfold signed
  split_ifs with h <;> simp [h, hy, hy.le]

lemma finite_or (p : Prop) [Decidable p] {body : U32} {e f : ℕ} (he : e < 255) (hf : f < 2 ^ 23)
    (hbody : body.toNat = e * 2 ^ 23 + f) :
    Finite (signBit p ||| body) ∧ (Negative (signBit p ||| body) ↔ p) ∧ magnitude (signBit p ||| body) =
      if e = 0 then (f : ℚ) * 2 ^ (-149 : ℤ) else (2 ^ 23 + (f : ℚ)) * 2 ^ ((e : ℤ) - 150) := by
  obtain ⟨hencoded, hfraction, hnegative⟩ := @fields_or p _ body e f (by omega) hf hbody
  refine ⟨?_, hnegative, ?_⟩
  · rw [Finite, hencoded]
    omega
  · rw [magnitude, hencoded, hfraction]

lemma value_or (p : Prop) [Decidable p] {body : U32} (h : Negative (signBit p ||| body) ↔ p) :
    value (signBit p ||| body) = signed p (magnitude (signBit p ||| body)) := by
  unfold value signed
  exact if_congr h rfl rfl

lemma overflow_delivered (state : Fp32State) (p : Prop) [Decidable p] {y : ℚ} (hy : 0 < y)
    (hlarge : 2 ^ 128 ≤ |rounded state.rounding.mode (signed p y)|) :
    ∃ bits flags, overflow state (signBit p) = result state bits flags ∧
      Delivered state.rounding.mode (signed p y) bits flags := by
  have hinf := @fields_or p _ inf 255 0 (by norm_num) (by norm_num) rfl
  have hmax := @finite_or p _ (inf - 1#32) 254 (2 ^ 23 - 1) (by norm_num) (by norm_num) rfl
  have hsign := signed_neg_iff p hy
  have hpos := signed_pos_iff p hy
  have hmagnitude : magnitude (signBit p ||| (inf - 1#32)) = (2 ^ 24 - 1) * 2 ^ 104 := by
    rw [hmax.2.2]
    norm_num
  have hside : (state.rounding = .rn ∨ (state.rounding = .rp ∧ signBit p = 0#32) ∨
      (state.rounding = .rm ∧ signBit p ≠ 0#32)) ↔ state.rounding.mode = .nearest ∨
      (state.rounding.mode = .up ∧ 0 < signed p y) ∨ (state.rounding.mode = .down ∧ signed p y < 0) := by
    rw [hsign, hpos, ne_eq, signBit_eq_zero, not_not]
    cases state.rounding <;> simp [Rounding.mode]
  refine ⟨_, _, rfl, ?_, fun hsmall => absurd hlarge (not_le.mpr hsmall), fun _ => ⟨rfl, ?_⟩⟩
  · rw [hsign]
    split_ifs
    · exact hinf.2.2
    · exact hmax.2.1
  · simp only [decide_eq_true_eq, hside]
    split_ifs
    · exact ⟨hinf.1, hinf.2.1⟩
    · exact ⟨hmax.1, hmagnitude⟩

lemma toNat_body {E : ℤ} {R : U32} (hE : -126 ≤ E) (hmax : E ≤ 127) (hR : R.toNat < 2 ^ 24)
    (hsub : R.toNat < 2 ^ 23 → E = -126) :
    ∃ e f : ℕ, e < 255 ∧ f < 2 ^ 23 ∧
      ((if R ≥ hidden then BitVec.ofInt 32 (E + 127) <<< 23 else 0#32) ||| (R &&& fraction)).toNat =
        e * 2 ^ 23 + f ∧
      (if e = 0 then (f : ℚ) * 2 ^ (-149 : ℤ) else (2 ^ 23 + (f : ℚ)) * 2 ^ ((e : ℤ) - 150)) =
        R.toNat * 2 ^ (E - 23) := by
  have hhidden : hidden.toNat = 2 ^ 23 := rfl
  have hfraction : (R &&& fraction).toNat = R.toNat % 2 ^ 23 := toNat_fraction R
  have hle : R ≥ hidden ↔ 2 ^ 23 ≤ R.toNat := by rw [ge_iff_le, BitVec.le_def, hhidden]
  by_cases h : 2 ^ 23 ≤ R.toNat
  · obtain ⟨e, he⟩ := Int.eq_ofNat_of_zero_le (show 0 ≤ E + 127 by omega)
    have hpow : (2 : ℚ) ^ ((e : ℤ) - 150) = 2 ^ (E - 23) := by
      congr 1
      omega
    refine ⟨e, R.toNat - 2 ^ 23, by omega, by omega, ?_, ?_⟩
    · have hshift : (BitVec.ofInt 32 (E + 127) <<< 23).toNat = e * 2 ^ 23 := by
        rw [he, BitVec.ofInt_natCast, BitVec.toNat_shiftLeft, BitVec.toNat_ofNat, Nat.shiftLeft_eq]
        omega
      have hmod : R.toNat % 2 ^ 23 = R.toNat - 2 ^ 23 := by omega
      rw [if_pos (hle.mpr h), BitVec.toNat_or, hshift, hfraction, hmod, mul_comm]
      exact (@Nat.two_pow_add_eq_or_of_lt 23 (R.toNat - 2 ^ 23) (by omega) e).symm
    · rw [if_neg (by omega), hpow, Nat.cast_sub h]
      push_cast
      ring
  · rw [not_le] at h
    refine ⟨0, R.toNat, by norm_num, h, ?_, ?_⟩
    · rw [if_neg (mt hle.mp (not_le.mpr h)), BitVec.zero_or, hfraction, Nat.mod_eq_of_lt h, zero_mul, zero_add]
    · rw [if_pos rfl, hsub h]
      norm_num

lemma word_delivered (state : Fp32State) (p : Prop) [Decidable p] {E : ℤ} {R flags : U32} {y : ℚ} (hy : 0 < y)
    (hE : -126 ≤ E) (hR : R.toNat < 2 ^ 24) (hsub : R.toNat < 2 ^ 23 → E = -126)
    (hround : rounded state.rounding.mode (signed p y) = signed p (R.toNat * 2 ^ (E - 23)))
    (hflags : flags = if rounded state.rounding.mode (signed p y) = signed p y then 0#32
      else ixc ||| if |signed p y| < 2 ^ (-126 : ℤ) then ufc else 0#32) :
    ∃ bits raised, (if E > 127 then overflow state (signBit p) else
        result state (signBit p ||| (if R ≥ hidden then BitVec.ofInt 32 (E + 127) <<< 23 else 0#32) |||
          (R &&& fraction)) flags) = result state bits raised ∧
      Delivered state.rounding.mode (signed p y) bits raised := by
  have hnonneg : (0 : ℚ) ≤ R.toNat * 2 ^ (E - 23) := by positivity
  have habs : |rounded state.rounding.mode (signed p y)| = R.toNat * 2 ^ (E - 23) := by
    rw [hround, abs_signed, abs_of_nonneg hnonneg]
  by_cases hmax : E > 127
  · rw [if_pos hmax]
    apply overflow_delivered state p hy
    have hR' : (2 ^ 23 : ℚ) ≤ R.toNat := by
      have hle : 2 ^ 23 ≤ R.toNat := not_lt.mp fun hlt => absurd (hsub hlt) (by omega)
      exact_mod_cast hle
    have hpow : (2 : ℚ) ^ (105 : ℤ) ≤ 2 ^ (E - 23) := zpow_le_zpow_right₀ (by norm_num) (by omega)
    rw [habs]
    calc (2 : ℚ) ^ 128 = (2 : ℚ) ^ 23 * (2 : ℚ) ^ (105 : ℤ) := by norm_num
      _ ≤ (R.toNat : ℚ) * 2 ^ (E - 23) := mul_le_mul hR' hpow (by positivity) (by positivity)
  · rw [if_neg hmax]
    obtain ⟨e, f, he, hf, hbody, hvalue⟩ := toNat_body hE (not_lt.mp hmax) hR hsub
    rw [BitVec.or_assoc]
    obtain ⟨hfinite, hnegative, hmagnitude⟩ := finite_or p he hf hbody
    refine ⟨_, _, rfl, ?_, fun _ => ⟨hfinite, ?_, hflags⟩, fun hlarge => absurd hlarge ?_⟩
    · rw [hnegative, signed_neg_iff p hy]
    · rw [value_or p hnegative, hmagnitude, hvalue, hround]
    · have hR' : (R.toNat : ℚ) < 2 ^ 24 := by exact_mod_cast hR
      have hpow : (2 : ℚ) ^ (E - 23) ≤ 2 ^ (104 : ℤ) := zpow_le_zpow_right₀ (by norm_num) (by omega)
      rw [habs, not_le]
      calc (R.toNat : ℚ) * 2 ^ (E - 23) < (2 : ℚ) ^ 24 * (2 : ℚ) ^ (104 : ℤ) :=
            mul_lt_mul hR' hpow (by positivity) (by positivity)
        _ = 2 ^ 128 := by norm_num

lemma encode_delivered (state : Fp32State) (p : Prop) [Decidable p] {E : ℤ} {R flags : U32} {y : ℚ} (hy : 0 < y)
    (hE : -126 ≤ E) (hR : R.toNat ≤ 2 ^ 24) (hsub : R.toNat < 2 ^ 23 → E = -126)
    (hround : rounded state.rounding.mode (signed p y) = signed p (R.toNat * 2 ^ (E - 23)))
    (hflags : flags = if rounded state.rounding.mode (signed p y) = signed p y then 0#32
      else ixc ||| if |signed p y| < 2 ^ (-126 : ℤ) then ufc else 0#32) :
    ∃ bits raised, encode state (signBit p) E R flags = result state bits raised ∧
      Delivered state.rounding.mode (signed p y) bits raised := by
  have hdouble : (hidden <<< 1).toNat = 2 ^ 24 := rfl
  have hcarry : R ≥ hidden <<< 1 ↔ R.toNat = 2 ^ 24 := by
    rw [ge_iff_le, BitVec.le_def, hdouble]
    omega
  unfold encode
  by_cases h : R.toNat = 2 ^ 24
  · simp only [hcarry.mpr h, decide_true, if_true]
    have hhalf : (R >>> 1).toNat = 2 ^ 23 := by
      rw [BitVec.toNat_ushiftRight, h]
      rfl
    apply word_delivered state p hy (by omega) (by omega) (by omega) _ hflags
    rw [hround, hhalf, h, show E + 1 - 23 = 1 + (E - 23) by ring, zpow_add₀ (by norm_num)]
    congr 1
    push_cast
    ring
  · simp only [mt hcarry.mp h, decide_false, Bool.false_eq_true, if_false]
    exact word_delivered state p hy hE (by omega) hsub hround hflags

lemma increment_eq (r : Rounding) (p : Prop) [Decidable p] {tail kept : U32} {s : ℕ} (htail : tail.toNat = s % 8)
    (hkept : kept.toNat = s / 8) : increment r (signBit p) tail kept = (facing r.mode p).carries 4 s := by
  have hgt : tail > 4#32 ↔ 4 < (s : ℤ) % (2 * 4) := by
    rw [gt_iff_lt, BitVec.lt_def, htail, BitVec.toNat_ofNat]
    omega
  have heq : tail = 4#32 ↔ (s : ℤ) % (2 * 4) = 4 := by
    rw [← BitVec.toNat_inj, htail, BitVec.toNat_ofNat]
    omega
  have hzero : tail = 0#32 ↔ (s : ℤ) % (2 * 4) = 0 := by
    rw [← BitVec.toNat_inj, htail, BitVec.toNat_ofNat]
    omega
  have hodd : kept &&& 1#32 = 0#32 ↔ ¬(s : ℤ) / (2 * 4) % 2 = 1 := by
    rw [← BitVec.toNat_inj, toNat_and_mask kept 1 1#32 rfl, hkept, BitVec.toNat_ofNat]
    omega
  unfold increment facing
  simp only [hgt, heq, hzero, hodd, signBit_eq_zero, ne_eq, not_not]
  cases r <;> by_cases hp : p <;> simp [hp, Rounding.mode, Mode.mirror, Mode.carries]

section Magnitude

variable {e : ℤ} {n : ℕ} {y : ℚ}

lemma leading_of_agrees (hlow : 2 ^ 26 ≤ n) (hhigh : n < 2 ^ 27) (h : Agrees 4 n (y * 2 ^ (26 - e))) :
    2 ^ e ≤ y ∧ y < 2 ^ (e + 1) := by
  have hpos : (0 : ℚ) < 2 ^ (26 - e) := zpow_pos (by norm_num) _
  have hle := (h.le (2 ^ 24)).1.mp (by exact_mod_cast hlow)
  have hlt := (h (2 ^ 25)).2.mp (by exact_mod_cast hhigh)
  constructor
  · apply le_of_mul_le_mul_right _ hpos
    rw [← zpow_add₀ (by norm_num), add_sub_cancel]
    refine le_trans (le_of_eq ?_) hle
    norm_num
  · apply lt_of_mul_lt_mul_right _ hpos.le
    rw [← zpow_add₀ (by norm_num), show e + 1 + (26 - e) = 27 by ring]
    refine lt_of_lt_of_eq hlt ?_
    norm_num

lemma lastPlace_eq (hlow : 2 ^ e ≤ y) (hhigh : y < 2 ^ (e + 1)) : lastPlace 24 (-149) y = max e (-126) - 23 := by
  rw [lastPlace, log_eq hlow hhigh]
  omega

lemma rounded_eq {E : ℤ} (hy : lastPlace 24 (-149) y = E - 23) (h : Agrees 4 n (y * 2 ^ (26 - E))) (m : Mode) :
    rounded m y = ((n / 8 + if m.carries 4 n then 1 else 0 : ℕ) : ℚ) * 2 ^ (E - 23) ∧
      (rounded m y = y ↔ n % 8 = 0) := by
  have hscale : y / 2 ^ (E - 23) = y * 2 ^ (26 - E) / (2 * (4 : ℤ)) := by
    rw [show 26 - E = 3 + -(E - 23) by ring, zpow_add₀ (by norm_num), zpow_neg]
    field_simp
    norm_num
  have hcarry : ((n : ℤ) / (2 * 4) + if m.carries 4 n then 1 else 0) =
      ((n / 8 + if m.carries 4 n then 1 else 0 : ℕ) : ℤ) := by
    split_ifs <;> omega
  obtain ⟨-, hexact, -⟩ := h.split (by norm_num)
  constructor
  · rw [rounded, Mode.round, hy, hscale, h.toInt (by norm_num) (by omega) m, hcarry, Int.cast_natCast]
  · rw [rounded, round_eq_self, hy, hscale, hexact]
    omega

end Magnitude

def placed (e : ℤ) (w : U64) : U64 := if e < -126 then shiftJam w (unsigned (-126 - e)) else w

lemma placed_agrees {e : ℤ} {w : U64} {y : ℚ} (he : -1000 ≤ e) (hlow : 2 ^ 26 ≤ w.toNat) (hhigh : w.toNat < 2 ^ 27)
    (h : Agrees 4 w.toNat (y * 2 ^ (26 - e))) :
    Agrees 4 (placed e w).toNat (y * 2 ^ (26 - max e (-126))) ∧ (placed e w).toNat < 2 ^ 27 ∧
      ((placed e w).toNat < 2 ^ 26 → max e (-126) = -126) := by
  unfold placed
  by_cases hsub : e < -126
  · obtain ⟨d, hd⟩ := Int.eq_ofNat_of_zero_le (show 0 ≤ -126 - e - 1 by omega)
    have hdistance : unsigned (-126 - e) = d + 1 := by
      rw [unsigned_eq (by omega) (by omega)]
      omega
    have hsticky := h.sticky (Nat.two_pow_pos (d + 1)) ⟨2 ^ d, by push_cast; ring⟩
    have hscale : y * 2 ^ (26 - e) / (2 ^ (d + 1) : ℕ) = y * 2 ^ (26 - max e (-126)) := by
      rw [show 26 - e = 26 - max e (-126) + ((d + 1 : ℕ) : ℤ) by push_cast; omega, zpow_add₀ (by norm_num),
        zpow_natCast]
      push_cast
      field_simp
    have hshort : w.toNat / 2 ^ (d + 1) < 2 ^ 26 := by
      rw [Nat.div_lt_iff_lt_mul (Nat.two_pow_pos _)]
      calc w.toNat < 2 ^ 26 * 2 := hhigh
        _ ≤ 2 ^ 26 * 2 ^ (d + 1) := Nat.mul_le_mul_left _ (Nat.le_self_pow (by omega) 2)
    have hsmall := sticky_le w.toNat (2 ^ (d + 1))
    rw [hscale] at hsticky
    rw [if_pos hsub, hdistance, toNat_shiftJam]
    exact ⟨hsticky.coarsen ⟨2, rfl⟩, by omega, fun _ => by omega⟩
  · rw [if_neg hsub, max_eq_left (not_lt.mp hsub)]
    exact ⟨h, hhigh, fun hshort => absurd hlow (not_le.mpr hshort)⟩

lemma tiny_iff (p : Prop) [Decidable p] {e : ℤ} {y : ℚ} (hle : 2 ^ e ≤ y) (hlt : y < 2 ^ (e + 1)) :
    |signed p y| < 2 ^ (-126 : ℤ) ↔ e < -126 := by
  have hy : 0 < y := lt_of_lt_of_le (zpow_pos (by norm_num) e) hle
  rw [abs_signed, abs_of_pos hy]
  constructor
  · intro hsmall
    exact (zpow_lt_zpow_iff_right₀ (by norm_num : (1 : ℚ) < 2)).mp (lt_of_le_of_lt hle hsmall)
  · intro hsmall
    exact lt_of_lt_of_le hlt (zpow_le_zpow_right₀ (by norm_num) (by omega))

lemma pack_delivered (state : Fp32State) (p : Prop) [Decidable p] {e : ℤ} {w : U64} {y : ℚ} (he : -1000 ≤ e)
    (hlow : 2 ^ 26 ≤ w.toNat) (hhigh : w.toNat < 2 ^ 27) (h : Agrees 4 w.toNat (y * 2 ^ (26 - e))) :
    ∃ bits raised, pack state (signBit p) e w = result state bits raised ∧
      Delivered state.rounding.mode (signed p y) bits raised := by
  obtain ⟨hle, hlt⟩ := leading_of_agrees hlow hhigh h
  have hy : 0 < y := lt_of_lt_of_le (zpow_pos (by norm_num) e) hle
  obtain ⟨hagree, hbound, hnormal⟩ := placed_agrees he hlow hhigh h
  obtain ⟨hround, hexact⟩ := rounded_eq (lastPlace_eq hle hlt) hagree (facing state.rounding.mode p)
  have hplaced : (if decide (e < -126) = true then shiftJam w (unsigned (-126 - e)) else w) = placed e w := by
    simp only [placed, decide_eq_true_eq]
  have hexponent : (if decide (e < -126) = true then -126 else e) = max e (-126) := by
    by_cases hsub : e < -126
    · simp [hsub, hsub.le]
    · simp [hsub, not_lt.mp hsub]
  generalize placed e w = s at *
  have htail : ((s &&& 7#64).setWidth 32).toNat = s.toNat % 8 := by
    rw [BitVec.toNat_setWidth, toNat_and_mask s 3 7#64 rfl]
    omega
  have hkept : ((s >>> 3).setWidth 32).toNat = s.toNat / 8 := by
    rw [BitVec.toNat_setWidth, BitVec.toNat_ushiftRight, Nat.shiftRight_eq_div_pow]
    omega
  have hzero : (s &&& 7#64).setWidth 32 = 0#32 ↔ s.toNat % 8 = 0 := by
    rw [← BitVec.toNat_inj, htail]
    exact Iff.rfl
  have hsum : (((s >>> 3).setWidth 32) + if (facing state.rounding.mode p).carries 4 s.toNat then 1#32 else 0#32).toNat =
      s.toNat / 8 + if (facing state.rounding.mode p).carries 4 s.toNat then 1 else 0 := by
    rw [BitVec.toNat_add, hkept]
    split_ifs <;> simp <;> omega
  unfold pack
  simp only [hplaced, hexponent, increment_eq state.rounding p htail hkept]
  apply encode_delivered state p hy (by omega)
  · rw [hsum]
    split_ifs <;> omega
  · rw [hsum]
    intro hshort
    exact hnormal (by omega)
  · rw [rounded_signed, hround, hsum]
  · simp only [rounded_signed, signed_inj, hexact, ne_eq, hzero, ite_not, tiny_iff p hle hlt, decide_eq_true_eq]

end Nextcore.Fp
