import Mathlib.Data.Nat.Bitwise
import Nextcore.Fp.Scalar
import Nextcore.Lib.Bits
import Nextcore.Lib.Rounding

/-! The numbers that binary32 words stand for, and the sum and the quotient that the format asks for. -/

namespace Nextcore.Fp

open Round Bits

def Rounding.mode : Rounding → Mode
  | .rn => .nearest
  | .rp => .up
  | .rm => .down
  | .rz => .zero

def encodedOf (bits : U32) : ℕ := bits.toNat / 2 ^ 23 % 2 ^ 8

def fractionOf (bits : U32) : ℕ := bits.toNat % 2 ^ 23

def Negative (bits : U32) : Prop := 2 ^ 31 ≤ bits.toNat

instance decidableNegative (bits : U32) : Decidable (Negative bits) := inferInstanceAs (Decidable (2 ^ 31 ≤ bits.toNat))

def Finite (bits : U32) : Prop := encodedOf bits ≠ 255

def Infinite (bits : U32) : Prop := encodedOf bits = 255 ∧ fractionOf bits = 0

instance decidableInfinite (bits : U32) : Decidable (Infinite bits) :=
  inferInstanceAs (Decidable (encodedOf bits = 255 ∧ fractionOf bits = 0))

def Nan (bits : U32) : Prop := encodedOf bits = 255 ∧ fractionOf bits ≠ 0

instance decidableNan (bits : U32) : Decidable (Nan bits) :=
  inferInstanceAs (Decidable (encodedOf bits = 255 ∧ fractionOf bits ≠ 0))

def Signaling (bits : U32) : Prop := Nan bits ∧ fractionOf bits < 2 ^ 22

instance decidableSignaling (bits : U32) : Decidable (Signaling bits) :=
  inferInstanceAs (Decidable (Nan bits ∧ fractionOf bits < 2 ^ 22))

def Zero (bits : U32) : Prop := encodedOf bits = 0 ∧ fractionOf bits = 0

instance decidableZero (bits : U32) : Decidable (Zero bits) :=
  inferInstanceAs (Decidable (encodedOf bits = 0 ∧ fractionOf bits = 0))

def magnitude (bits : U32) : ℚ :=
  if encodedOf bits = 0 then fractionOf bits * 2 ^ (-149 : ℤ)
  else (2 ^ 23 + fractionOf bits) * 2 ^ ((encodedOf bits : ℤ) - 150)

def signed (negative : Prop) [Decidable negative] (y : ℚ) : ℚ := if negative then -y else y

def value (bits : U32) : ℚ := signed (Negative bits) (magnitude bits)

/-- The exact result `x`, rounded to the 24 digits of the format and never finer than its subnormals. -/
def rounded (mode : Mode) (x : ℚ) : ℚ := mode.round 24 (-149) x

structure Delivered (mode : Mode) (x : ℚ) (bits flags : U32) : Prop where
  sign : Negative bits ↔ x < 0
  finite : |rounded mode x| < 2 ^ 128 → Finite bits ∧ value bits = rounded mode x ∧
    flags = if rounded mode x = x then 0#32 else ixc ||| if |x| < 2 ^ (-126 : ℤ) then ufc else 0#32
  overflow : 2 ^ 128 ≤ |rounded mode x| → flags = ofc ||| ixc ∧
    if mode = .nearest ∨ (mode = .up ∧ 0 < x) ∨ (mode = .down ∧ x < 0) then Infinite bits
    else Finite bits ∧ magnitude bits = (2 ^ 24 - 1) * 2 ^ 104

structure Propagated (a b bits flags : U32) : Prop where
  choice : bits = (if Signaling a then a else if Signaling b then b else if Nan a then a else b) ||| 0x00400000#32
  invalid : flags = if Signaling a ∨ Signaling b then ioc else 0#32

def defaultNan : U32 := 0x7fc00000#32

structure IsSum (mode : Mode) (a b bits flags : U32) : Prop where
  nan : Nan a ∨ Nan b → Propagated a b bits flags
  opposite : Infinite a → Infinite b → ¬(Negative a ↔ Negative b) → bits = defaultNan ∧ flags = ioc
  infinite_left : Infinite a → ¬Nan b → (Infinite b → (Negative a ↔ Negative b)) → bits = a ∧ flags = 0#32
  infinite_right : Finite a → Infinite b → bits = b ∧ flags = 0#32
  zero : Finite a → Finite b → value a + value b = 0 → Zero bits ∧ flags = 0#32 ∧
    (Negative bits ↔ if Negative a ↔ Negative b then Negative a else mode = .down)
  rounded : Finite a → Finite b → value a + value b ≠ 0 → Delivered mode (value a + value b) bits flags

def SignsDiffer (a b : U32) : Prop := ¬(Negative a ↔ Negative b)

instance decidableSignsDiffer (a b : U32) : Decidable (SignsDiffer a b) :=
  inferInstanceAs (Decidable ¬(Negative a ↔ Negative b))

structure IsQuotient (mode : Mode) (a b bits flags : U32) : Prop where
  nan : Nan a ∨ Nan b → Propagated a b bits flags
  invalid : (Zero a ∧ Zero b) ∨ (Infinite a ∧ Infinite b) → bits = defaultNan ∧ flags = ioc
  infinite : Infinite a → Finite b → Infinite bits ∧ (Negative bits ↔ SignsDiffer a b) ∧ flags = 0#32
  by_infinite : Finite a → Infinite b → Zero bits ∧ (Negative bits ↔ SignsDiffer a b) ∧ flags = 0#32
  by_zero : Finite a → ¬Zero a → Zero b → Infinite bits ∧ (Negative bits ↔ SignsDiffer a b) ∧ flags = dzc
  zero : Zero a → Finite b → ¬Zero b → Zero bits ∧ (Negative bits ↔ SignsDiffer a b) ∧ flags = 0#32
  rounded : Finite a → Finite b → ¬Zero a → ¬Zero b → Delivered mode (value a / value b) bits flags

variable (bits : U32)

lemma encodedOf_lt : encodedOf bits < 256 := Nat.mod_lt _ (by norm_num)

lemma fractionOf_lt : fractionOf bits < 2 ^ 23 := Nat.mod_lt _ (by norm_num)

lemma toNat_abs : (bits &&& abs).toNat = encodedOf bits * 2 ^ 23 + fractionOf bits := by
  rw [toNat_and_mask bits 31 abs rfl, encodedOf, fractionOf]
  omega

lemma toNat_fraction : (bits &&& fraction).toNat = fractionOf bits := toNat_and_mask bits 23 fraction rfl

lemma toNat_encoded : ((bits >>> 23) &&& 255#32).toNat = encodedOf bits := by
  rw [toNat_and_mask _ 8 255#32 rfl, BitVec.toNat_ushiftRight, Nat.shiftRight_eq_div_pow, encodedOf]

lemma abs_eq_iff {word : U32} {e : ℕ} (hword : word.toNat = e * 2 ^ 23) :
    bits &&& abs = word ↔ encodedOf bits = e ∧ fractionOf bits = 0 := by
  have hf := fractionOf_lt bits
  rw [← BitVec.toNat_inj, toNat_abs, hword]
  omega

lemma abs_eq_inf : bits &&& abs = inf ↔ Infinite bits := abs_eq_iff bits rfl

lemma abs_eq_zero : bits &&& abs = 0#32 ↔ Zero bits := abs_eq_iff bits rfl

lemma isNan_iff : isNan bits = true ↔ Nan bits := by
  have hf := fractionOf_lt bits
  have he := encodedOf_lt bits
  have hinf : inf.toNat = 255 * 2 ^ 23 := rfl
  rw [isNan, decide_eq_true_eq, gt_iff_lt, BitVec.lt_def, toNat_abs, hinf, Nan]
  omega

lemma toNat_and_bit {w : ℕ} (x : BitVec w) (k : ℕ) (m : BitVec w) (hm : m.toNat = 2 ^ k) :
    (x &&& m).toNat = if x.toNat / 2 ^ k % 2 = 1 then 2 ^ k else 0 := by
  rw [BitVec.toNat_and, hm, Nat.and_two_pow, Nat.testBit_eq_decide_div_mod_eq]
  split_ifs with h <;> simp [h]

lemma isSnan_iff : isSnan bits = true ↔ Signaling bits := by
  have hquiet : bits &&& quiet = 0#32 ↔ fractionOf bits < 2 ^ 22 := by
    rw [← BitVec.toNat_inj, toNat_and_bit bits 22 quiet rfl, BitVec.toNat_zero, fractionOf]
    split_ifs
    · rw [false_iff]
      omega
    · omega
  rw [isSnan, Bool.and_eq_true, isNan_iff, decide_eq_true_eq, hquiet, Signaling]

def signBit (negative : Prop) [Decidable negative] : U32 := if negative then sign else 0#32

lemma and_sign : bits &&& sign = signBit (Negative bits) := by
  have hlt := bits.isLt
  have hsign : sign.toNat = 2 ^ 31 := rfl
  apply BitVec.eq_of_toNat_eq
  rw [toNat_and_bit bits 31 sign hsign, signBit]
  by_cases h : Negative bits
  · have hle : 2 ^ 31 ≤ bits.toNat := h
    rw [if_pos h, hsign, if_pos (by omega)]
  · have hgt : bits.toNat < 2 ^ 31 := not_le.mp h
    rw [if_neg h, BitVec.toNat_zero, if_neg (by omega)]

lemma signBit_eq_iff (p q : Prop) [Decidable p] [Decidable q] : signBit p = signBit q ↔ (p ↔ q) := by
  by_cases hp : p <;> by_cases hq : q <;> simp [signBit, hp, hq, sign]

lemma signBit_eq_zero (p : Prop) [Decidable p] : signBit p = 0#32 ↔ ¬p := by
  by_cases hp : p <;> simp [signBit, hp, sign]

lemma fields_or {p : Prop} [Decidable p] {body : U32} {e f : ℕ} (he : e < 256) (hf : f < 2 ^ 23)
    (hbody : body.toNat = e * 2 ^ 23 + f) :
    encodedOf (signBit p ||| body) = e ∧ fractionOf (signBit p ||| body) = f ∧
      (Negative (signBit p ||| body) ↔ p) := by
  have hnat : (signBit p ||| body).toNat = (if p then 2 ^ 31 else 0) + (e * 2 ^ 23 + f) := by
    rw [BitVec.toNat_or, hbody]
    by_cases hp : p
    · simp only [signBit, if_pos hp]
      exact (@Nat.two_pow_add_eq_or_of_lt 31 (e * 2 ^ 23 + f) (by omega) 1).symm
    · simp [signBit, hp]
  rw [encodedOf, fractionOf, Negative, hnat]
  by_cases hp : p
  · simp only [hp, if_true, iff_true]
    omega
  · simp only [hp, if_false, iff_false]
    omega

lemma magnitude_nonneg : 0 ≤ magnitude bits := by
  unfold magnitude
  split_ifs <;> positivity

lemma magnitude_eq_zero : magnitude bits = 0 ↔ Zero bits := by
  unfold magnitude Zero
  split_ifs with h
  · simp [h]
  · have hpos : (0 : ℚ) < (2 ^ 23 + fractionOf bits) * 2 ^ ((encodedOf bits : ℤ) - 150) := by positivity
    simp [h, hpos.ne']

lemma value_eq_zero : value bits = 0 ↔ Zero bits := by
  rw [← magnitude_eq_zero, value, signed]
  split_ifs
  · exact neg_eq_zero
  · exact Iff.rfl

lemma or_quiet {x : U32} (hnan : Nan x) (h : ¬Signaling x) : x ||| quiet = x := by
  have hset : x &&& quiet = quiet := by
    have hbit := toNat_and_bit x 22 quiet rfl
    have hclear : ¬x &&& quiet = 0#32 := fun hzero => h ((isSnan_iff x).mp (by
      rw [isSnan, (isNan_iff x).mpr hnan, hzero]
      rfl))
    apply BitVec.eq_of_toNat_eq
    rw [hbit]
    split_ifs at hbit with hone
    · rw [if_pos hone]
      rfl
    · exact (hclear (BitVec.eq_of_toNat_eq hbit)).elim
  rw [← hset]
  ext i
  rw [BitVec.getElem_or, BitVec.getElem_and]
  cases x[i] <;> rfl

lemma nanResult_propagated (state : Fp32State) {a b : U32} (h : Nan a ∨ Nan b) :
    ∃ bits raised, nanResult state a b = result state bits raised ∧ Propagated a b bits raised := by
  unfold nanResult
  simp only [isSnan_iff, isNan_iff]
  by_cases ha : Signaling a
  · refine ⟨_, _, if_pos ha, ?_, ?_⟩
    · rw [if_pos ha]
      rfl
    · rw [if_pos (Or.inl ha)]
  rw [if_neg ha]
  by_cases hb : Signaling b
  · refine ⟨_, _, if_pos hb, ?_, ?_⟩
    · rw [if_neg ha, if_pos hb]
      rfl
    · rw [if_pos (Or.inr hb)]
  · refine ⟨_, _, if_neg hb, ?_, ?_⟩
    · rw [if_neg ha, if_neg hb]
      split_ifs with hnan
      · exact (or_quiet hnan ha).symm
      · exact (or_quiet (h.resolve_left hnan) hb).symm
    · rw [if_neg (not_or.mpr ⟨ha, hb⟩)]

end Nextcore.Fp
