import Nextcore.Ise.Encoding
import Nextcore.Ise.Totality
import Nextcore.Lib.Clmul

/-! PCLMULQDQ beside the product of polynomials over the field of two elements. -/

namespace Nextcore.Ise.Emulator

open Parse Atomic Clmul

def registerModrm (reg rm : BitVec 3) : Byte := 3#2 ++ reg ++ rm

def xmmIndex (r : BitVec 3) : Fin 16 := ⟨r.toNat, lt_trans r.isLt (by decide)⟩

def half (x : BitVec 128) (high : Bool) : U64 := x.extractLsb' (high.toNat * 64) 64

def withHalf (x : BitVec 128) (high : Bool) (word : U64) : BitVec 128 :=
  if high then word ++ half x false else half x true ++ word

/-- Decoding and emulating writes the product of two words to a register and leaves the others. -/
def WritesProduct (addF32 : U32 → U32 → U32) (data : List Byte) (offset : ℕ) (regs : Registers) (dst : Fin 16)
    (a b : U64) : Prop :=
  ∃ inst product, decode data offset = .ok inst ∧
    emulateIse addF32 inst regs = .ok (.ok (), regs.withXmm dst product) ∧
      digits (ZMod 2) product = digits (ZMod 2) a * digits (ZMod 2) b

section Fields

lemma encoding_fields :
    (∀ reg rm : BitVec 3, modeOf (registerModrm reg rm) = 3#8 ∧ regOf (registerModrm reg rm) = reg.zeroExtend 32 ∧
      rmOf (registerModrm reg rm) = rm.zeroExtend 32) ∧
    ∀ imm : Byte, (imm.zeroExtend 64 &&& 1#64).toNat = (imm.getLsbD 0).toNat ∧
      ((imm.zeroExtend 64 >>> 4) &&& 1#64).toNat = (imm.getLsbD 4).toNat := by
  decide +kernel

lemma getXmm_zeroExtend (r : BitVec 3) (regs : Registers) :
    getXmm (r.zeroExtend 32) regs = .ok (.ok (regs.xmm (xmmIndex r)), regs) := by
  have hvalue : (r.zeroExtend 32).toNat = r.toNat := BitVec.toNat_setWidth_of_le (by decide)
  have hlt : (r.zeroExtend 32).toNat < 16 := by
    rw [hvalue]
    exact (xmmIndex r).isLt
  have hindex : (⟨(r.zeroExtend 32).toNat, hlt⟩ : Fin 16) = xmmIndex r := Fin.ext hvalue
  rw [getXmm_run hlt, hindex]

lemma setXmm_zeroExtend (r : BitVec 3) (value : BitVec 128) (regs : Registers) :
    setXmm (r.zeroExtend 32) value regs = .ok (.ok (), regs.withXmm (xmmIndex r) value) := by
  have hvalue : (r.zeroExtend 32).toNat = r.toNat := BitVec.toNat_setWidth_of_le (by decide)
  have hlt : (r.zeroExtend 32).toNat < 16 := by
    rw [hvalue]
    exact (xmmIndex r).isLt
  have hindex : (⟨(r.zeroExtend 32).toNat, hlt⟩ : Fin 16) = xmmIndex r := Fin.ext hvalue
  rw [setXmm, dif_pos hlt, hindex]
  rfl

lemma masked_half (x : BitVec 128) (high : Bool) :
    ((x >>> (high.toNat * 64)) &&& laneMask).toNat = (half x high).toNat := by
  have hmask : laneMask.toNat = 2 ^ 64 - 1 := rfl
  rw [BitVec.toNat_and, hmask, Nat.and_two_pow_sub_one_eq_mod, half, BitVec.extractLsb'_toNat,
    BitVec.toNat_ushiftRight]

lemma half_append (high low : U64) : half (high ++ low) true = high ∧ half (high ++ low) false = low :=
  ⟨BitVec.extractLsb'_append_eq_left, BitVec.extractLsb'_append_eq_right⟩

lemma half_withHalf (x : BitVec 128) (high : Bool) (word : U64) :
    half (withHalf x high word) high = word ∧ half (withHalf x high word) (!high) = half x !high := by
  cases high with
  | false => exact (half_append _ _).symm
  | true => exact half_append _ _

lemma xmmIndex_injective : Function.Injective xmmIndex := fun _ _ h =>
  BitVec.eq_of_toNat_eq (Fin.mk.inj h)

lemma withXmm_self (regs : Registers) (r : Fin 16) (x : BitVec 128) : (regs.withXmm r x).xmm r = x :=
  Function.update_self ..

lemma withXmm_other {regs : Registers} {r r' : Fin 16} (h : r ≠ r') (x : BitVec 128) :
    (regs.withXmm r' x).xmm r = regs.xmm r :=
  Function.update_of_ne h ..

end Fields

lemma square_ne (n : ℕ) : ∃ word : U64, word.toNat * word.toNat ≠ n := by
  by_cases hzero : n = 0
  · exact ⟨1#64, by rw [hzero]; decide⟩
  · exact ⟨0#64, fun h => hzero h.symm⟩

def pclmulqdq (reg rm : BitVec 3) (imm : Byte) (length : ℕ) : DecodedInstruction :=
  ⟨0x44#32, .pclmulqdq, .size128, [.register (reg.zeroExtend 32), .register (rm.zeroExtend 32),
    .immediate (imm.zeroExtend 64)], false, true, length, reg.zeroExtend 32, rm.zeroExtend 32, none⟩

lemma isPrefixByte_of_mandatory {b : Byte} (h : isMandatory b = true) : isPrefixByte b = true := by
  unfold isPrefixByte
  rw [h, Bool.or_true]

lemma decode_pclmulqdq {data before rest : List Byte} {offset : ℕ} (reg rm : BitVec 3) (imm : Byte)
    (hbefore : ∀ b ∈ before, isMandatory b = true)
    (hdata : data.drop offset = before ++ 0x0f#8 :: 0x3a#8 :: 0x44#8 :: registerModrm reg rm :: imm :: rest) :
    ∃ length, decode data offset = .ok (pclmulqdq reg rm imm length) := by
  have hprefix : ∀ b ∈ before, isPrefixByte b = true := fun b hb => isPrefixByte_of_mandatory (hbefore b hb)
  obtain ⟨hrun, hmap⟩ := decodeAt_behind (s := ⟨data, offset⟩) hdata hprefix (by decide) (by decide)
  obtain ⟨hsecond, hopcode⟩ := byte_cons hmap
  obtain ⟨hthird, hmodrm⟩ := byte_cons hopcode
  obtain ⟨hmode, hreg, hrm⟩ := encoding_fields.1 reg rm
  obtain ⟨hoperand, himm⟩ := readModrm_register hmodrm hmode
  rw [hreg, hrm] at hoperand
  have hany : (itemIfAny : Decoder (Option Byte)) ⟨data, offset⟩ (before.length + 1 + 1 + 1 + 1) =
      .ok (some imm, before.length + 1 + 1 + 1 + 1 + 1) := by
    rw [itemIfAny, get_cons himm]
  have hproduct : decodePclmulqdq ⟨data, offset⟩ (before.length + 1 + 1 + 1) =
      .ok (pclmulqdq reg rm imm (before.length + 1 + 1 + 1 + 1 + 1), before.length + 1 + 1 + 1 + 1 + 1) := by
    rw [decodePclmulqdq, bind_run hoperand]
    dsimp only
    rw [Parse.bind_run hany]
    rfl
  refine ⟨before.length + 1 + 1 + 1 + 1 + 1, ?_⟩
  have htwo : afterOpcode (prefixState before).1 (prefixState before).2 (BitVec.zeroExtend 32 0x0f#8) ⟨data, offset⟩
      (before.length + 1) = decodePclmulqdq ⟨data, offset⟩ (before.length + 1 + 1 + 1) :=
    (Parse.bind_run hsecond).trans (Parse.bind_run hthird)
  rw [decode, hrun, htwo, hproduct]

lemma laneProduct_half (a b : BitVec 128) (dst src : Bool) : ∃ product,
    laneProduct a b dst.toNat src.toNat = .ok product ∧ product.toNat = (half a dst).toNat * (half b src).toNat := by
  refine ⟨_, laneProduct_ok a b (Bool.toNat_lt dst) (Bool.toNat_lt src), ?_⟩
  have hlt : (half a dst).toNat * (half b src).toNat < 2 ^ 64 * 2 ^ 64 :=
    Nat.mul_lt_mul'' (half a dst).isLt (half b src).isLt
  rw [BitVec.toNat_mul, masked_half, masked_half]
  exact Nat.mod_eq_of_lt hlt

lemma emulate_pclmulqdq (addF32 : U32 → U32 → U32) (reg rm : BitVec 3) (imm : Byte) (length : ℕ) (regs : Registers) :
    ∃ product : BitVec 128, emulateIse addF32 (pclmulqdq reg rm imm length) regs =
        .ok (.ok (), regs.withXmm (xmmIndex reg) product) ∧
      product.toNat = (half (regs.xmm (xmmIndex reg)) (imm.getLsbD 4)).toNat *
        (half (regs.xmm (xmmIndex rm)) (imm.getLsbD 0)).toNat := by
  obtain ⟨product, hproduct, hvalue⟩ := laneProduct_half (regs.xmm (xmmIndex reg)) (regs.xmm (xmmIndex rm))
    (imm.getLsbD 4) (imm.getLsbD 0)
  refine ⟨product, ?_, hvalue⟩
  rw [← (encoding_fields.2 imm).1, ← (encoding_fields.2 imm).2] at hproduct
  change emulatePclmulqdq (pclmulqdq reg rm imm length) regs = _
  unfold emulatePclmulqdq
  change (getXmm (reg.zeroExtend 32) >>= _) regs = _
  rw [Atomic.bind_run (getXmm_zeroExtend reg regs)]
  change (getXmm (rm.zeroExtend 32) >>= _) regs = _
  rw [Atomic.bind_run (getXmm_zeroExtend rm regs)]
  exact (Atomic.bind_run (checked_run hproduct regs)).trans (setXmm_zeroExtend reg product regs)

lemma withXmm_injective {regs : Registers} {r : Fin 16} {x y : BitVec 128} (h : regs.withXmm r x = regs.withXmm r y) :
    x = y := by
  have hword := congrFun (congrArg Registers.xmm h) r
  simpa only [Registers.withXmm, Function.update_self] using hword

lemma product_iff {product : BitVec 128} {a b : U64} :
    digits (ZMod 2) product = digits (ZMod 2) a * digits (ZMod 2) b ↔ product.toNat = (carryless a b).toNat := by
  rw [← digits_carryless]
  constructor
  · intro h
    exact congrArg BitVec.toNat (digits_injective (ZMod 2) h)
  · intro h
    exact congrArg (digits (ZMod 2)) (BitVec.eq_of_toNat_eq h)

section Encoding

variable (addF32 : U32 → U32 → U32) {data before rest : List Byte} {offset : ℕ} {reg rm : BitVec 3} {imm : Byte}
  (hbefore : ∀ b ∈ before, isMandatory b = true)
  (hdata : data.drop offset = before ++ 0x0f#8 :: 0x3a#8 :: 0x44#8 :: registerModrm reg rm :: imm :: rest)
  (regs : Registers)

include hbefore hdata

lemma writesProduct_iff (a b : U64) :
    WritesProduct addF32 data offset regs (xmmIndex reg) a b ↔
      (half (regs.xmm (xmmIndex reg)) (imm.getLsbD 4)).toNat * (half (regs.xmm (xmmIndex rm)) (imm.getLsbD 0)).toNat =
        (carryless a b).toNat := by
  obtain ⟨length, hdecode⟩ := decode_pclmulqdq reg rm imm hbefore hdata
  obtain ⟨product, hemulate, hproduct⟩ := emulate_pclmulqdq addF32 reg rm imm length regs
  rw [← hproduct, ← product_iff]
  constructor
  · rintro ⟨inst, product', hdecode', hemulate', hdigits⟩
    obtain rfl := Except.ok.inj (hdecode.symm.trans hdecode')
    have hstate := Except.ok.inj (hemulate.symm.trans hemulate')
    have hword : product = product' := withXmm_injective (congrArg Prod.snd hstate)
    rw [hword]
    exact hdigits
  · intro hdigits
    exact ⟨_, product, hdecode, hemulate, hdigits⟩

/-- Where the selectors are equal, or the registers are, the carry-less product of the two selected words is written
exactly if no two of their partial products overlap. Else the other two words are multiplied: whatever the selected words
hold, some content of the others gives another product. -/
theorem pclmulqdq_product :
    (imm.getLsbD 0 = imm.getLsbD 4 ∨ reg = rm →
      (WritesProduct addF32 data offset regs (xmmIndex reg) (half (regs.xmm (xmmIndex reg)) (imm.getLsbD 0))
          (half (regs.xmm (xmmIndex rm)) (imm.getLsbD 4)) ↔
        ∀ k, column (half (regs.xmm (xmmIndex reg)) (imm.getLsbD 0)) (half (regs.xmm (xmmIndex rm)) (imm.getLsbD 4)) k ≤
          1)) ∧
    (imm.getLsbD 0 ≠ imm.getLsbD 4 → reg ≠ rm →
      ∃ regs', half (regs'.xmm (xmmIndex reg)) (imm.getLsbD 0) = half (regs.xmm (xmmIndex reg)) (imm.getLsbD 0) ∧
        half (regs'.xmm (xmmIndex rm)) (imm.getLsbD 4) = half (regs.xmm (xmmIndex rm)) (imm.getLsbD 4) ∧
        ¬WritesProduct addF32 data offset regs' (xmmIndex reg) (half (regs'.xmm (xmmIndex reg)) (imm.getLsbD 0))
          (half (regs'.xmm (xmmIndex rm)) (imm.getLsbD 4))) := by
  constructor
  · intro hsame
    rw [writesProduct_iff addF32 hbefore hdata regs]
    rcases hsame with hselectors | rfl
    · rw [hselectors, toNat_mul_eq_carryless_iff]
    · rw [← toNat_mul_eq_carryless_iff, mul_comm]
  · intro hselectors hregs
    have hother : imm.getLsbD 4 = !imm.getLsbD 0 := Bool.eq_not_of_ne hselectors.symm
    have hindex : xmmIndex reg ≠ xmmIndex rm := fun h => hregs (xmmIndex_injective h)
    generalize hx : regs.xmm (xmmIndex reg) = x
    generalize hy : regs.xmm (xmmIndex rm) = y
    -- both unselected words are set to one word, whose square is 0 or 1
    obtain ⟨word, hword⟩ := square_ne (carryless (half x (imm.getLsbD 0)) (half y (imm.getLsbD 4))).toNat
    obtain ⟨hset, hkept⟩ := half_withHalf x (imm.getLsbD 4) word
    obtain ⟨hset', hkept'⟩ := half_withHalf y (imm.getLsbD 0) word
    rw [← hother] at hkept'
    rw [hother, Bool.not_not, ← hother] at hkept
    refine ⟨(regs.withXmm (xmmIndex reg) (withHalf x (imm.getLsbD 4) word)).withXmm (xmmIndex rm)
      (withHalf y (imm.getLsbD 0) word), ?_⟩
    rw [writesProduct_iff addF32 hbefore hdata, withXmm_self, withXmm_other hindex, withXmm_self, hset, hset', hkept, hkept']
    exact ⟨rfl, rfl, hword⟩

end Encoding

def vectors (first others : BitVec 128) : Registers :=
  { Registers.zero with xmm := fun r => if r.val = 0 then first else others }

-- 66 0F 3A 44 C1 ib: PCLMULQDQ of the first register and the second
lemma encoding_bytes (imm : Byte) : ([0x66#8, 0x0f#8, 0x3a#8, 0x44#8, 0xc1#8, imm] : List Byte).drop 0 =
    [0x66#8] ++ 0x0f#8 :: 0x3a#8 :: 0x44#8 :: registerModrm 0#3 1#3 :: imm :: [] := rfl

theorem pclmulqdq_product_four :
    WritesProduct (fun a b => a ||| b) [0x66#8, 0x0f#8, 0x3a#8, 0x44#8, 0xc1#8, 0x00#8] 0 (vectors 4#128 4#128)
        (xmmIndex 0#3) (half 4#128 false) (half 4#128 false) ∧
      ∃ regs', half (regs'.xmm (xmmIndex 0#3)) true = half 4#128 true ∧
        half (regs'.xmm (xmmIndex 1#3)) false = half 4#128 false ∧
        ¬WritesProduct (fun a b => a ||| b) [0x66#8, 0x0f#8, 0x3a#8, 0x44#8, 0xc1#8, 0x01#8] 0 regs' (xmmIndex 0#3)
          (half (regs'.xmm (xmmIndex 0#3)) true) (half (regs'.xmm (xmmIndex 1#3)) false) := by
  have hcolumn : ∀ k, column (half 4#128 false) (half 4#128 false) k ≤ 1 :=
    (toNat_mul_eq_carryless_iff _ _).mp (by decide +kernel)
  have hbefore : ∀ b ∈ [0x66#8], isMandatory b = true := by decide
  obtain ⟨hequal, -⟩ := pclmulqdq_product (fun a b => a ||| b) hbefore (encoding_bytes 0x00#8) (vectors 4#128 4#128)
  obtain ⟨-, hswapped⟩ := pclmulqdq_product (fun a b => a ||| b) hbefore (encoding_bytes 0x01#8) (vectors 4#128 4#128)
  exact ⟨(hequal (.inl rfl)).mpr hcolumn, hswapped (by decide) (by decide)⟩

/-- The low words, 3 times 3, whose partial products overlap; and the high word 2 and the low word 4, where the low
word 1 and the high word 16 are taken in their place. -/
theorem pclmulqdq_product_fails :
    ¬WritesProduct (fun a b => a ||| b) [0x66#8, 0x0f#8, 0x3a#8, 0x44#8, 0xc1#8, 0x00#8] 0 (vectors 3#128 3#128)
        (xmmIndex 0#3) (half 3#128 false) (half 3#128 false) ∧
      ¬WritesProduct (fun a b => a ||| b) [0x66#8, 0x0f#8, 0x3a#8, 0x44#8, 0xc1#8, 0x01#8] 0
        (vectors (2#64 ++ 1#64) (16#64 ++ 4#64)) (xmmIndex 0#3) (half (2#64 ++ 1#64) true)
        (half (16#64 ++ 4#64) false) := by
  have hbefore : ∀ b ∈ [0x66#8], isMandatory b = true := by decide
  have hproducts : (half 3#128 false).toNat * (half 3#128 false).toNat ≠
        (carryless (half 3#128 false) (half 3#128 false)).toNat ∧
      (half (2#64 ++ 1#64 : BitVec 128) false).toNat * (half (16#64 ++ 4#64 : BitVec 128) true).toNat ≠
        (carryless (half (2#64 ++ 1#64 : BitVec 128) true) (half (16#64 ++ 4#64 : BitVec 128) false)).toNat := by
    decide +kernel
  constructor <;> intro h
  · exact hproducts.1 ((writesProduct_iff (fun a b => a ||| b) hbefore (encoding_bytes 0x00#8) _ _ _).mp h)
  · exact hproducts.2 ((writesProduct_iff (fun a b => a ||| b) hbefore (encoding_bytes 0x01#8) _ _ _).mp h)

end Nextcore.Ise.Emulator
