import Nextcore.Jit.Families

/-! The moves of fields and of immediates, bit by bit. -/

namespace Nextcore.Jit

open Cpu X86 Preos

variable {g : VfCpu} {r : GuestCpuState} {w : U32}

section Moves

lemma low_immediate {wide : Bool} {field : U32} (hfield : field.toNat < 2 ^ 16) {k : ℕ}
    (hk : ¬(wide = false ∧ 32 ≤ k * 16)) : low wide (field.zeroExtend 64 <<< (k * 16)) = field.zeroExtend 64 <<< (k * 16) := by
  cases wide
  · have hshift : k * 16 ≤ 16 := by
      by_contra hlarge
      exact hk ⟨rfl, by omega⟩
    apply BitVec.eq_of_getLsbD_eq
    intro i hi
    rw [getLsbD_width, Bool.false_or]
    by_cases h : i < 32
    · rw [decide_eq_true h, Bool.and_true]
    · have hbit : field.getLsbD (i - k * 16) = false := by
        rw [BitVec.getLsbD, Nat.testBit_lt_two_pow]
        exact hfield.trans_le (Nat.pow_le_pow_right (by decide) (by omega))
      rw [decide_eq_false h, Bool.and_false, BitVec.getLsbD_shiftLeft, BitVec.getLsbD_setWidth, hbit, Bool.and_false,
        Bool.and_false]
  · rfl

lemma low_or (wide : Bool) (a b : U64) : low wide (a ||| b) = low wide a ||| low wide b := by
  apply BitVec.eq_of_getLsbD_eq
  intro i hi
  simp only [getLsbD_width, BitVec.getLsbD_or, Bool.and_or_distrib_right]

lemma low_and (wide : Bool) (a b : U64) : low wide (a &&& b) = low wide a &&& b := by
  apply BitVec.eq_of_getLsbD_eq
  intro i hi
  simp only [getLsbD_width, BitVec.getLsbD_and, Bool.and_right_comm]

lemma Alike.moveWide (h : Alike g r) (hword : w &&& 0x7f800000#32 = 0x52800000#32 ∨ w &&& 0x7f800000#32 = 0x72800000#32)
    {f : VfCpu → VfCpu} (hf : moveWideResult w = some f) : ∃ r', r.moveWide w = some r' ∧ Alike (f g) r' := by
  unfold moveWideResult at hf
  unfold GuestCpuState.moveWide
  dsimp only at hf ⊢
  rw [← wideOf_eq]
  by_cases hreserved : wideOf w = false ∧ 32 ≤ ((w >>> 21) &&& 3#32).toNat * 16
  · rw [if_pos hreserved] at hf
    cases hf
  rw [if_neg hreserved] at hf ⊢
  refine ⟨_, rfl, ?_⟩
  have hfield := Bits.toNat_and_mask (w >>> 5) 16 0xffff#32 rfl
  have hlow := low_immediate (by omega : ((w >>> 5) &&& 0xffff#32).toNat < 2 ^ 16) hreserved
  have hboth (v : U64) (hv : low (wideOf w) v = v) :
      Alike (saved g (rdOf w) false v) (r.writeReg (rdField w) v false (wideOf w)) := by
    have hwrite := h.write (rdOf_lt w) false v (wideOf w)
    rwa [hv] at hwrite
  rcases hword with hz | hk
  · rw [hz, if_neg (by decide), if_neg (by decide)] at hf
    rw [if_neg (by rw [hz]; decide)]
    cases hf
    exact hboth _ hlow
  · rw [if_pos hk] at hf ⊢
    cases hf
    have hkeep : alu .or true (alu .and true (operandOf g (rdOf w) (wideOf w)) (~~~(0xffff#64 <<<
        (((w >>> 21) &&& 3#32).toNat * 16)))) (((w >>> 5) &&& 0xffff#32).zeroExtend 64 <<<
          (((w >>> 21) &&& 3#32).toNat * 16)) =
        low (wideOf w) ((r.readReg (rdField w) false &&& ~~~(0xffff#64 <<< (((w >>> 21) &&& 3#32).toNat * 16))) |||
          (((w >>> 5) &&& 0xffff#32).zeroExtend 64 <<< (((w >>> 21) &&& 3#32).toNat * 16))) := by
      rw [low_or, hlow, low_and, h.operand (rdOf_lt w)]
      rfl
    dsimp only
    rw [hkeep]
    exact h.write (rdOf_lt w) false _ (wideOf w)

end Moves

section Fields

def written (width rotate last i : ℕ) : Bool :=
  if rotate ≤ last then i + rotate ≤ last else width ≤ i + rotate ∧ i + rotate ≤ width + last

lemma getLsbD_shr {wide : Bool} (v : U64) {k : ℕ} (hk : k < if wide then 64 else 32) (i : ℕ) :
    (shifted .shr wide v k).getLsbD i = (decide (i + k < if wide then 64 else 32) && v.getLsbD (i + k)) := by
  cases wide
  · have hlt : k < 32 := hk
    simp only [shifted, Bool.false_eq_true, if_false, Nat.mod_eq_of_lt hlt]
    change (BitVec.zeroExtend 64 ((v.truncate 32 : U32) >>> k)).getLsbD i = _
    rw [BitVec.getLsbD_setWidth, BitVec.getLsbD_ushiftRight, BitVec.truncate_eq_setWidth, BitVec.getLsbD_setWidth,
      Nat.add_comm k i]
    by_cases h : i + k < 32
    · rw [decide_eq_true (show i < 64 by omega), Bool.true_and]
    · rw [decide_eq_false h, Bool.false_and, Bool.and_false]
  · have hlt : k < 64 := hk
    simp only [shifted, if_true, Nat.mod_eq_of_lt hlt]
    change (v >>> k).getLsbD i = _
    rw [BitVec.getLsbD_ushiftRight, Nat.add_comm k i]
    by_cases h : i + k < 64
    · rw [decide_eq_true h, Bool.true_and]
    · rw [decide_eq_false h, Bool.false_and, BitVec.getLsbD_of_ge _ _ (Nat.le_of_not_lt h)]

lemma getLsbD_shl {wide : Bool} (v : U64) {k : ℕ} (hk : k < if wide then 64 else 32) (i : ℕ) :
    (shifted .shl wide v k).getLsbD i =
      (decide (i < if wide then 64 else 32) && decide (k ≤ i) && v.getLsbD (i - k)) := by
  have hle (j : ℕ) : (!decide (j < k)) = decide (k ≤ j) := by
    rw [← decide_not]
    exact decide_eq_decide.mpr Nat.not_lt
  cases wide
  · have hlt : k < 32 := hk
    simp only [shifted, Bool.false_eq_true, if_false, Nat.mod_eq_of_lt hlt]
    change (BitVec.zeroExtend 64 ((v.truncate 32 : U32) <<< k)).getLsbD i = _
    rw [BitVec.getLsbD_setWidth, BitVec.getLsbD_shiftLeft, BitVec.truncate_eq_setWidth, BitVec.getLsbD_setWidth, hle]
    by_cases h : i < 32
    · rw [decide_eq_true (show i < 64 by omega), decide_eq_true h, decide_eq_true (show i - k < 32 by omega)]
      simp only [Bool.true_and]
    · rw [decide_eq_false h, Bool.false_and, Bool.false_and, Bool.false_and, Bool.and_false]
  · have hlt : k < 64 := hk
    simp only [shifted, if_true, Nat.mod_eq_of_lt hlt]
    change (v <<< k).getLsbD i = _
    rw [BitVec.getLsbD_shiftLeft, hle]

lemma getLsbD_cut (wide : Bool) (v : U64) (i : ℕ) :
    (low wide v).getLsbD i = (v.getLsbD i && decide (i < if wide then 64 else 32)) := by
  rw [getLsbD_width]
  cases wide
  · rw [Bool.false_or, if_neg Bool.false_ne_true]
  · rw [Bool.true_or, if_pos rfl, Bool.and_true]
    by_cases h : i < 64
    · rw [decide_eq_true h, Bool.and_true]
    · rw [BitVec.getLsbD_of_ge _ _ (Nat.le_of_not_lt h), Bool.false_and]

lemma getLsbD_lowMask {bits : U32} (h : bits ≤ 64#32) {i : ℕ} (hi : i < 64) :
    (lowMask bits).getLsbD i = decide (i < bits.toNat) := by
  have hle : bits.toNat ≤ 64 := h
  unfold lowMask
  split
  next hfull => rw [hfull, BitVec.getLsbD_allOnes]; rfl
  next hne =>
    have hlt : bits.toNat < 64 := by bv_omega
    rw [Bits.getLsbD_low_mask, decide_eq_true hi, Bool.true_and]

def placed (wide : Bool) (rotate last : U32) (v : U64) : U64 :=
  let v := if rotate ≤ last ∧ rotate ≠ 0#32 then shifted .shr wide v rotate.toNat else v
  let v := alu .and wide v (lowMask (if rotate ≤ last then last - rotate + 1#32 else last + 1#32))
  if last < rotate then shifted .shl wide v ((if wide then 64#32 else 32#32) - rotate).toNat else v

lemma getLsbD_placed {wide : Bool} {rotate last : U32} (hr : rotate.toNat < if wide then 64 else 32)
    (hs : last.toNat < if wide then 64 else 32) (v : U64) (i : ℕ) :
    (placed wide rotate last v).getLsbD i =
      (decide (i < if wide then 64 else 32) && written (if wide then 64 else 32) rotate.toNat last.toNat i &&
        v.getLsbD ((i + rotate.toNat) % if wide then 64 else 32)) := by
  have hwidth : (if wide then 64#32 else 32#32).toNat = if wide then 64 else 32 := by
    cases wide <;> rfl
  have hle : (if wide then 64 else 32) ≤ 64 := by
    cases wide <;> decide
  have hand (a b : U64) : alu .and wide a b = low wide (a &&& b) := alu_logical 0#32 wide a b
  unfold placed written
  dsimp only
  rw [hand]
  by_cases hrs : rotate ≤ last
  · have hnat : rotate.toNat ≤ last.toNat := hrs
    have hbits : (last - rotate + 1#32).toNat = last.toNat - rotate.toNat + 1 := by bv_omega
    have hnot : ¬last < rotate := Nat.not_lt.mpr hnat
    have hmask := @getLsbD_lowMask (last - rotate + 1#32) (show (last - rotate + 1#32).toNat ≤ 64 by omega) i
    rw [if_neg hnot, if_pos hrs, if_pos hnat, getLsbD_cut, BitVec.getLsbD_and]
    by_cases hin : i < if wide then 64 else 32
    swap
    · rw [decide_eq_false hin, Bool.and_false, Bool.false_and, Bool.false_and]
    rw [hmask (by omega), hbits, decide_eq_true hin, Bool.and_true, Bool.true_and]
    have hshift : (if rotate ≤ last ∧ rotate ≠ 0#32 then shifted .shr wide v rotate.toNat else v).getLsbD i =
        (decide (i + rotate.toNat < if wide then 64 else 32) && v.getLsbD (i + rotate.toNat)) := by
      split
      · exact getLsbD_shr v hr i
      next hzero =>
        have hz : rotate.toNat = 0 := by
          by_contra hne
          exact hzero ⟨hrs, fun heq => hne (heq ▸ rfl)⟩
        rw [hz, Nat.add_zero, decide_eq_true hin, Bool.true_and]
    rw [hshift]
    by_cases hkeep : i + rotate.toNat ≤ last.toNat
    · rw [decide_eq_true hkeep, decide_eq_true (by omega), decide_eq_true (by omega), Nat.mod_eq_of_lt (by omega),
        Bool.and_true]
    · rw [decide_eq_false hkeep, decide_eq_false (show ¬i < last.toNat - rotate.toNat + 1 by omega), Bool.and_false,
        Bool.false_and]
  · have hnat : ¬rotate.toNat ≤ last.toNat := hrs
    have hlt : last < rotate := Nat.lt_of_not_le hnat
    have hbits : (last + 1#32).toNat = last.toNat + 1 := by bv_omega
    have hplace : ((if wide then 64#32 else 32#32) - rotate).toNat = (if wide then 64 else 32) - rotate.toNat := by
      rw [BitVec.toNat_sub_of_le (Nat.le_of_lt (show rotate.toNat < _ by rw [hwidth]; exact hr)), hwidth]
    rw [if_pos hlt, if_neg hrs, if_neg hnat, if_neg fun h => hrs h.1, hplace, getLsbD_shl _ (by omega), getLsbD_cut,
      BitVec.getLsbD_and]
    by_cases hin : i < if wide then 64 else 32
    swap
    · rw [decide_eq_false hin, Bool.false_and, Bool.false_and, Bool.false_and, Bool.false_and]
    rw [getLsbD_lowMask (show (last + 1#32).toNat ≤ 64 by omega) (by omega), hbits, decide_eq_true hin, Bool.true_and,
      Bool.true_and]
    by_cases hkeep : (if wide then 64 else 32) ≤ i + rotate.toNat ∧ i + rotate.toNat ≤ (if wide then 64 else 32) + last.toNat
    · have hmod : (i + rotate.toNat) % (if wide then 64 else 32) = i - ((if wide then 64 else 32) - rotate.toNat) := by
        rw [Nat.mod_eq_sub_mod hkeep.1, Nat.mod_eq_of_lt (by omega)]
        omega
      rw [decide_eq_true hkeep, hmod, decide_eq_true (by omega), decide_eq_true (by omega), decide_eq_true (by omega),
        Bool.and_true, Bool.and_true]
    · rw [decide_eq_false hkeep, Bool.false_and]
      by_cases hbelow : (if wide then 64 else 32) - rotate.toNat ≤ i
      · rw [decide_eq_false (show ¬i - ((if wide then 64 else 32) - rotate.toNat) < last.toNat + 1 by omega),
          Bool.and_false, Bool.false_and, Bool.and_false]
      · rw [decide_eq_false hbelow, Bool.false_and]

def turned (wide : Bool) (k : ℕ) (v : U64) : U64 :=
  if wide then v.rotateRight k else ((v.truncate 32 : U32).rotateRight k).zeroExtend 64

lemma getLsbD_rotate {n k : ℕ} (v : BitVec n) (hk : k < n) {i : ℕ} (hi : i < n) :
    (v.rotateRight k).getLsbD i = v.getLsbD ((i + k) % n) := by
  rw [BitVec.getLsbD_rotateRight, Nat.mod_eq_of_lt hk]
  by_cases hbelow : i < n - k
  · rw [decide_eq_true hbelow, cond_true, Nat.mod_eq_of_lt (by omega), Nat.add_comm]
  · rw [decide_eq_false hbelow, cond_false, decide_eq_true hi, Bool.true_and, Nat.mod_eq_sub_mod (by omega),
      Nat.mod_eq_of_lt (by omega), show i + k - n = i - (n - k) by omega]

lemma getLsbD_turned {wide : Bool} {k : ℕ} (hk : k < if wide then 64 else 32) (v : U64) (i : ℕ) :
    (turned wide k v).getLsbD i =
      (decide (i < if wide then 64 else 32) && v.getLsbD ((i + k) % if wide then 64 else 32)) := by
  cases wide
  · have hlt : k < 32 := hk
    rw [turned, if_neg Bool.false_ne_true, if_neg Bool.false_ne_true, BitVec.getLsbD_setWidth]
    by_cases h : i < 32
    · rw [getLsbD_rotate _ hlt h, decide_eq_true h, decide_eq_true (show i < 64 by omega), BitVec.truncate_eq_setWidth,
        BitVec.getLsbD_setWidth, decide_eq_true (Nat.mod_lt _ (by decide))]
      simp only [Bool.true_and]
    · rw [decide_eq_false h, BitVec.getLsbD_of_ge _ _ (Nat.le_of_not_lt h), Bool.false_and, Bool.and_false]
  · have hlt : k < 64 := hk
    rw [turned, if_pos rfl, if_pos rfl]
    by_cases h : i < 64
    · rw [getLsbD_rotate _ hlt h, decide_eq_true h, Bool.true_and]
    · rw [decide_eq_false h, BitVec.getLsbD_of_ge _ _ (Nat.le_of_not_lt h), Bool.false_and]

lemma getLsbD_ones {bits : ℕ} (hbits : bits ≤ 64) (i : ℕ) :
    (BitVec.allOnes 64 >>> (64 - bits)).getLsbD i = decide (i < bits) := by
  rw [BitVec.getLsbD_ushiftRight, BitVec.getLsbD_allOnes]
  exact decide_eq_decide.mpr (by omega)

lemma masks_written {wide : Bool} {rotate last : U32} (hr : rotate.toNat < if wide then 64 else 32)
    (hs : last.toNat < if wide then 64 else 32) {i : ℕ} (hi : i < if wide then 64 else 32) :
    ((turned wide rotate.toNat (BitVec.allOnes 64 >>> (64 - (last.toNat + 1)))).getLsbD i &&
        (BitVec.allOnes 64 >>> (64 - (((last - rotate) &&& ((if wide then 64#32 else 32#32) - 1#32)).toNat + 1))).getLsbD i) =
      written (if wide then 64 else 32) rotate.toNat last.toNat i := by
  have hle : (if wide then 64 else 32) ≤ 64 := by
    cases wide <;> decide
  have htop : ((last - rotate) &&& ((if wide then 64#32 else 32#32) - 1#32)).toNat =
      if rotate.toNat ≤ last.toNat then last.toNat - rotate.toNat
      else last.toNat + (if wide then 64 else 32) - rotate.toNat := by
    have hsub := BitVec.toNat_sub last rotate
    cases wide
    · have hmod := Bits.toNat_and_mask (last - rotate) 5 ((if false then 64#32 else 32#32) - 1#32) rfl
      have hr32 : rotate.toNat < 32 := hr
      have hs32 : last.toNat < 32 := hs
      rw [hmod]
      change _ = if rotate.toNat ≤ last.toNat then last.toNat - rotate.toNat else last.toNat + 32 - rotate.toNat
      split <;> omega
    · have hmod := Bits.toNat_and_mask (last - rotate) 6 ((if true then 64#32 else 32#32) - 1#32) rfl
      have hr64 : rotate.toNat < 64 := hr
      have hs64 : last.toNat < 64 := hs
      rw [hmod]
      change _ = if rotate.toNat ≤ last.toNat then last.toNat - rotate.toNat else last.toNat + 64 - rotate.toNat
      split <;> omega
  rw [getLsbD_turned hr, getLsbD_ones (by omega), decide_eq_true hi, Bool.true_and, htop, getLsbD_ones (by split <;> omega)]
  generalize (if wide then 64 else 32) = width at *
  unfold written
  rw [← Bool.decide_and]
  by_cases hnat : rotate.toNat ≤ last.toNat
  · rw [if_pos hnat, if_pos hnat, decide_eq_decide]
    constructor
    · intro h
      omega
    · intro h
      rw [Nat.mod_eq_of_lt (by omega)]
      omega
  · rw [if_neg hnat, if_neg hnat, decide_eq_decide]
    constructor
    · rintro ⟨hmod, hbelow⟩
      by_cases hwrap : i + rotate.toNat < width
      · rw [Nat.mod_eq_of_lt hwrap] at hmod
        omega
      · omega
    · rintro ⟨hfrom, hto⟩
      rw [Nat.mod_eq_sub_mod hfrom, Nat.mod_eq_of_lt (by omega)]
      omega

lemma fields_lt {rotate last : U32} (h : bitfield w = some (rotate, last)) :
    rotate = (w >>> 16) &&& 63#32 ∧ last = (w >>> 10) &&& 63#32 ∧ (rotate.toNat < if wideOf w then 64 else 32) ∧
      (last.toNat < if wideOf w then 64 else 32) ∧ GuestCpuState.bitfieldUndefined w = false := by
  unfold bitfield at h
  dsimp only at h
  have hr := Bits.toNat_and_mask (w >>> 16) 6 63#32 rfl
  have hs := Bits.toNat_and_mask (w >>> 10) 6 63#32 rfl
  split at h
  · cases h
  next hdefined =>
    cases h
    rw [not_or, Classical.not_not] at hdefined
    obtain ⟨hwide, hnarrow⟩ := hdefined
    refine ⟨rfl, rfl, ?_⟩
    have hflag : GuestCpuState.bitfieldUndefined w = false := by
      rw [GuestCpuState.bitfieldUndefined, Bool.or_eq_false_iff, ← bitOf_bitSet w (by decide), hwide, ← wideOf_eq]
      refine ⟨bne_self_eq_false _, ?_⟩
      cases hwidth : wideOf w
      · rw [hwidth] at hnarrow
        rw [Bool.not_false, Bool.true_and, decide_eq_false]
        exact fun hne => hnarrow ⟨rfl, hne⟩
      · rfl
    cases hwidth : wideOf w
    · rw [hwidth] at hnarrow
      have hzero : ((w >>> 16) &&& 63#32 ||| (w >>> 10) &&& 63#32) &&& 32#32 = 0#32 := by
        by_contra hne
        exact hnarrow ⟨rfl, hne⟩
      have hbit := congrArg (fun v => v.getLsbD 5) hzero
      have hboth (x y : U32) (h : ((x ||| y) &&& 32#32).getLsbD 5 = false) (hx : x.toNat < 64) (hy : y.toNat < 64) :
          x.toNat < 32 ∧ y.toNat < 32 := by
        rw [BitVec.getLsbD_and, BitVec.getLsbD_or, show (32#32).getLsbD 5 = true by decide, Bool.and_true,
          Bool.or_eq_false_iff] at h
        obtain ⟨h5, h5'⟩ := h
        rw [BitVec.getLsbD, Nat.testBit_eq_decide_div_mod_eq, decide_eq_false_iff_not] at h5 h5'
        omega
      have hlt := hboth _ _ hbit (by omega) (by omega)
      exact ⟨hlt.1, hlt.2, hflag⟩
    · exact ⟨by rw [if_pos rfl]; omega, by rw [if_pos rfl]; omega, hflag⟩

lemma bitfieldMasks_eq : GuestCpuState.bitfieldMasks w =
    (turned (wideOf w) ((w >>> 16) &&& 63#32).toNat (BitVec.allOnes 64 >>> (64 - (((w >>> 10) &&& 63#32).toNat + 1))),
      BitVec.allOnes 64 >>> (64 - (((((w >>> 10) &&& 63#32) - ((w >>> 16) &&& 63#32)) &&&
        ((if wideOf w then 64#32 else 32#32) - 1#32)).toNat + 1)), turned (wideOf w) ((w >>> 16) &&& 63#32).toNat) := by
  unfold GuestCpuState.bitfieldMasks
  dsimp only
  rw [← wideOf_eq]
  rfl

lemma Alike.unsignedBitfieldMove (h : Alike g r) {f : VfCpu → VfCpu} (hf : unsignedBitfieldMoveResult w = some f) :
    ∃ r', r.unsignedBitfieldMove w = some r' ∧ Alike (f g) r' := by
  obtain ⟨⟨rotate, last⟩, hfields, rfl⟩ := Option.map_eq_some_iff.mp hf
  obtain ⟨hrot, hlast, hr, hs, hdefined⟩ := fields_lt hfields
  unfold GuestCpuState.unsignedBitfieldMove
  rw [hdefined, if_neg Bool.false_ne_true, bitfieldMasks_eq, ← hrot, ← hlast]
  refine ⟨_, rfl, ?_⟩
  dsimp only
  rw [← wideOf_eq]
  have hvalue : placed (wideOf w) rotate last (operandOf g (rnOf w) (wideOf w)) =
      low (wideOf w) (turned (wideOf w) rotate.toNat (r.readReg (rnField w) false) &&&
        turned (wideOf w) rotate.toNat (BitVec.allOnes 64 >>> (64 - (last.toNat + 1))) &&&
        BitVec.allOnes 64 >>> (64 - (((last - rotate) &&& ((if wideOf w then 64#32 else 32#32) - 1#32)).toNat + 1))) := by
    apply BitVec.eq_of_getLsbD_eq
    intro i hi
    rw [getLsbD_placed hr hs, h.operand (rnOf_lt w), getLsbD_cut, getLsbD_cut, BitVec.getLsbD_and, BitVec.getLsbD_and]
    by_cases hin : i < if wideOf w then 64 else 32
    · have hmod : (i + rotate.toNat) % (if wideOf w then 64 else 32) < if wideOf w then 64 else 32 :=
        Nat.mod_lt _ (by omega)
      rw [← masks_written hr hs hin, getLsbD_turned hr (r.readReg (rnField w) false), decide_eq_true hin, decide_eq_true hmod,
        Bool.true_and, Bool.true_and, Bool.and_true, Bool.and_true]
      exact (Bool.and_comm _ _).trans (Bool.and_assoc _ _ _).symm
    · rw [decide_eq_false hin, Bool.false_and, Bool.false_and, Bool.and_false]
  change Alike (saved g (rdOf w) false (placed (wideOf w) rotate last (operandOf g (rnOf w) (wideOf w)))) _
  rw [hvalue]
  exact h.write (rdOf_lt w) false _ (wideOf w)

lemma getLsbD_place {wide : Bool} {rotate last : U32} (hr : rotate.toNat < if wide then 64 else 32)
    (hs : last.toNat < if wide then 64 else 32) {i : ℕ} (hi : i < if wide then 64 else 32) :
    (lowMask (if rotate ≤ last then last - rotate + 1#32 else last + 1#32) <<<
        (if rotate ≤ last then 0#32 else (if wide then 64#32 else 32#32) - rotate).toNat).getLsbD i =
      written (if wide then 64 else 32) rotate.toNat last.toNat i := by
  have hwidth : (if wide then 64#32 else 32#32).toNat = if wide then 64 else 32 := by
    cases wide <;> rfl
  have hle : (if wide then 64 else 32) ≤ 64 := by
    cases wide <;> decide
  unfold written
  by_cases hrs : rotate ≤ last
  · have hnat : rotate.toNat ≤ last.toNat := hrs
    have hbits : (last - rotate + 1#32).toNat = last.toNat - rotate.toNat + 1 := by bv_omega
    rw [if_pos hrs, if_pos hrs, if_pos hnat, BitVec.toNat_ofNat, Nat.zero_mod, BitVec.shiftLeft_zero,
      getLsbD_lowMask (show (last - rotate + 1#32).toNat ≤ 64 by omega) (by omega), hbits]
    exact decide_eq_decide.mpr (by omega)
  · have hnat : ¬rotate.toNat ≤ last.toNat := hrs
    have hbits : (last + 1#32).toNat = last.toNat + 1 := by bv_omega
    have hplace : ((if wide then 64#32 else 32#32) - rotate).toNat = (if wide then 64 else 32) - rotate.toNat := by
      rw [BitVec.toNat_sub_of_le (Nat.le_of_lt (show rotate.toNat < _ by rw [hwidth]; exact hr)), hwidth]
    rw [if_neg hrs, if_neg hrs, if_neg hnat, hplace, BitVec.getLsbD_shiftLeft,
      getLsbD_lowMask (show (last + 1#32).toNat ≤ 64 by omega) (by omega), hbits, decide_eq_true (show i < 64 by omega),
      Bool.true_and, ← decide_not, ← Bool.decide_and]
    exact decide_eq_decide.mpr (by omega)

lemma placed_eq {wide : Bool} {rotate : U32} (last : U32) (hr : rotate.toNat < if wide then 64 else 32) (v : U64) :
    placed wide rotate last v =
      (let position := if rotate ≤ last then 0#32 else (if wide then 64#32 else 32#32) - rotate
      let v := if rotate ≤ last ∧ rotate ≠ 0#32 then shifted .shr wide v rotate.toNat else v
      let v := alu .and wide v (lowMask (if rotate ≤ last then last - rotate + 1#32 else last + 1#32))
      if position ≠ 0#32 then shifted .shl wide v position.toNat else v) := by
  unfold placed
  dsimp only
  by_cases hrs : rotate ≤ last
  · rw [if_neg (show ¬last < rotate from Nat.not_lt.mpr hrs), if_pos hrs, if_pos hrs, if_neg (not_not.mpr rfl)]
  · have hne : (if wide then 64#32 else 32#32) - rotate ≠ 0#32 := by
      cases wide
      · have h32 : rotate.toNat < 32 := hr
        change 32#32 - rotate ≠ 0#32
        bv_omega
      · have h64 : rotate.toNat < 64 := hr
        change 64#32 - rotate ≠ 0#32
        bv_omega
    rw [if_pos (show last < rotate from Nat.lt_of_not_le hrs), if_neg hrs, if_neg hrs, if_pos hne]

lemma Alike.bitfieldMove (h : Alike g r) {f : VfCpu → VfCpu} (hf : bitfieldMoveResult w = some f) :
    ∃ r', r.bitfieldMove w = some r' ∧ Alike (f g) r' := by
  obtain ⟨⟨rotate, last⟩, hfields, rfl⟩ := Option.map_eq_some_iff.mp hf
  obtain ⟨hrot, hlast, hr, hs, hdefined⟩ := fields_lt hfields
  unfold GuestCpuState.bitfieldMove
  rw [hdefined, if_neg Bool.false_ne_true, bitfieldMasks_eq, ← hrot, ← hlast]
  refine ⟨_, rfl, ?_⟩
  dsimp only
  rw [← wideOf_eq]
  have hplaced := placed_eq last hr (operandOf g (rnOf w) (wideOf w))
  dsimp only at hplaced
  rw [← hplaced]
  have hvalue : alu .or (wideOf w) (alu .and (wideOf w) (operandOf g (rdOf w) (wideOf w))
        (~~~(lowMask (if rotate ≤ last then last - rotate + 1#32 else last + 1#32) <<<
          (if rotate ≤ last then 0#32 else (if wideOf w then 64#32 else 32#32) - rotate).toNat)))
        (placed (wideOf w) rotate last (operandOf g (rnOf w) (wideOf w))) =
      low (wideOf w)
        ((r.readReg (rdField w) false &&& ~~~(BitVec.allOnes 64 >>> (64 - (((last - rotate) &&&
          ((if wideOf w then 64#32 else 32#32) - 1#32)).toNat + 1)))) |||
        (((r.readReg (rdField w) false &&&
          ~~~(turned (wideOf w) rotate.toNat (BitVec.allOnes 64 >>> (64 - (last.toNat + 1))))) |||
          (turned (wideOf w) rotate.toNat (r.readReg (rnField w) false) &&&
            turned (wideOf w) rotate.toNat (BitVec.allOnes 64 >>> (64 - (last.toNat + 1))))) &&&
          (BitVec.allOnes 64 >>> (64 - (((last - rotate) &&& ((if wideOf w then 64#32 else 32#32) - 1#32)).toNat + 1))))) := by
    rw [show alu .or (wideOf w) = alu (logicalOp 1#32) (wideOf w) from rfl,
      show alu .and (wideOf w) = alu (logicalOp 0#32) (wideOf w) from rfl, alu_logical, alu_logical]
    apply BitVec.eq_of_getLsbD_eq
    intro i hi
    rw [getLsbD_cut, getLsbD_cut]
    by_cases hin : i < if wideOf w then 64 else 32
    swap
    · rw [decide_eq_false hin, Bool.and_false, Bool.and_false]
    have hmod : (i + rotate.toNat) % (if wideOf w then 64 else 32) < if wideOf w then 64 else 32 :=
      Nat.mod_lt _ (by omega)
    have hmask := masks_written hr hs hin
    have hplace := getLsbD_place hr hs hin
    rw [GuestCpuState.logicalOp, if_pos rfl, GuestCpuState.logicalOp, if_neg (by decide), if_neg (by decide)]
    simp only [BitVec.getLsbD_or, BitVec.getLsbD_and, BitVec.getLsbD_not, getLsbD_cut, hplace, getLsbD_placed hr hs,
      h.operand (rdOf_lt w), h.operand (rnOf_lt w), getLsbD_turned hr (r.readReg (rnField w) false), ← hmask, hin, hmod, hi,
      decide_true, Bool.true_and, Bool.and_true]
    change ((r.readReg (rdField w) false).getLsbD i && _ || _ && (r.readReg (rnField w) false).getLsbD _) = _
    generalize (r.readReg (rdField w) false).getLsbD i = old
    generalize (r.readReg (rnField w) false).getLsbD _ = new
    generalize BitVec.getLsbD (turned _ _ _) i = p
    generalize BitVec.getLsbD (BitVec.allOnes 64 >>> (_ : ℕ)) i = q
    cases p <;> cases q <;> cases old <;> cases new <;> rfl
  rw [hvalue]
  exact h.write (rdOf_lt w) false _ (wideOf w)

end Fields

section Immediates

lemma tagLength_eq (tag : Fin 128) :
    (tagLength 7 (BitVec.ofNat 32 tag.val)).toNat = Nat.log2 tag.val ∧ Nat.log2 tag.val < 7 := by
  revert tag
  decide

lemma size_levels (len : Fin 7) :
    1#32 <<< len.val = BitVec.ofNat 32 (2 ^ len.val) ∧ (BitVec.ofNat 32 (2 ^ len.val)).toNat = 2 ^ len.val ∧
      BitVec.ofNat 32 (2 ^ len.val) - 1#32 = BitVec.ofNat 32 (2 ^ len.val - 1) := by
  revert len
  decide

lemma tag_lt (n : Fin 2) (s : Fin 64) :
    (((BitVec.ofNat 32 n.val) <<< 6) ||| (~~~BitVec.ofNat 32 s.val &&& 63#32)).toNat < 128 := by
  revert n s
  decide +kernel

lemma element_eq (s r : U32) {size : ℕ} (hs : s.toNat < 64) (hr : r.toNat < size) (hsize : size ≤ 64) :
    (let element := (1#64 <<< (s + 1#32).toNat) - 1#64
      let element := if r ≠ 0#32 then (element >>> r.toNat) ||| (element <<< (BitVec.ofNat 32 size - r).toNat) else element
      if size < 64 then element &&& ((1#64 <<< size) - 1#64) else element) =
    (let element := (1#64 <<< (s.toNat + 1)) - 1#64
      let element := if r.toNat ≠ 0 then (element >>> r.toNat) ||| (element <<< (size - r.toNat)) else element
      if size < 64 then element &&& ((1#64 <<< size) - 1#64) else element) := by
  have hnext : (s + 1#32).toNat = s.toNat + 1 := by bv_omega
  have hsub : (BitVec.ofNat 32 size - r).toNat = size - r.toNat := by bv_omega
  have hzero : r ≠ 0#32 ↔ r.toNat ≠ 0 := by bv_omega
  dsimp only
  simp only [hnext, hsub, hzero]

lemma logicalMask_eq {mask : U64} (h : logicalMask w = some mask) : logicalImmediateMask w = some mask := by
  have hn := Bits.toNat_and_mask (w >>> 22) 1 1#32 rfl
  have hs := Bits.toNat_and_mask (w >>> 10) 6 63#32 rfl
  have htag := tag_lt ⟨((w >>> 22) &&& 1#32).toNat, by omega⟩ ⟨((w >>> 10) &&& 63#32).toNat, by omega⟩
  simp only [BitVec.ofNat_toNat, BitVec.setWidth_eq] at htag
  unfold logicalMask at h
  unfold logicalImmediateMask
  dsimp only at h ⊢
  generalize (if w >>> 31 ≠ 0#32 then 64 else 32) = width at *
  generalize (((w >>> 22) &&& 1#32) <<< 6) ||| (~~~((w >>> 10) &&& 63#32) &&& 63#32) = tag at *
  obtain ⟨hlen, hlog⟩ := tagLength_eq ⟨tag.toNat, htag⟩
  simp only [BitVec.ofNat_toNat, BitVec.setWidth_eq] at hlen hlog
  obtain ⟨hshift, hsize, hlevels⟩ := size_levels ⟨Nat.log2 tag.toNat, hlog⟩
  dsimp only at hshift hsize hlevels
  have hshort : tag < 2#32 ↔ tagLength 7 tag < 1#32 := by
    change tag.toNat < 2 ↔ (tagLength 7 tag).toNat < 1
    rw [hlen, Nat.lt_one_iff, Nat.log2_eq_log_two, Nat.log_eq_zero_iff]
    omega
  have hsize64 : 2 ^ Nat.log2 tag.toNat ≤ 64 := Nat.pow_le_pow_right (by decide) (show _ ≤ 6 by omega)
  have hpos := Nat.two_pow_pos (Nat.log2 tag.toNat)
  rw [hlen, hshift, hlevels, hsize] at h
  generalize 2 ^ Nat.log2 tag.toNat = size at *
  by_cases hwide : width = 32 ∧ (w >>> 22) &&& 1#32 ≠ 0#32
  · rw [if_pos hwide] at h
    cases h
  rw [if_neg hwide] at h ⊢
  by_cases hlow : tagLength 7 tag < 1#32
  · rw [if_pos hlow] at h
    cases h
  rw [if_neg hlow] at h
  rw [if_neg (mt hshort.mp hlow)]
  by_cases hfull : width < size ∨ ((w >>> 10) &&& 63#32) &&& BitVec.ofNat 32 (size - 1) = BitVec.ofNat 32 (size - 1)
  · rw [if_pos hfull] at h
    cases h
  rw [if_neg hfull] at h ⊢
  have hs64 : (((w >>> 10) &&& 63#32) &&& BitVec.ofNat 32 (size - 1)).toNat < 64 := by
    rw [BitVec.toNat_and]
    exact Nat.and_le_left.trans_lt (by omega)
  have hrsize : (((w >>> 16) &&& 63#32) &&& BitVec.ofNat 32 (size - 1)).toNat < size := by
    rw [BitVec.toNat_and, BitVec.toNat_ofNat]
    exact Nat.and_le_right.trans_lt (by omega)
  have helement := element_eq _ _ hs64 hrsize hsize64
  dsimp only at helement
  rw [helement] at h
  exact h

lemma logical_flags (wide : Bool) (v : U64) (p : U32) :
    (p &&& ~~~0xf0000000#32) ||| (((v >>> (if wide then 63 else 31)) &&& 1#64).truncate 32 <<< 31 : U32) |||
        (if v = 0#64 then 1#32 <<< 30 else 0#32) =
      (p &&& ~~~0xf0000000#32) ||| flags32 (v.getLsbD (if wide then 63 else 31)) (v = 0#64) false false := by
  have hbit (k : ℕ) : ((v >>> k) &&& 1#64) = if v.getLsbD k then 1#64 else 0#64 := by
    rw [show (1#64 : U64) = BitVec.twoPow 64 0 from rfl, BitVec.and_twoPow, BitVec.getLsbD_ushiftRight, Nat.add_zero]
  have hzero : (if v = 0#64 then 1#32 <<< 30 else 0#32) = if decide (v = 0#64) then 1#32 <<< 30 else 0#32 := by
    simp only [decide_eq_true_eq]
  rw [hbit, hzero, BitVec.or_assoc]
  generalize v.getLsbD (if wide then 63 else 31) = n
  generalize decide (v = 0#64) = z
  refine congrArg _ ?_
  cases n <;> cases z <;> rfl

lemma Alike.logicalImmediate (h : Alike g r) {f : VfCpu → VfCpu} (hf : logicalImmediateResult w = some f) :
    ∃ r', r.logicalImmediate w = some r' ∧ Alike (f g) r' := by
  obtain ⟨mask, hmask, rfl⟩ := Option.map_eq_some_iff.mp hf
  unfold GuestCpuState.logicalImmediate
  rw [logicalMask_eq hmask]
  refine ⟨_, rfl, ?_⟩
  dsimp only
  have hlow (v : U64) : (if wideOf w then v else v &&& 0xffffffff#64) = low (wideOf w) v := by
    cases wideOf w
    · exact and_low v
    · rfl
  have hwrite := h.write (rdOf_lt w) ((w >>> 29) &&& 3#32 ≠ 3#32)
    (low (wideOf w) (GuestCpuState.logicalOp ((w >>> 29) &&& 3#32) (r.readReg (rnField w) false) mask)) (wideOf w)
  rw [low_low] at hwrite
  rw [← wideOf_eq, hlow, h.operand (rnOf_lt w), guestFlags_logical, alu_low_left, alu_logical]
  by_cases hop : (w >>> 29) &&& 3#32 = 3#32
  · rw [if_pos hop, if_pos hop, logical_flags]
    exact hwrite.replaceFlags _
  · rw [if_neg hop, if_neg hop]
    exact hwrite

end Immediates

end Nextcore.Jit
