import Mathlib.Tactic

/-! Machine words, and little-endian values in a byte list. -/

namespace Nextcore

abbrev Byte := BitVec 8
abbrev U32 := BitVec 32
abbrev U64 := BitVec 64

instance lawfulBEq_u32 : LawfulBEq U32 := inferInstance

instance neZero_two : NeZero 2 := ⟨by decide⟩

instance neZero_four : NeZero 4 := ⟨by decide⟩

instance neZero_sixteen : NeZero 16 := ⟨by decide⟩

instance neZero_thirtyOne : NeZero 31 := ⟨by decide⟩

instance neZero_thirtyTwo : NeZero 32 := ⟨by decide⟩

namespace Bytes

/-- `offset`: the index of a span of `width` bytes at `address` in a backing of
`length` bytes that starts at `base`. -/
def offset (address : U64) (width : ℕ) (base : U64) (length : ℕ) : Option ℕ :=
  if base ≤ address ∧ width ≤ length ∧ (address - base).toNat ≤ length - width then
    some (address - base).toNat
  else none

/-- The value of a little-endian byte string; bytes past the eighth are lost. -/
def leValue : List Byte → U64
  | [] => 0#64
  | b :: bs => b.zeroExtend 64 ||| (leValue bs <<< 8)

def leBytes (value : U64) : ℕ → List Byte
  | 0 => []
  | n + 1 => value.truncate 8 :: leBytes (value >>> 8) n

def slice (m : List Byte) (i n : ℕ) : List Byte := (m.drop i).take n

def loadLe (m : List Byte) (i n : ℕ) : U64 := leValue (slice m i n)

def blit (m : List Byte) (i : ℕ) (bs : List Byte) : List Byte :=
  m.take i ++ bs ++ m.drop (i + bs.length)

def storeLe (m : List Byte) (i n : ℕ) (value : U64) : List Byte := blit m i (leBytes value n)

lemma leValue_lt (bs : List Byte) : (leValue bs).toNat < 2 ^ (8 * bs.length) := by
  induction bs with
  | nil => decide
  | cons b bs ih =>
    rw [leValue, BitVec.toNat_or, List.length_cons, Nat.mul_add, Nat.mul_one]
    apply Nat.or_lt_two_pow
    · have hb := b.isLt
      have hpow : 2 ^ 8 ≤ 2 ^ (8 * bs.length + 8) := Nat.pow_le_pow_right (by decide) (by omega)
      simp only [BitVec.truncate_eq_setWidth, BitVec.toNat_setWidth]
      have := Nat.mod_le b.toNat (2 ^ 64)
      omega
    · rw [BitVec.toNat_shiftLeft, Nat.shiftLeft_eq]
      refine lt_of_le_of_lt (Nat.mod_le _ _) ?_
      rw [pow_add]
      exact Nat.mul_lt_mul_of_pos_right ih (by decide)

lemma loadLe_lt (m : List Byte) (i n : ℕ) : (loadLe m i n).toNat < 2 ^ (8 * n) := by
  refine lt_of_lt_of_le (leValue_lt _) (Nat.pow_le_pow_right (by decide) (Nat.mul_le_mul_left _ ?_))
  simp only [slice, List.length_take]
  omega

lemma length_leBytes (value : U64) (n : ℕ) : (leBytes value n).length = n := by
  induction n generalizing value with
  | zero => rfl
  | succ n ih => simp only [leBytes, List.length_cons, ih]

lemma length_storeLe {m : List Byte} {i n : ℕ} (h : i + n ≤ m.length) (value : U64) :
    (storeLe m i n value).length = m.length := by
  simp only [storeLe, blit, List.length_append, List.length_take, List.length_drop, length_leBytes]
  omega

lemma leBytes_congr {u v : U64} {n : ℕ} (h : ∀ i < 8 * n, u.getLsbD i = v.getLsbD i) : leBytes u n = leBytes v n := by
  induction n generalizing u v with
  | zero => rfl
  | succ n ih =>
    have hhead : (u.truncate 8 : Byte) = v.truncate 8 := by
      apply BitVec.eq_of_getLsbD_eq
      intro i hi
      simp only [BitVec.truncate_eq_setWidth, BitVec.getLsbD_setWidth, h i (by omega)]
    have htail : leBytes (u >>> 8) n = leBytes (v >>> 8) n := by
      refine ih fun i hi => ?_
      rw [BitVec.getLsbD_ushiftRight, BitVec.getLsbD_ushiftRight, h (8 + i) (by omega)]
    rw [leBytes, leBytes, hhead, htail]

lemma storeLe_congr {u v : U64} {n : ℕ} (h : ∀ i < 8 * n, u.getLsbD i = v.getLsbD i) (m : List Byte) (i : ℕ) :
    storeLe m i n u = storeLe m i n v := by
  rw [storeLe, storeLe, leBytes_congr h]

lemma getLsbD_leValue_leBytes (value : U64) (n i : ℕ) :
    (leValue (leBytes value n)).getLsbD i = (decide (i < 8 * n) && value.getLsbD i) := by
  induction n generalizing value i with
  | zero => simp [leBytes, leValue]
  | succ n ih =>
    rw [leBytes, leValue, BitVec.getLsbD_or, BitVec.getLsbD_shiftLeft, ih]
    simp only [BitVec.truncate_eq_setWidth, BitVec.getLsbD_setWidth, BitVec.getLsbD_ushiftRight]
    by_cases hi : i < 8
    · have h64 : i < 64 := by omega
      have hn : i < 8 * (n + 1) := by omega
      simp [hi, h64, hn]
    · have hsub : 8 + (i - 8) = i := by omega
      have hn : decide (i - 8 < 8 * n) = decide (i < 8 * (n + 1)) := decide_eq_decide.mpr (by omega)
      rw [hsub, hn]
      by_cases h64 : i < 64
      · simp [hi, h64]
      · simp [hi, h64, BitVec.getLsbD_of_ge value i (by omega)]

lemma leValue_leBytes {w n : ℕ} (hw : w ≤ 64) (hn : w ≤ 8 * n) (value : BitVec w) :
    (leValue (leBytes (value.setWidth 64) n)).setWidth w = value := by
  apply BitVec.eq_of_getLsbD_eq
  intro i hi
  rw [BitVec.getLsbD_setWidth, getLsbD_leValue_leBytes, BitVec.getLsbD_setWidth]
  simp [hi, show i < 8 * n by omega, show i < 64 by omega]

lemma leValue_leBytes_of_lt {value : U64} {n : ℕ} (h : value.toNat < 2 ^ (8 * n)) : leValue (leBytes value n) = value := by
  apply BitVec.eq_of_getLsbD_eq
  intro i _
  rw [getLsbD_leValue_leBytes]
  by_cases hi : i < 8 * n
  · simp [hi]
  · have hpow : 2 ^ (8 * n) ≤ 2 ^ i := Nat.pow_le_pow_right (by decide) (by omega)
    have hbit : value.getLsbD i = false := Nat.testBit_lt_two_pow (lt_of_lt_of_le h hpow)
    simp [hi, hbit]

lemma leBytes_leValue {bs : List Byte} (h : bs.length ≤ 8) : leBytes (leValue bs) bs.length = bs := by
  induction bs with
  | nil => rfl
  | cons b bs ih =>
    have hlen : bs.length ≤ 7 := Nat.le_of_lt_succ h
    have hlow : (b.zeroExtend 64 ||| (leValue bs <<< 8)).truncate 8 = b := by
      apply BitVec.eq_of_getLsbD_eq
      intro i hi
      simp [hi]
    have hhigh : (b.zeroExtend 64 ||| (leValue bs <<< 8)) >>> 8 = leValue bs := by
      apply BitVec.eq_of_getLsbD_eq
      intro i hi
      by_cases h56 : 8 + i < 64
      · rw [BitVec.getLsbD_ushiftRight, BitVec.getLsbD_or, BitVec.getLsbD_shiftLeft, BitVec.getLsbD_setWidth,
          BitVec.getLsbD_of_ge b _ (by omega), Nat.add_sub_cancel_left]
        simp only [h56, decide_true, Bool.and_false, Bool.false_or, Bool.true_and, show ¬8 + i < 8 by omega, decide_false,
          Bool.not_false]
      · have hpow : 2 ^ (8 * bs.length) ≤ 2 ^ i := Nat.pow_le_pow_right (by decide) (by omega)
        have hv : (leValue bs).getLsbD i = false := Nat.testBit_lt_two_pow (lt_of_lt_of_le (leValue_lt bs) hpow)
        rw [hv, BitVec.getLsbD_ushiftRight, BitVec.getLsbD_of_ge _ _ (by omega)]
    rw [leValue, List.length_cons, leBytes, hlow, hhigh, ih (by omega)]

lemma slice_append {a b c : List Byte} {i n : ℕ} (hi : i = a.length) (hn : n = b.length) :
    slice (a ++ b ++ c) i n = b := by
  subst hi hn
  rw [slice, List.append_assoc, List.drop_left, List.take_left]

lemma length_blit {m bs : List Byte} {i : ℕ} (h : i + bs.length ≤ m.length) : (blit m i bs).length = m.length := by
  simp only [blit, List.length_append, List.length_take, List.length_drop]
  omega

lemma blit_append {a b bs c : List Byte} {i : ℕ} (hi : i = a.length) (hn : bs.length = b.length) :
    blit (a ++ b ++ c) i bs = a ++ bs ++ c := by
  subst hi
  have htake : (a ++ b ++ c).take a.length = a := by rw [List.append_assoc, List.take_left]
  have hdrop : (a ++ b ++ c).drop (a.length + b.length) = c := by rw [← List.length_append, List.drop_left]
  rw [blit, hn, htake, hdrop]

lemma blit_blit {m bs cs : List Byte} {i : ℕ} (h : i + bs.length + cs.length ≤ m.length) :
    blit (blit m i bs) (i + bs.length) cs = blit m i (bs ++ cs) := by
  have hprefix : i + bs.length = (m.take i ++ bs).length := by
    rw [List.length_append, List.length_take]
    omega
  have hmiddle : cs.length = ((m.drop (i + bs.length)).take cs.length).length := by
    rw [List.length_take, List.length_drop]
    omega
  have hsplit : blit m i bs =
      m.take i ++ bs ++ (m.drop (i + bs.length)).take cs.length ++ m.drop (i + bs.length + cs.length) := by
    have hrest : (m.drop (i + bs.length)).drop cs.length = m.drop (i + bs.length + cs.length) := by rw [List.drop_drop]
    rw [blit, List.append_assoc (m.take i ++ bs), ← hrest, List.take_append_drop]
  rw [hsplit, blit_append hprefix hmiddle, blit, List.length_append, ← Nat.add_assoc, List.append_assoc (m.take i)]

lemma slice_blit {m bs : List Byte} {i k n : ℕ} (hi : i ≤ m.length) :
    slice (blit m i bs) (i + k) n = slice (bs ++ m.drop (i + bs.length)) k n := by
  have hlength : (m.take i).length = i := by
    rw [List.length_take]
    omega
  rw [slice, slice, blit, List.append_assoc, ← List.drop_drop]
  nth_rewrite 1 [← hlength]
  rw [List.drop_left]

lemma blit_blank {a bs : List Byte} {i k : ℕ} (hi : i = a.length) (hk : bs.length ≤ k) (z : Byte) :
    blit (a ++ List.replicate k z) i bs = a ++ bs ++ List.replicate (k - bs.length) z := by
  have hsplit : List.replicate k z = List.replicate bs.length z ++ List.replicate (k - bs.length) z := by
    rw [List.replicate_append_replicate, Nat.add_sub_cancel' hk]
  rw [hsplit, ← List.append_assoc, blit_append hi (List.length_replicate).symm]

end Bytes

end Nextcore
