import Mathlib.Data.List.GetD
import Mathlib.Logic.Function.Iterate

/-! The bit-serial remainder of a cyclic redundancy check, lowest bit first. A message is a list of bits; the register
is a word, and so is the polynomial, whose top bit is set. Two messages that differ in a burst no longer than the
register leave different remainders. -/

namespace Nextcore.Crc

variable {w : ℕ}

def bits {n : ℕ} (b : BitVec n) : List Bool := (List.range n).map b.getLsbD

@[simp] lemma length_bits {n : ℕ} (b : BitVec n) : (bits b).length = n := by simp [bits]

def unit (b : Bool) : BitVec w := if b then 1#w else 0#w

def shift (p c : BitVec w) : BitVec w := (c >>> 1) ^^^ if c.getLsbD 0 then p else 0#w

def feed (p c : BitVec w) (message : List Bool) : BitVec w := message.foldl (fun c b => shift p (c ^^^ unit b)) c

@[simp] lemma feed_nil (p c : BitVec w) : feed p c [] = c := rfl

@[simp] lemma feed_cons (p c : BitVec w) (b : Bool) (message : List Bool) :
    feed p c (b :: message) = feed p (shift p (c ^^^ unit b)) message := rfl

lemma feed_append (p c : BitVec w) (x y : List Bool) : feed p c (x ++ y) = feed p (feed p c x) y :=
  List.foldl_append

def ofBits : List Bool → BitVec w
  | [] => 0#w
  | b :: bs => unit b ^^^ (ofBits bs <<< 1)

lemma getLsbD_ofBits (bs : List Bool) (i : ℕ) :
    (ofBits bs : BitVec w).getLsbD i = (decide (i < w) && bs.getD i false) := by
  induction bs generalizing i with
  | nil => simp [ofBits]
  | cons b bs ih =>
    rw [ofBits, BitVec.getLsbD_xor, BitVec.getLsbD_shiftLeft, ih]
    cases i with
    | zero => cases b <;> simp [unit]
    | succ i =>
      have hunit : (unit b : BitVec w).getLsbD (i + 1) = false := by cases b <;> simp [unit]
      by_cases hi : i + 1 < w
      · rw [hunit]
        simp [hi, show i < w by omega]
      · simp [hunit, hi]

lemma ofBits_bits {n : ℕ} (b : BitVec n) : ofBits (bits b) = b.setWidth w := by
  apply BitVec.eq_of_getLsbD_eq
  intro i hi
  rw [getLsbD_ofBits, BitVec.getLsbD_setWidth]
  by_cases h : i < n
  · simp [bits, h]
  · simp [bits, h, BitVec.getLsbD_of_ge b i (by omega)]

lemma ofBits_injective {x y : List Bool} (hlen : x.length = y.length) (hx : x.length ≤ w)
    (h : (ofBits x : BitVec w) = ofBits y) : x = y := by
  apply List.ext_getElem hlen
  intro i hi hi'
  have hbit := congrArg (BitVec.getLsbD · i) h
  simp only [getLsbD_ofBits, show i < w by omega, decide_true, Bool.true_and] at hbit
  rwa [List.getD_eq_getElem _ _ hi, List.getD_eq_getElem _ _ hi'] at hbit

section Polynomial

variable {p : BitVec w}

lemma shift_xor (p a b : BitVec w) : shift p (a ^^^ b) = shift p a ^^^ shift p b := by
  rw [shift, shift, shift, BitVec.ushiftRight_xor_distrib, BitVec.getLsbD_xor]
  have hboth : a >>> 1 ^^^ b >>> 1 = a >>> 1 ^^^ p ^^^ (b >>> 1 ^^^ p) := by
    rw [BitVec.xor_comm (b >>> 1), ← BitVec.xor_assoc, BitVec.xor_assoc _ p p, BitVec.xor_self, BitVec.xor_zero]
  cases a.getLsbD 0 <;> cases b.getLsbD 0
  · simp
  · simp only [Bool.false_bne, if_true, Bool.false_eq_true, if_false, BitVec.xor_zero, BitVec.xor_assoc]
  · simp only [Bool.bne_false, if_true, Bool.false_eq_true, if_false, BitVec.xor_zero]
    ac_rfl
  · simpa using hboth

lemma shift_shiftLeft (p : BitVec w) {c : BitVec w} (h : c.getLsbD (w - 1) = false) : shift p (c <<< 1) = c := by
  have hlow : (c <<< 1).getLsbD 0 = false := by simp
  rw [shift, hlow, if_neg Bool.false_ne_true, BitVec.xor_zero]
  apply BitVec.eq_of_getLsbD_eq
  intro i hi
  rw [BitVec.getLsbD_ushiftRight, BitVec.getLsbD_shiftLeft]
  by_cases htop : i = w - 1
  · rw [htop, h]
    simp [show ¬1 + (w - 1) < w by omega]
  · simp [show 1 + i < w by omega]

lemma feed_eq_iterate (p c : BitVec w) {message : List Bool} (h : message.length ≤ w) :
    feed p c message = (shift p)^[message.length] (c ^^^ ofBits message) := by
  induction message generalizing c with
  | nil => simp [ofBits]
  | cons b message ih =>
    have hlen : message.length + 1 ≤ w := h
    have htop : (ofBits message : BitVec w).getLsbD (w - 1) = false := by
      rw [getLsbD_ofBits]
      simp [show message.length ≤ w - 1 by omega]
    rw [feed_cons, ih _ (by omega), List.length_cons, Function.iterate_succ_apply, ofBits, ← BitVec.xor_assoc,
      shift_xor p (c ^^^ unit b), shift_shiftLeft p htop]

lemma shift_injective (hp : p.msb = true) : Function.Injective (shift p) := by
  have hzero : ∀ c, shift p c = 0#w → c = 0#w := by
    intro c hc
    have hw : 0 < w := by
      by_contra h
      obtain rfl : w = 0 := by omega
      rw [BitVec.eq_nil p] at hp
      cases hp
    have htop := congrArg (BitVec.getLsbD · (w - 1)) hc
    rw [BitVec.msb_eq_getLsbD_last] at hp
    have hlow : c.getLsbD 0 = false := by
      by_contra hlow
      rw [Bool.not_eq_false] at hlow
      simp [shift, hlow, hp, BitVec.getLsbD_of_ge c (1 + (w - 1)) (by omega)] at htop
    apply BitVec.eq_of_getLsbD_eq
    intro i hi
    cases i with
    | zero => simpa using hlow
    | succ i =>
      have hbit := congrArg (BitVec.getLsbD · i) hc
      simpa [shift, hlow, Nat.add_comm 1 i] using hbit
  intro a b h
  have hxor := hzero (a ^^^ b) (by rw [shift_xor, h, BitVec.xor_self])
  rwa [BitVec.xor_eq_zero_iff] at hxor

lemma feed_injective (hp : p.msb = true) (message : List Bool) : Function.Injective (feed p · message) := by
  induction message with
  | nil => exact Function.injective_id
  | cons b message ih =>
    intro a c h
    exact BitVec.xor_left_inj _ |>.mp (shift_injective hp (ih h))

lemma feed_burst (hp : p.msb = true) (c : BitVec w) (before after : List Bool) {x y : List Bool}
    (hlen : x.length = y.length) (hx : x.length ≤ w) (hne : x ≠ y) :
    feed p c (before ++ x ++ after) ≠ feed p c (before ++ y ++ after) := by
  intro h
  simp only [feed_append] at h
  have hmiddle := feed_injective hp after h
  have hy : y.length ≤ w := hlen ▸ hx
  rw [feed_eq_iterate p (feed p c before) hx, feed_eq_iterate p _ hy, hlen] at hmiddle
  have hword := (shift_injective hp).iterate _ hmiddle
  exact hne (ofBits_injective hlen hx (BitVec.xor_right_inj _ |>.mp hword))

lemma feed_window (hp : p.msb = true) (c : BitVec w) {x y : List Bool} (hlen : x.length = y.length) (hne : x ≠ y)
    {first : ℕ} (h : ∀ k, k < first ∨ first + w ≤ k → x.getD k false = y.getD k false) : feed p c x ≠ feed p c y := by
  have hsplit (z : List Bool) : z = z.take first ++ (z.drop first).take w ++ z.drop (first + w) := by
    rw [← List.drop_drop, List.append_assoc, List.take_append_drop, List.take_append_drop]
  have hbefore : x.take first = y.take first := by
    apply List.ext_getElem (by simp [hlen])
    intro k hk hk'
    rw [List.length_take] at hk hk'
    have hbit := h k (.inl (by omega))
    rw [List.getD_eq_getElem _ _ (by omega), List.getD_eq_getElem _ _ (by omega)] at hbit
    simpa using hbit
  have hafter : x.drop (first + w) = y.drop (first + w) := by
    apply List.ext_getElem (by simp [hlen])
    intro k hk hk'
    rw [List.length_drop] at hk hk'
    have hbit := h (first + w + k) (.inr (by omega))
    rw [List.getD_eq_getElem _ _ (by omega), List.getD_eq_getElem _ _ (by omega)] at hbit
    simpa using hbit
  have hmiddle : (x.drop first).take w ≠ (y.drop first).take w := by
    intro hmiddle
    apply hne
    rw [hsplit x, hsplit y, hbefore, hmiddle, hafter]
  have hburst := feed_burst hp c (x.take first) (x.drop (first + w)) (by simp [hlen])
    (List.length_take_le _ _) hmiddle
  rwa [← hsplit x, hbefore, hafter, ← hsplit y] at hburst

end Polynomial

section Words

variable {n : ℕ}

lemma getD_flatMap_bits (hn : 0 < n) (words : List (BitVec n)) (k : ℕ) :
    (words.flatMap bits).getD k false = (words.getD (k / n) 0#n).getLsbD (k % n) := by
  induction words generalizing k with
  | nil => simp
  | cons b words ih =>
    rw [List.flatMap_cons]
    by_cases hk : k < n
    · rw [List.getD_append _ _ _ _ (by rwa [length_bits]), Nat.div_eq_of_lt hk, Nat.mod_eq_of_lt hk]
      simp [bits, hk]
    · obtain ⟨j, rfl⟩ := Nat.exists_eq_add_of_le (Nat.le_of_not_lt hk)
      rw [List.getD_append_right _ _ _ _ (by rw [length_bits]; omega), length_bits, Nat.add_sub_cancel_left, ih,
        Nat.add_div_left _ hn, Nat.add_mod_left]
      rfl

lemma feed_flatMap_bits (hn : n ≤ w) (p c : BitVec w) (words : List (BitVec n)) :
    feed p c (words.flatMap bits) = words.foldl (fun c b => (shift p)^[n] (c ^^^ b.setWidth w)) c := by
  induction words generalizing c with
  | nil => rfl
  | cons b words ih =>
    rw [List.flatMap_cons, feed_append, feed_eq_iterate p c (by rwa [length_bits]), length_bits, ofBits_bits, ih]
    rfl

end Words

end Nextcore.Crc
