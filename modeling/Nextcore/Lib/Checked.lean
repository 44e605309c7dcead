import Mathlib.Tactic

/-! Machine arithmetic that stops at a defect: a shift by the width or more, a
sum, difference or product that wraps, a cast that truncates, or a branch its
author holds unreachable. -/

namespace Nextcore

inductive Defect
  | shift | overflow | underflow | truncation | unreachable
  deriving DecidableEq, Repr

abbrev Checked := Except Defect

namespace Checked

variable {w : ℕ} {α β : Type}

def shr (x : BitVec w) (n : ℕ) : Checked (BitVec w) := if n < w then .ok (x >>> n) else .error .shift

def shl (x : BitVec w) (n : ℕ) : Checked (BitVec w) := if n < w then .ok (x <<< n) else .error .shift

def sub (x y : BitVec w) : Checked (BitVec w) := if y ≤ x then .ok (x - y) else .error .underflow

def mul (x y : BitVec w) : Checked (BitVec w) :=
  if x.umulOverflow y then .error .overflow else .ok (x * y)

def subNat (a b : ℕ) : Checked ℕ := if b ≤ a then .ok (a - b) else .error .underflow

def narrow (w n : ℕ) : Checked ℕ := if n < 2 ^ w then .ok n else .error .truncation

def lowMask (w n : ℕ) : Checked (BitVec w) := do
  let bit ← shl 1#w n
  sub bit 1#w

@[simp] lemma ok_bind (a : α) (f : α → Checked β) : ((Except.ok a : Checked α) >>= f) = f a := rfl

lemma shr_ok (x : BitVec w) {n : ℕ} (h : n < w) : shr x n = .ok (x >>> n) := if_pos h

lemma shl_ok (x : BitVec w) {n : ℕ} (h : n < w) : shl x n = .ok (x <<< n) := if_pos h

lemma sub_ok {x y : BitVec w} (h : y ≤ x) : sub x y = .ok (x - y) := if_pos h

lemma mul_ok {x y : BitVec w} (h : x.toNat * y.toNat < 2 ^ w) : mul x y = .ok (x * y) := by
  have hno : x.umulOverflow y = false := by
    simp only [BitVec.umulOverflow, decide_eq_false_iff_not]
    omega
  simp [mul, hno]

lemma subNat_ok {a b : ℕ} (h : b ≤ a) : subNat a b = .ok (a - b) := if_pos h

lemma narrow_ok {w n : ℕ} (h : n < 2 ^ w) : narrow w n = .ok n := if_pos h

lemma lowMask_ok {w n : ℕ} (h : n < w) : lowMask w n = .ok ((1#w <<< n) - 1#w) := by
  have hle : 1#w ≤ 1#w <<< n := by
    have hone : (1#w).toNat = 1 := BitVec.toNat_one (by omega)
    have hpow : 2 ^ n < 2 ^ w := Nat.pow_lt_pow_right (by decide) h
    rw [BitVec.le_def, BitVec.toNat_shiftLeft, hone, Nat.shiftLeft_eq, one_mul, Nat.mod_eq_of_lt hpow]
    exact Nat.one_le_two_pow
  rw [lowMask, shl_ok _ h, ok_bind, sub_ok hle]

end Checked

end Nextcore
