import Nextcore.Fp.Scalar
import Nextcore.Lib.Lanes

/-! `runtime/fp_guest.c`: the vector bank of a guest and the check of its access. -/

namespace Nextcore.Fp

structure Bank where
  v : Fin 32 → Fin 2 → U64
  fpcr : U32
  fpsr : U32

inductive FpResult where
  | ok
  | invalid
  | undefined
  | trapEl1
  | unsupported
deriving DecidableEq, Repr

structure FpAccess where
  present : U32
  el : U32
  cpacrEl1 : U64
  higherElEnabled : U32

def FpAccess.check (a : FpAccess) : FpResult :=
  if 1#32 < a.present ∨ 1#32 < a.higherElEnabled ∨ 3#32 < a.el then .invalid
  else if a.present = 0#32 then .undefined
  else if 1#32 < a.el ∨ a.higherElEnabled ≠ 0#32 ∨ a.cpacrEl1 &&& ~~~0x00300000#64 ≠ 0#64 then .unsupported
  else
    let fpen := (a.cpacrEl1 >>> 20).truncate 32
    if fpen &&& 1#32 = 0#32 ∨ fpen = 1#32 ∧ a.el = 0#32 then .trapEl1 else .ok

def overlaps (a : U64) (asize : U64) (b : U64) (bsize : U64) : Bool := if a ≤ b then b - a < asize else a - b < bsize

def bankSize : U64 := 520#64

def regField (instruction : U32) (k : ℕ) : Fin 32 := Fin.ofNat 32 ((instruction >>> k) &&& 31#32).toNat

lemma toNat_field (instruction : U32) (k : ℕ) :
    ((instruction >>> k) &&& 31#32).toNat = (instruction.extractLsb' k 5).toNat := by
  rw [Bits.toNat_and_mask _ 5 _ rfl, BitVec.toNat_ushiftRight, BitVec.extractLsb'_toNat]

lemma regField_eq (instruction : U32) (k : ℕ) : regField instruction k = (instruction.extractLsb' k 5).toFin := by
  apply Fin.ext
  rw [regField, Fin.val_ofNat, toNat_field]
  exact Nat.mod_eq_of_lt (instruction.extractLsb' k 5).isLt

namespace Bank

def controls (bank : Bank) : Bool := bank.fpcr &&& ~~~0x00c00000#32 = 0#32 ∧ bank.fpsr &&& ~~~statusMask = 0#32

def write (bank : Bank) (reg : Fin 32) (half : Fin 2) (value : U64) : Bank :=
  { bank with v := Function.update bank.v reg (Function.update (bank.v reg) half value) }

def q (bank : Bank) (reg : Fin 32) : BitVec 128 := bank.v reg 1 ++ bank.v reg 0

lemma getLsbD_half (bank : Bank) (reg : Fin 32) (half : Fin 2) {i : ℕ} (hi : i < 64) :
    (bank.v reg half).getLsbD i = (bank.q reg).getLsbD (64 * half + i) := by
  rw [q, BitVec.getLsbD_append]
  revert half
  rw [Fin.forall_fin_two]
  constructor
  · simp [hi]
  · simp [show ¬64 + i < 64 by omega]

lemma getLsbD_q (bank : Bank) (reg : Fin 32) (i : ℕ) :
    (bank.q reg).getLsbD i = if i < 64 then (bank.v reg 0).getLsbD i else (bank.v reg 1).getLsbD (i - 64) := by
  rw [q, BitVec.getLsbD_append]

lemma q_write_of_ne {bank : Bank} {reg other : Fin 32} (h : other ≠ reg) (half : Fin 2) (value : U64) :
    (bank.write reg half value).q other = bank.q other := by
  simp [q, write, Function.update_of_ne h]

lemma getLsbD_q_write (bank : Bank) (reg : Fin 32) (half : Fin 2) (value : U64) {j : ℕ} (hj : j < 128) :
    ((bank.write reg half value).q reg).getLsbD j =
      if j / 64 = half then value.getLsbD (j % 64) else (bank.q reg).getLsbD j := by
  rw [getLsbD_q, getLsbD_q]
  revert half
  rw [Fin.forall_fin_two]
  by_cases h : j < 64
  · simp [write, h, Nat.div_eq_of_lt h, Nat.mod_eq_of_lt h]
  · have hhigh : j / 64 = 1 := by omega
    have hplace : j % 64 = j - 64 := by omega
    simp [write, h, hhigh, hplace]

lemma q_write_write (bank : Bank) (reg : Fin 32) (low high : U64) :
    ((bank.write reg 0 low).write reg 1 high).q reg = high ++ low := by
  simp [q, write]

end Bank

end Nextcore.Fp
