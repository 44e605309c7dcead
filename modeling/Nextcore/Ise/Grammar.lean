import Nextcore.Ise.Extension

/-! The operand of a ModRM byte as the manual defines it, beside what `read_modrm` makes of the same bytes. -/

namespace Nextcore.Ise

open Parse

/-! The grammar: the fields of a byte are its base-8 digits, the numbers are those before a REX extension. -/

inductive X86Operand where
  | register (r : ℕ)
  | ripRelative (displacement : ℤ)
  | address (base index : Option ℕ) (scale : ℕ) (displacement : ℤ)
deriving DecidableEq, Repr

def modField (modrm : Byte) : ℕ := modrm.toNat / 64

def regField (modrm : Byte) : ℕ := modrm.toNat / 8 % 8

def rmField (modrm : Byte) : ℕ := modrm.toNat % 8

def signed (bs : List Byte) : ℤ := Int.bmod (Bytes.leValue bs).toNat (2 ^ (8 * bs.length))

def displacementSize (mod base : ℕ) : ℕ :=
  if mod = 1 then 1 else if mod = 2 then 4 else if mod = 0 ∧ base = 5 then 4 else 0

def sibAddress (mod : ℕ) (sib : Byte) (displacement : ℤ) : X86Operand :=
  .address (if mod = 0 ∧ rmField sib = 5 then none else some (rmField sib))
    (if regField sib = 4 then none else some (regField sib)) (2 ^ modField sib) displacement

def plainAddress (mod rm : ℕ) (displacement : ℤ) : X86Operand :=
  if mod = 0 ∧ rm = 5 then .ripRelative displacement else .address (some rm) none 1 displacement

def sibOperand (modrm : Byte) : List Byte → Option (ℕ × X86Operand × ℕ)
  | [] => none
  | sib :: rest =>
    let size := displacementSize (modField modrm) (rmField sib)
    if rest.length < size then none
    else some (regField modrm, sibAddress (modField modrm) sib (signed (rest.take size)), 2 + size)

def operandBehind (modrm : Byte) (rest : List Byte) : Option (ℕ × X86Operand × ℕ) :=
  if modField modrm = 3 then some (regField modrm, .register (rmField modrm), 1)
  else if rmField modrm = 4 then sibOperand modrm rest
  else
    let size := displacementSize (modField modrm) (rmField modrm)
    if rest.length < size then none
    else some (regField modrm, plainAddress (modField modrm) (rmField modrm) (signed (rest.take size)), 1 + size)

def manualOperand : List Byte → Option (ℕ × X86Operand × ℕ)
  | [] => none
  | modrm :: rest => operandBehind modrm rest

def X86Operand.written : X86Operand → Operand
  | .register r => .register (BitVec.ofNat 32 r)
  | .ripRelative displacement => .memory ⟨none, none, 1#32, BitVec.ofInt 64 displacement⟩
  | .address base index scale displacement =>
    .memory ⟨base.map (BitVec.ofNat 32), index.map (BitVec.ofNat 32), BitVec.ofNat 32 scale,
      BitVec.ofInt 64 displacement⟩

/-! What the two of them say of a place in a slice. -/

def readsOperand (s : Input Byte) (k : ℕ) : Option (U32 × Operand × ℕ) :=
  match readModrm s k with
  | .error _ => none
  | .ok ((reg, rm, mem), k') => some (reg, opFromRm rm mem, k')

def definesOperand (s : Input Byte) (k : ℕ) : Option (U32 × Operand × ℕ) :=
  (manualOperand (s.data.drop (s.origin + k))).map fun (reg, operand, length) =>
    (BitVec.ofNat 32 reg, operand.written, k + length)

def SibAgrees : List Byte → Prop
  | modrm :: sib :: rest =>
    modField modrm = 3 ∨ rmField modrm ≠ 4 ∨ (rmField sib = 4 ∧ modField sib ≤ 1) ∨
      (modField modrm ≠ 0 ∧ rest.length < displacementSize (modField modrm) (rmField sib))
  | _ => True

section Fields

lemma byte_fields : ∀ b : Byte,
    (∀ n : Fin 4, modeOf b = BitVec.ofNat 8 n ↔ modField b = n) ∧
    (∀ n : Fin 8, rmOf b = BitVec.ofNat 32 n ↔ rmField b = n) ∧
    regOf b = BitVec.ofNat 32 (regField b) ∧ rmOf b = BitVec.ofNat 32 (rmField b) ∧ rmOf b ≠ 0xffffffff#32 ∧
    (4#32 = BitVec.ofNat 32 (rmField b) ↔ rmField b = 4) ∧
    ((b >>> 6).zeroExtend 32 + 1#32 = BitVec.ofNat 32 (2 ^ modField b) ↔ modField b ≤ 1) ∧
    (if ((b >>> 3) &&& 7#8).zeroExtend 32 ≠ 4#32 then some (((b >>> 3) &&& 7#8).zeroExtend 32)
      else none : Option U32) = (if regField b = 4 then none else some (regField b)).map (BitVec.ofNat 32) ∧
    displacementBytes (modeOf b) (rmOf b) = displacementSize (modField b) (rmField b) ∧
    displacementBytes (modeOf b) 4#32 = displacementSize (modField b) 4 := by
  decide +kernel

lemma modeOf_iff (n : Fin 4) (b : Byte) : modeOf b = BitVec.ofNat 8 n ↔ modField b = n := (byte_fields b).1 n

lemma rmOf_iff (n : Fin 8) (b : Byte) : rmOf b = BitVec.ofNat 32 n ↔ rmField b = n := (byte_fields b).2.1 n

lemma regOf_eq (b : Byte) : regOf b = BitVec.ofNat 32 (regField b) := (byte_fields b).2.2.1

lemma rmOf_eq (b : Byte) : rmOf b = BitVec.ofNat 32 (rmField b) := (byte_fields b).2.2.2.1

lemma rmOf_ne_max (b : Byte) : rmOf b ≠ 0xffffffff#32 := (byte_fields b).2.2.2.2.1

lemma base_iff (b : Byte) : 4#32 = BitVec.ofNat 32 (rmField b) ↔ rmField b = 4 := (byte_fields b).2.2.2.2.2.1

lemma scale_iff (b : Byte) : (b >>> 6).zeroExtend 32 + 1#32 = BitVec.ofNat 32 (2 ^ modField b) ↔ modField b ≤ 1 :=
  (byte_fields b).2.2.2.2.2.2.1

lemma index_eq (b : Byte) :
    (if ((b >>> 3) &&& 7#8).zeroExtend 32 ≠ 4#32 then some (((b >>> 3) &&& 7#8).zeroExtend 32)
      else none : Option U32) = (if regField b = 4 then none else some (regField b)).map (BitVec.ofNat 32) :=
  (byte_fields b).2.2.2.2.2.2.2.1

lemma displacementBytes_eq (b : Byte) :
    displacementBytes (modeOf b) (rmOf b) = displacementSize (modField b) (rmField b) :=
  (byte_fields b).2.2.2.2.2.2.2.2.1

lemma displacementBytes_sib (b : Byte) : displacementBytes (modeOf b) 4#32 = displacementSize (modField b) 4 :=
  (byte_fields b).2.2.2.2.2.2.2.2.2

lemma displacementSize_sib {mod base : ℕ} (h : ¬(mod = 0 ∧ base = 5)) :
    displacementSize mod base = displacementSize mod 4 := by
  have hfour : ¬(mod = 0 ∧ 4 = 5) := fun h => absurd h.2 (by decide)
  unfold displacementSize
  rw [if_neg h, if_neg hfour]

end Fields

section Runs

variable {s : Input Byte} {k : ℕ}

lemma get_cons {b : Byte} {rest : List Byte} (h : s.data.drop (s.origin + k) = b :: rest) : s.get k = some b := by
  rw [Input.get, ← Nat.add_zero (s.origin + k), ← List.getElem?_drop, h]
  rfl

lemma byte_cons {b : Byte} {rest : List Byte} (h : s.data.drop (s.origin + k) = b :: rest) :
    byte s k = .ok (b, k + 1) ∧ s.data.drop (s.origin + (k + 1)) = rest := by
  refine ⟨item_ok.mpr ⟨get_cons h, rfl⟩, ?_⟩
  rw [← Nat.add_assoc, ← List.drop_drop, h]
  rfl

lemma byte_nil (h : s.data.drop (s.origin + k) = []) : ∃ e, byte s k = .error e := by
  have hget : s.get k = none := by
    rw [Input.get, ← Nat.add_zero (s.origin + k), ← List.getElem?_drop, h]
    rfl
  refine ⟨.insufficientData (s.origin + k), ?_⟩
  rw [byte, item, hget]

lemma bytes_run {n : ℕ} (hn : 0 < n) (h : n ≤ (s.data.drop (s.origin + k)).length) :
    bytes n s k = .ok ((s.data.drop (s.origin + k)).take n, k + n) := by
  rw [List.length_drop] at h
  exact items_ok.mpr ⟨by omega, rfl, rfl⟩

lemma bytes_short {n : ℕ} (h : (s.data.drop (s.origin + k)).length < n) : ∃ e, bytes n s k = .error e := by
  rw [List.length_drop] at h
  refine ⟨.insufficientData (s.origin + k), ?_⟩
  rw [bytes, items, if_pos (by omega)]

lemma bind_error {α γ : Type} {p : Decoder α} {q : α → Decoder γ} {e : DecodeError} (h : p s k = .error e) :
    (p >>= q) s k = .error e := by
  change andThen p q s k = _
  rw [andThen, h]

lemma signed_nil : BitVec.ofInt 64 (signed []) = 0#64 := by decide

lemma signed_byte (b : Byte) : BitVec.ofInt 64 (signed [b]) = b.signExtend 64 := by
  have hvalue : (Bytes.leValue [b]).toNat = b.toNat := by
    have hb := b.isLt
    rw [Bytes.leValue, Bytes.leValue, BitVec.zero_shiftLeft, BitVec.or_zero]
    exact (BitVec.toNat_setWidth 64 b).trans (Nat.mod_eq_of_lt (by omega))
  rw [signed, hvalue, BitVec.signExtend, BitVec.toInt_eq_toNat_bmod]
  rfl

lemma signed_word {bs : List Byte} (h : bs.length = 4) : BitVec.ofInt 64 (signed bs) = displacement32 bs := by
  have hlt := Bytes.leValue_lt bs
  rw [h] at hlt
  rw [displacement32, BitVec.signExtend, BitVec.toInt_eq_toNat_bmod, signed, h, BitVec.truncate_eq_setWidth,
    BitVec.toNat_setWidth, Nat.mod_eq_of_lt hlt]

lemma readDisplacement_run (mode : Byte) (rm base : U32) {index : Option U32} (hindex : rm = 5#32 → index = none)
    (h : displacementBytes mode rm ≤ (s.data.drop (s.origin + k)).length) :
    readDisplacement mode rm base index s k =
      .ok ((BitVec.ofInt 64 (signed ((s.data.drop (s.origin + k)).take (displacementBytes mode rm))),
        if mode = 0#8 ∧ rm = 5#32 then 0xffffffff#32 else base), k + displacementBytes mode rm) := by
  rw [displacementBytes] at h ⊢
  rw [readDisplacement]
  by_cases hone : mode = 1#8
  · subst hone
    rw [if_pos rfl] at h ⊢
    rw [if_pos rfl, if_neg (fun hzero => absurd hzero.1 (by decide))]
    cases hrest : s.data.drop (s.origin + k) with
    | nil =>
      rw [hrest] at h
      exact absurd h (by decide)
    | cons b rest =>
      rw [bind_run (byte_cons hrest).1]
      change _ = Except.ok ((BitVec.ofInt 64 (signed [b]), base), k + 1)
      rw [signed_byte]
      rfl
  rw [if_neg hone] at h ⊢
  rw [if_neg hone]
  by_cases htwo : mode = 2#8
  · subst htwo
    rw [if_pos rfl] at h ⊢
    rw [if_pos rfl, if_neg (fun hzero => absurd hzero.1 (by decide)), bind_run (bytes_run (by decide) h),
      signed_word (List.length_take_of_le h)]
    rfl
  rw [if_neg htwo] at h ⊢
  rw [if_neg htwo]
  by_cases hzero : mode = 0#8 ∧ rm = 5#32
  · rw [if_pos hzero] at h ⊢
    rw [if_pos ⟨hzero.1, hzero.2, hindex hzero.2⟩, if_pos hzero, bind_run (bytes_run (by decide) h),
      signed_word (List.length_take_of_le h)]
    rfl
  · rw [if_neg hzero] at h ⊢
    rw [if_neg fun h => hzero ⟨h.1, h.2.1⟩, if_neg hzero, List.take_zero, signed_nil]
    rfl

lemma readDisplacement_short (mode : Byte) (rm base : U32) {index : Option U32} (hindex : rm = 5#32 → index = none)
    (h : (s.data.drop (s.origin + k)).length < displacementBytes mode rm) :
    ∃ e, readDisplacement mode rm base index s k = .error e := by
  rw [displacementBytes] at h
  rw [readDisplacement]
  by_cases hone : mode = 1#8
  · rw [if_pos hone] at h ⊢
    obtain ⟨e, he⟩ := byte_nil (List.length_eq_zero_iff.mp (Nat.lt_one_iff.mp h))
    exact ⟨e, bind_error he⟩
  rw [if_neg hone] at h ⊢
  by_cases htwo : mode = 2#8
  · rw [if_pos htwo] at h ⊢
    obtain ⟨e, he⟩ := bytes_short h
    exact ⟨e, bind_error he⟩
  rw [if_neg htwo] at h ⊢
  by_cases hzero : mode = 0#8 ∧ rm = 5#32
  · rw [if_pos hzero] at h
    rw [if_pos ⟨hzero.1, hzero.2, hindex hzero.2⟩]
    obtain ⟨e, he⟩ := bytes_short h
    exact ⟨e, bind_error he⟩
  · rw [if_neg hzero] at h
    exact absurd h (Nat.not_lt_zero _)

end Runs

section Operand

variable {s : Input Byte} {k : ℕ} {modrm : Byte} {rest : List Byte}
  (hbytes : s.data.drop (s.origin + k) = modrm :: rest)

include hbytes

lemma readModrm_cons : readModrm s k = readOperand modrm s (k + 1) := bind_run (byte_cons hbytes).1

lemma readsOperand_register (hmod : modField modrm = 3) : readsOperand s k = definesOperand s k := by
  have hmode : modeOf modrm = 3#8 := (modeOf_iff 3 modrm).mpr hmod
  unfold readsOperand definesOperand
  rw [readModrm_cons hbytes, readOperand, if_pos hmode, hbytes, manualOperand, operandBehind, if_pos hmod, regOf_eq,
    rmOf_eq]
  rfl

lemma readsOperand_plain (hmod : modField modrm ≠ 3) (hrm : rmField modrm ≠ 4) :
    readsOperand s k = definesOperand s k := by
  have hmode : modeOf modrm ≠ 3#8 := mt (modeOf_iff 3 modrm).mp hmod
  have hfour : rmOf modrm ≠ 4#32 := mt (rmOf_iff 4 modrm).mp hrm
  obtain ⟨-, hrest⟩ := byte_cons hbytes
  have hsib : readSib (modeOf modrm) (rmOf modrm) s (k + 1) = .ok ((rmOf modrm, none, 1#32), k + 1) := by
    rw [readSib, if_neg hfour]
    rfl
  unfold readsOperand definesOperand
  rw [readModrm_cons hbytes, readOperand, if_neg hmode, bind_run hsib, hbytes, manualOperand, operandBehind,
    if_neg hmod, if_neg hrm]
  dsimp only
  rw [← displacementBytes_eq]
  have hindex : rmOf modrm = 5#32 → (none : Option U32) = none := fun _ => rfl
  by_cases hshort : rest.length < displacementBytes (modeOf modrm) (rmOf modrm)
  · obtain ⟨e, he⟩ := readDisplacement_short (s := s) (k := k + 1) (modeOf modrm) (rmOf modrm) (rmOf modrm)
      hindex (by rw [hrest]; exact hshort)
    rw [bind_error he, if_pos hshort]
    rfl
  have hrun := readDisplacement_run (s := s) (k := k + 1) (modeOf modrm) (rmOf modrm) (rmOf modrm) hindex
    (by rw [hrest]; exact Nat.not_lt.mp hshort)
  rw [hrest] at hrun
  rw [bind_run hrun, if_neg hshort]
  by_cases hrip : modField modrm = 0 ∧ rmField modrm = 5
  · have hcode : modeOf modrm = 0#8 ∧ rmOf modrm = 5#32 :=
      ⟨(modeOf_iff 0 modrm).mpr hrip.1, (rmOf_iff 5 modrm).mpr hrip.2⟩
    rw [if_pos hcode, plainAddress, if_pos hrip, regOf_eq, Nat.add_assoc]
    rfl
  · have hcode : ¬(modeOf modrm = 0#8 ∧ rmOf modrm = 5#32) :=
      fun h => hrip ⟨(modeOf_iff 0 modrm).mp h.1, (rmOf_iff 5 modrm).mp h.2⟩
    rw [if_neg hcode, if_neg (rmOf_ne_max modrm), plainAddress, if_neg hrip, regOf_eq, rmOf_eq, Nat.add_assoc]
    rfl

lemma readsOperand_sib_end (hmod : modField modrm ≠ 3) (hrm : rmField modrm = 4) (hend : rest = []) :
    readsOperand s k = definesOperand s k := by
  have hmode : modeOf modrm ≠ 3#8 := mt (modeOf_iff 3 modrm).mp hmod
  have hfour : rmOf modrm = 4#32 := (rmOf_iff 4 modrm).mpr hrm
  obtain ⟨-, hrest⟩ := byte_cons hbytes
  obtain ⟨e, he⟩ := byte_nil (hrest.trans hend)
  have hsib : readSib (modeOf modrm) (rmOf modrm) s (k + 1) = .error e := by
    rw [readSib, if_pos hfour]
    exact bind_error he
  unfold readsOperand definesOperand
  rw [readModrm_cons hbytes, readOperand, if_neg hmode, bind_error hsib, hbytes, manualOperand, operandBehind,
    if_neg hmod, if_pos hrm, hend]
  rfl

lemma readsOperand_sib (hmod : modField modrm ≠ 3) (hrm : rmField modrm = 4) {sib : Byte} {tail : List Byte}
    (hsib : rest = sib :: tail) :
    readsOperand s k =
      (let size := displacementSize (modField modrm) 4
      if tail.length < size then none
      else some (regOf modrm,
        .memory ⟨if modField modrm = 0 ∧ rmField sib = 5 then none else some 4#32,
          (if regField sib = 4 then none else some (regField sib)).map (BitVec.ofNat 32),
          (sib >>> 6).zeroExtend 32 + 1#32, BitVec.ofInt 64 (signed (tail.take size))⟩, k + (2 + size))) := by
  have hmode : modeOf modrm ≠ 3#8 := mt (modeOf_iff 3 modrm).mp hmod
  have hfour : rmOf modrm = 4#32 := (rmOf_iff 4 modrm).mpr hrm
  obtain ⟨-, hrest⟩ := byte_cons hbytes
  obtain ⟨hbyte, htail⟩ := byte_cons (hrest.trans hsib)
  have hread : readSib (modeOf modrm) (rmOf modrm) s (k + 1) =
      .ok ((if modeOf modrm = 0#8 ∧ rmOf sib = 5#32 then 0xffffffff#32 else 4#32,
        (if regField sib = 4 then none else some (regField sib)).map (BitVec.ofNat 32),
        (sib >>> 6).zeroExtend 32 + 1#32), k + 2) := by
    rw [readSib, if_pos hfour, bind_run hbyte, hfour, ← index_eq sib]
    rfl
  unfold readsOperand
  rw [readModrm_cons hbytes, readOperand, if_neg hmode, bind_run hread, hfour, ← displacementBytes_sib]
  dsimp only
  have hindex : 4#32 = 5#32 → (if regField sib = 4 then none else some (regField sib)).map (BitVec.ofNat 32) = none :=
    fun h => absurd h (by decide)
  have hcond : (modeOf modrm = 0#8 ∧ rmOf sib = 5#32) ↔ (modField modrm = 0 ∧ rmField sib = 5) :=
    and_congr (modeOf_iff 0 modrm) (rmOf_iff 5 sib)
  by_cases hshort : tail.length < displacementBytes (modeOf modrm) 4#32
  · obtain ⟨e, he⟩ := readDisplacement_short (s := s) (k := k + 2) (modeOf modrm) 4#32
      (if modeOf modrm = 0#8 ∧ rmOf sib = 5#32 then 0xffffffff#32 else 4#32) hindex (by rw [htail]; exact hshort)
    rw [bind_error he, if_pos hshort]
  · have hrun := readDisplacement_run (s := s) (k := k + 2) (modeOf modrm) 4#32
      (if modeOf modrm = 0#8 ∧ rmOf sib = 5#32 then 0xffffffff#32 else 4#32) hindex
      (by rw [htail]; exact Nat.not_lt.mp hshort)
    have hfive : ¬(modeOf modrm = 0#8 ∧ 4#32 = 5#32) := fun h => absurd h.2 (by decide)
    rw [htail, if_neg hfive] at hrun
    rw [bind_run hrun, if_neg hshort]
    by_cases hbase : modField modrm = 0 ∧ rmField sib = 5
    · rw [if_pos (hcond.mpr hbase), if_pos hbase, Nat.add_assoc]
      rfl
    · rw [if_neg (mt hcond.mp hbase), if_neg hbase, Nat.add_assoc]
      rfl

end Operand

/-- The decoder reads an operand as the manual defines it exactly where no SIB byte is read amiss. -/
theorem readModrm_grammar (s : Input Byte) (k : ℕ) :
    readsOperand s k = definesOperand s k ↔ SibAgrees (s.data.drop (s.origin + k)) := by
  rcases hbytes : s.data.drop (s.origin + k) with - | ⟨modrm, rest⟩
  · obtain ⟨e, he⟩ := byte_nil hbytes
    refine iff_of_true ?_ trivial
    unfold readsOperand definesOperand
    rw [readModrm, bind_error he, hbytes]
    rfl
  by_cases hmod : modField modrm = 3
  · refine iff_of_true (readsOperand_register hbytes hmod) ?_
    cases rest with
    | nil => trivial
    | cons sib tail => exact .inl hmod
  by_cases hrm : rmField modrm = 4
  swap
  · refine iff_of_true (readsOperand_plain hbytes hmod hrm) ?_
    cases rest with
    | nil => trivial
    | cons sib tail => exact .inr (.inl hrm)
  cases rest with
  | nil => exact iff_of_true (readsOperand_sib_end hbytes hmod hrm rfl) trivial
  | cons sib tail =>
    have hdefines : definesOperand s k = (sibOperand modrm (sib :: tail)).map fun (reg, operand, length) =>
        (BitVec.ofNat 32 reg, operand.written, k + length) := by
      rw [definesOperand, hbytes, manualOperand, operandBehind, if_neg hmod, if_pos hrm]
    rw [readsOperand_sib hbytes hmod hrm rfl, hdefines, sibOperand, SibAgrees, sibAddress]
    dsimp only
    by_cases hbase : modField modrm = 0 ∧ rmField sib = 5
    · -- a displacement without a base is left in the slice
      have hagrees : ¬(modField modrm = 3 ∨ rmField modrm ≠ 4 ∨ (rmField sib = 4 ∧ modField sib ≤ 1) ∨
          (modField modrm ≠ 0 ∧ tail.length < displacementSize (modField modrm) (rmField sib))) := by
        rintro (h | h | ⟨h, -⟩ | ⟨h, -⟩)
        · exact hmod h
        · exact h hrm
        · omega
        · exact h hbase.1
      refine iff_of_false (fun heq => ?_) hagrees
      rw [hbase.1, hbase.2] at heq
      change some _ = Option.map _ (if tail.length < 4 then none else some _) at heq
      by_cases hshort : tail.length < 4
      · rw [if_pos hshort] at heq
        cases heq
      · rw [if_neg hshort, Option.map_some, Option.some.injEq, Prod.mk.injEq, Prod.mk.injEq] at heq
        have hlength : k + (2 + 0) = k + (2 + 4) := heq.2.2
        omega
    rw [displacementSize_sib hbase, if_neg hbase, if_neg hbase]
    by_cases hshort : tail.length < displacementSize (modField modrm) 4
    · rw [if_pos hshort, if_pos hshort]
      refine iff_of_true rfl (.inr (.inr (.inr ⟨fun hzero => ?_, hshort⟩)))
      rw [hzero] at hshort
      exact absurd hshort (Nat.not_lt_zero _)
    · rw [if_neg hshort, if_neg hshort, regOf_eq]
      simp only [Option.map_some, Option.some.injEq, Prod.mk.injEq, X86Operand.written, Operand.memory.injEq,
        MemoryOperand.mk.injEq, true_and, and_true, scale_iff, base_iff]
      exact ⟨fun h => .inr (.inr (.inl h)), fun h => by tauto⟩

/-- The address `[rax + rcx * 4]`, and the absolute address 0. -/
theorem readModrm_grammar_fails :
    (readsOperand ⟨[0x04#8, 0x88#8], 0⟩ 0 = some (0#32, .memory ⟨some 4#32, some 1#32, 3#32, 0#64⟩, 2) ∧
      definesOperand ⟨[0x04#8, 0x88#8], 0⟩ 0 = some (0#32, .memory ⟨some 0#32, some 1#32, 4#32, 0#64⟩, 2)) ∧
    readsOperand ⟨[0x04#8, 0x88#8], 0⟩ 0 ≠ definesOperand ⟨[0x04#8, 0x88#8], 0⟩ 0 ∧
    readsOperand ⟨[0x04#8, 0x25#8, 0#8, 0#8, 0#8, 0#8], 0⟩ 0 ≠
      definesOperand ⟨[0x04#8, 0x25#8, 0#8, 0#8, 0#8, 0#8], 0⟩ 0 := by
  decide

end Nextcore.Ise
