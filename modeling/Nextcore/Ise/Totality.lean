import Nextcore.Ise.Emulator
import Nextcore.Ise.Encoding

/-! The emulator on what the decoder hands over: a defect in one instruction, and none of them leaves an error with
changed registers. -/

namespace Nextcore.Ise.Emulator

open Parse Atomic

section Pieces

variable {inst : DecodedInstruction}

lemma reads_getGpr (index : U32) : Reads (getGpr index) := by
  unfold getGpr
  cases gprOf index with
  | some r => exact reads_state.bind fun _ => reads_pure _
  | none => exact reads_refuse _

lemma atomic_setGpr (index : U32) (value : U64) : AtomicAlways (setGpr index value) := by
  unfold setGpr
  cases gprOf index with
  | some r => exact (completes_update _).atomic
  | none => exact (reads_refuse _).atomic

lemma reads_getXmm (index : U32) : Reads (getXmm index) := by
  by_cases h : index.toNat < 16
  · rw [getXmm, dif_pos h]
    exact reads_state.bind fun _ => reads_pure _
  · rw [getXmm, dif_neg h]
    exact reads_refuse _

lemma atomic_setXmm (index : U32) (value : BitVec 128) : AtomicAlways (setXmm index value) := by
  by_cases h : index.toNat < 16
  · rw [setXmm, dif_pos h]
    exact (completes_update _).atomic
  · rw [setXmm, dif_neg h]
    exact (reads_refuse _).atomic

lemma reads_readOperand (which : ℕ) : Reads (readOperand inst which) := by
  unfold readOperand
  rcases inst.operands[which]? with - | r | v | m
  · exact reads_pure _
  · exact reads_getGpr r
  · exact reads_pure v
  · exact reads_refuse _

lemma atomic_writeDst (which : ℕ) (value : U64) : AtomicAlways (writeDst inst which value) := by
  unfold writeDst
  rcases inst.operands[which]? with - | r | v | m
  · exact (reads_refuse _).atomic
  · exact atomic_setGpr r value
  · exact (reads_refuse _).atomic
  · exact (reads_refuse _).atomic

lemma completes_updateFlags (cf zf sf of : Bool) : Completes (updateFlags cf zf sf of) := completes_update _

lemma atomic_commit (value : U64) (cf zf sf of : Bool) :
    AtomicAlways (writeDst inst 0 value >>= fun _ => updateFlags cf zf sf of) :=
  (atomic_writeDst 0 value).bind_completes fun _ => completes_updateFlags cf zf sf of

end Pieces

/-! The shifts and the lanes of what is not 256 bits wide are in bounds. -/

lemma shifted_ok (left : Bool) (value : U64) {count : ℕ} (h : count < 64) : ∃ r, shifted left value count = .ok r := by
  by_cases hzero : count = 0
  · exact ⟨_, by rw [shifted, if_pos hzero]; rfl⟩
  rw [shifted, if_neg hzero]
  cases left with
  | true =>
    rw [if_pos rfl, Checked.subNat_ok (by omega), Checked.ok_bind, Checked.shr_ok value (by omega), Checked.ok_bind,
      Checked.shl_ok value h]
    exact ⟨_, rfl⟩
  | false =>
    rw [if_neg Bool.false_ne_true, Checked.subNat_ok (by omega), Checked.ok_bind, Checked.shr_ok value (by omega),
      Checked.ok_bind, Checked.shr_ok value h]
    exact ⟨_, rfl⟩

lemma count_lt (count : U64) : (count.truncate 32 &&& 0x3f#32).toNat < 64 := by
  rw [BitVec.toNat_and]
  exact lt_of_le_of_lt Nat.and_le_right (by decide)

lemma fieldAt_ok (x : BitVec 128) {bits i : ℕ} (mask : BitVec 128) (h : i * bits < 128) :
    fieldAt x bits mask i = .ok ((x >>> (i * bits)) &&& mask) := by
  rw [fieldAt, Checked.shr_ok x h]
  rfl

lemma widenBytes_ok (s : BitVec 128) {n : ℕ} (h : n ≤ 8) : ∃ r, widenBytes s n = .ok r := by
  induction n with
  | zero => exact ⟨0#128, rfl⟩
  | succ n ih =>
    obtain ⟨r, hr⟩ := ih (by omega)
    rw [widenBytes, hr, Checked.ok_bind, fieldAt_ok s _ (by omega), Checked.ok_bind, Checked.shl_ok _ (by omega)]
    exact ⟨_, rfl⟩

section Lanes

variable (addF32 : U32 → U32 → U32) (a b : BitVec 128)

lemma addLanes_ok {n : ℕ} (h : n ≤ 4) : ∃ out, addLanes addF32 a b n = .ok out := by
  induction n with
  | zero => exact ⟨[], rfl⟩
  | succ n ih =>
    obtain ⟨out, hout⟩ := ih (by omega)
    rw [addLanes, hout, Checked.ok_bind, fieldAt_ok a _ (by omega), Checked.ok_bind, fieldAt_ok b _ (by omega)]
    exact ⟨_, rfl⟩

lemma joinLanes_ok (out : List U32) {n : ℕ} (h : n ≤ 4) : ∃ r, joinLanes out n = .ok r := by
  induction n with
  | zero => exact ⟨0#128, rfl⟩
  | succ n ih =>
    obtain ⟨r, hr⟩ := ih (by omega)
    rw [joinLanes, hr, Checked.ok_bind, Checked.shl_ok _ (by omega)]
    exact ⟨_, rfl⟩

lemma addLanes_defect (n : ℕ) : addLanes addF32 a b (n + 5) = .error .shift := by
  induction n with
  | zero =>
    obtain ⟨out, hout⟩ := addLanes_ok addF32 a b (le_refl 4)
    rw [addLanes, hout, Checked.ok_bind, fieldAt, Checked.shr, if_neg (by decide)]
    rfl
  | succ n ih =>
    rw [addLanes, ih]
    rfl

lemma vaddpsLanes_ok : ∃ r, vaddpsLanes addF32 4 a b = .ok r := by
  obtain ⟨out, hout⟩ := addLanes_ok addF32 a b (le_refl 4)
  rw [vaddpsLanes, hout, Checked.ok_bind]
  exact joinLanes_ok out (le_refl 4)

lemma vaddpsLanes_defect : vaddpsLanes addF32 8 a b = .error .shift := by
  rw [vaddpsLanes, addLanes_defect addF32 a b 3]
  rfl

end Lanes

lemma laneProduct_ok (a b : BitVec 128) {dstLane srcLane : ℕ} (hdst : dstLane < 2) (hsrc : srcLane < 2) :
    laneProduct a b dstLane srcLane =
      .ok (((a >>> (dstLane * 64)) &&& laneMask) * ((b >>> (srcLane * 64)) &&& laneMask)) := by
  have hlt (x : BitVec 128) : (x &&& laneMask).toNat < 2 ^ 64 := by
    rw [BitVec.toNat_and]
    exact lt_of_le_of_lt Nat.and_le_right (by decide)
  have hmul : ((a >>> (dstLane * 64)) &&& laneMask).toNat * ((b >>> (srcLane * 64)) &&& laneMask).toNat <
      2 ^ 64 * 2 ^ 64 := Nat.mul_lt_mul'' (hlt _) (hlt _)
  rw [laneProduct, fieldAt_ok a _ (by omega), Checked.ok_bind, fieldAt_ok b _ (by omega), Checked.ok_bind,
    Checked.mul_ok hmul]

lemma bit_lt (x : U64) : (x &&& 1#64).toNat < 2 := by
  rw [BitVec.toNat_and]
  exact lt_of_le_of_lt Nat.and_le_right (by decide)

/-! The instructions. -/

section Instructions

variable {inst : DecodedInstruction} {regs : Registers}

lemma atomic_emulateMov : AtomicAt (emulateMov inst) regs :=
  (reads_readOperand 1).bind_atomic fun _ _ => atomic_writeDst 0 _ regs

lemma atomic_emulateBinary (op : BinOp) : AtomicAt (emulateBinary inst op) regs := by
  refine (reads_readOperand 0).bind_atomic fun lhs _ => (reads_readOperand 1).bind_atomic fun rhs _ => ?_
  obtain ⟨result, cf, of, zf, sf⟩ := binary op lhs rhs
  exact atomic_commit result cf zf sf of regs

lemma atomic_emulateCmp : AtomicAt (emulateCmp inst) regs := by
  refine (reads_readOperand 0).bind_atomic fun lhs _ => (reads_readOperand 1).bind_atomic fun rhs _ => ?_
  exact (completes_updateFlags _ _ _ _).atomic regs

lemma atomic_emulateShift (left : Bool) : AtomicAt (emulateShift inst left) regs := by
  refine (reads_readOperand 0).bind_atomic fun value _ => (reads_readOperand 1).bind_atomic fun count _ => ?_
  refine (reads_checked (shifted_ok left value (count_lt count))).bind_atomic fun r _ => ?_
  obtain ⟨result, cf⟩ := r
  exact atomic_commit result cf _ _ false regs

lemma atomic_emulatePopcnt : AtomicAt (emulatePopcnt inst) regs :=
  (reads_readOperand 1).bind_atomic fun _ _ => atomic_commit _ _ _ _ _ regs

lemma atomic_emulateMovXmm : AtomicAt (emulateMovXmm inst) regs :=
  (reads_getXmm _).bind_atomic fun v _ => atomic_setXmm _ v regs

lemma atomic_emulatePmovsxbw : AtomicAt (emulatePmovsxbw inst) regs :=
  (reads_getXmm _).bind_atomic fun s _ => (reads_checked (widenBytes_ok s (le_refl 8))).bind_atomic fun r _ =>
    atomic_setXmm _ r regs

lemma atomic_emulatePclmulqdq : AtomicAt (emulatePclmulqdq inst) regs :=
  (reads_getXmm _).bind_atomic fun a _ => (reads_getXmm _).bind_atomic fun b _ =>
    (reads_checked ⟨_, laneProduct_ok a b (bit_lt _) (bit_lt _)⟩).bind_atomic fun r _ => atomic_setXmm _ r regs

lemma atomic_emulateVaddps (addF32 : U32 → U32 → U32) (h : inst.operandSize ≠ .size256) :
    AtomicAt (emulateVaddps addF32 inst) regs := by
  refine (reads_getXmm _).bind_atomic fun a _ => (reads_getXmm _).bind_atomic fun b _ => ?_
  rw [vaddpsCount, if_neg h]
  exact (reads_checked (vaddpsLanes_ok addF32 a b)).bind_atomic fun r _ => atomic_setXmm _ r regs

end Instructions

/-! What the decoder makes of VADDPS. -/

def VaddpsOperands (inst : DecodedInstruction) : Prop :=
  inst.name = .vaddps → inst.regIndex = 0#32 ∧ (vaddpsSource inst).toNat < 16

lemma vaddpsOperands_of_ne {inst : DecodedInstruction} (h : inst.name ≠ .vaddps) : VaddpsOperands inst :=
  fun hname => absurd hname h

lemma tableName_ne {opcode : U32} {name : OpcodeName} (h : tableName opcode = some name) : name ≠ .vaddps := by
  rintro rfl
  unfold tableName at h
  split_ifs at h <;> cases h

lemma immediateName_ne (reg : U32) : immediateName reg ≠ .vaddps := by
  unfold immediateName
  split_ifs <;> decide

lemma yields_afterOpcode (rex mandatory : Byte) (opcode : U32) :
    Yields (fun inst => inst.name ≠ .vaddps) (afterOpcode rex mandatory opcode) := by
  have hescape (second : Byte) :
      Yields (fun inst => inst.name ≠ .vaddps) (afterEscape (rex &&& 8#8 ≠ 0#8) mandatory second) :=
    (yields_afterEscape _ _ _).mono fun inst hname => ne_of_mem_of_not_mem hname (by decide)
  unfold afterOpcode
  cases hname : tableName opcode with
  | some name => exact .bind fun _ => .bind fun _ => yields_pure (tableName_ne hname)
  | none =>
    exact (Yields.bind fun _ => .bind fun _ => .bind fun _ => yields_pure (immediateName_ne _)).ite
      (((yields_decodeShift opcode).mono fun inst hname => ne_of_mem_of_not_mem hname (by decide)).ite
        ((Yields.bind fun second => hescape second).ite
          ((Yields.bind fun _ => yields_pure (by simp)).ite (yields_fail _))))

lemma vexVvvv_lt (b : Byte) : (vexVvvv b).toNat < 16 := by
  rw [vexVvvv, BitVec.toNat_and]
  exact lt_of_le_of_lt Nat.and_le_right (by decide)

lemma yields_decodeAt : Yields VaddpsOperands decodeAt := by
  refine .bind fun first => ?_
  refine Yields.ite (.bind fun bs => yields_pure fun _ => ⟨rfl, vexVvvv_lt _⟩) ?_
  refine Yields.ite (.bind fun bs => yields_pure (vaddpsOperands_of_ne (by simp))) ?_
  exact .bind fun _ => .bind fun _ => (yields_afterOpcode _ _ _).mono fun _ => vaddpsOperands_of_ne

lemma decode_vaddps {data : List Byte} {offset : ℕ} {inst : DecodedInstruction} (h : decode data offset = .ok inst) :
    VaddpsOperands inst := yields_decodeAt _ _ _ _ (decode_ok.mp h)

lemma getXmm_run {index : U32} (h : index.toNat < 16) (regs : Registers) :
    getXmm index regs = .ok (.ok (regs.xmm ⟨index.toNat, h⟩), regs) := by
  rw [getXmm, dif_pos h]
  rfl

lemma emulateVaddps_defect (addF32 : U32 → U32 → U32) {inst : DecodedInstruction} (hreg : inst.regIndex = 0#32)
    (hsource : (vaddpsSource inst).toNat < 16) (hsize : inst.operandSize = .size256) (regs : Registers) :
    emulateVaddps addF32 inst regs = .error .shift := by
  have hindex : inst.regIndex.toNat < 16 := by
    rw [hreg]
    decide
  rw [emulateVaddps, bind_run (getXmm_run hindex regs), bind_run (getXmm_run hsource regs), vaddpsCount, if_pos hsize,
    vaddpsLanes_defect]
  rfl

/-- The emulator is total and atomic on what the decoder produces, VADDPS of 256 bits apart. -/
theorem emulateIse_atomic (addF32 : U32 → U32 → U32) {data : List Byte} {offset : ℕ} {inst : DecodedInstruction}
    (h : decode data offset = .ok inst) (regs : Registers) :
    AtomicAt (emulateIse addF32 inst) regs ↔ ¬(inst.name = .vaddps ∧ inst.operandSize = .size256) := by
  constructor
  · rintro ⟨r, regs', hrun, -⟩ ⟨hname, hsize⟩
    obtain ⟨hreg, hsource⟩ := decode_vaddps h hname
    rw [emulateIse, hname] at hrun
    dsimp only at hrun
    rw [emulateVaddps_defect addF32 hreg hsource hsize] at hrun
    cases hrun
  · intro hother
    unfold emulateIse
    cases hname : inst.name with
    | add => exact atomic_emulateBinary .add
    | sub => exact atomic_emulateBinary .sub
    | xor => exact atomic_emulateBinary .xor
    | and => exact atomic_emulateBinary .and
    | or => exact atomic_emulateBinary .or
    | mov => exact atomic_emulateMov
    | cmp => exact atomic_emulateCmp
    | shl => exact atomic_emulateShift true
    | shr => exact atomic_emulateShift false
    | popcnt => exact atomic_emulatePopcnt
    | pclmulqdq => exact atomic_emulatePclmulqdq
    | pmovsxbw => exact atomic_emulatePmovsxbw
    | movdqa => exact atomic_emulateMovXmm
    | movdqu => exact atomic_emulateMovXmm
    | vzeroUpper => exact (completes_update _).atomic regs
    | vaddps => exact atomic_emulateVaddps addF32 fun hsize => hother ⟨hname, hsize⟩
    | nop => exact (reads_pure ()).atomic regs
    | unknown => exact (reads_refuse _).atomic regs

def vaddps (size : OperandSize) : DecodedInstruction :=
  ⟨0x58#32, .vaddps, size, [.register 0#32, .register 1#32], true, false, 3, 0#32, 1#32, none⟩

-- VADDPS of 128 bits
theorem emulateIse_atomic_zero : decode [0xc5#8, 0xf0#8, 0x58#8] 0 = .ok (vaddps .size128) ∧
    AtomicAt (emulateIse (fun a b => a ||| b) (vaddps .size128)) Registers.zero := by
  have hdecode : decode [0xc5#8, 0xf0#8, 0x58#8] 0 = .ok (vaddps .size128) := rfl
  exact ⟨hdecode, (emulateIse_atomic (fun a b => a ||| b) hdecode Registers.zero).mpr (by decide)⟩

/-- VADDPS of 256 bits shifts its source out of its 128 bits. -/
theorem emulateIse_not_atomic : decode [0xc5#8, 0xf4#8, 0x58#8] 0 = .ok (vaddps .size256) ∧
    ∀ addF32 : U32 → U32 → U32, emulateIse addF32 (vaddps .size256) Registers.zero = .error .shift ∧
      ¬AtomicAt (emulateIse addF32 (vaddps .size256)) Registers.zero := by
  refine ⟨rfl, fun addF32 => ?_⟩
  have hdefect : emulateIse addF32 (vaddps .size256) Registers.zero = .error .shift :=
    emulateVaddps_defect addF32 rfl (by decide) rfl Registers.zero
  refine ⟨hdefect, ?_⟩
  rintro ⟨r, regs', hrun, -⟩
  rw [hdefect] at hrun
  cases hrun

end Nextcore.Ise.Emulator
