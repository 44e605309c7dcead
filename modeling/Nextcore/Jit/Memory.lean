import Nextcore.Jit.Control

/-! The inline loads and stores: every check comes before the access, and a failed
check leaves through the block that records the address. -/

namespace Nextcore.Jit

open Cpu Emit X86 Bytes

def inRam (base size address : U64) (width : U32) : Bool :=
  base ≤ address ∧ width.zeroExtend 64 ≤ size ∧ address - base ≤ size - width.zeroExtend 64

def testFlags (a : U64) (mask : Byte) : Flags := (aluAt .test .byte (Size.byte.low a) (mask.zeroExtend 64)).2

lemma condition_testFlags (a : U64) (mask : Byte) :
    condition (testFlags a mask) 5 = some (!decide (a &&& mask.zeroExtend 64 = 0#64)) := by
  have hbits : BitVec.zeroExtend 64 ((a.truncate 8 : Byte) &&& mask) = a &&& mask.zeroExtend 64 := by
    apply BitVec.eq_of_getLsbD_eq
    intro i hi
    simp only [BitVec.truncate_eq_setWidth, BitVec.getLsbD_setWidth, BitVec.getLsbD_and]
    by_cases h8 : i < 8
    · simp [h8, hi]
    · simp [BitVec.getLsbD_of_ge mask i (by omega)]
  have hzero : (a.truncate 8 : Byte) &&& mask = 0#8 ↔ a &&& mask.zeroExtend 64 = 0#64 := by
    rw [← hbits]
    constructor
    · intro h
      rw [h]
      rfl
    · intro h
      have h8 := congrArg (BitVec.truncate 8) h
      rwa [BitVec.truncate_eq_setWidth, BitVec.setWidth_setWidth_of_le _ (by decide), BitVec.setWidth_eq] at h8
  have hbyte : ∀ x : Byte, (BitVec.truncate 8 (BitVec.zeroExtend 64 x) : Byte) = x := by
    intro x
    rw [BitVec.truncate_eq_setWidth, BitVec.setWidth_setWidth_of_le _ (by decide), BitVec.setWidth_eq]
  change some (!decide ((BitVec.truncate 8 (BitVec.zeroExtend 64 (a.truncate 8 : Byte)) : Byte) &&&
    BitVec.truncate 8 (mask.zeroExtend 64) = 0#8)) = _
  simp only [hbyte, hzero]

section Steps

variable {host : Host} {rax rcx rdx r8 r9 r10 r11 : Value} {f : Flags} {g : VfCpu} {ram rest : List Byte} {a b c : U64}

lemma run_subR9 :
    run (layout host) ([0x49#8, 0x29#8, 0xc1#8] ++ rest) ⟨.word a, rcx, rdx, r8, .word b, r10, r11, f, g, ram⟩ =
      run (layout host) rest ⟨.word a, rcx, rdx, r8, .word (b - a), r10, r11, aluFlags .sub true b a, g, ram⟩ :=
  run_execute (i := .alu .sub .qword (.reg .r9) (.reg .rax)) rfl rfl

lemma run_compareR8 (v : U32) :
    run (layout host) (aluSmall 0xf8#8 v ++ rest) ⟨rax, rcx, rdx, .word a, r9, r10, r11, f, g, ram⟩ =
      run (layout host) rest ⟨rax, rcx, rdx, .word a, r9, r10, r11,
        aluFlags .cmp true a ((v.truncate 8 : Byte).signExtend 64), g, ram⟩ :=
  run_execute (i := .aluImm .cmp .qword (.reg .r8) ((v.truncate 8 : Byte).signExtend 64)) rfl rfl

lemma run_moveR8 :
    run (layout host) ([0x4d#8, 0x89#8, 0xc2#8] ++ rest) ⟨rax, rcx, rdx, r8, r9, r10, r11, f, g, ram⟩ =
      run (layout host) rest ⟨rax, rcx, rdx, r8, r9, r8, r11, f, g, ram⟩ :=
  run_execute (i := .mov .qword (.reg .r10) (.reg .r8)) rfl rfl

lemma run_subR10 (v : U32) :
    run (layout host) (aluSmall 0xea#8 v ++ rest) ⟨rax, rcx, rdx, r8, r9, .word a, r11, f, g, ram⟩ =
      run (layout host) rest ⟨rax, rcx, rdx, r8, r9, .word (a - (v.truncate 8 : Byte).signExtend 64), r11,
        aluFlags .sub true a ((v.truncate 8 : Byte).signExtend 64), g, ram⟩ :=
  run_execute (i := .aluImm .sub .qword (.reg .r10) ((v.truncate 8 : Byte).signExtend 64)) rfl rfl

lemma run_compareR9 :
    run (layout host) (compareR9 ++ rest) ⟨rax, rcx, rdx, r8, .word a, .word b, r11, f, g, ram⟩ =
      run (layout host) rest ⟨rax, rcx, rdx, r8, .word a, .word b, r11, aluFlags .cmp true a b, g, ram⟩ :=
  run_execute (i := .alu .cmp .qword (.reg .r9) (.reg .r10)) rfl rfl

lemma run_addR11 (v : U32) :
    run (layout host) (aluSmall 0xc3#8 v ++ rest) ⟨rax, rcx, rdx, r8, r9, r10, .word a, f, g, ram⟩ =
      run (layout host) rest ⟨rax, rcx, rdx, r8, r9, r10, .word (a + (v.truncate 8 : Byte).signExtend 64),
        aluFlags .add true a ((v.truncate 8 : Byte).signExtend 64), g, ram⟩ :=
  run_execute (i := .aluImm .add .qword (.reg .r11) ((v.truncate 8 : Byte).signExtend 64)) rfl rfl

lemma run_subR11 (v : U32) :
    run (layout host) (aluSmall 0xeb#8 v ++ rest) ⟨rax, rcx, rdx, r8, r9, r10, .word a, f, g, ram⟩ =
      run (layout host) rest ⟨rax, rcx, rdx, r8, r9, r10, .word (a - (v.truncate 8 : Byte).signExtend 64),
        aluFlags .sub true a ((v.truncate 8 : Byte).signExtend 64), g, ram⟩ :=
  run_execute (i := .aluImm .sub .qword (.reg .r11) ((v.truncate 8 : Byte).signExtend 64)) rfl rfl

lemma run_addRax (v : U32) :
    run (layout host) (addRax v ++ rest) ⟨.word a, rcx, rdx, r8, r9, r10, r11, f, g, ram⟩ =
      run (layout host) rest ⟨.word (a + v.signExtend 64), rcx, rdx, r8, r9, r10, r11,
        aluFlags .add true a (v.signExtend 64), g, ram⟩ :=
  run_addSubImmediate false true v

lemma run_loadR11 :
    run (layout host) ([0x4c#8, 0x89#8, 0xd8#8] ++ rest) ⟨rax, rcx, rdx, r8, r9, r10, r11, f, g, ram⟩ =
      run (layout host) rest ⟨r11, rcx, rdx, r8, r9, r10, r11, f, g, ram⟩ :=
  run_execute (i := .mov .qword (.reg .rax) (.reg .r11)) rfl rfl

lemma run_addR11Rax :
    run (layout host) ([0x4c#8, 0x01#8, 0xd8#8] ++ rest) ⟨.word a, rcx, rdx, r8, r9, r10, .word b, f, g, ram⟩ =
      run (layout host) rest ⟨.word (a + b), rcx, rdx, r8, r9, r10, .word b, aluFlags .add true a b, g, ram⟩ :=
  run_execute (i := .alu .add .qword (.reg .rax) (.reg .r11)) rfl rfl

lemma run_signExtend :
    run (layout host) ([0x48#8, 0x63#8, 0xc0#8] ++ rest) ⟨.word a, rcx, rdx, r8, r9, r10, r11, f, g, ram⟩ =
      run (layout host) rest ⟨.word ((a.truncate 32 : U32).signExtend 64), rcx, rdx, r8, r9, r10, r11, f, g, ram⟩ := by
  refine run_execute (i := .extend true .dword .qword .rax (.reg .rax)) rfl ?_
  refine congrArg (fun v => some (Machine.mk (.word (BitVec.signExtend 64 v)) _ _ _ _ _ _ _ _ _)) ?_
  exact truncate_low a

lemma run_testAl (mask : Byte) :
    run (layout host) (testAl mask ++ rest) ⟨.word a, rcx, rdx, r8, r9, r10, r11, f, g, ram⟩ =
      run (layout host) rest ⟨.word a, rcx, rdx, r8, r9, r10, r11, testFlags a mask, g, ram⟩ :=
  run_execute (i := .aluImm .test .byte (.reg .rax) (mask.zeroExtend 64)) rfl rfl

end Steps

lemma small_immediate {v : U32} (h : v.toNat < 128) : (v.truncate 8 : Byte).signExtend 64 = v.zeroExtend 64 := by
  have hbyte : (v.truncate 8 : Byte).toNat = v.toNat := by
    rw [BitVec.truncate_eq_setWidth, BitVec.toNat_setWidth]
    omega
  have hmsb : (v.truncate 8 : Byte).msb = false := by
    rw [BitVec.msb_eq_false_iff_two_mul_lt, hbyte]
    omega
  rw [BitVec.signExtend_eq_setWidth_of_msb_false hmsb]
  apply BitVec.eq_of_toNat_eq
  rw [BitVec.toNat_setWidth, hbyte, BitVec.toNat_setWidth]

lemma carry_sub (a b : U64) : condition (aluFlags .sub true a b) 2 = some (decide (a < b)) := rfl

lemma carry_cmp (a b : U64) : condition (aluFlags .cmp true a b) 2 = some (decide (a < b)) := rfl

lemma above_cmp (a b : U64) : condition (aluFlags .cmp true a b) 7 = some (decide (b < a)) := by
  change some (!(decide (a < b) || decide (a - b = 0#64))) = some (decide (b < a))
  congr 1
  rw [Bool.eq_iff_iff]
  simp only [Bool.not_eq_true', Bool.or_eq_false_iff, decide_eq_false_iff_not, decide_eq_true_eq]
  constructor
  · rintro ⟨h1, h2⟩
    bv_omega
  · intro h
    exact ⟨by bv_omega, by bv_omega⟩

lemma carry_add (a b : U64) : condition (aluFlags .add true a b) 2 = some (a.uaddOverflow b) := rfl

section Checks

variable {host : Host} {rax rcx rdx r8 r9 r10 r11 : Value} {f : Flags} {g : VfCpu} {ram : List Byte}

lemma falls_elementChecks {base size address : U64} {width : U32} (hw : width.toNat < 128)
    (hin : inRam base size address width = true) :
    ∃ f' : Flags, Falls (layout host) (elementChecks base width)
      ⟨rax, rcx, rdx, .word size, .word address, r10, r11, f, g, ram⟩
      ⟨.word base, rcx, rdx, .word size, .word (address - base), .word (size - width.zeroExtend 64), r11, f', g,
        ram⟩ := by
  simp only [inRam, decide_eq_true_eq] at hin
  obtain ⟨h1, h2, h3⟩ := hin
  refine ⟨aluFlags .cmp true (address - base) (size - width.zeroExtend 64), ?_⟩
  refine .code (n := ⟨.word base, rcx, rdx, .word size, .word (address - base), r10, r11,
    aluFlags .sub true address base, g, ram⟩) (fun rest => ?_) ?_
  · rw [List.append_assoc, run_imm, run_subR9]
  refine .pass rfl ((carry_sub _ _).trans (by rw [decide_eq_false (BitVec.not_lt.mpr h1)])) _ ?_
  refine .code (fun rest => run_compareR8 width) ?_
  rw [small_immediate hw]
  refine .pass rfl ((carry_cmp _ _).trans (by rw [decide_eq_false (BitVec.not_lt.mpr h2)])) _ ?_
  refine .code (n := ⟨.word base, rcx, rdx, .word size, .word (address - base), .word (size - width.zeroExtend 64),
    r11, aluFlags .cmp true (address - base) (size - width.zeroExtend 64), g, ram⟩) (fun rest => ?_) ?_
  · rw [List.append_assoc, List.append_assoc, run_moveR8, run_subR10, run_compareR9, small_immediate hw]
  exact .pass rfl ((above_cmp _ _).trans (by rw [decide_eq_false (BitVec.not_lt.mpr h3)])) _ falls_nil

lemma jumps_elementChecks {base size address : U64} {width : U32} (hw : width.toNat < 128)
    (hin : inRam base size address width = false) :
    ∃ (rax' r9' r10' : Value) (f' : Flags), Jumps (layout host) (elementChecks base width)
      ⟨rax, rcx, rdx, .word size, .word address, r10, r11, f, g, ram⟩ .data
      ⟨rax', rcx, rdx, .word size, r9', r10', r11, f', g, ram⟩ := by
  have hsub : ∀ rest, run (layout host) (imm base ++ [0x49#8, 0x29#8, 0xc1#8] ++ rest)
      ⟨rax, rcx, rdx, .word size, .word address, r10, r11, f, g, ram⟩ =
      run (layout host) rest ⟨.word base, rcx, rdx, .word size, .word (address - base), r10, r11,
        aluFlags .sub true address base, g, ram⟩ := by
    intro rest
    rw [List.append_assoc, run_imm, run_subR9]
  by_cases h1 : address < base
  · exact ⟨_, _, _, _, .code hsub (.take rfl ((carry_sub _ _).trans (by rw [decide_eq_true h1])) _)⟩
  have hpass := (carry_sub address base).trans (by rw [decide_eq_false h1])
  by_cases h2 : size < width.zeroExtend 64
  · refine ⟨.word base, .word (address - base), r10, aluFlags .cmp true size (width.zeroExtend 64),
      .code hsub (.pass rfl hpass _ (.code (fun rest => run_compareR8 width) ?_))⟩
    rw [small_immediate hw]
    exact .take rfl ((carry_cmp _ _).trans (by rw [decide_eq_true h2])) _
  have h3 : size - width.zeroExtend 64 < address - base := by
    simp only [inRam, decide_eq_false_iff_not] at hin
    by_contra h3
    exact hin ⟨BitVec.not_lt.mp h1, BitVec.not_lt.mp h2, BitVec.not_lt.mp h3⟩
  refine ⟨.word base, .word (address - base), .word (size - width.zeroExtend 64),
    aluFlags .cmp true (address - base) (size - width.zeroExtend 64),
    .code hsub (.pass rfl hpass _ (.code (fun rest => run_compareR8 width) ?_))⟩
  rw [small_immediate hw]
  refine .pass rfl ((carry_cmp _ _).trans (by rw [decide_eq_false h2])) _ ?_
  refine .code (n := ⟨.word base, rcx, rdx, .word size, .word (address - base), .word (size - width.zeroExtend 64),
    r11, aluFlags .cmp true (address - base) (size - width.zeroExtend 64), g, ram⟩) (fun rest => ?_) ?_
  · rw [List.append_assoc, List.append_assoc, run_moveR8, run_subR10, run_compareR9, small_immediate hw]
  exact .take rfl ((above_cmp _ _).trans (by rw [decide_eq_true h3])) _

end Checks

def faultBlocks (pc : U64) (n : U32) (sp alignment : Bool) : List Byte :=
  (if sp then faultBlock pc n .spAlignment else []) ++
    ((if alignment then faultBlock pc n .alignment else []) ++ faultBlock pc n .data)

def blockAfter (body : List Byte) (sp alignment : Bool) : Block → ℕ
  | .spAlignment => body.length + 5
  | .alignment => body.length + 5 + (if sp then 41 else 0)
  | .data => body.length + 5 + (if sp then 41 else 0) + (if alignment then 41 else 0)

def checkedCode (pieces : List (Piece Block)) (body : List Byte) (pc : U64) (n : U32) (sp alignment : Bool) :
    List Byte :=
  resolved (blockAfter body sp alignment) pieces ++ (body ++ ([0xe9#8] ++
    (le32 (BitVec.ofNat 32 (faultBlocks pc n sp alignment).length) ++ faultBlocks pc n sp alignment)))

lemma emit_position (bs : List Byte) : position.emit bs = some (bs.length, bs) := rfl

lemma length_faultBlockIf (p : Bool) (pc : U64) (n : U32) (block : Block) :
    (if p then faultBlock pc n block else []).length = if p then 41 else 0 := by
  cases p <;> rfl

lemma length_blocks (pc : U64) (n : U32) (sp alignment : Bool) : (faultBlocks pc n sp alignment).length =
    (if sp then 41 else 0) + ((if alignment then 41 else 0) + 41) := by
  simp only [faultBlocks, List.length_append, length_faultBlockIf, length_faultBlock]

lemma emits_checked (pieces : List (Piece Block)) (body : List Byte) (pc : U64) (n : U32) (sp alignment : Bool) :
    Emits (checked pieces body pc n sp alignment) true (checkedCode pieces body pc n sp alignment) := by
  intro bs
  simp only [checked, emit_bind, emit_emitPieces, emit_bytes, emit_hole, emit_position, Option.bind_some]
  have hcode : bs ++ unresolved pieces ++ (body ++ [0xe9#8]) ++ le32 0#32 ++
      (if sp then faultBlock pc n .spAlignment else []) ++ (if alignment then faultBlock pc n .alignment else []) ++
      faultBlock pc n .data = bs ++ unresolved pieces ++ (body ++ [0xe9#8] ++ (le32 0#32 ++
        faultBlocks pc n sp alignment)) := by
    simp only [faultBlocks, List.append_assoc]
  have hlength : (unresolved pieces).length = piecesLength pieces := length_unresolved pieces
  rw [hcode, @emit_fixAll _ pieces _ (blockAfter body sp alignment) bs, Option.bind_some,
    @emit_fix _ (bs ++ resolved (blockAfter body sp alignment) pieces ++ (body ++ [0xe9#8]))
        (faultBlocks pc n sp alignment)]
  · change some (true, _) = _
    simp only [checkedCode, List.append_assoc]
  · simp only [List.length_append, length_resolved, hlength]
  · simp only [List.append_assoc]
  · intro label
    cases label with
    | spAlignment =>
      simp only [List.length_append, hlength, blockAfter, le32, List.length_cons, List.length_nil]
      omega
    | alignment =>
      simp only [List.length_append, hlength, blockAfter, le32, List.length_cons, List.length_nil, length_faultBlockIf]
      omega
    | data =>
      simp only [List.length_append, hlength, blockAfter, le32, List.length_cons, List.length_nil, length_faultBlockIf]
      omega

section Checked

variable {host : Host} {rax rcx rdx r8 r9 r10 r11 : Value} {f : Flags} {g : VfCpu} {ram rest : List Byte}
  {pieces : List (Piece Block)} {body : List Byte} {pc : U64} {n : U32} {sp alignment : Bool} {m m' m'' : Machine VfCpu}

lemma drop_blockAfter {label : Block} (hsp : label = .spAlignment → sp = true)
    (halignment : label = .alignment → alignment = true) (skip : U32) :
    ∃ behind, (body ++ ([0xe9#8] ++ (le32 skip ++ faultBlocks pc n sp alignment)) ++ rest).drop
      (blockAfter body sp alignment label) = faultBlock pc n label ++ behind := by
  have hdrop : ∀ (front back : List Byte) (k : ℕ), front.length = k → (front ++ back).drop k = back := by
    intro front back k hk
    rw [← hk, List.drop_left]
  have hjump : (body ++ ([0xe9#8] ++ le32 skip)).length = body.length + 5 := by
    simp only [List.length_append, le32, List.length_cons, List.length_nil]
  cases label with
  | spAlignment =>
    obtain rfl := hsp rfl
    refine ⟨(if alignment then faultBlock pc n .alignment else []) ++ faultBlock pc n .data ++ rest, ?_⟩
    rw [show body ++ ([0xe9#8] ++ (le32 skip ++ faultBlocks pc n true alignment)) ++ rest =
      (body ++ ([0xe9#8] ++ le32 skip)) ++ (faultBlock pc n .spAlignment ++
        ((if alignment then faultBlock pc n .alignment else []) ++ faultBlock pc n .data ++ rest)) by
      simp only [faultBlocks, if_true, List.append_assoc]]
    exact hdrop _ _ _ hjump
  | alignment =>
    obtain rfl := halignment rfl
    refine ⟨faultBlock pc n .data ++ rest, ?_⟩
    rw [show body ++ ([0xe9#8] ++ (le32 skip ++ faultBlocks pc n sp true)) ++ rest =
      (body ++ ([0xe9#8] ++ le32 skip) ++ (if sp then faultBlock pc n .spAlignment else [])) ++
        (faultBlock pc n .alignment ++ (faultBlock pc n .data ++ rest)) by
      simp only [faultBlocks, if_true, List.append_assoc]]
    refine hdrop _ _ _ ?_
    rw [List.length_append, hjump, length_faultBlockIf, blockAfter]
  | data =>
    refine ⟨rest, ?_⟩
    rw [show body ++ ([0xe9#8] ++ (le32 skip ++ faultBlocks pc n sp alignment)) ++ rest =
      (body ++ ([0xe9#8] ++ le32 skip) ++ (if sp then faultBlock pc n .spAlignment else []) ++
        (if alignment then faultBlock pc n .alignment else [])) ++ (faultBlock pc n .data ++ rest) by
      simp only [faultBlocks, List.append_assoc]]
    refine hdrop _ _ _ ?_
    rw [List.length_append, List.length_append, hjump, length_faultBlockIf, length_faultBlockIf, blockAfter]

lemma inReach_checked (hlength : piecesLength pieces + body.length < 1000) (skip : U32) :
    InReach pieces (blockAfter body sp alignment)
      (body ++ ([0xe9#8] ++ (le32 skip ++ faultBlocks pc n sp alignment)) ++ rest) := by
  intro label
  simp only [List.length_append, length_blocks, le32, List.length_cons, List.length_nil]
  cases label with
  | spAlignment =>
    simp only [blockAfter]
    omega
  | alignment =>
    simp only [blockAfter]
    split <;> split <;> omega
  | data =>
    simp only [blockAfter]
    split <;> split <;> omega

lemma run_checked (hlength : piecesLength pieces + body.length < 1000) (hfalls : Falls (layout host) pieces m m')
    (hbody : ∀ rest, run (layout host) (body ++ rest) m' = run (layout host) rest m'') :
    run (layout host) (checkedCode pieces body pc n sp alignment ++ rest) m = run (layout host) rest m'' := by
  have hskip : (faultBlocks pc n sp alignment).length < 2 ^ 31 := by
    rw [length_blocks]
    split <;> split <;> omega
  rw [checkedCode, List.append_assoc, hfalls _ _ (inReach_checked hlength _)]
  simp only [List.append_assoc]
  rw [hbody, run_over hskip]

lemma run_saveFar {v : U64} :
    run (layout host) (saveHostR11 Offset.far ++ rest) ⟨rax, .guest, rdx, r8, r9, r10, .word v, f, g, ram⟩ =
      run (layout host) rest ⟨rax, .guest, rdx, r8, r9, r10, .word v, f, { g with far := v }, ram⟩ :=
  run_execute (i := .mov .qword (.field Offset.far) (.reg .r11)) rfl rfl

lemma returned_checked {label : Block} {far : U64} (hlength : piecesLength pieces + body.length < 1000)
    (hsp : label = .spAlignment → sp = true) (halignment : label = .alignment → alignment = true)
    (hjumps : Jumps (layout host) pieces m label ⟨rax, .guest, rdx, r8, r9, r10, .word far, f, g, ram⟩) :
    returned (run (layout host) (checkedCode pieces body pc n sp alignment ++ rest) m) =
      some (label.status, finished { g with far := far } pc n, ram) := by
  obtain ⟨behind, hbehind⟩ := @drop_blockAfter rest body pc n _ _ _ hsp halignment
      (BitVec.ofNat 32 (faultBlocks pc n sp alignment).length)
  rw [checkedCode, List.append_assoc, hjumps _ _ (inReach_checked hlength _), hbehind, faultBlock, List.append_assoc,
    run_saveFar]
  exact returned_finish _ _ _

end Checked

end Nextcore.Jit
