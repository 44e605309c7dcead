import Nextcore.Jit.Translate

/-! How large the code of a block gets: no word takes more than 500 bytes, so the
16384 bytes that the loader reserves hold every block of 32 words. -/

namespace Nextcore.Jit

open Cpu Emit

section Lengths

@[simp, grind =] lemma length_le32 (w : U32) : (le32 w).length = 4 := rfl

lemma length_rex_le (wide : Bool) : (rex wide).length ≤ 1 := by
  cases wide <;> decide

lemma length_load_le (reg : U32) (sp wide : Bool) : (load reg sp wide).length ≤ 7 := by
  unfold load
  split
  · cases sp <;> cases wide <;> decide
  · cases wide <;> simp [rex]

lemma length_save_le (reg : U32) (sp : Bool) : (save reg sp).length ≤ 7 := by
  unfold save
  split
  · cases sp <;> decide
  · simp

lemma length_shiftRax (wide : Bool) (extension : Byte) (amount : U32) :
    (shiftRax wide extension amount).length ≤ 4 := by
  cases wide <;> simp [shiftRax, rex]

lemma length_notRax (wide : Bool) : (notRax wide).length ≤ 3 := by
  cases wide <;> decide

grind_pattern length_rex_le => (rex wide).length
grind_pattern length_load_le => (load reg sp wide).length
grind_pattern length_save_le => (save reg sp).length
grind_pattern length_shiftRax => (shiftRax wide extension amount).length
grind_pattern length_notRax => (notRax wide).length

@[grind =] lemma length_imm (x : U64) : (imm x).length = 10 := rfl

@[grind =] lemma length_constR9 (x : U64) : (constR9 x).length = 10 := rfl

@[grind =] lemma length_moveR9 : moveR9.length = 3 := rfl

@[grind =] lemma length_aluR9 (wide : Bool) (opcode : Byte) : (aluR9 wide opcode).length = 3 := rfl

@[grind =] lemma length_mergeFlags : mergeFlags.length = 24 := rfl

@[grind =] lemma length_flags (subtract : Bool) : (saveArithmeticFlags subtract).length = 78 := rfl

@[grind =] lemma length_field (off : U32) (x : U64) : (field off x).length = 17 := rfl

@[grind =] lemma length_field32 (off x : U32) : (field32 off x).length = 10 := rfl

@[grind =] lemma length_retire (count status : U32) : (retire count status).length = 17 := rfl

@[grind =] lemma length_finish (pc : U64) (count status : U32) : (finish pc count status).length = 34 := rfl

@[grind =] lemma length_stop (w : U32) (pc : U64) (n status : U32) : (stop w pc n status).length = 44 := rfl

lemma length_if_le {p : Prop} [Decidable p] {xs ys : List Byte} {k : ℕ} (hxs : xs.length ≤ k) (hys : ys.length ≤ k) :
    (if p then xs else ys).length ≤ k := by
  split
  · exact hxs
  · exact hys

lemma length_optional (p : Prop) [Decidable p] {xs : List Byte} {k : ℕ} (h : xs.length ≤ k) :
    (if p then xs else []).length ≤ k := length_if_le h (Nat.zero_le k)

end Lengths

lemma length_variableShift (w : U32) : (variableShift w).length ≤ 100 := by
  simp only [variableShift, List.length_append, List.length_cons, List.length_nil]
  grind

lemma length_multiplyAdd (w : U32) : (multiplyAdd w).length ≤ 100 := by
  simp only [multiplyAdd, List.length_append, List.length_cons, List.length_nil]
  grind

lemma length_bitfieldMove {w : U32} {code : List Byte} (h : bitfieldMove w = some code) : code.length ≤ 100 := by
  obtain ⟨⟨r, s⟩, -, rfl⟩ := Option.map_eq_some_iff.mp h
  dsimp only
  generalize (if r ≤ s then 0#32 else (if wideOf w = true then 64#32 else 32#32) - r) = position
  have hfirst := length_optional (r ≤ s ∧ r ≠ 0#32) (length_shiftRax (wideOf w) 0xe8#8 r)
  have hsecond := length_optional (position ≠ 0#32) (length_shiftRax (wideOf w) 0xe0#8 position)
  clear h
  simp only [List.length_append, List.length_cons, List.length_nil]
  grind -splitIte

lemma length_unsignedBitfieldMove {w : U32} {code : List Byte} (h : unsignedBitfieldMove w = some code) :
    code.length ≤ 100 := by
  obtain ⟨⟨r, s⟩, -, rfl⟩ := Option.map_eq_some_iff.mp h
  dsimp only
  generalize (if wideOf w = true then 64#32 else 32#32) - r = position
  have hfirst := length_optional (r ≤ s ∧ r ≠ 0#32) (length_shiftRax (wideOf w) 0xe8#8 r)
  have hsecond := length_optional (s < r) (length_shiftRax (wideOf w) 0xe0#8 position)
  clear h
  simp only [List.length_append]
  grind -splitIte

lemma length_flagsOptional (p : Prop) [Decidable p] (subtract : Bool) :
    (if p then saveArithmeticFlags subtract else []).length ≤ 78 :=
  length_optional p (length_flags subtract).le

lemma length_logicalImmediate {w : U32} {code : List Byte} (h : logicalImmediate w = some code) : code.length ≤ 200 := by
  obtain ⟨mask, -, rfl⟩ := Option.map_eq_some_iff.mp h
  have hload := length_load_le (rnOf w) false (wideOf w)
  have hsave := length_save_le (rdOf w) (decide ((w >>> 29) &&& 3#32 ≠ 3#32))
  have hflags := length_flagsOptional ((w >>> 29) &&& 3#32 = 3#32) false
  simp only [List.length_append, length_constR9, length_aluR9]
  omega

lemma length_threadRegister {t : Target} {w : U32} {code : List Byte} (h : threadRegister t w = some code) :
    code.length ≤ 100 := by
  unfold threadRegister at h
  grind

lemma length_moveWide {w : U32} {code : List Byte} (h : moveWide w = some code) : code.length ≤ 100 := by
  unfold moveWide at h
  grind

lemma length_pcRelative (w : U32) (pc : U64) : (pcRelative w pc).length ≤ 100 := by
  simp only [pcRelative, List.length_append]
  grind

lemma length_logicalShifted {w : U32} {code : List Byte} (h : logicalShifted w = some code) : code.length ≤ 200 := by
  unfold logicalShifted at h
  dsimp only at h
  split at h
  · cases h
  cases h
  have hload := length_load_le (rmOf w) false (wideOf w)
  have hshift := length_optional ((w >>> 10) &&& 63#32 ≠ 0#32)
    (length_shiftRax (wideOf w) (shiftExtension ((w >>> 22) &&& 3#32)) ((w >>> 10) &&& 63#32))
  have hnot := length_optional (bitOf w 21 = true) (length_notRax (wideOf w))
  have hoperate : (moveR9 ++ load (rnOf w) false (wideOf w) ++
      aluR9 (wideOf w) (logicalOpcode ((w >>> 29) &&& 3#32))).length ≤ 13 := by
    grind
  have halias := @length_if_le ((w >>> 29) &&& 3#32 = 1#32 ∧ rnOf w = 31#32 ∧ (w >>> 22) &&& 3#32 = 0#32 ∧
    (w >>> 10) &&& 63#32 = 0#32) _ [] _ 13 (Nat.zero_le 13) hoperate
  have hsave := length_save_le (rdOf w) false
  have hflags := length_flagsOptional ((w >>> 29) &&& 3#32 = 3#32) false
  rw [List.length_append, List.length_append, List.length_append, List.length_append, List.length_append]
  omega

lemma length_addSubImmediate (w : U32) : (addSubImmediate w).length ≤ 200 := by
  have hflags := length_flagsOptional (bitOf w 29 = true) (bitOf w 30)
  simp only [addSubImmediate, List.length_append, List.length_cons, List.length_nil]
  grind -splitIte

lemma length_addSubExtended {w : U32} {code : List Byte} (h : addSubExtended w = some code) : code.length ≤ 200 := by
  unfold addSubExtended at h
  dsimp only at h
  split at h
  · cases h
  cases h
  generalize (if wideOf w = true then 64#32 else 32#32) = width
  generalize (if width < 8#32 <<< ((w >>> 13) &&& 7#32 &&& 3#32).toNat then width
    else 8#32 <<< ((w >>> 13) &&& 7#32 &&& 3#32).toNat) = bits
  generalize (if (w >>> 13) &&& 7#32 &&& 4#32 ≠ 0#32 then 0xf8#8 else 0xe8#8) = extension
  have hextend : (shiftRax (wideOf w) 0xe0#8 (width - bits) ++
      shiftRax (wideOf w) extension (width - bits)).length ≤ 8 := by
    grind
  have hextended := length_optional (bits < width) hextend
  have hflags := length_flagsOptional (bitOf w 29 = true) (bitOf w 30)
  have hshift := length_optional ((w >>> 10) &&& 7#32 ≠ 0#32)
    (length_shiftRax (wideOf w) 0xe0#8 ((w >>> 10) &&& 7#32))
  simp only [List.length_append]
  grind -splitIte

lemma length_addSubShifted {w : U32} {code : List Byte} (h : addSubShifted w = some code) : code.length ≤ 200 := by
  unfold addSubShifted at h
  dsimp only at h
  split at h
  · cases h
  cases h
  have hflags := length_flagsOptional (bitOf w 29 = true) (bitOf w 30)
  have hshift := length_optional ((w >>> 10) &&& 63#32 ≠ 0#32)
    (length_shiftRax (wideOf w) (shiftExtension ((w >>> 22) &&& 3#32)) ((w >>> 10) &&& 63#32))
  simp only [List.length_append]
  grind -splitIte

lemma length_conditionTest_le (condition : U32) : (conditionTest condition).1.length ≤ 22 := by
  unfold conditionTest
  dsimp only
  split
  · exact (show 12 ≤ 22 by decide)
  split
  · exact (show 15 ≤ 22 by decide)
  · exact (le_refl 22)

section Access

lemma length_faultBlock (pc : U64) (n : U32) (block : Block) : (faultBlock pc n block).length = 41 := rfl

lemma piecesLength_if_le {p : Prop} [Decidable p] {pieces : List (Piece Block)} {k : ℕ} (h : piecesLength pieces ≤ k) :
    piecesLength (if p then pieces else []) ≤ k := by
  split
  · exact h
  · exact Nat.zero_le k

lemma length_moveR11 : moveR11.length = 3 := rfl

lemma length_testAl (mask : Byte) : (testAl mask).length = 2 := rfl

lemma length_aluSmall (modrm : Byte) (v : U32) : (aluSmall modrm v).length = 4 := rfl

lemma length_compareR9 : compareR9.length = 3 := rfl

lemma length_elementChecks (base : U64) (width : U32) : piecesLength (elementChecks base width) = 45 := rfl

lemma length_writebackCode_le (shape : MemoryShape) : (writebackCode shape).length ≤ 16 := by
  unfold writebackCode
  refine length_if_le ?_ (Nat.zero_le 16)
  have hsave := length_save_le shape.rn true
  have hadd : (if shape.mode = 1#32 then addRax shape.displacement else []).length ≤ 6 :=
    length_if_le (le_refl 6) (Nat.zero_le 6)
  simp only [List.length_append, List.length_cons, List.length_nil]
  omega

lemma length_scalar (t : Target) (shape : MemoryShape) :
    piecesLength (scalarPieces t shape) + (scalarBody shape).length ≤ 300 := by
  have hbase := length_load_le shape.rn true true
  have hindex := length_load_le shape.rm false (shape.option &&& 1#32 ≠ 0#32)
  have hrt := length_load_le shape.rt false (shape.width = 8#32)
  have hsave := length_save_le shape.rt false
  have hback := length_writebackCode_le shape
  have hsp : piecesLength (if checksSp t shape.rn then
      [.code (moveR11 ++ testAl 15#8), .guard 0x85#8 Block.spAlignment] else []) ≤ 11 :=
    piecesLength_if_le (le_refl 11)
  have halignment : piecesLength (if 1#32 < shape.width then
      [.code (testAl ((shape.width - 1#32).truncate 8)), .guard 0x85#8 Block.alignment] else []) ≤ 8 :=
    piecesLength_if_le (le_refl 8)
  have haddress : (if shape.registerOffset then moveR11 ++ load shape.rm false (shape.option &&& 1#32 ≠ 0#32) ++
        (if shape.option = 6#32 then [0x48#8, 0x63#8, 0xc0#8] else []) ++
        (if shape.shift ≠ 0#32 then shiftRax true 0xe0#8 shape.shift else []) ++ [0x4c#8, 0x01#8, 0xd8#8]
      else if shape.mode ≠ 1#32 then addRax shape.displacement else []).length ≤ 20 := by
    refine length_if_le ?_ (length_if_le (show 6 ≤ 20 by decide) (Nat.zero_le 20))
    have hextend : (if shape.option = 6#32 then [0x48#8, 0x63#8, 0xc0#8] else []).length ≤ 3 :=
      length_if_le (le_refl 3) (Nat.zero_le 3)
    have hshift : (if shape.shift ≠ 0#32 then shiftRax true 0xe0#8 shape.shift else []).length ≤ 4 :=
      length_if_le (le_refl 4) (Nat.zero_le 4)
    simp only [List.length_append, length_moveR11, List.length_cons, List.length_nil]
    omega
  have hbody : (scalarBody shape).length ≤ 40 := by
    unfold scalarBody
    rw [List.length_append]
    refine Nat.add_le_add (length_if_le (k := 24) ?_ ?_) hback
    · have hopcode : (if shape.width < 4#32 then
          [0x0f#8, (if shape.signedLoad then 0xbe#8 else 0xb6#8) + (if shape.width = 2#32 then 1#8 else 0#8)]
          else [if shape.signedLoad then 0x63#8 else 0x8b#8]).length ≤ 2 :=
        length_if_le (le_refl 2) (show 1 ≤ 2 by decide)
      simp only [List.length_append, List.length_cons, List.length_nil]
      omega
    · have hoperand : (if shape.width = 2#32 then [0x66#8] else []).length ≤ 1 :=
        length_if_le (le_refl 1) (Nat.zero_le 1)
      simp only [List.length_append, List.length_cons, List.length_nil]
      omega
  rw [scalarPieces]
  simp only [piecesLength_append, piecesLength, length_elementChecks, List.length_append, length_moveR11,
    length_moveR9]
  omega

lemma length_pairElement_le (shape : MemoryShape) (second : Bool) : (pairElement shape second).length ≤ 19 := by
  unfold pairElement
  have hload : (if shape.read then [] else load (if second then shape.rt2 else shape.rt) false
      (shape.width = 8#32)).length ≤ 7 := length_if_le (Nat.zero_le 7) (length_load_le _ _ _)
  have hmodrm : (if second then [0x44#8, 0x0a#8, (shape.width.truncate 8 : Byte)] else [0x04#8, 0x0a#8]).length ≤ 3 :=
    length_if_le (le_refl 3) (show 2 ≤ 3 by decide)
  have hsave : (if shape.read then save (if second then shape.rt2 else shape.rt) false else []).length ≤ 7 :=
    length_if_le (length_save_le _ _) (Nat.zero_le 7)
  simp only [List.length_append, List.length_cons, List.length_nil]
  omega

lemma length_pair (t : Target) (shape : MemoryShape) :
    piecesLength (pairPieces t shape) + (pairBody shape).length ≤ 300 := by
  have hbase := length_load_le shape.rn true true
  have hstack := length_load_le 31#32 true true
  have hfirst := length_pairElement_le shape false
  have hsecond := length_pairElement_le shape true
  have hback := length_writebackCode_le shape
  have hsp : piecesLength (if checksSp t shape.rn then
      [.code (load 31#32 true true ++ moveR11 ++ testAl 15#8), .guard 0x85#8 Block.spAlignment] else []) ≤ 18 := by
    refine piecesLength_if_le ?_
    simp only [piecesLength, List.length_append, length_moveR11, length_testAl]
    omega
  have hadd : (if shape.mode ≠ 1#32 then addRax shape.displacement else []).length ≤ 6 :=
    length_if_le (le_refl 6) (Nat.zero_le 6)
  simp only [pairPieces, pairBody, piecesLength_append, piecesLength, length_elementChecks, List.length_append,
    length_moveR11, length_moveR9, length_testAl, length_aluSmall, length_compareR9]
  omega

end Access

section Words

variable (t : Target) (w : U32) (pc : U64) (n : U32)

lemma atMost_undefined : AtMost (undefined w pc n) 500 :=
  ((atMost_bytes (stop w pc n Status.undefinedInstruction) (length_stop w pc n _).le).bind fun _ =>
    @atMost_pure _ 456 false)

lemma atMost_straight {code : Option (List Byte)} (h : ∀ bs, code = some bs → bs.length ≤ 200) :
    AtMost (straight w pc n code) 500 := by
  cases code with
  | none => exact atMost_undefined w pc n
  | some bs => exact (atMost_bytes bs (h bs rfl)).bind fun _ => @atMost_pure _ 300 true

lemma atMost_ends {code : List Byte} (h : code.length ≤ 500) : AtMost (ends code) 500 :=
  (atMost_bytes code h).bind fun _ => @atMost_pure _ 0 false

lemma atMost_jcc (cc : Byte) : AtMost (jcc cc) 6 := (atMost_bytes [0x0f#8, cc] (le_refl 2)).bind fun _ => atMost_hole

lemma atMost_conditionFalse (condition : U32) : AtMost (conditionFalse condition) 28 := by
  unfold conditionFalse
  exact .ite (fun _ => atMost_pure 0) fun _ => (atMost_bytes _ (length_conditionTest_le condition)).bind fun _ =>
    atMost_jcc _

lemma atMost_conditionalSelect : AtMost (conditionalSelect w) 500 := by
  have hother : (load (rmOf w) false (wideOf w) ++ (if bitOf w 30 then notRax (wideOf w) else []) ++
      (if bitOf w 10 then rex (wideOf w) ++ [0x83#8, 0xc0#8, 1#8] else [])).length ≤ 20 := by
    grind
  have hlast : AtMost (do bytes (save (rdOf w) false); pure true) 10 :=
    (atMost_bytes _ (length_save_le _ _)).bind fun _ => @atMost_pure _ 3 true
  refine ((atMost_conditionFalse _).bind fun other => (atMost_bytes _ (length_load_le _ _ _)).bind fun _ =>
    @AtMost.ite _ _ _ 465 _ _ (fun _ => ?_) fun _ => hlast.mono (by omega))
  exact ((atMost_bytes [0xe9#8] (le_refl 1)).bind fun _ => atMost_hole.bind fun done => (atMost_fix other).bind fun _ =>
    (atMost_bytes _ hother).bind fun _ => (atMost_fix done).bind fun _ => hlast).mono (by omega)

lemma atMost_conditionalCompare : AtMost (conditionalCompare w) 500 := by
  have hchoice := @length_if_le (bitOf w 11 = true) _ _ _ _ (length_imm ((rmOf w).zeroExtend 64)).le
    ((length_load_le (rmOf w) false (wideOf w)).trans (show 7 ≤ 10 by decide))
  have hcompare : ((if bitOf w 11 then imm ((rmOf w).zeroExtend 64) else load (rmOf w) false (wideOf w)) ++ moveR9 ++
      load (rnOf w) false (wideOf w) ++ aluR9 (wideOf w) (if bitOf w 30 then 0x29#8 else 0x01#8) ++
      saveArithmeticFlags (bitOf w 30)).length ≤ 110 := by
    have hload := length_load_le (rnOf w) false (wideOf w)
    rw [List.length_append, List.length_append, List.length_append, List.length_append, length_moveR9, length_aluR9,
      length_flags]
    omega
  have hflags : (imm ((w &&& 15#32).zeroExtend 64 <<< 28) ++ mergeFlags).length ≤ 40 := by
    rw [List.length_append, length_imm, length_mergeFlags]
    omega
  refine ((atMost_conditionFalse _).bind fun fallback => (atMost_bytes _ hcompare).bind fun _ =>
    @AtMost.ite _ _ _ 362 _ _ (fun _ => ?_) fun _ => atMost_pure true)
  exact ((atMost_bytes [0xe9#8] (le_refl 1)).bind fun _ => atMost_hole.bind fun done =>
    (atMost_fix fallback).bind fun _ => (atMost_bytes _ hflags).bind fun _ => (atMost_fix done).bind fun _ =>
      @atMost_pure _ 0 true).mono (by omega)

lemma atMost_idRead : AtMost (idRead w pc n) 500 := by
  have hlast : (imm (idValue w) ++ save (rdOf w) false).length ≤ 20 := by
    have hsave := length_save_le (rdOf w) false
    rw [List.length_append, length_imm]
    omega
  exact ((atMost_bytes _ (show _ ≤ 7 from le_refl 7)).bind fun _ => (atMost_jcc _).bind fun badEl =>
    (atMost_bytes _ (show _ ≤ 14 from le_refl 14)).bind fun _ => (atMost_jcc _).bind fun allowed =>
      (atMost_fix badEl).bind fun _ => (atMost_bytes _ (length_stop w pc n _).le).bind fun _ =>
        (atMost_fix allowed).bind fun _ => (atMost_bytes _ hlast).bind fun _ => @atMost_pure _ 0 true).mono (by omega)

lemma atMost_branchTo (taken : U64) (fall : ℕ) : AtMost (branchTo taken pc n fall) 68 :=
  ((atMost_bytes _ (length_finish taken _ _).le).bind fun _ => (atMost_fix fall).bind fun _ =>
    (atMost_bytes _ (length_finish (pc + 4#64) _ _).le).bind fun _ => @atMost_pure _ 0 false)

lemma atMost_conditionalBranch : AtMost (conditionalBranch w pc n) 500 := by
  refine .ite (fun _ => ?_) fun _ => ?_
  · exact ((atMost_bytes _ (length_finish _ _ _).le).bind fun _ => @atMost_pure _ 0 false).mono (by omega)
  · exact ((atMost_conditionFalse _).bind fun fall => atMost_branchTo pc n _ fall).mono (by omega)

lemma atMost_testBranch : AtMost (testBranch w pc n) 500 := by
  refine ((atMost_bytes _ (show _ ≤ 20 from ?_)).bind fun _ => (atMost_jcc _).bind fun fall =>
    atMost_branchTo pc n _ fall).mono (by omega)
  have hload := length_load_le (rdOf w) false (32#32 ≤ ((w >>> 26) &&& 32#32) ||| ((w >>> 19) &&& 31#32))
  have hrex := length_rex_le (32#32 ≤ ((w >>> 26) &&& 32#32) ||| ((w >>> 19) &&& 31#32))
  rw [List.length_append, List.length_append]
  exact Nat.add_le_add hload (Nat.add_le_add hrex (show 4 ≤ 12 by decide))

lemma atMost_compareBranch : AtMost (compareBranch w pc n) 500 := by
  refine ((atMost_bytes _ (show _ ≤ 20 from ?_)).bind fun _ => (atMost_jcc _).bind fun fall =>
    atMost_branchTo pc n _ fall).mono (by omega)
  have hload := length_load_le (rdOf w) false (wideOf w)
  rw [List.length_append]
  exact Nat.add_le_add hload (show 3 ≤ 13 by decide)

lemma length_branch : (branch w pc n).length ≤ 500 := by
  have hlink := length_optional (w >>> 31 ≠ 0#32) (length_field (30#32 * 8#32) (pc + 4#64)).le
  rw [branch, List.length_append, length_finish]
  omega

lemma length_branchRegister : (branchRegister w pc n).length ≤ 500 := by
  unfold branchRegister
  refine length_if_le ((length_stop w pc n _).le.trans (by decide)) ?_
  have hload := length_load_le (rnOf w) false true
  have hlink := length_optional (w &&& 0xfffffc1f#32 = 0xd63f0000#32) (length_field (30#32 * 8#32) (pc + 4#64)).le
  simp only [List.length_append, List.length_cons, List.length_nil, length_moveR9, length_le32, length_retire]
  omega

lemma atMost_checked {pieces : List (Piece Block)} {body : List Byte} (h : piecesLength pieces + body.length ≤ 300)
    (sp alignment : Bool) : AtMost (checked pieces body pc n sp alignment) 480 := by
  have hblock := fun block => (length_faultBlock pc n block).le
  have hjump : (body ++ [0xe9#8]).length ≤ body.length + 1 := List.length_append.le
  exact ((atMost_emitPieces pieces).bind fun holes => (atMost_bytes _ hjump).bind fun _ =>
    atMost_hole.bind fun next => atMost_position.bind fun sp' =>
      (atMost_bytes _ (length_optional (sp = true) (hblock .spAlignment))).bind fun _ => atMost_position.bind fun at' =>
        (atMost_bytes _ (length_optional (alignment = true) (hblock .alignment))).bind fun _ =>
          atMost_position.bind fun data' => (atMost_bytes _ (hblock .data)).bind fun _ =>
            (atMost_fixAll holes _).bind fun _ => (atMost_fix next).bind fun _ => @atMost_pure _ 0 true).mono (by omega)

lemma atMost_inlineMemory : AtMost (inlineMemory t w pc n) 500 := by
  have hends : ∀ status, AtMost (do bytes (finish pc n status); pure false) 488 := fun status =>
    ((atMost_bytes _ (length_finish pc n status).le).bind fun _ => @atMost_pure _ 0 false).mono (by omega)
  refine ((atMost_bytes _ (length_field32 Offset.instruction w).le).bind fun _ => ?_).mono (show 10 + 488 ≤ 500 by omega)
  cases decodeMemory w with
  | none => exact hends _
  | some shape =>
    refine .ite (fun _ => hends _) fun _ => .ite (fun _ => ?_) fun _ => ?_
    · exact (atMost_checked pc n (length_pair t shape) _ _).mono (by omega)
    · exact (atMost_checked pc n (length_scalar t shape) _ _).mono (by omega)

lemma atMost_one (provider : Bool) : AtMost (translateOne t provider w pc n) 500 := by
  have hstop := fun status => (length_stop w pc n status).le.trans (show 44 ≤ 500 by decide)
  unfold translateOne
  refine .ite (fun _ => atMost_undefined w pc n) fun _ => ?_
  refine .ite (fun _ => atMost_undefined w pc n) fun _ => ?_
  refine .ite (fun _ => atMost_ends (hstop _)) fun _ => ?_
  refine .ite (fun _ => atMost_conditionalSelect w) fun _ => ?_
  refine .ite (fun _ => atMost_straight w pc n fun _ h => ?_) fun _ => ?_
  · cases h
    exact (length_variableShift w).trans (by decide)
  refine .ite (fun _ => atMost_straight w pc n fun _ h => ?_) fun _ => ?_
  · cases h
    exact (length_multiplyAdd w).trans (by decide)
  refine .ite (fun _ => atMost_conditionalCompare w) fun _ => ?_
  refine .ite (fun _ => atMost_straight w pc n fun _ h => (length_bitfieldMove h).trans (by decide)) fun _ => ?_
  refine .ite (fun _ => atMost_straight w pc n fun _ h => (length_unsignedBitfieldMove h).trans (by decide)) fun _ => ?_
  refine .ite (fun _ => atMost_straight w pc n fun _ h => length_logicalImmediate h) fun _ => ?_
  refine .ite (fun _ => atMost_idRead w pc n) fun _ => ?_
  refine .ite (fun _ => atMost_straight w pc n fun _ h => (length_threadRegister h).trans (by decide)) fun _ => ?_
  refine .ite (fun _ => atMost_straight w pc n fun _ h => (length_moveWide h).trans (by decide)) fun _ => ?_
  refine .ite (fun _ => atMost_straight w pc n fun _ h => ?_) fun _ => ?_
  · cases h
    exact (length_pcRelative w pc).trans (by decide)
  refine .ite (fun _ => atMost_straight w pc n fun _ h => length_logicalShifted h) fun _ => ?_
  refine .ite (fun _ => atMost_straight w pc n fun _ h => ?_) fun _ => ?_
  · cases h
    exact length_addSubImmediate w
  refine .ite (fun _ => atMost_straight w pc n fun _ h => length_addSubExtended h) fun _ => ?_
  refine .ite (fun _ => atMost_straight w pc n fun _ h => length_addSubShifted h) fun _ => ?_
  refine .ite (fun _ => atMost_inlineMemory t w pc n) fun _ => ?_
  refine .ite (fun _ => atMost_conditionalBranch w pc n) fun _ => ?_
  refine .ite (fun _ => atMost_testBranch w pc n) fun _ => ?_
  refine .ite (fun _ => atMost_compareBranch w pc n) fun _ => ?_
  refine .ite (fun _ => atMost_ends (length_branch w pc n)) fun _ => ?_
  refine .ite (fun _ => atMost_ends (length_branchRegister w pc n)) fun _ => ?_
  refine .ite (fun _ => atMost_pure true) fun _ => ?_
  refine .ite (fun _ => atMost_ends ((length_finish _ _ _).le.trans (by decide))) fun _ => ?_
  exact atMost_ends (hstop _)

end Words

lemma atMost_from (t : Target) (provider : Bool) (guest : List Byte) (remaining : ℕ) (n : U32) (pc : U64) :
    AtMost (translateFrom t provider guest remaining n pc) (500 * remaining + 34) := by
  induction remaining generalizing n pc with
  | zero => exact atMost_pure ()
  | succ remaining ih =>
    rw [translateFrom]
    refine .ite (fun _ => (atMost_bytes _ (length_finish _ _ _).le).mono (by omega)) fun _ => ?_
    refine ((atMost_one t (word guest _) pc n provider).bind fun more => @AtMost.ite _ _ _ (500 * remaining + 34) _ _
      (fun _ => ?_) fun _ => atMost_pure ()).mono (by omega)
    by_cases hlast : remaining = 0
    · subst hlast
      exact ((atMost_bytes _ (length_finish _ _ _).le).bind fun _ => @atMost_pure _ 0 ()).mono (by omega)
    · rw [if_neg hlast]
      exact ih _ _

lemma translateImpl_fits {code : Buffer} {most limit : ℕ} (h : 500 * most + 34 ≤ code.capacity) (hlimit : limit ≤ most)
    (t : Target) (provider : Bool) (guest : List Byte) (pc : U64) :
    (translateImpl code t provider guest pc limit).1 = Status.next := by
  have hused := atMost_from t provider guest limit 0#32 pc { code with used := 0 }
  have hcapacity := capacity_write (translateFrom t provider guest limit 0#32 pc) { code with used := 0 }
  have hroom : ¬code.capacity < ((translateFrom t provider guest limit 0#32 pc).write { code with used := 0 }).2.used := by
    have hwords := Nat.mul_le_mul_left 500 hlimit
    dsimp only at hused
    omega
  unfold translateImpl
  dsimp only
  rw [hcapacity]
  exact if_neg hroom

end Nextcore.Jit
