import Nextcore.Ise.Agreement
import Nextcore.Ise.Encoding

/-! Decoding and emulating an integer instruction beside the manual: the bytes for which both come to the same in every
state. -/

namespace Nextcore.Ise.Emulator

open Parse Atomic

def IntegerOp.name : IntegerOp → OpcodeName
  | .add => .add
  | .sub => .sub
  | .cmp => .cmp
  | .and => .and
  | .or => .or
  | .xor => .xor
  | .mov => .mov

def integerNames : List OpcodeName := [.add, .sub, .cmp, .and, .or, .xor, .mov]

def FollowsManual (addF32 : U32 → U32 → U32) (inst : DecodedInstruction) (i : IntegerInstruction) : Prop :=
  ∀ regs, ∃ regs', emulateIse addF32 inst regs = .ok (.ok (), regs') ∧
    (regs'.gpr, flagsOf regs'.rflags) = i.execute regs.gpr (flagsOf regs.rflags) ∧
    regs'.xmm = regs.xmm ∧ regs'.ymm = regs.ymm

/-! The emulation of two operands. -/

section Emulation

def sourceOf : Operand → Option Source
  | .register r => (gprOf r).map Source.register
  | .immediate v => some (.immediate v)
  | .memory _ => none

lemma flagsOf_flagged (rflags : U64) (cf zf sf of : Bool) :
    flagsOf (flagged rflags cf zf sf of) = ⟨some cf, some zf, some sf, some of⟩ := by
  have hmask (k : ℕ) (h : (~~~(flagCf ||| flagZf ||| flagSf ||| flagOf)).getLsbD k = false) :
      (rflags &&& ~~~(flagCf ||| flagZf ||| flagSf ||| flagOf)).getLsbD k = false := by
    rw [BitVec.getLsbD_and, h, Bool.and_false]
  unfold flagsOf flagged
  simp only [BitVec.getLsbD_or, hmask 0 (by decide), hmask 6 (by decide), hmask 7 (by decide), hmask 11 (by decide)]
  cases cf <;> cases zf <;> cases sf <;> cases of <;> rfl

variable {inst : DecodedInstruction} {r : U32} {o : Operand} {dst : Gpr} {src : Source}

lemma getGpr_run (h : gprOf r = some dst) (regs : Registers) : getGpr r regs = .ok (.ok (regs.gpr dst), regs) := by
  rw [getGpr, h]
  rfl

lemma readOperand_dst (hoperands : inst.operands = [.register r, o]) (hdst : gprOf r = some dst) (regs : Registers) :
    readOperand inst 0 regs = .ok (.ok (regs.gpr dst), regs) := by
  rw [readOperand, hoperands]
  exact getGpr_run hdst regs

lemma readOperand_src (hoperands : inst.operands = [.register r, o]) (hsrc : sourceOf o = some src) (regs : Registers) :
    readOperand inst 1 regs = .ok (.ok (src.value regs.gpr), regs) := by
  rw [readOperand, hoperands]
  cases o with
  | register r' =>
    obtain ⟨s, hs, rfl⟩ := Option.map_eq_some_iff.mp hsrc
    exact getGpr_run hs regs
  | immediate v =>
    obtain rfl := Option.some.inj hsrc
    rfl
  | memory m => cases hsrc

lemma writeDst_run (hoperands : inst.operands = [.register r, o]) (hdst : gprOf r = some dst) (value : U64)
    (regs : Registers) : writeDst inst 0 value regs = .ok (.ok (), regs.withGpr dst value) := by
  rw [writeDst, hoperands]
  change setGpr r value regs = _
  rw [setGpr, hdst]
  rfl

lemma emulate_operands (addF32 : U32 → U32 → U32) {op : IntegerOp} (hname : inst.name = op.name)
    (hoperands : inst.operands = [.register r, o]) (hdst : gprOf r = some dst) (hsrc : sourceOf o = some src)
    (regs : Registers) :
    ∃ regs', emulateIse addF32 inst regs = .ok (.ok (), regs') ∧
      (regs'.gpr, flagsOf regs'.rflags) =
        op.commit regs.gpr dst (op.emulated (regs.gpr dst) (src.value regs.gpr) (flagsOf regs.rflags)) ∧
      regs'.xmm = regs.xmm ∧ regs'.ymm = regs.ymm := by
  have hread := readOperand_dst hoperands hdst regs
  have hread' := readOperand_src hoperands hsrc regs
  have hbinary (b : BinOp) : ∃ regs', emulateBinary inst b regs = .ok (.ok (), regs') ∧
      (regs'.gpr, flagsOf regs'.rflags) =
        (Function.update regs.gpr dst (binary b (regs.gpr dst) (src.value regs.gpr)).1,
          (withFlags (binary b (regs.gpr dst) (src.value regs.gpr))).2) ∧
      regs'.xmm = regs.xmm ∧ regs'.ymm = regs.ymm := by
    rw [emulateBinary, Atomic.bind_run hread, Atomic.bind_run hread']
    obtain ⟨result, cf, of, zf, sf⟩ := binary b (regs.gpr dst) (src.value regs.gpr)
    dsimp only
    rw [Atomic.bind_run (writeDst_run hoperands hdst result regs)]
    exact ⟨_, rfl, Prod.ext rfl (flagsOf_flagged _ cf zf sf of), rfl, rfl⟩
  unfold emulateIse
  rw [hname]
  cases op with
  | add => exact hbinary .add
  | sub => exact hbinary .sub
  | and => exact hbinary .and
  | or => exact hbinary .or
  | xor => exact hbinary .xor
  | cmp =>
    change ∃ regs', emulateCmp inst regs = _ ∧ _
    rw [emulateCmp, Atomic.bind_run hread, Atomic.bind_run hread']
    exact ⟨_, rfl, Prod.ext rfl (flagsOf_flagged _ _ _ _ _), rfl, rfl⟩
  | mov =>
    change ∃ regs', emulateMov inst regs = _ ∧ _
    rw [emulateMov, Atomic.bind_run hread']
    exact ⟨_, writeDst_run hoperands hdst _ regs, rfl, rfl, rfl⟩

lemma followsManual_iff (addF32 : U32 → U32 → U32) {op : IntegerOp} (hname : inst.name = op.name)
    (hoperands : inst.operands = [.register r, o]) (hdst : gprOf r = some dst) (hsrc : sourceOf o = some src)
    (wide : Bool) (dst' : Gpr) (src' : Source) :
    FollowsManual addF32 inst ⟨op, wide, dst', src'⟩ ↔ Matches op wide dst src dst' src' := by
  have hrun := emulate_operands addF32 hname hoperands hdst hsrc
  constructor
  · intro h gpr rflags
    obtain ⟨regs', hok, hout, -, -⟩ := hrun { Registers.zero with gpr := gpr, rflags := rflags }
    obtain ⟨regs'', hok', hout', -, -⟩ := h { Registers.zero with gpr := gpr, rflags := rflags }
    have hstate : regs' = regs'' := congrArg Prod.snd (Except.ok.inj (hok.symm.trans hok'))
    subst hstate
    exact hout.symm.trans hout'
  · intro h regs
    obtain ⟨regs', hok, hout, hxmm, hymm⟩ := hrun regs
    exact ⟨regs', hok, hout.trans (h regs.gpr regs.rflags), hxmm, hymm⟩

end Emulation

/-! The bytes. -/

/-- The bytes behind which the emulator follows the manual between registers, by the direction of the opcode: 64 bits
and no register past the eighth, and the direction of the emulator or one register; or one register twice. -/
def RegisterFormAgrees (op : IntegerOp) (toRm : Bool) (rex modrm : Byte) : Prop :=
  op ≠ .add ∧
    ((rexW rex = true ∧ rexR rex = false ∧ rexB rex = false ∧ (toRm = true ∨ regField modrm = rmField modrm)) ∨
      (regField modrm = rmField modrm ∧ rexR rex = rexB rex ∧
        (op = .cmp ∨ (op = .mov ∧ rexW rex = true) ∨ (rexB rex = false ∧ (op = .xor ∨ op = .sub)))))

def immediateTaken (long : Bool) (opcode : Byte) (rest : List Byte) : U64 :=
  if opcode = 0x83#8 then (rest.headD 0#8).signExtend 64
  else if long then Bytes.leValue (rest.take 8)
  else ((Bytes.leValue (rest.take 4)).truncate 32).zeroExtend 64

def ImmediateFormAgrees (op : IntegerOp) (rex : Byte) (imm : U64) : Prop :=
  op ≠ .add ∧ rexB rex = false ∧
    ((rexW rex = true ∧ imm = (imm.truncate 32 : U32).signExtend 64) ∨
      (rexW rex = false ∧ op = .and ∧ imm.toNat < 2 ^ 31))

def EncodingAgrees (bytes : List Byte) : Prop :=
  let before := bytes.takeWhile isPrefixByte
  match bytes.dropWhile isPrefixByte with
  | opcode :: modrm :: rest =>
    match registerForm opcode with
    | some (op, toRm) => RegisterFormAgrees op toRm (effectiveRex before) modrm
    | none => ∃ op, groupOp (regField modrm) = some op ∧
        ImmediateFormAgrees op (effectiveRex before) (immediateTaken (rexW (prefixState before).1) opcode rest)
  | _ => False

section Tables

lemma gprOf_code : ∀ n : Fin 16, gprOf (BitVec.ofNat 32 n) = some (manualGpr n) := by decide

lemma manualGpr_injective : ∀ m n : Fin 16, manualGpr m = manualGpr n → m = n := by decide

lemma manualGpr_inj {m n : ℕ} (hm : m < 16) (hn : n < 16) : manualGpr m = manualGpr n ↔ m = n := by
  constructor
  · intro h
    exact congrArg Fin.val (manualGpr_injective ⟨m, hm⟩ ⟨n, hn⟩ h)
  · rintro rfl
    rfl

lemma rmField_lt (b : Byte) : rmField b < 8 := Nat.mod_lt _ (by decide)

lemma regField_lt (b : Byte) : regField b < 8 := Nat.mod_lt _ (by decide)

lemma gprOf_rm (b : Byte) : gprOf (rmOf b) = some (manualGpr (rmField b)) := by
  rw [rmOf_eq]
  exact gprOf_code ⟨rmField b, lt_trans (rmField_lt b) (by decide)⟩

lemma gprOf_reg (b : Byte) : gprOf (regOf b) = some (manualGpr (regField b)) := by
  rw [regOf_eq]
  exact gprOf_code ⟨regField b, lt_trans (regField_lt b) (by decide)⟩

lemma byte_tables : ∀ b : Byte,
    tableName (b.zeroExtend 32) = ((registerForm b).map fun form => form.1.name) ∧
      immediateName (regOf b) = ((groupOp (regField b)).map IntegerOp.name).getD .unknown ∧
      decide (b &&& 8#8 ≠ 0#8) = rexW b := by
  decide +kernel

lemma tableName_eq (opcode : Byte) :
    tableName (opcode.zeroExtend 32) = (registerForm opcode).map fun form => form.1.name := (byte_tables opcode).1

lemma immediateName_eq (modrm : Byte) : immediateName (regOf modrm) =
    ((groupOp (regField modrm)).map IntegerOp.name).getD .unknown := (byte_tables modrm).2.1

lemma rexW_eq (rex : Byte) : decide (rex &&& 8#8 ≠ 0#8) = rexW rex := (byte_tables rex).2.2

end Tables

lemma registersAgree_iff (op : IntegerOp) (toRm : Bool) (rex modrm : Byte) :
    RegistersAgree op (rexW rex) (manualGpr (rmField modrm)) (manualGpr (regField modrm))
        (manualGpr (if toRm then rmField modrm + 8 * (rexB rex).toNat else regField modrm + 8 * (rexR rex).toNat))
        (manualGpr (if toRm then regField modrm + 8 * (rexR rex).toNat else rmField modrm + 8 * (rexB rex).toNat)) ↔
      RegisterFormAgrees op toRm rex modrm := by
  have hrm := rmField_lt modrm
  have hreg := regField_lt modrm
  unfold RegistersAgree RegisterFormAgrees
  -- the numbers of the manual are those of the fields, or past them by 8
  cases toRm <;> cases rexR rex <;> cases rexB rex <;>
    simp (disch := omega) only [Bool.false_eq_true, if_true, if_false, Bool.toNat_false, Bool.toNat_true,
      manualGpr_inj] <;>
    grind

/-! The decoder on such bytes. -/

section Decoder

variable {s : Input Byte} {k k' : ℕ}

lemma getLsbD_leValue_take (bs : List Byte) {n i : ℕ} (h : i < 8 * n) :
    (Bytes.leValue (bs.take n)).getLsbD i = (Bytes.leValue bs).getLsbD i := by
  induction bs generalizing n i with
  | nil => rw [List.take_nil]
  | cons b bs ih =>
    cases n with
    | zero => omega
    | succ n =>
      rw [List.take_succ_cons, Bytes.leValue, Bytes.leValue, BitVec.getLsbD_or, BitVec.getLsbD_or,
        BitVec.getLsbD_shiftLeft, BitVec.getLsbD_shiftLeft]
      by_cases hi : i < 8
      · simp [hi]
      · rw [ih (by omega)]

lemma signed_eq_taken {opcode : Byte} {rest : List Byte} {size : ℕ} (long : Bool)
    (hsize : immediateSize opcode = some size) (hlength : size ≤ rest.length) :
    BitVec.ofInt 64 (signed (rest.take size)) =
      ((immediateTaken long opcode rest).truncate 32 : U32).signExtend 64 := by
  have hbyte : ∀ b : Byte, b.signExtend 64 = (((b.signExtend 64 : U64).truncate 32 : U32).signExtend 64 : U64) := by
    decide +kernel
  unfold immediateSize at hsize
  unfold immediateTaken
  split_ifs at hsize with hshort hlong
  · obtain rfl := Option.some.inj hsize
    obtain ⟨b, tail, rfl⟩ := List.exists_cons_of_length_pos hlength
    rw [if_pos hshort, ← hbyte]
    exact signed_byte b
  · obtain rfl := Option.some.inj hsize
    rw [if_neg hshort, signed_word (List.length_take_of_le hlength), displacement32]
    congr 1
    cases long with
    | false => simp
    | true =>
      apply BitVec.eq_of_getLsbD_eq
      intro i hi
      have hfour := getLsbD_leValue_take rest (n := 4) (i := i) (by omega)
      have height := getLsbD_leValue_take rest (n := 8) (i := i) (by omega)
      simp [hi, hfour, height]

lemma readImmediate_taken {opcode : Byte} {long : Bool} {imm : U64} {size : ℕ} {rest : List Byte}
    (hsize : immediateSize opcode = some size) (hrest : s.data.drop (s.origin + k) = rest)
    (h : readImmediate (opcode.zeroExtend 32) long s k = .ok (imm, k')) :
    imm = immediateTaken long opcode rest ∧ size ≤ rest.length := by
  have hitems {n : ℕ} {bs : List Byte} {m : ℕ} (hrun : bytes n s k = .ok (bs, m)) (hn : 0 < n) :
      bs = rest.take n ∧ n ≤ rest.length := by
    obtain ⟨hinside, rfl, -⟩ := items_ok.mp hrun
    rw [← hrest, List.length_drop]
    exact ⟨rfl, by omega⟩
  unfold immediateSize at hsize
  unfold readImmediate at h
  unfold immediateTaken
  split_ifs at hsize with hshort hlong
  · obtain rfl := Option.some.inj hsize
    have hopcode : (opcode.zeroExtend 32 : U32) = 0x83#32 := zeroExtend_eq.mpr hshort
    rw [if_pos hopcode] at h
    obtain ⟨b, _, hbyte, hpure⟩ := bind_ok.mp h
    obtain ⟨hget, rfl⟩ := item_ok.mp hbyte
    obtain ⟨rfl, -⟩ := pure_ok.mp hpure
    rw [if_pos hshort, ← hrest, drop_of_get hget]
    exact ⟨rfl, Nat.succ_le_succ (Nat.zero_le _)⟩
  · obtain rfl := Option.some.inj hsize
    have hopcode : (opcode.zeroExtend 32 : U32) ≠ 0x83#32 := fun h => hshort (zeroExtend_eq.mp h)
    rw [if_neg hopcode] at h
    rw [if_neg hshort]
    cases long with
    | true =>
      obtain ⟨bs, _, hbytes, hpure⟩ := bind_ok.mp h
      obtain ⟨rfl, -⟩ := pure_ok.mp hpure
      obtain ⟨rfl, hlength⟩ := hitems hbytes (by decide)
      exact ⟨rfl, by omega⟩
    | false =>
      obtain ⟨bs, _, hbytes, hpure⟩ := bind_ok.mp h
      obtain ⟨rfl, -⟩ := pure_ok.mp hpure
      obtain ⟨rfl, hlength⟩ := hitems hbytes (by decide)
      exact ⟨rfl, hlength⟩

inductive IntegerForm (long : Bool) (opcode modrm : Byte) (rest : List Byte) (inst : DecodedInstruction) : Prop
  | register (hname : tableName (opcode.zeroExtend 32) = some inst.name)
      (hoperands : inst.operands = [.register (rmOf modrm), .register (regOf modrm)]) :
      IntegerForm long opcode modrm rest inst
  | immediate {size : ℕ} (htable : tableName (opcode.zeroExtend 32) = none)
      (hname : inst.name = immediateName (regOf modrm)) (hsize : immediateSize opcode = some size)
      (hlength : size ≤ rest.length)
      (hoperands : inst.operands = [.register (rmOf modrm), .immediate (immediateTaken long opcode rest)]) :
      IntegerForm long opcode modrm rest inst

lemma integerForm_of_decode {rex mandatory opcode : Byte} {behind : List Byte} {inst : DecodedInstruction}
    (h : afterOpcode rex mandatory (opcode.zeroExtend 32) s k = .ok (inst, k'))
    (hbehind : s.data.drop (s.origin + k) = behind) (hname : inst.name ∈ integerNames) (hmemory : inst.memory = none) :
    ∃ modrm rest, behind = modrm :: rest ∧ modeOf modrm = 3#8 ∧ IntegerForm (rexW rex) opcode modrm rest inst := by
  have hother {names : List OpcodeName} (h : inst.name ∈ names) (hdisjoint : ∀ name ∈ names, name ∉ integerNames) :
      False := hdisjoint _ h hname
  unfold afterOpcode at h
  cases htable : tableName (opcode.zeroExtend 32) with
  | some name =>
    rw [htable] at h
    obtain ⟨⟨reg, rm, mem⟩, m, hoperand, hrest⟩ := bind_ok.mp h
    obtain ⟨length, _, -, hpure⟩ := bind_ok.mp hrest
    obtain ⟨rfl, -⟩ := pure_ok.mp hpure
    obtain rfl : mem = none := hmemory
    obtain ⟨modrm, rest, hdrop, hmode, rfl, rfl, -⟩ := readModrm_none hoperand
    exact ⟨modrm, rest, hbehind.symm.trans hdrop, hmode, .register htable rfl⟩
  | none =>
    rw [htable] at h
    dsimp only at h
    by_cases himmediate : opcode.zeroExtend 32 = 0x81#32 ∨ opcode.zeroExtend 32 = 0x83#32
    · rw [if_pos himmediate] at h
      obtain ⟨⟨reg, rm, mem⟩, m, hoperand, hrest⟩ := bind_ok.mp h
      obtain ⟨imm, m', himm, hlast⟩ := bind_ok.mp hrest
      obtain ⟨length, _, -, hpure⟩ := bind_ok.mp hlast
      obtain ⟨rfl, -⟩ := pure_ok.mp hpure
      obtain rfl : mem = none := hmemory
      obtain ⟨modrm, rest, hdrop, hmode, rfl, rfl, rfl⟩ := readModrm_none hoperand
      obtain ⟨size, hsize⟩ : ∃ size, immediateSize opcode = some size := by
        rcases himmediate with hopcode | hopcode
        · rw [show opcode = 0x81#8 from zeroExtend_eq.mp hopcode]
          exact ⟨4, rfl⟩
        · rw [show opcode = 0x83#8 from zeroExtend_eq.mp hopcode]
          exact ⟨1, rfl⟩
      rw [rexW_eq] at himm
      obtain ⟨rfl, hlength⟩ := readImmediate_taken hsize (byte_cons hdrop).2 himm
      exact ⟨modrm, rest, hbehind.symm.trans hdrop, hmode, .immediate htable rfl hsize hlength rfl⟩
    -- the other opcodes have other names
    exfalso
    rw [if_neg himmediate] at h
    split_ifs at h
    · exact hother (yields_decodeShift _ _ _ _ _ h) (by decide)
    · obtain ⟨second, _, -, hrest⟩ := bind_ok.mp h
      exact hother (yields_afterEscape _ _ _ _ _ _ _ hrest) (by decide)
    · obtain ⟨length, _, -, hpure⟩ := bind_ok.mp h
      obtain ⟨rfl, -⟩ := pure_ok.mp hpure
      have hnop : OpcodeName.nop ∈ integerNames := hname
      exact absurd hnop (by decide)
    · cases h

end Decoder

lemma modField_of_mode {modrm : Byte} (h : modeOf modrm = 3#8) : modField modrm = 3 := (modeOf_iff 3 modrm).mp h

lemma split_prefixes {bytes before behind : List Byte} {opcode : Byte} (hbytes : bytes = before ++ opcode :: behind)
    (hbefore : ∀ x ∈ before, isPrefixByte x = true) (hopcode : isPrefixByte opcode = false) :
    bytes.takeWhile isPrefixByte = before ∧ bytes.dropWhile isPrefixByte = opcode :: behind := by
  have hstop : ¬isPrefixByte opcode = true := by
    rw [hopcode]
    decide
  rw [hbytes, List.takeWhile_append_of_pos hbefore, List.dropWhile_append_of_pos hbefore,
    List.takeWhile_cons_of_neg hstop, List.dropWhile_cons_of_neg hstop, List.append_nil]
  exact ⟨rfl, rfl⟩

lemma groupOp_ne_mov (n : ℕ) : groupOp n ≠ some .mov := by
  unfold groupOp
  split <;> simp

lemma immediateAgrees_iff (op : IntegerOp) (rex modrm : Byte) {imm imm' : U64}
    (himm : imm' = (imm.truncate 32 : U32).signExtend 64) :
    ImmediateAgrees op (rexW rex) (manualGpr (rmField modrm)) (manualGpr (rmField modrm + 8 * (rexB rex).toNat)) imm
      imm' ↔ ImmediateFormAgrees op rex imm := by
  have hrm := rmField_lt modrm
  have hdst : manualGpr (rmField modrm + 8 * (rexB rex).toNat) = manualGpr (rmField modrm) ↔ rexB rex = false := by
    cases rexB rex <;> simp (disch := omega) only [Bool.toNat_false, Bool.toNat_true, manualGpr_inj] <;> simp
  unfold ImmediateAgrees ImmediateFormAgrees
  rw [hdst, ← himm]

/-- What the decoder accepts as an integer instruction between registers or of an immediate, without an operand-size
prefix, is one of the manual; emulating it follows the manual in every state exactly for the encodings that agree. -/
theorem emulateIse_integer (addF32 : U32 → U32 → U32) {data : List Byte} {offset : ℕ} {inst : DecodedInstruction}
    (hdecode : decode data offset = .ok inst) (hname : inst.name ∈ integerNames) (hmemory : inst.memory = none)
    (hsize : 0x66#8 ∉ (data.drop offset).takeWhile isPrefixByte) :
    ∃ i, manualInteger (data.drop offset) = some i ∧
      (FollowsManual addF32 inst i ↔ EncodingAgrees (data.drop offset)) := by
  have hvex : inst.name ∉ [OpcodeName.vzeroUpper, .vaddps, .unknown] := by
    have hdisjoint : ∀ name ∈ integerNames, name ∉ [OpcodeName.vzeroUpper, .vaddps, .unknown] := by decide
    exact hdisjoint _ hname
  obtain ⟨before, opcode, behind, hbytes, hbefore, hopcode, hafter, hbehind⟩ :=
    decodeAt_legacy (decode_ok.mp hdecode) hvex
  obtain ⟨modrm, rest, rfl, hmode, hform⟩ := integerForm_of_decode hafter hbehind hname hmemory
  obtain ⟨htake, hdrop⟩ := split_prefixes hbytes hbefore hopcode
  rw [htake] at hsize
  have hmanual : manualInteger (data.drop offset) = manualForm (effectiveRex before) opcode modrm rest := by
    unfold manualInteger
    rw [htake, hdrop]
    exact if_neg (not_or.mpr ⟨hsize, not_not.mpr (modField_of_mode hmode)⟩)
  rw [hmanual]
  unfold EncodingAgrees
  rw [htake, hdrop]
  dsimp only
  have hdst := gprOf_rm modrm
  have htableName := tableName_eq opcode
  cases hform with
  | register hregister hoperands =>
    rw [hregister] at htableName
    obtain ⟨⟨op, toRm⟩, hopcodeForm, hop⟩ := Option.map_eq_some_iff.mp htableName.symm
    have hsrc : sourceOf (.register (regOf modrm)) = some (.register (manualGpr (regField modrm))) := by
      rw [sourceOf, gprOf_reg]
      rfl
    have hfollows := followsManual_iff addF32 hop.symm hoperands hdst hsrc (rexW (effectiveRex before))
    rw [manualForm, hopcodeForm]
    dsimp only
    rw [← registersAgree_iff]
    cases toRm with
    | true => exact ⟨_, rfl, (hfollows _ _).trans matches_register_iff⟩
    | false => exact ⟨_, rfl, (hfollows _ _).trans matches_register_iff⟩
  | immediate htable himmediate hbytesize hlength hoperands =>
    rw [htable] at htableName
    have hopcodeForm : registerForm opcode = none := Option.map_eq_none_iff.mp htableName.symm
    rw [immediateName_eq] at himmediate
    obtain ⟨op, hgroup⟩ : ∃ op, groupOp (regField modrm) = some op := by
      cases hgroup : groupOp (regField modrm) with
      | some op => exact ⟨op, rfl⟩
      | none =>
        rw [hgroup] at himmediate
        rw [himmediate] at hvex
        exact absurd (by decide) hvex
    rw [hgroup] at himmediate
    have hmov : op ≠ .mov := by
      rintro rfl
      exact groupOp_ne_mov _ hgroup
    have himm := signed_eq_taken (rexW (prefixState before).1) hbytesize hlength
    have hfollows := followsManual_iff addF32 himmediate hoperands hdst rfl (rexW (effectiveRex before))
    rw [manualForm, hopcodeForm, hgroup, hbytesize]
    refine ⟨_, if_neg (Nat.not_lt.mpr hlength), (hfollows _ _).trans ((matches_immediate_iff hmov himm).trans ?_)⟩
    rw [immediateAgrees_iff op _ modrm himm]
    constructor
    · intro h
      exact ⟨op, rfl, h⟩
    · rintro ⟨op', hop', h⟩
      obtain rfl := Option.some.inj hop'
      exact h

def betweenRaxRcx (opcode : U32) (name : OpcodeName) (wide : Bool) (length : ℕ) : DecodedInstruction :=
  ⟨opcode, name, regSize wide, [.register 0#32, .register 1#32], false, false, length, 1#32, 0#32, none⟩

-- 48 29 C8: SUB of `rcx` from `rax`
theorem emulateIse_integer_sub : decode [0x48#8, 0x29#8, 0xc8#8] 0 = .ok (betweenRaxRcx 0x29#32 .sub true 3) ∧
    ∃ i, manualInteger [0x48#8, 0x29#8, 0xc8#8] = some i ∧
      FollowsManual (fun a b => a ||| b) (betweenRaxRcx 0x29#32 .sub true 3) i := by
  have hdecode : decode [0x48#8, 0x29#8, 0xc8#8] 0 = .ok (betweenRaxRcx 0x29#32 .sub true 3) := rfl
  obtain ⟨i, hmanual, hiff⟩ := emulateIse_integer (fun a b => a ||| b) hdecode (by decide) rfl (by decide)
  have hagrees : RegisterFormAgrees .sub true 0x48#8 0xc8#8 := ⟨by decide, .inl ⟨rfl, rfl, rfl, .inl rfl⟩⟩
  exact ⟨hdecode, i, hmanual, hiff.mpr hagrees⟩

/-- `48 01 C8`, ADD, by its overflow flag; `29 C8`, SUB at 32 bits; and `48 2B C8`, SUB of `rax` from `rcx`. -/
theorem emulateIse_integer_fails :
    (decode [0x48#8, 0x01#8, 0xc8#8] 0 = .ok (betweenRaxRcx 0x01#32 .add true 3) ∧
      manualInteger [0x48#8, 0x01#8, 0xc8#8] = some ⟨.add, true, .rax, .register .rcx⟩ ∧
      ¬FollowsManual (fun a b => a ||| b) (betweenRaxRcx 0x01#32 .add true 3) ⟨.add, true, .rax, .register .rcx⟩) ∧
    (decode [0x29#8, 0xc8#8] 0 = .ok (betweenRaxRcx 0x29#32 .sub false 2) ∧
      manualInteger [0x29#8, 0xc8#8] = some ⟨.sub, false, .rax, .register .rcx⟩ ∧
      ¬FollowsManual (fun a b => a ||| b) (betweenRaxRcx 0x29#32 .sub false 2) ⟨.sub, false, .rax, .register .rcx⟩) ∧
    decode [0x48#8, 0x2b#8, 0xc8#8] 0 = .ok (betweenRaxRcx 0x2b#32 .sub true 3) ∧
      manualInteger [0x48#8, 0x2b#8, 0xc8#8] = some ⟨.sub, true, .rcx, .register .rax⟩ ∧
      ¬FollowsManual (fun a b => a ||| b) (betweenRaxRcx 0x2b#32 .sub true 3) ⟨.sub, true, .rcx, .register .rax⟩ := by
  have hfails (op : IntegerOp) {opcode : U32} {wide : Bool} {length : ℕ} {dst src : Gpr}
      (h : ¬RegistersAgree op wide .rax .rcx dst src) : ¬FollowsManual (fun a b => a ||| b)
        (betweenRaxRcx opcode op.name wide length) ⟨op, wide, dst, .register src⟩ := by
    intro hfollows
    exact h (matches_register_iff.mp ((followsManual_iff _ rfl rfl rfl rfl wide dst (.register src)).mp hfollows))
  refine ⟨⟨rfl, rfl, hfails .add ?_⟩, ⟨rfl, rfl, hfails .sub ?_⟩, rfl, rfl, hfails .sub ?_⟩ <;>
    unfold RegistersAgree <;> decide

end Nextcore.Ise.Emulator
