import Nextcore.Jit.Layout
import Nextcore.Jit.Translate
import Nextcore.Lib.X86.Pieces

/-! What each emitted sequence does, as a rewriting of runs on symbolic machines. -/

namespace Nextcore.Jit

open Cpu Emit X86

section Immediates

def join32 (v : U32) : U32 :=
  (v >>> 24).truncate 8 ++ (v >>> 16).truncate 8 ++ (v >>> 8).truncate 8 ++ v.truncate 8

def join64 (v : U64) : U64 :=
  (v >>> 56).truncate 8 ++ (v >>> 48).truncate 8 ++ (v >>> 40).truncate 8 ++ (v >>> 32).truncate 8 ++
    (v >>> 24).truncate 8 ++ (v >>> 16).truncate 8 ++ (v >>> 8).truncate 8 ++ v.truncate 8

lemma join32_eq (v : U32) : join32 v = v := le32_word v

lemma join64_eq (v : U64) : join64 v = v := by
  unfold join64
  apply BitVec.eq_of_getLsbD_eq
  intro i hi
  simp only [BitVec.getLsbD_append, BitVec.truncate_eq_setWidth, BitVec.getLsbD_setWidth,
    BitVec.getLsbD_ushiftRight]
  grind

end Immediates

def sizeOf (wide : Bool) : Size := if wide then .qword else .dword

def low (wide : Bool) (v : U64) : U64 := (sizeOf wide).low v

def loadFlags (reg : U32) (sp : Bool) (f : Flags) : Flags :=
  if reg = 31#32 ∧ sp = false then ⟨some false, some true, some false, some false⟩ else f

def opcodeOf : AluOp → Byte
  | .add => 0x01#8
  | .or => 0x09#8
  | .and => 0x21#8
  | .sub => 0x29#8
  | .xor => 0x31#8
  | .cmp => 0x39#8
  | .test => 0x85#8

def extensionOf : ShiftOp → Byte
  | .shl => 0xe0#8
  | .shr => 0xe8#8
  | .sar => 0xf8#8
  | .ror => 0xc8#8

def alu (op : AluOp) (wide : Bool) (a b : U64) : U64 := (aluAt op (sizeOf wide) a b).1

def aluFlags (op : AluOp) (wide : Bool) (a b : U64) : Flags := (aluAt op (sizeOf wide) a b).2

def shifted (op : ShiftOp) (wide : Bool) (v : U64) (count : ℕ) : U64 :=
  if wide then shiftOn op v (count % 64) else (shiftOn op (v.truncate 32 : U32) (count % 32)).zeroExtend 64

lemma low_low (wide : Bool) (v : U64) : low wide (low wide v) = low wide v := by
  cases wide
  · change ((BitVec.truncate 32 (BitVec.zeroExtend 64 (v.truncate 32 : U32)) : U32)).zeroExtend 64 = _
    rw [BitVec.truncate_eq_setWidth, BitVec.setWidth_setWidth_of_le _ (by decide), BitVec.setWidth_eq]
    rfl
  · rfl

lemma truncate_low (v : U64) : ((low false v).truncate 32 : U32) = v.truncate 32 := by
  change (BitVec.truncate 32 (BitVec.zeroExtend 64 (v.truncate 32 : U32)) : U32) = _
  rw [BitVec.truncate_eq_setWidth, BitVec.setWidth_setWidth_of_le _ (by decide), BitVec.setWidth_eq]

lemma aluAt_low (op : AluOp) (wide : Bool) (a b : U64) :
    aluAt op (sizeOf wide) (low wide a) (low wide b) = aluAt op (sizeOf wide) a b := by
  cases wide
  · simp only [aluAt, sizeOf, Bool.false_eq_true, if_false, truncate_low]
  · rfl

lemma aluAt_low_left (op : AluOp) (wide : Bool) (a b : U64) :
    aluAt op (sizeOf wide) (low wide a) b = aluAt op (sizeOf wide) a b := by
  cases wide
  · simp only [aluAt, sizeOf, Bool.false_eq_true, if_false, truncate_low]
  · rfl

lemma low_alu (op : AluOp) (wide : Bool) (a b : U64) : low wide (alu op wide a b) = alu op wide a b := by
  cases wide
  · simp only [alu, aluAt, sizeOf, Bool.false_eq_true, if_false]
    change ((BitVec.truncate 32 (BitVec.zeroExtend 64 _) : U32)).zeroExtend 64 = _
    rw [BitVec.truncate_eq_setWidth, BitVec.setWidth_setWidth_of_le _ (by decide), BitVec.setWidth_eq]
  · rfl

lemma low_shifted (op : ShiftOp) (wide : Bool) (v : U64) (k : ℕ) :
    low wide (shifted op wide v k) = shifted op wide v k := by
  cases wide
  · simp only [shifted, Bool.false_eq_true, if_false]
    change ((BitVec.truncate 32 (BitVec.zeroExtend 64 _) : U32)).zeroExtend 64 = _
    rw [BitVec.truncate_eq_setWidth, BitVec.setWidth_setWidth_of_le _ (by decide), BitVec.setWidth_eq]
  · rfl

def saved (g : VfCpu) (reg : U32) (sp : Bool) (v : U64) : VfCpu :=
  if reg = 31#32 then (if sp then { g with sp := v } else g) else g.setX reg v

def bit (x : Bool) : U64 := if x then 1#64 else 0#64

def nzcv (n z c v : Bool) : U64 := bit n <<< 31 ||| bit z <<< 30 ||| bit c <<< 29 ||| bit v <<< 28

def setNzcv (g : VfCpu) (flags : U64) : VfCpu := { g with pstate := (g.pstate &&& ~~~0xf0000000#64) ||| flags }

def holds (n z c v : Bool) (cond : U32) : Bool :=
  let group := cond >>> 1
  let base := if group = 0#32 then z else if group = 1#32 then c else if group = 2#32 then n
    else if group = 3#32 then v else if group = 4#32 then c && !z else if group = 5#32 then n == v
    else if group = 6#32 then n == v && !z else true
  if cond &&& 1#32 ≠ 0#32 ∧ cond ≠ 15#32 then !base else base

def conditionHolds (pstate : U64) (cond : U32) : Bool :=
  holds (pstate.getLsbD 31) (pstate.getLsbD 30) (pstate.getLsbD 29) (pstate.getLsbD 28) cond

def returned (out : Option (U32 × Machine VfCpu)) : Option (U32 × VfCpu × List Byte) :=
  out.map fun (status, m) => (status, m.guest, m.ram)

def finished (g : VfCpu) (pc : U64) (count : U32) : VfCpu :=
  { g with pc := pc, retired := g.retired + count.signExtend 64 }

section Runs

variable {host : Host} {rax rcx rdx r8 r9 r10 r11 : Value} {f : Flags} {g : VfCpu} {ram rest : List Byte} {a b c : U64}

lemma run_imm (v : U64) :
    run (layout host) (imm v ++ rest) ⟨rax, rcx, rdx, r8, r9, r10, r11, f, g, ram⟩ =
      run (layout host) rest ⟨.word v, rcx, rdx, r8, r9, r10, r11, f, g, ram⟩ := by
  have hd : decode (imm v ++ rest) = some (.movImm .rax (join64 v), rest) := rfl
  rw [join64_eq] at hd
  exact run_execute hd rfl

lemma run_constR9 (v : U64) :
    run (layout host) (constR9 v ++ rest) ⟨rax, rcx, rdx, r8, r9, r10, r11, f, g, ram⟩ =
      run (layout host) rest ⟨rax, rcx, rdx, r8, .word v, r10, r11, f, g, ram⟩ := by
  have hd : decode (constR9 v ++ rest) = some (.movImm .r9 (join64 v), rest) := rfl
  rw [join64_eq] at hd
  exact run_execute hd rfl

lemma run_moveR9 :
    run (layout host) (moveR9 ++ rest) ⟨rax, rcx, rdx, r8, r9, r10, r11, f, g, ram⟩ =
      run (layout host) rest ⟨rax, rcx, rdx, r8, rax, r10, r11, f, g, ram⟩ :=
  run_execute (i := .mov .qword (.reg .r9) (.reg .rax)) rfl rfl

lemma run_moveR11 :
    run (layout host) (moveR11 ++ rest) ⟨rax, rcx, rdx, r8, r9, r10, r11, f, g, ram⟩ =
      run (layout host) rest ⟨rax, rcx, rdx, r8, r9, r10, rax, f, g, ram⟩ :=
  run_execute (i := .mov .qword (.reg .r11) (.reg .rax)) rfl rfl

lemma decode_loadField (wide : Bool) (off : U32) :
    decode (rex wide ++ ([0x8b#8, 0x81#8] ++ (le32 off ++ rest))) =
      some (.mov (sizeOf wide) (.reg .rax) (.field off), rest) := by
  have hd : decode (rex wide ++ ([0x8b#8, 0x81#8] ++ (le32 off ++ rest))) =
      some (.mov (sizeOf wide) (.reg .rax) (.field (join32 off)), rest) := by
    cases wide <;> rfl
  rwa [join32_eq] at hd

lemma run_load {reg : U32} (hreg : reg < 32#32) (sp wide : Bool) :
    run (layout host) (load reg sp wide ++ rest) ⟨rax, .guest, rdx, r8, r9, r10, r11, f, g, ram⟩ =
      run (layout host) rest ⟨.word (low wide (memoryRegister g reg sp)), .guest, rdx, r8, r9, r10, r11,
        loadFlags reg sp f, g, ram⟩ := by
  by_cases h31 : reg = 31#32
  · cases sp
    · have hz : memoryRegister g reg false = 0#64 := if_pos h31
      have hl : low wide 0#64 = 0#64 := by cases wide <;> rfl
      rw [load, if_pos h31, if_neg Bool.false_ne_true, loadFlags, if_pos ⟨h31, rfl⟩, hz, hl]
      refine run_execute (i := .alu .xor .dword (.reg .rax) (.reg .rax)) rfl ?_
      simp [Machine.execute, Machine.read, Machine.word, Machine.get, Machine.assign, Machine.write,
        Machine.set, aluAt, aluOn, AluOp.writes]
    · have hs : memoryRegister g reg true = g.sp := if_pos h31
      rw [load, if_pos h31, if_pos rfl, loadFlags, if_neg (by simp), hs, List.append_assoc,
        List.append_assoc]
      refine run_execute (decode_loadField wide Offset.sp) ?_
      cases wide
      · exact congrArg (fun v => some (Machine.mk (.word v) _ _ _ _ _ _ _ _ _)) (low_low false g.sp)
      · rfl
  · have hlt : reg < 31#32 := by
      have h1 : reg.toNat < 32 := hreg
      have h2 : reg.toNat ≠ 31 := fun h => h31 (BitVec.eq_of_toNat_eq h)
      exact (show reg.toNat < 31 by omega)
    have hx : memoryRegister g reg sp = g.x (VfCpu.slot reg) := if_neg h31
    rw [load, if_neg h31, loadFlags, if_neg (fun h => h31 h.1), hx, List.append_assoc, List.append_assoc]
    refine run_execute (decode_loadField wide (reg * 8#32)) ?_
    cases wide
    · simp only [Machine.execute, sizeOf, Bool.false_eq_true, if_false, Machine.read, read32_slot hlt,
        Option.bind_eq_bind, Option.map_some, Option.bind_some, Machine.write, Machine.set, Option.some.injEq,
        Machine.mk.injEq, and_true, Value.word.injEq]
      exact low_low false _
    · simp only [Machine.execute, sizeOf, if_true, Machine.read, read64_slot hlt,
        Option.bind_eq_bind, Option.bind_some, Machine.write, Machine.set]
      rfl

lemma decode_saveField (off : U32) :
    decode ([0x48#8, 0x89#8, 0x81#8] ++ (le32 off ++ rest)) =
      some (.mov .qword (.field off) (.reg .rax), rest) := by
  have hd : decode ([0x48#8, 0x89#8, 0x81#8] ++ (le32 off ++ rest)) =
      some (.mov .qword (.field (join32 off)) (.reg .rax), rest) := rfl
  rwa [join32_eq] at hd

lemma run_save {reg : U32} (hreg : reg < 32#32) (sp : Bool) :
    run (layout host) (save reg sp ++ rest) ⟨.word a, .guest, rdx, r8, r9, r10, r11, f, g, ram⟩ =
      run (layout host) rest ⟨.word a, .guest, rdx, r8, r9, r10, r11, f, saved g reg sp a, ram⟩ := by
  by_cases h31 : reg = 31#32
  · cases sp
    · rw [save, if_pos h31, if_neg Bool.false_ne_true, saved, if_pos h31, if_neg Bool.false_ne_true]
      rfl
    · rw [save, if_pos h31, if_pos rfl, saved, if_pos h31, if_pos rfl, List.append_assoc]
      exact run_execute (decode_saveField Offset.sp) rfl
  · have hlt : reg < 31#32 := by
      have h1 : reg.toNat < 32 := hreg
      have h2 : reg.toNat ≠ 31 := fun h => h31 (BitVec.eq_of_toNat_eq h)
      exact (show reg.toNat < 31 by omega)
    rw [save, if_neg h31, saved, if_neg h31, List.append_assoc]
    refine run_execute (decode_saveField (reg * 8#32)) ?_
    simp only [Machine.execute, Machine.read, Machine.word, Machine.get, Value.bits, Option.map_some,
      Option.bind_eq_bind, Option.bind_some, Machine.write, Size.low, write64_slot hlt]

lemma run_field {off : U32} {v : U64} {g' : VfCpu} (h : (layout host).write64 g off v = some g') :
    run (layout host) (field off v ++ rest) ⟨rax, .guest, rdx, r8, r9, r10, r11, f, g, ram⟩ =
      run (layout host) rest ⟨.word v, .guest, rdx, r8, r9, r10, r11, f, g', ram⟩ := by
  rw [field, List.append_assoc, List.append_assoc, run_imm]
  refine run_execute (decode_saveField off) ?_
  simp only [Machine.execute, Machine.read, Machine.word, Machine.get, Value.bits, Option.map_some,
    Option.bind_eq_bind, Option.bind_some, Machine.write, Size.low, h]

lemma run_field32 (v : U32) :
    run (layout host) (field32 Offset.instruction v ++ rest) ⟨rax, .guest, rdx, r8, r9, r10, r11, f, g, ram⟩ =
      run (layout host) rest ⟨rax, .guest, rdx, r8, r9, r10, r11, f, { g with instruction := v }, ram⟩ := by
  have hd : decode (field32 Offset.instruction v ++ rest) =
      some (.movStore (.field (join32 Offset.instruction)) (join32 v), rest) := rfl
  rw [join32_eq, join32_eq] at hd
  refine run_execute hd ?_
  simp only [Machine.execute, Machine.write]
  rw [BitVec.truncate_eq_setWidth, BitVec.setWidth_setWidth_of_le _ (by decide), BitVec.setWidth_eq]
  rfl

lemma execute_alu {op : AluOp} (hop : op.writes = true) (wide : Bool) {src : Reg}
    (hsrc : (Machine.mk (.word a) rcx rdx r8 r9 r10 r11 f g ram).get src = .word b) :
    (Machine.mk (.word a) rcx rdx r8 r9 r10 r11 f g ram).execute (layout host)
        (.alu op (sizeOf wide) (.reg .rax) (.reg src)) =
      some ⟨.word (alu op wide a b), rcx, rdx, r8, r9, r10, r11, aluFlags op wide a b, g, ram⟩ := by
  have ha : (Machine.mk (.word a) rcx rdx r8 r9 r10 r11 f g ram).word (layout host) .rax = a := rfl
  have hb : (Machine.mk (.word a) rcx rdx r8 r9 r10 r11 f g ram).word (layout host) src = b := by
    rw [Machine.word, hsrc, Value.bits]
  have hread : ∀ v, (sizeOf wide).low v = low wide v := fun _ => rfl
  simp only [Machine.execute, Machine.read, ha, hb, Option.bind_eq_bind, Option.bind_some,
    Machine.assign, hop, if_true, hread, aluAt_low]
  cases wide
  · exact congrArg (fun v => some (Machine.mk (.word v) _ _ _ _ _ _ _ _ _)) (low_alu op false a b)
  · rfl

lemma run_aluR9 {op : AluOp} (hop : op.writes = true) (wide : Bool) :
    run (layout host) (aluR9 wide (opcodeOf op) ++ rest) ⟨.word a, rcx, rdx, r8, .word b, r10, r11, f, g, ram⟩ =
      run (layout host) rest ⟨.word (alu op wide a b), rcx, rdx, r8, .word b, r10, r11, aluFlags op wide a b, g,
        ram⟩ := by
  refine run_execute ?_ (@execute_alu _ _ _ _ _ _ _ _ _ _ _ _ _ hop wide .r9 rfl)
  cases op with
  | cmp => cases hop
  | test => cases hop
  | _ => cases wide <;> rfl

lemma run_orR10 (wide : Bool) :
    run (layout host) ([if wide then 0x4c#8 else 0x44#8, 0x09#8, 0xd0#8] ++ rest)
        ⟨.word a, rcx, rdx, r8, r9, .word b, r11, f, g, ram⟩ =
      run (layout host) rest ⟨.word (alu .or wide a b), rcx, rdx, r8, r9, .word b, r11, aluFlags .or wide a b, g,
        ram⟩ := by
  refine run_execute ?_ (@execute_alu _ _ _ _ _ _ _ _ _ _ _ _ _ rfl wide .r10 rfl)
  cases wide <;> rfl

lemma run_moveR10 :
    run (layout host) ([0x49#8, 0x89#8, 0xc2#8] ++ rest) ⟨rax, rcx, rdx, r8, r9, r10, r11, f, g, ram⟩ =
      run (layout host) rest ⟨rax, rcx, rdx, r8, r9, rax, r11, f, g, ram⟩ :=
  run_execute (i := .mov .qword (.reg .r10) (.reg .rax)) rfl rfl

lemma shiftAt_shifted (op : ShiftOp) (wide : Bool) (v : U64) (count : ℕ) :
    shiftAt op (sizeOf wide) (low wide v) count = some (shifted op wide v count) := by
  cases wide
  · simp only [shiftAt, sizeOf, Bool.false_eq_true, if_false, truncate_low, shifted]
  · rfl

lemma shifted_mod (op : ShiftOp) (wide : Bool) (v : U64) (count : U32) :
    shifted op wide v (count.truncate 8 : Byte).toNat = shifted op wide v count.toNat := by
  have h64 : (count.truncate 8 : Byte).toNat % 64 = count.toNat % 64 := by
    rw [BitVec.truncate_eq_setWidth, BitVec.toNat_setWidth]
    omega
  have h32 : (count.truncate 8 : Byte).toNat % 32 = count.toNat % 32 := by
    rw [BitVec.truncate_eq_setWidth, BitVec.toNat_setWidth]
    omega
  simp only [shifted, h64, h32]

lemma write_rax (wide : Bool) {v : U64} (hv : low wide v = v) :
    (Machine.mk rax rcx rdx r8 r9 r10 r11 f g ram).write (layout host) (sizeOf wide) (.reg .rax) v =
      some ⟨.word v, rcx, rdx, r8, r9, r10, r11, f, g, ram⟩ := by
  cases wide
  · exact congrArg (fun v => some (Machine.mk (.word v) _ _ _ _ _ _ _ _ _)) hv
  · rfl

lemma execute_shift (m : Machine VfCpu) (op : ShiftOp) (wide : Bool) (r : Reg) (k : ℕ) :
    m.execute (layout host) (.shift op (sizeOf wide) (.reg r) k) =
      some (m.clobber.set r (.word (shifted op wide (m.word (layout host) r) k))) := by
  have hread : m.read (layout host) (sizeOf wide) (.reg r) = some (low wide (m.word (layout host) r)) := rfl
  simp only [Machine.execute, hread, Option.bind_eq_bind, Option.bind_some, shiftAt_shifted]
  cases wide
  · exact congrArg (fun v => some (m.clobber.set r (.word v))) (low_shifted op false _ k)
  · rfl

lemma run_shiftRax (op : ShiftOp) (wide : Bool) (amount : U32) :
    run (layout host) (shiftRax wide (extensionOf op) amount ++ rest)
        ⟨.word a, rcx, rdx, r8, r9, r10, r11, f, g, ram⟩ =
      run (layout host) rest ⟨.word (shifted op wide a amount.toNat), rcx, rdx, r8, r9, r10, r11, .undefined, g,
        ram⟩ := by
  have hd : decode (shiftRax wide (extensionOf op) amount ++ rest) =
      some (.shift op (sizeOf wide) (.reg .rax) (amount.truncate 8 : Byte).toNat, rest) := by
    cases op <;> cases wide <;> rfl
  rw [run_execute hd (execute_shift _ _ _ _ _), shifted_mod]
  rfl

lemma run_notRax (wide : Bool) :
    run (layout host) (notRax wide ++ rest) ⟨.word a, rcx, rdx, r8, r9, r10, r11, f, g, ram⟩ =
      run (layout host) rest ⟨.word (low wide (~~~(low wide a))), rcx, rdx, r8, r9, r10, r11, f, g, ram⟩ := by
  have hd : decode (notRax wide ++ rest) = some (.not (sizeOf wide) (.reg .rax), rest) := by
    cases wide <;> rfl
  refine run_execute hd ?_
  cases wide <;> rfl

lemma run_increment (wide : Bool) :
    run (layout host) (rex wide ++ [0x83#8, 0xc0#8, 1#8] ++ rest) ⟨.word a, rcx, rdx, r8, r9, r10, r11, f, g, ram⟩ =
      run (layout host) rest ⟨.word (alu .add wide a 1#64), rcx, rdx, r8, r9, r10, r11, aluFlags .add wide a 1#64, g,
        ram⟩ := by
  have hd : decode (rex wide ++ [0x83#8, 0xc0#8, 1#8] ++ rest) =
      some (.aluImm .add (sizeOf wide) (.reg .rax) 1#64, rest) := by
    cases wide <;> rfl
  refine run_execute hd ?_
  have hread : (Machine.mk (.word a) rcx rdx r8 r9 r10 r11 f g ram).read (layout host) (sizeOf wide) (.reg .rax) =
      some (low wide a) := rfl
  simp only [Machine.execute, hread, Option.bind_eq_bind, Option.bind_some, aluAt_low_left]
  exact write_rax wide (low_alu _ _ _ _)

lemma run_retire (count status : U32) :
    run (layout host) (retire count status ++ rest) ⟨rax, .guest, rdx, r8, r9, r10, r11, f, g, ram⟩ =
      some (status, ⟨.word (status.zeroExtend 64), .guest, rdx, r8, r9, r10, r11,
        aluFlags .add true g.retired (count.signExtend 64),
        { g with retired := g.retired + count.signExtend 64 }, ram⟩) := by
  have hadd : decode (retire count status ++ rest) =
      some (.aluImm .add .qword (.field (join32 Offset.retired)) ((join32 count).signExtend 64),
        [0xb8#8] ++ (le32 status ++ ([0xc3#8] ++ rest))) := rfl
  have hmov : decode ([0xb8#8] ++ (le32 status ++ ([0xc3#8] ++ rest))) =
      some (.movImm .rax ((join32 status).zeroExtend 64), [0xc3#8] ++ rest) := rfl
  rw [join32_eq, join32_eq] at hadd
  rw [join32_eq] at hmov
  rw [run_execute hadd (n := ⟨rax, .guest, rdx, r8, r9, r10, r11,
      aluFlags .add true g.retired (count.signExtend 64),
      { g with retired := g.retired + count.signExtend 64 }, ram⟩) rfl,
    run_execute hmov (n := ⟨.word (status.zeroExtend 64), .guest, rdx, r8, r9, r10, r11,
      aluFlags .add true g.retired (count.signExtend 64),
      { g with retired := g.retired + count.signExtend 64 }, ram⟩) rfl,
    @run_ret _ _ ([0xc3#8] ++ rest) rest _ rfl]
  exact congrArg (fun v => some (v, _)) (by
    change (BitVec.truncate 32 (status.zeroExtend 64) : U32) = _
    rw [BitVec.truncate_eq_setWidth, BitVec.setWidth_setWidth_of_le _ (by decide), BitVec.setWidth_eq])

lemma returned_retire (count status : U32) :
    returned (run (layout host) (retire count status ++ rest) ⟨rax, .guest, rdx, r8, r9, r10, r11, f, g, ram⟩) =
      some (status, { g with retired := g.retired + count.signExtend 64 }, ram) := by
  rw [run_retire]
  rfl

lemma returned_finish (pc : U64) (count status : U32) :
    returned (run (layout host) (finish pc count status ++ rest) ⟨rax, .guest, rdx, r8, r9, r10, r11, f, g, ram⟩) =
      some (status, finished g pc count, ram) := by
  rw [finish, List.append_assoc, @run_field _ _ _ _ _ _ _ _ _ _ _ _ _ ({ g with pc := pc }) rfl, returned_retire]
  rfl

lemma returned_stop (w : U32) (pc : U64) (n status : U32) :
    returned (run (layout host) (stop w pc n status ++ rest) ⟨rax, .guest, rdx, r8, r9, r10, r11, f, g, ram⟩) =
      some (status, finished { g with instruction := w } pc n, ram) := by
  rw [stop, List.append_assoc, run_field32, returned_finish]

lemma run_mergeFlags :
    run (layout host) (mergeFlags ++ rest) ⟨.word a, .guest, rdx, r8, r9, r10, r11, f, g, ram⟩ =
      run (layout host) rest ⟨.word a, .guest, rdx, r8, .word (~~~0xf0000000#64), r10, r11,
        aluFlags .or true (g.pstate &&& ~~~0xf0000000#64) a,
        { g with pstate := (g.pstate &&& ~~~0xf0000000#64) ||| a }, ram⟩ := by
  have hand : ∀ rest, decode ([0x4c#8, 0x21#8, 0x89#8] ++ (le32 Offset.pstate ++ rest)) =
      some (.alu .and .qword (.field Offset.pstate) (.reg .r9), rest) := fun _ => rfl
  have hor : ∀ rest, decode ([0x48#8, 0x09#8, 0x81#8] ++ (le32 Offset.pstate ++ rest)) =
      some (.alu .or .qword (.field Offset.pstate) (.reg .rax), rest) := fun _ => rfl
  simp only [mergeFlags, List.append_assoc, run_constR9]
  rw [run_execute (hand _) rfl, run_execute (hor _) rfl]
  rfl

lemma extend_captured (v : U64) (x : Bool) :
    extendAt false .byte .dword
      (Size.byte.low ((v &&& ~~~0xff#64) ||| ((bit x).truncate 8 : Byte).zeroExtend 64)) = bit x := by
  have hlow : ((v &&& ~~~0xff#64) ||| ((bit x).truncate 8 : Byte).zeroExtend 64).truncate 8 =
      ((bit x).truncate 8 : Byte) := by
    apply BitVec.eq_of_getLsbD_eq
    intro i hi
    simp only [BitVec.truncate_eq_setWidth, BitVec.getLsbD_setWidth, BitVec.getLsbD_or, BitVec.getLsbD_and,
      BitVec.getLsbD_not]
    have hff : (0xff#64).getLsbD i = true := by
      revert i
      decide
    simp [hff, hi, show i < 64 by omega]
  change Size.dword.low (Size.byte.low (BitVec.zeroExtend 64 (BitVec.truncate 8 _))) = _
  rw [hlow]
  cases x <;> decide

lemma run_captureFlags (subtract : Bool) {cf zf sf of : Bool} :
    run (layout host) ([0x41#8, 0x0f#8, 0x98#8, 0xc1#8,
        0x41#8, 0x0f#8, 0x94#8, 0xc2#8,
        0x41#8, 0x0f#8, if subtract then 0x93#8 else 0x92#8, 0xc3#8,
        0x0f#8, 0x90#8, 0xc0#8,
        0x45#8, 0x0f#8, 0xb6#8, 0xc9#8,
        0x45#8, 0x0f#8, 0xb6#8, 0xd2#8,
        0x45#8, 0x0f#8, 0xb6#8, 0xdb#8,
        0x0f#8, 0xb6#8, 0xc0#8] ++ rest)
        ⟨rax, .guest, rdx, r8, r9, r10, r11, ⟨some cf, some zf, some sf, some of⟩, g, ram⟩ =
      run (layout host) rest ⟨.word (bit of), .guest, rdx, r8, .word (bit sf), .word (bit zf),
        .word (bit (subtract ^^ cf)), ⟨some cf, some zf, some sf, some of⟩, g, ram⟩ := by
  have hcc : ∀ rest, decode (0x41#8 :: 0x0f#8 :: (if subtract then 0x93#8 else 0x92#8) :: 0xc3#8 :: rest) =
      some (.setcc (if subtract then 3 else 2) (.reg .r11), rest) := by
    cases subtract <;> exact fun _ => rfl
  have hc : condition ⟨some cf, some zf, some sf, some of⟩ (if subtract then 3 else 2) =
      some (subtract ^^ cf) := by
    cases subtract <;> cases cf <;> rfl
  simp only [List.cons_append, List.nil_append]
  rw [run_execute (i := .setcc 8 (.reg .r9)) rfl rfl, run_execute (i := .setcc 4 (.reg .r10)) rfl rfl,
    run_execute (hcc _) (by
      simp only [Machine.execute, Machine.set, hc]
      rfl), run_execute (i := .setcc 0 (.reg .rax)) rfl rfl,
    run_execute (i := .extend false .byte .dword .r9 (.reg .r9)) rfl rfl,
    run_execute (i := .extend false .byte .dword .r10 (.reg .r10)) rfl rfl,
    run_execute (i := .extend false .byte .dword .r11 (.reg .r11)) rfl rfl,
    run_execute (i := .extend false .byte .dword .rax (.reg .rax)) rfl rfl]
  simp only [Machine.set]
  congr 1
  simp only [Machine.mk.injEq, Value.word.injEq, and_true, true_and]
  exact ⟨extend_captured _ _, extend_captured _ _, extend_captured _ _, extend_captured _ _⟩

lemma run_placeFlags (n z cf v : Bool) :
    run (layout host) ([0x41#8, 0xc1#8, 0xe1#8, 31#8,
        0x41#8, 0xc1#8, 0xe2#8, 30#8,
        0x41#8, 0xc1#8, 0xe3#8, 29#8,
        0xc1#8, 0xe0#8, 28#8,
        0x44#8, 0x09#8, 0xc8#8,
        0x44#8, 0x09#8, 0xd0#8,
        0x44#8, 0x09#8, 0xd8#8] ++ (mergeFlags ++ rest))
        ⟨.word (bit v), .guest, rdx, r8, .word (bit n), .word (bit z), .word (bit cf), f, g, ram⟩ =
      run (layout host) rest ⟨.word (nzcv n z cf v), .guest, rdx, r8, .word (~~~0xf0000000#64),
        .word (bit z <<< 30), .word (bit cf <<< 29),
        aluFlags .or true (g.pstate &&& ~~~0xf0000000#64) (nzcv n z cf v), setNzcv g (nzcv n z cf v), ram⟩ := by
  simp only [List.cons_append, List.nil_append]
  have hrax : alu .or false (alu .or false (alu .or false (bit v <<< 28) (bit n <<< 31)) (bit z <<< 30))
      (bit cf <<< 29) = nzcv n z cf v := by
    cases n <;> cases z <;> cases cf <;> cases v <;> rfl
  have hshift : ∀ x : Bool, ∀ k < 32, shifted .shl false (bit x) k = bit x <<< k := by
    decide
  refine (run_execute (i := .shift .shl (sizeOf false) (.reg .r9) 31) rfl (execute_shift _ _ _ _ _)).trans ?_
  refine (run_execute (i := .shift .shl (sizeOf false) (.reg .r10) 30) rfl (execute_shift _ _ _ _ _)).trans ?_
  refine (run_execute (i := .shift .shl (sizeOf false) (.reg .r11) 29) rfl (execute_shift _ _ _ _ _)).trans ?_
  refine (run_execute (i := .shift .shl (sizeOf false) (.reg .rax) 28) rfl (execute_shift _ _ _ _ _)).trans ?_
  simp only [Machine.clobber, Machine.set, Machine.word, Machine.get, Value.bits]
  rw [hshift n 31 (by decide), hshift z 30 (by decide), hshift cf 29 (by decide), hshift v 28 (by decide)]
  refine (run_execute (i := .alu .or (sizeOf false) (.reg .rax) (.reg .r9)) rfl
    (execute_alu rfl false rfl)).trans ?_
  refine (run_execute (i := .alu .or (sizeOf false) (.reg .rax) (.reg .r10)) rfl
    (execute_alu rfl false rfl)).trans ?_
  refine (run_execute (i := .alu .or (sizeOf false) (.reg .rax) (.reg .r11)) rfl
    (execute_alu rfl false rfl)).trans ?_
  rw [run_mergeFlags, hrax]
  rfl

lemma run_saveArithmeticFlags (subtract : Bool) {cf zf sf of : Bool} :
    run (layout host) (saveArithmeticFlags subtract ++ rest)
        ⟨rax, .guest, rdx, r8, r9, r10, r11, ⟨some cf, some zf, some sf, some of⟩, g, ram⟩ =
      run (layout host) rest ⟨.word (nzcv sf zf (subtract ^^ cf) of), .guest, rdx, r8, .word (~~~0xf0000000#64),
        .word (bit zf <<< 30), .word (bit (subtract ^^ cf) <<< 29),
        aluFlags .or true (g.pstate &&& ~~~0xf0000000#64) (nzcv sf zf (subtract ^^ cf) of),
        setNzcv g (nzcv sf zf (subtract ^^ cf) of), ram⟩ := by
  have h := @run_captureFlags host rax rdx r8 r9 r10 r11 g ram ([0x41#8, 0xc1#8, 0xe1#8, 31#8, 0x41#8, 0xc1#8,
      0xe2#8, 30#8, 0x41#8, 0xc1#8, 0xe3#8, 29#8, 0xc1#8, 0xe0#8, 28#8, 0x44#8, 0x09#8, 0xc8#8, 0x44#8, 0x09#8,
      0xd0#8, 0x44#8, 0x09#8, 0xd8#8] ++ (mergeFlags ++ rest)) subtract cf zf sf of
  rw [run_placeFlags] at h
  exact h

lemma run_small (op : AluOp) (modrm : Byte) (v : Byte)
    (hd : ∀ rest, decode (0x83#8 :: modrm :: v :: rest) =
      some (.aluImm op (sizeOf false) (.reg .rax) (v.signExtend 64), rest)) :
    run (layout host) (0x83#8 :: modrm :: v :: rest) ⟨.word a, rcx, rdx, r8, r9, r10, r11, f, g, ram⟩ =
      run (layout host) rest ⟨.word (if op.writes then alu op false a (v.signExtend 64) else a), rcx, rdx, r8, r9, r10,
        r11, aluFlags op false a (v.signExtend 64), g, ram⟩ := by
  refine run_execute (hd rest) ?_
  have hread : (Machine.mk (.word a) rcx rdx r8 r9 r10 r11 f g ram).read (layout host) (sizeOf false) (.reg .rax) =
      some (low false a) := rfl
  simp only [Machine.execute, hread, Option.bind_eq_bind, Option.bind_some, aluAt_low_left, Machine.assign]
  split
  · exact write_rax false (low_alu _ _ _ _)
  · rfl

def nibbleOf (n z c v : Bool) : U64 := bit n <<< 3 ||| bit z <<< 2 ||| bit c <<< 1 ||| bit v

def nibble (p : U64) : U64 := nibbleOf (p.getLsbD 31) (p.getLsbD 30) (p.getLsbD 29) (p.getLsbD 28)

lemma shifted_pstate (p : U64) : shifted .shr false p 28 = nibble p := by
  have hbit : ∀ x : Bool, ∀ k < 4, ∀ i < 64, (bit x <<< k).getLsbD i = (x && i = k) := by
    decide
  have hbit0 : ∀ x : Bool, ∀ i < 64, (bit x).getLsbD i = (x && i = 0) := by
    decide
  apply BitVec.eq_of_getLsbD_eq
  intro i hi
  simp only [shifted, Bool.false_eq_true, if_false, shiftOn, BitVec.truncate_eq_setWidth,
    BitVec.getLsbD_setWidth, BitVec.getLsbD_ushiftRight, nibble, nibbleOf, BitVec.getLsbD_or, hbit _ 3 (by decide) i hi,
    hbit _ 2 (by decide) i hi, hbit _ 1 (by decide) i hi, hbit0 _ i hi]
  rcases i with _ | _ | _ | _ | i
  · simp
  · simp
  · simp
  · simp
  · simp
    omega

lemma run_loadFlags :
    run (layout host) ([0x8b#8, 0x81#8] ++ (le32 Offset.pstate ++ ([0xc1#8, 0xe8#8, 28#8] ++ rest)))
        ⟨rax, .guest, rdx, r8, r9, r10, r11, f, g, ram⟩ =
      run (layout host) rest ⟨.word (nibble g.pstate), .guest, rdx, r8, r9, r10, r11, .undefined, g, ram⟩ := by
  have hload : (Machine.mk rax .guest rdx r8 r9 r10 r11 f g ram).execute (layout host)
      (.mov (sizeOf false) (.reg .rax) (.field Offset.pstate)) =
      some ⟨.word (low false g.pstate), .guest, rdx, r8, r9, r10, r11, f, g, ram⟩ :=
    congrArg (fun v => some (Machine.mk (.word v) _ _ _ _ _ _ _ _ _)) (low_low false g.pstate)
  have hshift := @run_shiftRax host .guest rdx r8 r9 r10 r11 f g ram rest (low false g.pstate) .shr false 28#32
  refine (run_execute (decode_loadField false Offset.pstate) hload).trans (hshift.trans ?_)
  rw [← shifted_pstate, shifted, if_neg Bool.false_ne_true, truncate_low]
  rfl

lemma run_testFlag (mask : Byte) :
    run (layout host) ([0x8b#8, 0x81#8] ++ (le32 Offset.pstate ++ ([0xc1#8, 0xe8#8, 28#8] ++
        ([0x83#8, 0xe0#8, mask] ++ rest)))) ⟨rax, .guest, rdx, r8, r9, r10, r11, f, g, ram⟩ =
      run (layout host) rest ⟨.word (alu .and false (nibble g.pstate) (mask.signExtend 64)), .guest, rdx, r8, r9, r10,
        r11, aluFlags .and false (nibble g.pstate) (mask.signExtend 64), g, ram⟩ := by
  rw [run_loadFlags]
  exact run_small .and 0xe0#8 mask fun _ => rfl

lemma run_testHigher :
    run (layout host) ([0x8b#8, 0x81#8] ++ (le32 Offset.pstate ++ ([0xc1#8, 0xe8#8, 28#8] ++
        ([0x83#8, 0xe0#8, 6#8, 0x83#8, 0xf8#8, 2#8] ++ rest))))
        ⟨rax, .guest, rdx, r8, r9, r10, r11, f, g, ram⟩ =
      run (layout host) rest ⟨.word (alu .and false (nibble g.pstate) 6#64), .guest, rdx, r8, r9, r10, r11,
        aluFlags .cmp false (alu .and false (nibble g.pstate) 6#64) 2#64, g, ram⟩ := by
  rw [run_loadFlags]
  exact (run_small .and 0xe0#8 6#8 fun _ => rfl).trans (run_small .cmp 0xf8#8 2#8 fun _ => rfl)

lemma run_testSigned (mask : Byte) :
    ∃ x : U64, run (layout host) ([0x8b#8, 0x81#8] ++ (le32 Offset.pstate ++ ([0xc1#8, 0xe8#8, 28#8] ++
        ([0x41#8, 0x89#8, 0xc1#8, 0x41#8, 0xc1#8, 0xe9#8, 3#8, 0x44#8, 0x31#8, 0xc8#8, 0x83#8, 0xe0#8, mask] ++
          rest)))) ⟨rax, .guest, rdx, r8, r9, r10, r11, f, g, ram⟩ =
      run (layout host) rest ⟨.word (alu .and false x (mask.signExtend 64)), .guest, rdx, r8,
        .word (shifted .shr false (nibble g.pstate) 3), r10, r11, aluFlags .and false x (mask.signExtend 64), g,
        ram⟩ ∧
      x = alu .xor false (nibble g.pstate) (shifted .shr false (nibble g.pstate) 3) := by
  refine ⟨_, ?_, rfl⟩
  have hmove : ∀ v : U64, (Machine.mk (.word v) .guest rdx r8 r9 r10 r11 .undefined g ram).execute (layout host)
      (.mov .dword (.reg .r9) (.reg .rax)) =
      some ⟨.word v, .guest, rdx, r8, .word (low false v), r10, r11, .undefined, g, ram⟩ := fun v =>
    congrArg (fun w => some (Machine.mk _ _ _ _ (.word w) _ _ _ _ _)) (low_low false v)
  have hlow : ∀ v : U64, shifted .shr false (low false v) 3 = shifted .shr false v 3 := by
    intro v
    rw [shifted, if_neg Bool.false_ne_true, truncate_low]
    rfl
  rw [run_loadFlags]
  refine (run_execute (i := .mov .dword (.reg .r9) (.reg .rax)) rfl (hmove _)).trans ?_
  refine (run_execute (i := .shift .shr (sizeOf false) (.reg .r9) 3) rfl (execute_shift _ _ _ _ _)).trans ?_
  simp only [Machine.clobber, Machine.set, Machine.word, Machine.get, Value.bits, hlow]
  refine (run_execute (i := .alu .xor (sizeOf false) (.reg .rax) (.reg .r9)) rfl
    (execute_alu rfl false rfl)).trans ?_
  exact run_small .and 0xe0#8 mask fun _ => rfl

lemma run_conditionTest {cond : U32} (h : cond < 14#32) :
    ∃ (v : U64) (r9' : Value) (fl : Flags),
      run (layout host) ((conditionTest cond).1 ++ rest) ⟨rax, .guest, rdx, r8, r9, r10, r11, f, g, ram⟩ =
        run (layout host) rest ⟨.word v, .guest, rdx, r8, r9', r10, r11, fl, g, ram⟩ ∧
      (r9' = r9 ∨ ∃ w, r9' = .word w) ∧
      condition fl ((conditionTest cond).2.toNat % 16) = some (!conditionHolds g.pstate cond) := by
  -- each condition is one of the three tests, and its flags are decided on the sixteen nibbles
  have flag : ∀ (mask : Byte) (k : ℕ), (∀ n z c v : Bool,
      condition (aluFlags .and false (nibbleOf n z c v) (mask.signExtend 64)) k = some (!holds n z c v cond)) →
      condition (aluFlags .and false (nibble g.pstate) (mask.signExtend 64)) k =
        some (!conditionHolds g.pstate cond) := fun _ _ hk => hk _ _ _ _
  have higher : ∀ k : ℕ, (∀ n z c v : Bool,
      condition (aluFlags .cmp false (alu .and false (nibbleOf n z c v) 6#64) 2#64) k =
        some (!holds n z c v cond)) →
      condition (aluFlags .cmp false (alu .and false (nibble g.pstate) 6#64) 2#64) k =
        some (!conditionHolds g.pstate cond) := fun _ hk => hk _ _ _ _
  have signed : ∀ mask : Byte, (conditionTest cond).1 = [0x8b#8, 0x81#8] ++ le32 Offset.pstate ++
        [0xc1#8, 0xe8#8, 28#8] ++ [0x41#8, 0x89#8, 0xc1#8, 0x41#8, 0xc1#8, 0xe9#8, 3#8, 0x44#8, 0x31#8, 0xc8#8,
          0x83#8, 0xe0#8, mask] →
      (∀ n z c v : Bool, condition (aluFlags .and false (alu .xor false (nibbleOf n z c v)
          (shifted .shr false (nibbleOf n z c v) 3)) (mask.signExtend 64)) ((conditionTest cond).2.toNat % 16) =
        some (!holds n z c v cond)) →
      ∃ (v : U64) (r9' : Value) (fl : Flags),
        run (layout host) ((conditionTest cond).1 ++ rest) ⟨rax, .guest, rdx, r8, r9, r10, r11, f, g, ram⟩ =
          run (layout host) rest ⟨.word v, .guest, rdx, r8, r9', r10, r11, fl, g, ram⟩ ∧
        (r9' = r9 ∨ ∃ w, r9' = .word w) ∧
        condition fl ((conditionTest cond).2.toNat % 16) = some (!conditionHolds g.pstate cond) := by
    intro mask hcode hk
    obtain ⟨x, hrun, rfl⟩ := @run_testSigned host rax rdx r8 r9 r10 r11 f g ram rest mask
    rw [← List.append_assoc, ← List.append_assoc, ← List.append_assoc, ← hcode] at hrun
    exact ⟨_, _, _, hrun, .inr ⟨_, rfl⟩, hk _ _ _ _⟩
  have hcases : cond = 0#32 ∨ cond = 1#32 ∨ cond = 2#32 ∨ cond = 3#32 ∨ cond = 4#32 ∨ cond = 5#32 ∨
      cond = 6#32 ∨ cond = 7#32 ∨ cond = 8#32 ∨ cond = 9#32 ∨ cond = 10#32 ∨ cond = 11#32 ∨ cond = 12#32 ∨
      cond = 13#32 := by
    bv_omega
  rcases hcases with rfl | rfl | rfl | rfl | rfl | rfl | rfl | rfl | rfl | rfl | rfl | rfl | rfl | rfl
  · exact ⟨_, _, _, run_testFlag 4#8, .inl rfl, flag 4#8 _ (by decide)⟩
  · exact ⟨_, _, _, run_testFlag 4#8, .inl rfl, flag 4#8 _ (by decide)⟩
  · exact ⟨_, _, _, run_testFlag 2#8, .inl rfl, flag 2#8 _ (by decide)⟩
  · exact ⟨_, _, _, run_testFlag 2#8, .inl rfl, flag 2#8 _ (by decide)⟩
  · exact ⟨_, _, _, run_testFlag 8#8, .inl rfl, flag 8#8 _ (by decide)⟩
  · exact ⟨_, _, _, run_testFlag 8#8, .inl rfl, flag 8#8 _ (by decide)⟩
  · exact ⟨_, _, _, run_testFlag 1#8, .inl rfl, flag 1#8 _ (by decide)⟩
  · exact ⟨_, _, _, run_testFlag 1#8, .inl rfl, flag 1#8 _ (by decide)⟩
  · exact ⟨_, _, _, run_testHigher, .inl rfl, higher _ (by decide)⟩
  · exact ⟨_, _, _, run_testHigher, .inl rfl, higher _ (by decide)⟩
  · exact signed 1#8 (by decide) (by decide)
  · exact signed 1#8 (by decide) (by decide)
  · exact signed 5#8 (by decide) (by decide)
  · exact signed 5#8 (by decide) (by decide)

variable {m : Machine VfCpu} {body : List Byte}

lemma toNat_distance {k : ℕ} (hk : k < 2 ^ 31) : (BitVec.ofNat 32 k).toNat = k := by
  rw [BitVec.toNat_ofNat]
  exact Nat.mod_eq_of_lt (by omega)

lemma run_skip {cc : Byte} (hcc : cc &&& 0xf0#8 = 0x80#8) (hbody : body.length < 2 ^ 31) {taken : Bool}
    (htaken : condition m.flags (cc.toNat % 16) = some taken) :
    run (layout host) ([0x0f#8, cc] ++ (le32 (BitVec.ofNat 32 body.length) ++ (body ++ rest))) m =
      run (layout host) (if taken then rest else body ++ rest) m := by
  have hd : decode ([0x0f#8, cc] ++ (le32 (BitVec.ofNat 32 body.length) ++ (body ++ rest))) =
      some (.jcc (cc.toNat % 16) (join32 (BitVec.ofNat 32 body.length)), body ++ rest) := by
    change (if cc &&& 0xf0#8 = 0x80#8 then _ else _) = _
    rw [if_pos hcc]
    rfl
  rw [join32_eq] at hd
  rw [run_jcc hd (by rw [toNat_distance hbody]; exact hbody) (by rw [toNat_distance hbody]; simp) htaken,
    toNat_distance hbody, List.drop_left]

lemma run_over (hbody : body.length < 2 ^ 31) :
    run (layout host) ([0xe9#8] ++ (le32 (BitVec.ofNat 32 body.length) ++ (body ++ rest))) m = run (layout host) rest m := by
  have hd : decode ([0xe9#8] ++ (le32 (BitVec.ofNat 32 body.length) ++ (body ++ rest))) =
      some (.jmp (join32 (BitVec.ofNat 32 body.length)), body ++ rest) := rfl
  rw [join32_eq] at hd
  rw [run_jmp hd (by rw [toNat_distance hbody]; exact hbody) (by rw [toNat_distance hbody]; simp),
    toNat_distance hbody, List.drop_left]

end Runs

end Nextcore.Jit
