import Nextcore.Ise.Emulator
import Nextcore.Ise.Grammar
import Nextcore.Lib.X86.Machine

/-! The integer instructions of the manual between registers and of immediates: ADD, OR, AND, SUB, XOR, CMP and MOV with
an operand size of 32 or 64 bits. -/

namespace Nextcore.Ise.Emulator

inductive IntegerOp where
  | add | sub | cmp | and | or | xor | mov
deriving DecidableEq, Repr

inductive Source where
  | register (r : Gpr)
  | immediate (v : U64)
deriving DecidableEq, Repr

def Source.value (gpr : Gpr → U64) : Source → U64
  | .register r => gpr r
  | .immediate v => v

structure IntegerInstruction where
  op : IntegerOp
  wide : Bool
  dst : Gpr
  src : Source
deriving DecidableEq, Repr

/-! What an instruction does. -/

def operandWidth (wide : Bool) : X86.Size := if wide then .qword else .dword

def IntegerOp.compute (op : IntegerOp) (wide : Bool) (a b : U64) (flags : X86.Flags) : U64 × X86.Flags :=
  match op with
  | .add => X86.aluAt .add (operandWidth wide) a b
  | .sub => X86.aluAt .sub (operandWidth wide) a b
  | .cmp => X86.aluAt .cmp (operandWidth wide) a b
  | .and => X86.aluAt .and (operandWidth wide) a b
  | .or => X86.aluAt .or (operandWidth wide) a b
  | .xor => X86.aluAt .xor (operandWidth wide) a b
  | .mov => ((operandWidth wide).low b, flags)

def IntegerOp.commit (op : IntegerOp) (gpr : Gpr → U64) (dst : Gpr) (out : U64 × X86.Flags) : (Gpr → U64) × X86.Flags :=
  (if op = .cmp then gpr else Function.update gpr dst out.1, out.2)

def IntegerInstruction.execute (i : IntegerInstruction) (gpr : Gpr → U64) (flags : X86.Flags) :
    (Gpr → U64) × X86.Flags :=
  i.op.commit gpr i.dst (i.op.compute i.wide (gpr i.dst) (i.src.value gpr) flags)

def flagsOf (rflags : U64) : X86.Flags :=
  ⟨some (rflags.getLsbD 0), some (rflags.getLsbD 6), some (rflags.getLsbD 7), some (rflags.getLsbD 11)⟩

/-! How an instruction is written. -/

def manualGpr : ℕ → Gpr
  | 0 => .rax
  | 1 => .rcx
  | 2 => .rdx
  | 3 => .rbx
  | 4 => .rsp
  | 5 => .rbp
  | 6 => .rsi
  | 7 => .rdi
  | 8 => .r8
  | 9 => .r9
  | 10 => .r10
  | 11 => .r11
  | 12 => .r12
  | 13 => .r13
  | 14 => .r14
  | _ => .r15

def effectiveRex (before : List Byte) : Byte :=
  match before.getLast? with
  | some b => if isRex b then b else 0#8
  | none => 0#8

def rexW (rex : Byte) : Bool := rex.getLsbD 3

def rexR (rex : Byte) : Bool := rex.getLsbD 2

def rexB (rex : Byte) : Bool := rex.getLsbD 0

def groupOp : ℕ → Option IntegerOp
  | 0 => some .add
  | 1 => some .or
  | 4 => some .and
  | 5 => some .sub
  | 6 => some .xor
  | 7 => some .cmp
  | _ => none

def registerForm (opcode : Byte) : Option (IntegerOp × Bool) :=
  if opcode = 0x89#8 then some (.mov, true)
  else if opcode = 0x8b#8 then some (.mov, false)
  else if opcode.toNat < 64 ∧ opcode.toNat % 8 = 1 then (groupOp (opcode.toNat / 8)).map fun op => (op, true)
  else if opcode.toNat < 64 ∧ opcode.toNat % 8 = 3 then (groupOp (opcode.toNat / 8)).map fun op => (op, false)
  else none

def immediateSize (opcode : Byte) : Option ℕ :=
  if opcode = 0x83#8 then some 1 else if opcode = 0x81#8 then some 4 else none

def manualForm (rex opcode modrm : Byte) (rest : List Byte) : Option IntegerInstruction :=
  let rm := manualGpr (rmField modrm + 8 * (rexB rex).toNat)
  let reg := manualGpr (regField modrm + 8 * (rexR rex).toNat)
  match registerForm opcode with
  | some (op, true) => some ⟨op, rexW rex, rm, .register reg⟩
  | some (op, false) => some ⟨op, rexW rex, reg, .register rm⟩
  | none => do
    let op ← groupOp (regField modrm)
    let size ← immediateSize opcode
    if rest.length < size then none
    else some ⟨op, rexW rex, rm, .immediate (BitVec.ofInt 64 (signed (rest.take size)))⟩

def manualInteger (bytes : List Byte) : Option IntegerInstruction :=
  let before := bytes.takeWhile isPrefixByte
  match bytes.dropWhile isPrefixByte with
  | opcode :: modrm :: rest =>
    if 0x66#8 ∈ before ∨ modField modrm ≠ 3 then none else manualForm (effectiveRex before) opcode modrm rest
  | _ => none

end Nextcore.Ise.Emulator
