import Nextcore.Lib.Bytes
import Nextcore.Lib.Parse

/-! `src/decoder.rs`: the instruction decoder of the ISE. Its cursor is counted from the offset of the instruction, so
that the length of an instruction is the cursor at its end. -/

namespace Nextcore.Ise

open Parse

inductive DecodeError where
  | insufficientData (pos : ℕ)
  | invalidVexPrefix (pos : ℕ)
  | unsupported
  | badModRm (pos : ℕ)
deriving DecidableEq, Repr

inductive OperandSize where
  | size8
  | size16
  | size32
  | size64
  | size128
  | size256
deriving DecidableEq, Repr

inductive OpcodeName where
  | add
  | sub
  | xor
  | and
  | or
  | mov
  | cmp
  | shl
  | shr
  | popcnt
  | pclmulqdq
  | pmovsxbw
  | movdqa
  | movdqu
  | vzeroUpper
  | vaddps
  | nop
  | unknown
deriving DecidableEq, Repr

structure MemoryOperand where
  base : Option U32
  index : Option U32
  scale : U32
  displacement : U64
deriving DecidableEq, Repr

inductive Operand where
  | register (r : U32)
  | immediate (v : U64)
  | memory (m : MemoryOperand)
deriving DecidableEq, Repr

structure DecodedInstruction where
  opcode : U32
  name : OpcodeName
  operandSize : OperandSize
  operands : List Operand
  isAvx : Bool
  isSse4 : Bool
  length : ℕ
  regIndex : U32
  rmIndex : U32
  memory : Option MemoryOperand
deriving DecidableEq, Repr

abbrev Decoder := Parser Byte DecodeError

def byte : Decoder Byte := item .insufficientData

def bytes (n : ℕ) : Decoder (List Byte) := items .insufficientData n

def opFromRm (rm : U32) (mem : Option MemoryOperand) : Operand :=
  match mem with
  | some m => .memory m
  | none => .register rm

def readSib (mode : Byte) (rm : U32) : Decoder (U32 × Option U32 × U32) :=
  if rm = 4#32 then do
    let sib ← byte
    let scale := (sib >>> 6).zeroExtend 32 + 1#32
    let idx := ((sib >>> 3) &&& 7#8).zeroExtend 32
    let bs := (sib &&& 7#8).zeroExtend 32
    pure (if mode = 0#8 ∧ bs = 5#32 then 0xffffffff#32 else rm, if idx ≠ 4#32 then some idx else none, scale)
  else pure (rm, none, 1#32)

def displacement32 (bs : List Byte) : U64 := ((Bytes.leValue bs).truncate 32).signExtend 64

def readDisplacement (mode : Byte) (rm base : U32) (index : Option U32) : Decoder (U64 × U32) :=
  if mode = 1#8 then do
    let b ← byte
    pure (b.signExtend 64, base)
  else if mode = 2#8 then do
    let bs ← bytes 4
    pure (displacement32 bs, base)
  else if mode = 0#8 ∧ rm = 5#32 ∧ index = none then do
    let bs ← bytes 4
    pure (displacement32 bs, 0xffffffff#32)
  else pure (0#64, base)

/-! The fields of a ModRM byte. -/

def modeOf (modrm : Byte) : Byte := (modrm >>> 6) &&& 3#8

def rmOf (modrm : Byte) : U32 := (modrm &&& 7#8).zeroExtend 32

def regOf (modrm : Byte) : U32 := ((modrm >>> 3) &&& 7#8).zeroExtend 32

def readOperand (modrm : Byte) : Decoder (U32 × U32 × Option MemoryOperand) :=
  if modeOf modrm = 3#8 then pure (regOf modrm, rmOf modrm, none)
  else do
    let (base, index, scale) ← readSib (modeOf modrm) (rmOf modrm)
    let (displacement, base) ← readDisplacement (modeOf modrm) (rmOf modrm) base index
    pure (regOf modrm, rmOf modrm,
      some ⟨if base = 0xffffffff#32 then none else some base, index, scale, displacement⟩)

def readModrm : Decoder (U32 × U32 × Option MemoryOperand) := do
  let modrm ← byte
  readOperand modrm

def isRex (b : Byte) : Bool := 0x40#8 ≤ b && b ≤ 0x4f#8

def isMandatory (b : Byte) : Bool := b = 0x66#8 || b = 0xf2#8 || b = 0xf3#8

/-- The prefix loop; a turn goes on only past a byte, so the bytes left bound the turns. -/
def prefixLoop : (fuel : ℕ) → (rex mandatory : Byte) → Decoder (Byte × Byte)
  | 0, _, _ => fun s k => .error (.insufficientData (s.origin + k))
  | fuel + 1, rex, mandatory => do
    let b ← look .insufficientData
    if isRex b then do
      let _ ← byte
      prefixLoop fuel b mandatory
    else if isMandatory b then do
      let _ ← byte
      prefixLoop fuel rex b
    else pure (rex, mandatory)

def prefixes : Decoder (Byte × Byte) := fun s k => prefixLoop (s.remaining - k + 1) 0#8 0#8 s k

def regSize (rexW : Bool) : OperandSize := if rexW then .size64 else .size32

def tableName (opcode : U32) : Option OpcodeName :=
  if opcode = 0x01#32 ∨ opcode = 0x03#32 then some .add
  else if opcode = 0x29#32 ∨ opcode = 0x2b#32 then some .sub
  else if opcode = 0x31#32 ∨ opcode = 0x33#32 then some .xor
  else if opcode = 0x21#32 ∨ opcode = 0x23#32 then some .and
  else if opcode = 0x09#32 ∨ opcode = 0x0b#32 then some .or
  else if opcode = 0x39#32 ∨ opcode = 0x3b#32 then some .cmp
  else if opcode = 0x89#32 ∨ opcode = 0x8b#32 then some .mov
  else none

def decodeTable (opcode : U32) (name : OpcodeName) (rexW : Bool) : Decoder DecodedInstruction := do
  let (reg, rm, mem) ← readModrm
  let length ← consumed
  pure ⟨opcode, name, regSize rexW, [opFromRm rm mem, .register reg], false, false, length, reg, rm, mem⟩

/-- The immediate of 0x83, sign-extended, and of 0x81. The check of `pos + 1` that the code makes on the way cannot
fail, since the operand starts at `pos`. -/
def readImmediate (opcode : U32) (rexW : Bool) : Decoder U64 :=
  if opcode = 0x83#32 then do
    let b ← byte
    pure (b.signExtend 64)
  else if rexW then do
    let bs ← bytes 8
    pure (Bytes.leValue bs)
  else do
    let bs ← bytes 4
    pure (((Bytes.leValue bs).truncate 32).zeroExtend 64)

def immediateName (reg : U32) : OpcodeName :=
  if reg = 0#32 then .add
  else if reg = 5#32 then .sub
  else if reg = 1#32 then .or
  else if reg = 4#32 then .and
  else if reg = 6#32 then .xor
  else if reg = 7#32 then .cmp
  else .unknown

def decodeImmediate (opcode : U32) (rexW : Bool) : Decoder DecodedInstruction := do
  let (reg, rm, mem) ← readModrm
  let imm ← readImmediate opcode rexW
  let length ← consumed
  pure ⟨opcode, immediateName reg, regSize rexW, [opFromRm rm mem, .immediate imm], false, false, length, reg, rm,
    mem⟩

def shiftName (reg : U32) : OpcodeName := if reg = 4#32 then .shl else .shr

def readCount (opcode : U32) : Decoder U64 :=
  if opcode = 0xc1#32 then do
    let b ← itemIfAny
    pure (match b with
      | some b => b.zeroExtend 64 &&& 0x3f#64
      | none => 0#64)
  else if opcode = 0xd1#32 then pure 1#64
  else pure 0#64

def decodeShift (opcode : U32) : Decoder DecodedInstruction := do
  let (reg, rm, mem) ← readModrm
  let count ← readCount opcode
  let length ← consumed
  pure ⟨opcode, shiftName reg, .size32, [opFromRm rm mem, .immediate count], false, false, length, reg, rm, mem⟩

def decodeRegRm (opcode : U32) (name : OpcodeName) (size : OperandSize) (isSse4 : Bool) :
    Decoder DecodedInstruction := do
  let (reg, rm, mem) ← readModrm
  let length ← consumed
  pure ⟨opcode, name, size, [.register reg, opFromRm rm mem], false, isSse4, length, reg, rm, mem⟩

def decodePclmulqdq : Decoder DecodedInstruction := do
  let (reg, rm, mem) ← readModrm
  let b ← itemIfAny
  let imm : U64 := match b with
    | some b => b.zeroExtend 64
    | none => 0#64
  let length ← consumed
  pure ⟨0x44#32, .pclmulqdq, .size128, [.register reg, opFromRm rm mem, .immediate imm], false, true, length, reg, rm,
    mem⟩

def afterEscape (rexW : Bool) (mandatory second : Byte) : Decoder DecodedInstruction :=
  if second = 0xb8#8 then decodeRegRm 0xb8#32 .popcnt (regSize rexW) true
  else if second = 0x6f#8 ∨ second = 0x7f#8 then
    decodeRegRm (second.zeroExtend 32) (if mandatory = 0x66#8 then .movdqa else .movdqu) .size128 false
  else if second = 0x38#8 then do
    let third ← byte
    if third = 0x20#8 then decodeRegRm (third.zeroExtend 32) .pmovsxbw .size128 true else fail .unsupported
  else if second = 0x3a#8 then do
    let third ← byte
    if third = 0x44#8 then decodePclmulqdq else fail .unsupported
  else fail .unsupported

def decodeTwoByte (rexW : Bool) (mandatory : Byte) : Decoder DecodedInstruction := do
  let second ← byte
  afterEscape rexW mandatory second

def afterOpcode (rex mandatory : Byte) (opcode : U32) : Decoder DecodedInstruction :=
  let rexW := rex &&& 8#8 ≠ 0#8
  match tableName opcode with
  | some name => decodeTable opcode name rexW
  | none =>
    if opcode = 0x81#32 ∨ opcode = 0x83#32 then decodeImmediate opcode rexW
    else if opcode = 0xd1#32 ∨ opcode = 0xc1#32 ∨ opcode = 0xd3#32 then decodeShift opcode
    else if opcode = 0x0f#32 then decodeTwoByte rexW mandatory
    else if opcode = 0x90#32 then do
      let length ← consumed
      pure ⟨opcode, .nop, .size8, [], false, false, length, 0#32, 0#32, none⟩
    else fail .unsupported

def decodeOpcode (rex mandatory : Byte) : Decoder DecodedInstruction := do
  let opcode ← byte
  afterOpcode rex mandatory (opcode.zeroExtend 32)

def vexVvvv (byte1 : Byte) : U32 := ~~~((byte1 >>> 3) &&& 0xf#8).zeroExtend 32 &&& 0xf#32

def vexSize (byte1 : Byte) : OperandSize := if (byte1 >>> 2) &&& 1#8 = 1#8 then .size256 else .size128

def decodeVex2 : Decoder DecodedInstruction := do
  let bs ← bytes 3
  let byte1 := bs.getD 1 0#8
  let opcode : U32 := (bs.getD 2 0#8).zeroExtend 32
  let name := if opcode = 0x77#32 then .vzeroUpper else if opcode = 0x58#32 then .vaddps else .unknown
  pure ⟨opcode, name, vexSize byte1, [.register 0#32, .register (vexVvvv byte1)], true,
    byte1 &&& 3#8 = 1#8, 3, 0#32, vexVvvv byte1, none⟩

def decodeVex3 : Decoder DecodedInstruction := do
  let bs ← bytes 4
  let byte1 := bs.getD 1 0#8
  pure ⟨(bs.getD 3 0#8).zeroExtend 32, .unknown, vexSize byte1, [.register 0#32, .register (vexVvvv byte1)], true,
    byte1 &&& 3#8 = 1#8, 4, 0#32, vexVvvv byte1, none⟩

def decodeLegacy : Decoder DecodedInstruction := do
  let (rex, mandatory) ← prefixes
  decodeOpcode rex mandatory

def afterFirst (first : Byte) : Decoder DecodedInstruction :=
  if first = 0xc5#8 then decodeVex2 else if first = 0xc6#8 then decodeVex3 else decodeLegacy

def decodeAt : Decoder DecodedInstruction := do
  let first ← look .insufficientData
  afterFirst first

def decode (data : List Byte) (offset : ℕ) : Except DecodeError DecodedInstruction :=
  match decodeAt ⟨data, offset⟩ 0 with
  | .error e => .error e
  | .ok (instruction, _) => .ok instruction

end Nextcore.Ise
