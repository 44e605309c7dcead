import Nextcore.Ise.Decoder
import Nextcore.Lib.Atomic

/-! `src/emulator.rs`: the emulator of the ISE. A defect is a panic of the arithmetic with its overflow checks on. -/

namespace Nextcore.Ise.Emulator

open Atomic

inductive EmulatorError where
  | unsupportedInstruction (opcode : U32)
  | invalidRegister (index : U32)
  | divisionByZero
  | unsupportedName
  | memoryUnsupported
deriving DecidableEq, Repr

inductive Gpr where
  | rax | rbx | rcx | rdx | rsi | rdi | rsp | rbp | r8 | r9 | r10 | r11 | r12 | r13 | r14 | r15
deriving DecidableEq, Repr

structure Registers where
  gpr : Gpr → U64
  xmm : Fin 16 → BitVec 128
  ymm : Fin 16 → BitVec 128
  rflags : U64

def Registers.zero : Registers := ⟨fun _ => 0#64, fun _ => 0#128, fun _ => 0#128, 0#64⟩

abbrev Emulation := Action Registers EmulatorError

def flagCf : U64 := 1#64 <<< 0

def flagZf : U64 := 1#64 <<< 6

def flagSf : U64 := 1#64 <<< 7

def flagOf : U64 := 1#64 <<< 11

/-! The registers. -/

def gprOf (index : U32) : Option Gpr :=
  match index.toNat with
  | 0 => some .rax
  | 1 => some .rcx
  | 2 => some .rdx
  | 3 => some .rbx
  | 4 => some .rsp
  | 5 => some .rbp
  | 6 => some .rsi
  | 7 => some .rdi
  | 8 => some .r8
  | 9 => some .r9
  | 10 => some .r10
  | 11 => some .r11
  | 12 => some .r12
  | 13 => some .r13
  | 14 => some .r14
  | 15 => some .r15
  | _ => none

def getGpr (index : U32) : Emulation U64 :=
  match gprOf index with
  | some r => do
    let regs ← state
    pure (regs.gpr r)
  | none => refuse (.invalidRegister index)

def Registers.withGpr (regs : Registers) (r : Gpr) (value : U64) : Registers :=
  { regs with gpr := Function.update regs.gpr r value }

def setGpr (index : U32) (value : U64) : Emulation Unit :=
  match gprOf index with
  | some r => update fun regs => regs.withGpr r value
  | none => refuse (.invalidRegister index)

def getXmm (index : U32) : Emulation (BitVec 128) :=
  if h : index.toNat < 16 then do
    let regs ← state
    pure (regs.xmm ⟨index.toNat, h⟩)
  else refuse (.invalidRegister index)

def Registers.withXmm (regs : Registers) (r : Fin 16) (value : BitVec 128) : Registers :=
  { regs with xmm := Function.update regs.xmm r value }

def setXmm (index : U32) (value : BitVec 128) : Emulation Unit :=
  if h : index.toNat < 16 then update fun regs => regs.withXmm ⟨index.toNat, h⟩ value
  else refuse (.invalidRegister index)

/-! The operands. -/

def readOperand (inst : DecodedInstruction) (which : ℕ) : Emulation U64 :=
  match inst.operands[which]? with
  | some (.register r) => getGpr r
  | some (.immediate v) => pure v
  | some (.memory _) => refuse .memoryUnsupported
  | none => pure 0#64

def writeDst (inst : DecodedInstruction) (which : ℕ) (value : U64) : Emulation Unit :=
  match inst.operands[which]? with
  | some (.register r) => setGpr r value
  | some (.memory _) => refuse .memoryUnsupported
  | some (.immediate _) => refuse .unsupportedName
  | none => refuse .unsupportedName

def flagged (rflags : U64) (cf zf sf of : Bool) : U64 :=
  (rflags &&& ~~~(flagCf ||| flagZf ||| flagSf ||| flagOf)) ||| (if cf then flagCf else 0#64) |||
    (if zf then flagZf else 0#64) ||| (if sf then flagSf else 0#64) ||| (if of then flagOf else 0#64)

def updateFlags (cf zf sf of : Bool) : Emulation Unit :=
  update fun regs => { regs with rflags := flagged regs.rflags cf zf sf of }

/-! The integer instructions. -/

def emulateMov (inst : DecodedInstruction) : Emulation Unit := do
  let host ← readOperand inst 1
  writeDst inst 0 host

inductive BinOp where
  | add | sub | xor | and | or
deriving DecidableEq, Repr

def topBit : U64 := 1#64 <<< 63

def subFlags (lhs rhs : U64) : U64 × Bool × Bool × Bool × Bool :=
  let r := lhs - rhs
  (r, lhs < rhs, (lhs ^^^ rhs) &&& (lhs ^^^ r) &&& topBit != 0#64, r == 0#64, (r >>> 63) &&& 1#64 == 1#64)

def logicFlags (r : U64) : U64 × Bool × Bool × Bool × Bool :=
  (r, false, false, r == 0#64, (r >>> 63) &&& 1#64 == 1#64)

def binary (op : BinOp) (lhs rhs : U64) : U64 × Bool × Bool × Bool × Bool :=
  match op with
  | .add =>
    let r := lhs + rhs
    (r, r < lhs, (lhs ^^^ rhs) &&& ~~~(lhs ^^^ r) &&& topBit != 0#64, r == 0#64, (r >>> 63) &&& 1#64 == 1#64)
  | .sub => subFlags lhs rhs
  | .xor => logicFlags (lhs ^^^ rhs)
  | .and => logicFlags (lhs &&& rhs)
  | .or => logicFlags (lhs ||| rhs)

def emulateBinary (inst : DecodedInstruction) (op : BinOp) : Emulation Unit := do
  let lhs ← readOperand inst 0
  let rhs ← readOperand inst 1
  let (result, cf, of, zf, sf) := binary op lhs rhs
  writeDst inst 0 result
  updateFlags cf zf sf of

def emulateCmp (inst : DecodedInstruction) : Emulation Unit := do
  let lhs ← readOperand inst 0
  let rhs ← readOperand inst 1
  let (_, cf, of, zf, sf) := subFlags lhs rhs
  updateFlags cf zf sf of

def shifted (left : Bool) (value : U64) (count : ℕ) : Checked (U64 × Bool) :=
  if count = 0 then pure (value, false)
  else if left then do
    let n ← Checked.subNat 64 count
    let out ← Checked.shr value n
    let result ← Checked.shl value count
    pure (result, out &&& 1#64 == 1#64)
  else do
    let n ← Checked.subNat count 1
    let out ← Checked.shr value n
    let result ← Checked.shr value count
    pure (result, out &&& 1#64 == 1#64)

def emulateShift (inst : DecodedInstruction) (left : Bool) : Emulation Unit := do
  let value ← readOperand inst 0
  let count ← readOperand inst 1
  let (result, cf) ← checked (shifted left value (count.truncate 32 &&& 0x3f#32).toNat)
  writeDst inst 0 result
  updateFlags cf (result == 0#64) ((result >>> 63) &&& 1#64 == 1#64) false

def emulatePopcnt (inst : DecodedInstruction) : Emulation Unit := do
  let src ← readOperand inst 1
  let result : U64 := BitVec.ofNat 64 ((List.finRange 64).countP fun i => src.getLsbD i)
  writeDst inst 0 result
  updateFlags false (result == 0#64) false false

/-! The vector instructions. -/

def emulateVzeroupper : Emulation Unit := update fun regs => { regs with ymm := fun _ => 0#128 }

def fieldAt (x : BitVec 128) (bits : ℕ) (mask : BitVec 128) (i : ℕ) : Checked (BitVec 128) := do
  let y ← Checked.shr x (i * bits)
  pure (y &&& mask)

section Vaddps

variable (addF32 : U32 → U32 → U32)

/-- The first loop of `emulate_vaddps`; `addF32` is the addition of two `f32` by their bits. -/
def addLanes (a b : BitVec 128) : ℕ → Checked (List U32)
  | 0 => pure []
  | i + 1 => do
    let out ← addLanes a b i
    let ai ← fieldAt a 32 0xffffffff#128 i
    let bi ← fieldAt b 32 0xffffffff#128 i
    pure (out ++ [addF32 (ai.truncate 32) (bi.truncate 32)])

def joinLanes (out : List U32) : ℕ → Checked (BitVec 128)
  | 0 => pure 0#128
  | i + 1 => do
    let result ← joinLanes out i
    let piece ← Checked.shl ((out.getD i 0#32).zeroExtend 128) (i * 32)
    pure (result ||| piece)

def vaddpsLanes (count : ℕ) (a b : BitVec 128) : Checked (BitVec 128) := do
  let out ← addLanes addF32 a b count
  joinLanes out count

def vaddpsSource (inst : DecodedInstruction) : U32 :=
  match inst.operands[(1 : ℕ)]? with
  | some (.register r) => r
  | _ => inst.rmIndex

def vaddpsCount (inst : DecodedInstruction) : ℕ := if inst.operandSize = .size256 then 8 else 4

def emulateVaddps (inst : DecodedInstruction) : Emulation Unit := do
  let a ← getXmm inst.regIndex
  let b ← getXmm (vaddpsSource inst)
  let result ← checked (vaddpsLanes addF32 (vaddpsCount inst) a b)
  setXmm inst.regIndex result

end Vaddps

def emulateMovXmm (inst : DecodedInstruction) : Emulation Unit := do
  let v ← getXmm inst.rmIndex
  setXmm inst.regIndex v

def widenBytes (s : BitVec 128) : ℕ → Checked (BitVec 128)
  | 0 => pure 0#128
  | i + 1 => do
    let result ← widenBytes s i
    let byte ← fieldAt s 8 0xff#128 i
    let word ← Checked.shl (((byte.truncate 8).signExtend 16).zeroExtend 128) (i * 16)
    pure (result ||| word)

def emulatePmovsxbw (inst : DecodedInstruction) : Emulation Unit := do
  let s ← getXmm inst.rmIndex
  let result ← checked (widenBytes s 8)
  setXmm inst.regIndex result

def pclmulSelector (inst : DecodedInstruction) : U64 :=
  match inst.operands.getLast? with
  | some (.immediate v) => v
  | _ => 0#64

def laneMask : BitVec 128 := 0xffffffffffffffff#128

def laneProduct (a b : BitVec 128) (dstLane srcLane : ℕ) : Checked (BitVec 128) := do
  let aLo ← fieldAt a 64 laneMask dstLane
  let bLo ← fieldAt b 64 laneMask srcLane
  Checked.mul aLo bLo

def emulatePclmulqdq (inst : DecodedInstruction) : Emulation Unit := do
  let imm := pclmulSelector inst
  let srcLane := (imm &&& 1#64).toNat
  let dstLane := ((imm >>> 4) &&& 1#64).toNat
  let a ← getXmm inst.regIndex
  let b ← getXmm inst.rmIndex
  let product ← checked (laneProduct a b dstLane srcLane)
  setXmm inst.regIndex product

def emulateIse (addF32 : U32 → U32 → U32) (inst : DecodedInstruction) : Emulation Unit :=
  match inst.name with
  | .add => emulateBinary inst .add
  | .sub => emulateBinary inst .sub
  | .xor => emulateBinary inst .xor
  | .and => emulateBinary inst .and
  | .or => emulateBinary inst .or
  | .mov => emulateMov inst
  | .cmp => emulateCmp inst
  | .shl => emulateShift inst true
  | .shr => emulateShift inst false
  | .popcnt => emulatePopcnt inst
  | .pclmulqdq => emulatePclmulqdq inst
  | .pmovsxbw => emulatePmovsxbw inst
  | .movdqa => emulateMovXmm inst
  | .movdqu => emulateMovXmm inst
  | .vzeroUpper => emulateVzeroupper
  | .vaddps => emulateVaddps addF32 inst
  | .nop => pure ()
  | .unknown => refuse .unsupportedName

end Nextcore.Ise.Emulator
