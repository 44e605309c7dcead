import Nextcore.Cpu.State

/-! The load and store decoder shared by the native emitter and the provider
runs, and the register helpers of the data steps. -/

namespace Nextcore.Jit

open Cpu

def sext (x : U32) (bits : ℕ) : U64 :=
  ((x <<< (32 - bits)).signExtend 64).sshiftRight (32 - bits)

structure MemoryShape where
  width : U32 := 0#32
  count : U32 := 0#32
  read : Bool := false
  signedLoad : Bool := false
  result64 : Bool := false
  mode : U32 := 0#32
  rn : U32 := 0#32
  rt : U32 := 0#32
  rt2 : U32 := 0#32
  displacement : U32 := 0#32
  registerOffset : Bool := false
  rm : U32 := 0#32
  option : U32 := 0#32
  shift : U32 := 0#32
  deriving DecidableEq, Repr

def pairFamily (w : U32) : Bool := w &&& 0x3a000000#32 = 0x28000000#32

def unsignedOffsetFamily (w : U32) : Bool := w &&& 0x3b000000#32 = 0x39000000#32

def registerOffsetFamily (w : U32) : Bool := w &&& 0x3b200c00#32 = 0x38200800#32

def unscaledOffsetFamily (w : U32) : Bool := w &&& 0x3b200c00#32 = 0x38000000#32

def scalarWritebackFamily (w : U32) : Bool := w &&& 0x3b200400#32 = 0x38000400#32

def scalarFamily (w : U32) : Bool :=
  unsignedOffsetFamily w || registerOffsetFamily w || unscaledOffsetFamily w || scalarWritebackFamily w

def memoryFamily (w : U32) : Bool := pairFamily w || scalarFamily w

def decodePair (w : U32) : Option MemoryShape :=
  let rn := (w >>> 5) &&& 31#32
  let rt := w &&& 31#32
  let opc := w >>> 30
  let mode := (w >>> 23) &&& 3#32
  let read : Bool := (w >>> 22) &&& 1#32 ≠ 0#32
  let rt2 := (w >>> 10) &&& 31#32
  if w &&& (1#32 <<< 26) ≠ 0#32 ∨ (opc ≠ 0#32 ∧ opc ≠ 2#32) ∨ mode = 0#32 ∨
      (mode ≠ 2#32 ∧ rn ≠ 31#32 ∧ (rn = rt ∨ rn = rt2)) ∨ (read = true ∧ rt = rt2) then none
  else
    let width := if opc = 2#32 then 8#32 else 4#32
    some { width := width, count := 2#32, read := read, result64 := opc = 2#32, mode := mode, rn := rn,
           rt := rt, rt2 := rt2,
           displacement := (sext ((w >>> 15) &&& 127#32) 7 * width.zeroExtend 64).truncate 32 }

def offsetOption (w : U32) : U32 := if registerOffsetFamily w then (w >>> 13) &&& 7#32 else 0#32

def decodeScalar (w : U32) : Option MemoryShape :=
  let rn := (w >>> 5) &&& 31#32
  let rt := w &&& 31#32
  let size := w >>> 30
  let opc := (w >>> 22) &&& 3#32
  let registerOffset := registerOffsetFamily w
  if registerOffset = true ∧ offsetOption w &&& 2#32 = 0#32 then none else
  if w &&& (1#32 <<< 26) ≠ 0#32 ∨ (2#32 ≤ opc ∧ (size = 3#32 ∨ (opc = 3#32 ∧ size = 2#32))) then none else
  let writeback := scalarWritebackFamily w
  -- base overlap is constrained unpredictable; the source rejects it
  if writeback = true ∧ rn ≠ 31#32 ∧ rn = rt then none else
  let width := 1#32 <<< size.toNat
  some { width := width, count := 1#32, read := opc ≠ 0#32, signedLoad := 2#32 ≤ opc,
         result64 := opc = 2#32 ∨ size = 3#32,
         mode := if writeback then (w >>> 10) &&& 3#32 else 2#32,
         rn := rn, rt := rt, registerOffset := registerOffset,
         rm := if registerOffset then (w >>> 16) &&& 31#32 else 0#32,
         option := offsetOption w,
         shift := if registerOffset = true ∧ w &&& (1#32 <<< 12) ≠ 0#32 then size else 0#32,
         displacement :=
           if unscaledOffsetFamily w = true ∨ writeback = true then
             (sext ((w >>> 12) &&& 511#32) 9).truncate 32
           else if registerOffset then 0#32 else ((w >>> 10) &&& 4095#32) * width }

def decodeMemory (w : U32) : Option MemoryShape :=
  if pairFamily w then decodePair w else if scalarFamily w then decodeScalar w else none

def memoryRegister (cpu : VfCpu) (reg : U32) (sp : Bool) : U64 :=
  if reg = 31#32 then (if sp then cpu.sp else 0#64) else cpu.x (VfCpu.slot reg)

def memorySave (cpu : VfCpu) (reg : U32) (value : U64) (wide : Bool) : VfCpu :=
  if reg = 31#32 then cpu
  else cpu.setX reg (if wide then value else (value.truncate 32 : U32).zeroExtend 64)

def memoryOffset (cpu : VfCpu) (shape : MemoryShape) : U64 :=
  if shape.registerOffset = false then shape.displacement.signExtend 64 else
  let value := memoryRegister cpu shape.rm false
  let value :=
    if shape.option &&& 1#32 = 0#32 then
      let low := (value.truncate 32 : U32).zeroExtend 64
      if shape.option = 6#32 ∧ low &&& (1#64 <<< 31) ≠ 0#64 then low ||| 0xffffffff00000000#64 else low
    else value
  value <<< shape.shift.toNat

def loadData (cpu : VfCpu) (shape : MemoryShape) (value0 value1 : U64) : VfCpu :=
  if shape.read then
    let value := if shape.signedLoad then sext (value0.truncate 32) (shape.width * 8#32).toNat
      else value0
    let cpu := memorySave cpu shape.rt value shape.result64
    if shape.count = 2#32 then memorySave cpu shape.rt2 value1 shape.result64 else cpu
  else cpu

def writeBase (cpu : VfCpu) (shape : MemoryShape) (updated : U64) : VfCpu :=
  if shape.mode ≠ 2#32 then
    if shape.rn = 31#32 then { cpu with sp := updated } else cpu.setX shape.rn updated
  else cpu

def sysregKey (w : U32) : U32 := (w >>> 5) &&& 0x7fff#32

def isMrsMsr (w : U32) : Bool :=
  w &&& 0xffe00000#32 = 0xd5200000#32 ∨ w &&& 0xffe00000#32 = 0xd5000000#32

lemma sext_eq (x : U32) {n : ℕ} (hpos : 0 < n) (hn : n ≤ 32) :
    sext x n = (x.truncate n : BitVec n).signExtend 64 := by
  apply BitVec.eq_of_getLsbD_eq
  intro i hi
  have hmsb : (x <<< (32 - n)).msb = x.getLsbD (n - 1) := by
    rw [BitVec.msb_eq_getLsbD_last, BitVec.getLsbD_shiftLeft, show 32 - 1 - (32 - n) = n - 1 by omega]
    simp [show ¬(31 < 32 - n) by omega]
  have hlast : (x.truncate n : BitVec n).msb = x.getLsbD (n - 1) := by
    rw [BitVec.msb_eq_getLsbD_last, BitVec.getLsbD_setWidth]
    simp [hpos]
  simp only [sext, BitVec.getLsbD_sshiftRight, BitVec.getLsbD_signExtend, BitVec.msb_signExtend, hmsb,
    hlast]
  by_cases hin : i < n
  · simp [hi, hin, show 32 - n + i < 32 by omega, show 32 - n + i < 64 by omega, show ¬64 ≤ i by omega,
      BitVec.getLsbD_eq_getElem (show i < 32 by omega)]
  · simp [hi, hin, show ¬32 - n + i < 32 by omega, show ¬64 ≤ i by omega]
    exact fun h _ => h

structure MemoryShape.Decoded (shape : MemoryShape) : Prop where
  width : shape.width = 1#32 ∨ shape.width = 2#32 ∨ shape.width = 4#32 ∨ shape.width = 8#32
  count : shape.count = 1#32 ∨ shape.count = 2#32 ∧ (shape.width = 4#32 ∨ shape.width = 8#32)
  signed : shape.signedLoad = true → shape.count = 1#32 ∧ shape.width ≠ 8#32
  narrow : shape.result64 = false → shape.width ≠ 8#32

lemma decodePair_decoded {w : U32} {shape : MemoryShape} (h : decodePair w = some shape) :
    shape.Decoded := by
  unfold decodePair at h
  dsimp only at h
  split at h
  · cases h
  cases h
  by_cases hopc : w >>> 30 = 2#32
  · refine ⟨?_, ?_, ?_, ?_⟩ <;> simp [hopc]
  · refine ⟨?_, ?_, ?_, ?_⟩ <;> simp [hopc]

lemma size_cases (w : U32) :
    w >>> 30 = 0#32 ∨ w >>> 30 = 1#32 ∨ w >>> 30 = 2#32 ∨ w >>> 30 = 3#32 := by
  bv_omega

lemma decodeScalar_decoded {w : U32} {shape : MemoryShape} (h : decodeScalar w = some shape) :
    shape.Decoded := by
  unfold decodeScalar at h
  dsimp only at h
  split at h
  · cases h
  split at h
  · cases h
  rename_i hforms
  split at h
  · cases h
  cases h
  rcases size_cases w with hsize | hsize | hsize | hsize <;>
    simp only [hsize] at hforms ⊢ <;>
    refine ⟨?_, ?_, ?_, ?_⟩ <;> simp_all

lemma decodeMemory_decoded {w : U32} {shape : MemoryShape} (h : decodeMemory w = some shape) :
    shape.Decoded := by
  unfold decodeMemory at h
  split at h
  · exact decodePair_decoded h
  split at h
  · exact decodeScalar_decoded h
  · cases h

end Nextcore.Jit
