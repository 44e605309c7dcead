import Nextcore.Preos.State

/-! The register-only instruction families of `execute_one`. A family answers `none`
where it reports its form as undefined. -/

namespace Nextcore.Preos

def rdField (word : U32) : U32 := word &&& 31#32

def rnField (word : U32) : U32 := (word >>> 5) &&& 31#32

def rmField (word : U32) : U32 := (word >>> 16) &&& 31#32

def isWide (word : U32) : Bool := word &&& (1#32 <<< 31) ≠ 0#32

def bitSet (word : U32) (i : ℕ) : Bool := word &&& (1#32 <<< i) ≠ 0#32

def signExtend (value : U64) (bits : ℕ) : U64 := (value <<< (64 - bits)).sshiftRight (64 - bits)

def lowWord (value : U64) : U64 := (value.truncate 32 : U32).zeroExtend 64

def addSub (left right : U64) (subtract wide : Bool) : U64 × Bool × Bool :=
  let mask := if wide then BitVec.allOnes 64 else 0xffffffff#64
  let left := left &&& mask
  let right := right &&& mask
  let sign := 1#64 <<< (if wide then 63 else 31)
  if subtract then
    let value := (left - right) &&& mask
    (value, decide (right ≤ left), decide ((left ^^^ right) &&& (left ^^^ value) &&& sign ≠ 0#64))
  else
    let sum : BitVec 128 := left.zeroExtend 128 + right.zeroExtend 128
    let value := (sum.truncate 64 : U64) &&& mask
    (value, decide (sum >>> (if wide then 64 else 32) ≠ 0#128),
      decide (~~~(left ^^^ right) &&& (left ^^^ value) &&& sign ≠ 0#64))

def shifted (source : U64) (shift : U32) (amount : ℕ) (wide : Bool) : U64 :=
  if wide then
    if shift = 0#32 then source <<< amount
    else if shift = 1#32 then source >>> amount
    else if shift = 2#32 then source.sshiftRight amount
    else source.rotateRight amount
  else
    let source : U32 := source.truncate 32
    let result : U32 :=
      if shift = 0#32 then source <<< amount
      else if shift = 1#32 then source >>> amount
      else if shift = 2#32 then source.sshiftRight amount
      else source.rotateRight amount
    result.zeroExtend 64

def logicalImmediateMask (word : U32) : Option U64 :=
  let width := if word >>> 31 ≠ 0#32 then 64 else 32
  let n := (word >>> 22) &&& 1#32
  let imms := (word >>> 10) &&& 63#32
  let immr := (word >>> 16) &&& 63#32
  if width = 32 ∧ n ≠ 0#32 then none else
  let tag := (n <<< 6) ||| (~~~imms &&& 63#32)
  if tag < 2#32 then none else
  let size := 2 ^ Nat.log2 tag.toNat
  let levels := BitVec.ofNat 32 (size - 1)
  let s := imms &&& levels
  let r := (immr &&& levels).toNat
  if width < size ∨ s = levels then none else
  let element := (1#64 <<< (s.toNat + 1)) - 1#64
  let element := if r ≠ 0 then (element >>> r) ||| (element <<< (size - r)) else element
  let element := if size < 64 then element &&& ((1#64 <<< size) - 1#64) else element
  some ((List.range (width / size)).foldl (fun mask i => mask ||| (element <<< (i * size))) 0#64)

namespace GuestCpuState

def readReg (cpu : GuestCpuState) (index : U32) (spAllowed : Bool) : U64 :=
  if index = 31#32 then (if spAllowed then cpu.sp else 0#64) else cpu.x (Fin.ofNat 31 index.toNat)

def writeReg (cpu : GuestCpuState) (index : U32) (value : U64) (spAllowed wide : Bool) : GuestCpuState :=
  let value := if wide then value else lowWord value
  if index = 31#32 then (if spAllowed then { cpu with sp := value } else cpu)
  else { cpu with x := Function.update cpu.x (Fin.ofNat 31 index.toNat) value }

def setNzcv (cpu : GuestCpuState) (value : U64) (wide carry overflow : Bool) : GuestCpuState :=
  let value := value &&& (if wide then BitVec.allOnes 64 else 0xffffffff#64)
  let sign := 1#64 <<< (if wide then 63 else 31)
  let flag (p : Bool) (bit : U32) : U32 := if p then bit else 0#32
  { cpu with
    pstate := (cpu.pstate &&& ~~~(Pstate.n ||| Pstate.z ||| Pstate.c ||| Pstate.v)) |||
      flag (value &&& sign ≠ 0#64) Pstate.n ||| flag (value = 0#64) Pstate.z ||| flag carry Pstate.c |||
      flag overflow Pstate.v }

def conditionHolds (cpu : GuestCpuState) (condition : U32) : Bool :=
  let n : Bool := cpu.pstate &&& Pstate.n ≠ 0#32
  let z : Bool := cpu.pstate &&& Pstate.z ≠ 0#32
  let c : Bool := cpu.pstate &&& Pstate.c ≠ 0#32
  let v : Bool := cpu.pstate &&& Pstate.v ≠ 0#32
  let base := [z, c, n, v, c && !z, n == v, n == v && !z].getD (condition >>> 1).toNat true
  if condition &&& 1#32 ≠ 0#32 ∧ condition ≠ 15#32 then !base else base

def multiplyAdd (cpu : GuestCpuState) (word : U32) : GuestCpuState :=
  let product := cpu.readReg (rnField word) false * cpu.readReg (rmField word) false
  let addend := cpu.readReg ((word >>> 10) &&& 31#32) false
  cpu.writeReg (rdField word) (if bitSet word 15 then addend - product else addend + product) false (isWide word)

def conditionalSelect (cpu : GuestCpuState) (word : U32) : GuestCpuState :=
  let value :=
    if cpu.conditionHolds ((word >>> 12) &&& 15#32) then cpu.readReg (rnField word) false
    else
      let other := cpu.readReg (rmField word) false
      let other := if bitSet word 30 then ~~~other else other
      if bitSet word 10 then other + 1#64 else other
  cpu.writeReg (rdField word) value false (isWide word)

def conditionalCompare (cpu : GuestCpuState) (word : U32) : GuestCpuState :=
  if cpu.conditionHolds ((word >>> 12) &&& 15#32) then
    let right := if bitSet word 11 then (rmField word).zeroExtend 64 else cpu.readReg (rmField word) false
    let out := addSub (cpu.readReg (rnField word) false) right (bitSet word 30) (isWide word)
    cpu.setNzcv out.1 (isWide word) out.2.1 out.2.2
  else { cpu with pstate := (cpu.pstate &&& ~~~0xf0000000#32) ||| ((word &&& 15#32) <<< 28) }

def bitfieldUndefined (word : U32) : Bool :=
  bitSet word 22 != isWide word ||
    (!isWide word && ((word >>> 16) &&& 63#32 ||| (word >>> 10) &&& 63#32) &&& 32#32 ≠ 0#32)

def bitfieldMasks (word : U32) : U64 × U64 × (U64 → U64) :=
  let r := ((word >>> 16) &&& 63#32)
  let s := ((word >>> 10) &&& 63#32)
  let low (bits : ℕ) := BitVec.allOnes 64 >>> (64 - bits)
  let rotate (x : U64) : U64 :=
    if isWide word then x.rotateRight r.toNat else ((x.truncate 32 : U32).rotateRight r.toNat).zeroExtend 64
  let width : U32 := if isWide word then 64#32 else 32#32
  (rotate (low (s.toNat + 1)), low (((s - r) &&& (width - 1#32)).toNat + 1), rotate)

def bitfieldMove (cpu : GuestCpuState) (word : U32) : Option GuestCpuState :=
  if bitfieldUndefined word then none else
  let (wmask, tmask, rotate) := bitfieldMasks word
  let old := cpu.readReg (rdField word) false
  let bottom := (old &&& ~~~wmask) ||| (rotate (cpu.readReg (rnField word) false) &&& wmask)
  some (cpu.writeReg (rdField word) ((old &&& ~~~tmask) ||| (bottom &&& tmask)) false (isWide word))

def unsignedBitfieldMove (cpu : GuestCpuState) (word : U32) : Option GuestCpuState :=
  if bitfieldUndefined word then none else
  let (wmask, tmask, rotate) := bitfieldMasks word
  some (cpu.writeReg (rdField word) (rotate (cpu.readReg (rnField word) false) &&& wmask &&& tmask) false (isWide word))

def logicalOp (op : U32) (left right : U64) : U64 :=
  if op = 1#32 then left ||| right else if op = 2#32 then left ^^^ right else left &&& right

def logicalImmediate (cpu : GuestCpuState) (word : U32) : Option GuestCpuState :=
  (logicalImmediateMask word).map fun mask =>
    let op := (word >>> 29) &&& 3#32
    let result := logicalOp op (cpu.readReg (rnField word) false) mask
    let result := if isWide word then result else result &&& 0xffffffff#64
    let next := cpu.writeReg (rdField word) result (op ≠ 3#32) (isWide word)
    if op = 3#32 then
      let n : U32 := ((result >>> (if isWide word then 63 else 31)) &&& 1#64).truncate 32
      { next with
        pstate := (next.pstate &&& ~~~0xf0000000#32) ||| (n <<< 31) |||
          (if result = 0#64 then 1#32 <<< 30 else 0#32) }
    else next

def logicalShifted (cpu : GuestCpuState) (word : U32) : Option GuestCpuState :=
  let op := (word >>> 29) &&& 3#32
  let amount := (word >>> 10) &&& 63#32
  if isWide word = false ∧ 32#32 ≤ amount then none else
  let right := shifted (cpu.readReg (rmField word) false) ((word >>> 22) &&& 3#32) amount.toNat (isWide word)
  let right := if bitSet word 21 then ~~~right else right
  let value := logicalOp op (cpu.readReg (rnField word) false) right
  let value := if isWide word then value else lowWord value
  let next := cpu.writeReg (rdField word) value false (isWide word)
  some (if op = 3#32 then next.setNzcv value (isWide word) false false else next)

def variableShift (cpu : GuestCpuState) (word : U32) : GuestCpuState :=
  let count := cpu.readReg (rmField word) false &&& (if isWide word then 63#64 else 31#64)
  cpu.writeReg (rdField word)
    (shifted (cpu.readReg (rnField word) false) ((word >>> 10) &&& 3#32) count.toNat (isWide word)) false (isWide word)

def moveWide (cpu : GuestCpuState) (word : U32) : Option GuestCpuState :=
  let shift := ((word >>> 21) &&& 3#32).toNat * 16
  if isWide word = false ∧ 32 ≤ shift then none else
  let mask := 0xffff#64 <<< shift
  let immediate : U64 := ((word >>> 5) &&& 0xffff#32).zeroExtend 64 <<< shift
  let value :=
    if word &&& 0x7f800000#32 = 0x72800000#32 then (cpu.readReg (rdField word) false &&& ~~~mask) ||| immediate
    else immediate
  some (cpu.writeReg (rdField word) value false (isWide word))

def addSubResult (cpu : GuestCpuState) (word : U32) (left right : U64) (spAllowed : Bool) : GuestCpuState :=
  let out := addSub left right (bitSet word 30) (isWide word)
  let next := cpu.writeReg (rdField word) out.1 spAllowed (isWide word)
  if bitSet word 29 then next.setNzcv out.1 (isWide word) out.2.1 out.2.2 else next

def addSubImmediate (cpu : GuestCpuState) (word : U32) : GuestCpuState :=
  let immediate : U64 := ((word >>> 10) &&& 0xfff#32).zeroExtend 64 <<< (if bitSet word 22 then 12 else 0)
  cpu.addSubResult word (cpu.readReg (rnField word) true) immediate (!bitSet word 29)

def addSubExtended (cpu : GuestCpuState) (word : U32) : Option GuestCpuState :=
  let option := (word >>> 13) &&& 7#32
  let amount := (word >>> 10) &&& 7#32
  if 4#32 < amount then none else
  let bits := min (8 * 2 ^ (option &&& 3#32).toNat) (if isWide word then 64 else 32)
  let raw := cpu.readReg (rmField word) false
  let extended :=
    if option &&& 4#32 ≠ 0#32 then signExtend raw bits else raw &&& (BitVec.allOnes 64 >>> (64 - bits))
  some (cpu.addSubResult word (cpu.readReg (rnField word) true) (extended <<< amount.toNat) (!bitSet word 29))

def addSubShifted (cpu : GuestCpuState) (word : U32) : Option GuestCpuState :=
  let shift := (word >>> 22) &&& 3#32
  let amount := (word >>> 10) &&& 63#32
  if shift = 3#32 ∨ (isWide word = false ∧ 32#32 ≤ amount) then none else
  let right := cpu.readReg (rmField word) false
  let right := if isWide word then right else right &&& 0xffffffff#64
  let right :=
    if shift = 0#32 then right <<< amount.toNat
    else if shift = 1#32 then right >>> amount.toNat
    else if isWide word then right.sshiftRight amount.toNat
    else ((right.truncate 32 : U32).sshiftRight amount.toNat).zeroExtend 64
  some (cpu.addSubResult word (cpu.readReg (rnField word) false) right false)

/-- The data-processing part of `execute_one`, family by family; `none` is another word. -/
def dataStep (cpu : GuestCpuState) (word : U32) : Option (Option GuestCpuState) :=
  if word &&& 0x7fe00000#32 = 0x1b000000#32 then some (some (cpu.multiplyAdd word))
  else if word &&& 0x3fe00800#32 = 0x1a800000#32 then some (some (cpu.conditionalSelect word))
  else if word &&& 0x3fe00410#32 = 0x3a400000#32 then some (some (cpu.conditionalCompare word))
  else if word &&& 0x7f800000#32 = 0x33000000#32 then some (cpu.bitfieldMove word)
  else if word &&& 0x7f800000#32 = 0x53000000#32 then some (cpu.unsignedBitfieldMove word)
  else if word &&& 0x1f800000#32 = 0x12000000#32 then some (cpu.logicalImmediate word)
  else if word &&& 0x1f000000#32 = 0x0a000000#32 then some (cpu.logicalShifted word)
  else if word &&& 0x7fe0f000#32 = 0x1ac02000#32 then some (some (cpu.variableShift word))
  else if word &&& 0x7f800000#32 = 0x52800000#32 ∨ word &&& 0x7f800000#32 = 0x72800000#32 then
    some (cpu.moveWide word)
  else if word &&& 0x1f000000#32 = 0x11000000#32 then some (some (cpu.addSubImmediate word))
  else if word &&& 0x1fe00000#32 = 0x0b200000#32 then some (cpu.addSubExtended word)
  else if word &&& 0x1f200000#32 = 0x0b000000#32 then some (cpu.addSubShifted word)
  else none

/-- The branches of `execute_one`, with the next PC in the state; `none` is another word. -/
def branchStep (cpu : GuestCpuState) (word : U32) : Option (Option GuestCpuState) :=
  let branchRegister := word &&& 0xfffffc1f#32
  if word &&& 0xfc000000#32 = 0x14000000#32 then
    some (some { cpu with pc := cpu.pc + (signExtend ((word &&& 0x3ffffff#32).zeroExtend 64) 26 <<< 2) })
  else if branchRegister = 0xd61f0000#32 ∨ branchRegister = 0xd63f0000#32 ∨ branchRegister = 0xd65f0000#32 then
    if rnField word = 31#32 then some none
    else some (some { cpu with
      x := if branchRegister = 0xd63f0000#32 then Function.update cpu.x 30 (cpu.pc + 4#64) else cpu.x
      pc := cpu.readReg (rnField word) false })
  else if word &&& 0x7e000000#32 = 0x36000000#32 then
    let position := ((word >>> 26) &&& 32#32) ||| ((word >>> 19) &&& 31#32)
    let selected := (cpu.readReg (rdField word) false >>> position.toNat) &&& 1#64
    let take : Bool := selected = ((word >>> 24) &&& 1#32).zeroExtend 64
    let target := signExtend (((word >>> 5) &&& 0x3fff#32).zeroExtend 64) 14 * 4#64
    some (some { cpu with pc := cpu.pc + (if take then target else 4#64) })
  else if word &&& 0x7e000000#32 = 0x34000000#32 then
    let value := cpu.readReg (rdField word) false
    let value := if isWide word then value else lowWord value
    let take : Bool := if bitSet word 24 then value ≠ 0#64 else value = 0#64
    let target := signExtend (((word >>> 5) &&& 0x7ffff#32).zeroExtend 64) 19 <<< 2
    some (some { cpu with pc := if take then cpu.pc + target else cpu.pc + 4#64 })
  else none

end GuestCpuState

end Nextcore.Preos
