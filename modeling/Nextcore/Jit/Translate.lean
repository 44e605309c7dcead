import Nextcore.Jit.Emitter

/-! `translate_impl`: the instruction families in the order in which the source
tries them. A family returns whether translation goes on after it. -/

namespace Nextcore.Jit

open Cpu Emit

/-- What translation reads of the CPU; `vf_translate` passes none. -/
structure Target where
  currentEl : U32 := 0#32
  base : U64 := 0#64
  sctlr : U64 := 0#64
  hcrEl2 : U64 := 0#64
  scrEl3 : U64 := 0#64
  deriving DecidableEq, Repr

def Target.ofCpu (cpu : VfCpu) : Target := ⟨cpu.currentEl, cpu.guestRamBase, cpu.sctlr, cpu.hcrEl2, cpu.scrEl3⟩

def rdOf (w : U32) : U32 := w &&& 31#32

def rnOf (w : U32) : U32 := (w >>> 5) &&& 31#32

def rmOf (w : U32) : U32 := (w >>> 16) &&& 31#32

def raOf (w : U32) : U32 := (w >>> 10) &&& 31#32

def wideOf (w : U32) : Bool := w >>> 31 ≠ 0#32

def bitOf (w : U32) (i : ℕ) : Bool := (w >>> i) &&& 1#32 ≠ 0#32

def stop (w : U32) (pc : U64) (n status : U32) : List Byte := field32 Offset.instruction w ++ finish pc n status

def undefined (w : U32) (pc : U64) (n : U32) : Emit Bool := do
  bytes (stop w pc n Status.undefinedInstruction)
  pure false

def straight (w : U32) (pc : U64) (n : U32) : Option (List Byte) → Emit Bool
  | none => undefined w pc n
  | some code => do
    bytes code
    pure true

def conditionalSelect (w : U32) : Emit Bool := do
  let wide := wideOf w
  let other ← conditionFalse ((w >>> 12) &&& 15#32)
  bytes (load (rnOf w) false wide)
  if other ≠ 0 then do
    bytes [0xe9#8]
    let done ← hole
    fix other
    bytes (load (rmOf w) false wide ++ (if bitOf w 30 then notRax wide else []) ++
      (if bitOf w 10 then rex wide ++ [0x83#8, 0xc0#8, 1#8] else []))
    fix done
  bytes (save (rdOf w) false)
  pure true

def shiftExtension (shift : U32) : Byte :=
  if shift = 0#32 then 0xe0#8 else if shift = 1#32 then 0xe8#8 else if shift = 2#32 then 0xf8#8 else 0xc8#8

def variableShift (w : U32) : List Byte :=
  let wide := wideOf w
  load (rmOf w) false wide ++ moveR9 ++ load (rnOf w) false wide ++ [0x49#8, 0x89#8, 0xca#8] ++
    [0x44#8, 0x89#8, 0xc9#8] ++ (rex wide ++ [0xd3#8, shiftExtension ((w >>> 10) &&& 3#32)]) ++
    [0x4c#8, 0x89#8, 0xd1#8] ++ save (rdOf w) false

def multiplyAdd (w : U32) : List Byte :=
  let wide := wideOf w
  load (rmOf w) false wide ++ moveR9 ++ load (rnOf w) false wide ++
    [if wide then 0x49#8 else 0x41#8, 0x0f#8, 0xaf#8, 0xc1#8] ++ moveR9 ++ load (raOf w) false wide ++
    aluR9 wide (if bitOf w 15 then 0x29#8 else 0x01#8) ++ save (rdOf w) false

def conditionalCompare (w : U32) : Emit Bool := do
  let wide := wideOf w
  let fallback ← conditionFalse ((w >>> 12) &&& 15#32)
  bytes ((if bitOf w 11 then imm ((rmOf w).zeroExtend 64) else load (rmOf w) false wide) ++ moveR9 ++
    load (rnOf w) false wide ++ aluR9 wide (if bitOf w 30 then 0x29#8 else 0x01#8) ++
    saveArithmeticFlags (bitOf w 30))
  if fallback ≠ 0 then do
    bytes [0xe9#8]
    let done ← hole
    fix fallback
    bytes (imm ((w &&& 15#32).zeroExtend 64 <<< 28) ++ mergeFlags)
    fix done
  pure true

def lowMask (bits : U32) : U64 := if bits = 64#32 then BitVec.allOnes 64 else (1#64 <<< bits.toNat) - 1#64

def bitfield (w : U32) : Option (U32 × U32) :=
  let r := (w >>> 16) &&& 63#32
  let s := (w >>> 10) &&& 63#32
  if bitOf w 22 ≠ wideOf w ∨ (wideOf w = false ∧ (r ||| s) &&& 32#32 ≠ 0#32) then none else some (r, s)

def bitfieldMove (w : U32) : Option (List Byte) :=
  (bitfield w).map fun (r, s) =>
    let wide := wideOf w
    let width := if wide then 64#32 else 32#32
    let bits := if r ≤ s then s - r + 1#32 else s + 1#32
    let position := if r ≤ s then 0#32 else width - r
    let low := lowMask bits
    let selected := low <<< position.toNat
    load (rnOf w) false wide ++ (if r ≤ s ∧ r ≠ 0#32 then shiftRax wide 0xe8#8 r else []) ++
      constR9 low ++ aluR9 wide 0x21#8 ++ (if position ≠ 0#32 then shiftRax wide 0xe0#8 position else []) ++
      [0x49#8, 0x89#8, 0xc2#8] ++ load (rdOf w) false wide ++ constR9 (~~~selected) ++ aluR9 wide 0x21#8 ++
      [if wide then 0x4c#8 else 0x44#8, 0x09#8, 0xd0#8] ++ save (rdOf w) false

def unsignedBitfieldMove (w : U32) : Option (List Byte) :=
  (bitfield w).map fun (rotate, last) =>
    let wide := wideOf w
    let width := if wide then 64#32 else 32#32
    let bits := if rotate ≤ last then last - rotate + 1#32 else last + 1#32
    load (rnOf w) false wide ++ (if rotate ≤ last ∧ rotate ≠ 0#32 then shiftRax wide 0xe8#8 rotate else []) ++
      constR9 (lowMask bits) ++ aluR9 wide 0x21#8 ++
      (if last < rotate then shiftRax wide 0xe0#8 (width - rotate) else []) ++ save (rdOf w) false

def logicalOpcode (op : U32) : Byte := if op = 1#32 then 0x09#8 else if op = 2#32 then 0x31#8 else 0x21#8

def logicalImmediate (w : U32) : Option (List Byte) :=
  (logicalMask w).map fun mask =>
    let wide := wideOf w
    let op := (w >>> 29) &&& 3#32
    load (rnOf w) false wide ++ constR9 mask ++ aluR9 wide (logicalOpcode op) ++ save (rdOf w) (op ≠ 3#32) ++
      (if op = 3#32 then saveArithmeticFlags false else [])

def isIdRead (w : U32) : Bool :=
  w &&& ~~~31#32 ∈ [0xd5380400#32, 0xd5380420#32, 0xd5380440#32, 0xd5380480#32, 0xd5380600#32, 0xd5380640#32,
    0xd5380660#32, 0xd5380700#32, 0xd5380720#32, 0xd5380740#32]

def idValue (w : U32) : U64 :=
  if w &&& ~~~31#32 = 0xd5380700#32 then 0x0f100005#64
  else if w &&& ~~~31#32 = 0xd5380400#32 then 0x00ff0011#64
  else 0#64

def idRead (w : U32) (pc : U64) (n : U32) : Emit Bool := do
  bytes ([0x83#8, 0xb9#8] ++ le32 Offset.currentEl ++ [1#8])
  let badEl ← jcc 0x85#8
  bytes ([0x48#8, 0x8b#8, 0x81#8] ++ le32 Offset.hcrEl2 ++ [0x48#8, 0x0b#8, 0x81#8] ++ le32 Offset.scrEl3)
  let allowed ← jcc 0x84#8
  fix badEl
  bytes (stop w pc n Status.systemRegisterTrap)
  fix allowed
  bytes (imm (idValue w) ++ save (rdOf w) false)
  pure true

def threadRegister (t : Target) (w : U32) : Option (List Byte) :=
  let key := sysregKey w
  let read := bitOf w 21
  if t.currentEl = 0#32 ∧ (key = Key.tpidrEl1 ∨ (read = false ∧ key = Key.tpidrroEl0)) then none
  else if read then some ([0x48#8, 0x8b#8, 0x81#8] ++ le32 (threadOffset key) ++ save (rdOf w) false)
  else some (load (rdOf w) false true ++ [0x48#8, 0x89#8, 0x81#8] ++ le32 (threadOffset key))

def moveWide (w : U32) : Option (List Byte) :=
  let wide := wideOf w
  let shift := ((w >>> 21) &&& 3#32).toNat * 16
  let v : U64 := ((w >>> 5) &&& 0xffff#32).zeroExtend 64 <<< shift
  if wide = false ∧ 32 ≤ shift then none
  else if w &&& 0x7f800000#32 = 0x72800000#32 then
    some (load (rdOf w) false wide ++ constR9 (~~~(0xffff#64 <<< shift)) ++ aluR9 true 0x21#8 ++ constR9 v ++
      aluR9 true 0x09#8 ++ save (rdOf w) false)
  else
    let v := if w &&& 0x7f800000#32 = 0x12800000#32 then
        (if wide then ~~~v else ((~~~v).truncate 32 : U32).zeroExtend 64) else v
    some (imm v ++ save (rdOf w) false)

def pcRelative (w : U32) (pc : U64) : List Byte :=
  let displacement := sext ((((w >>> 5) &&& 0x7ffff#32) <<< 2) ||| ((w >>> 29) &&& 3#32)) 21
  let target := if w >>> 31 ≠ 0#32 then (pc &&& ~~~0xfff#64) + displacement * 4096#64 else pc + displacement
  imm target ++ save (rdOf w) false

def logicalShifted (w : U32) : Option (List Byte) :=
  let wide := wideOf w
  let op := (w >>> 29) &&& 3#32
  let shift := (w >>> 22) &&& 3#32
  let amount := (w >>> 10) &&& 63#32
  if wide = false ∧ 32#32 ≤ amount then none else
  some (load (rmOf w) false wide ++
    (if amount ≠ 0#32 then shiftRax wide (shiftExtension shift) amount else []) ++
    (if bitOf w 21 then notRax wide else []) ++
    -- the MOV alias is a short path
    (if op = 1#32 ∧ rnOf w = 31#32 ∧ shift = 0#32 ∧ amount = 0#32 then []
      else moveR9 ++ load (rnOf w) false wide ++ aluR9 wide (logicalOpcode op)) ++
    save (rdOf w) false ++ (if op = 3#32 then saveArithmeticFlags false else []))

def addSubImmediate (w : U32) : List Byte :=
  let wide := wideOf w
  let v := ((w >>> 10) &&& 4095#32) <<< (if bitOf w 22 then 12 else 0)
  load (rnOf w) true wide ++ (rex wide ++ [if bitOf w 30 then 0x2d#8 else 0x05#8] ++ le32 v) ++
    save (rdOf w) (!bitOf w 29) ++ (if bitOf w 29 then saveArithmeticFlags (bitOf w 30) else [])

def addSubExtended (w : U32) : Option (List Byte) :=
  let wide := wideOf w
  let option := (w >>> 13) &&& 7#32
  let amount := (w >>> 10) &&& 7#32
  if 4#32 < amount then none else
  let width := if wide then 64#32 else 32#32
  let bits := 8#32 <<< (option &&& 3#32).toNat
  let bits := if width < bits then width else bits
  some (load (rmOf w) false wide ++
    (if bits < width then shiftRax wide 0xe0#8 (width - bits) ++
      shiftRax wide (if option &&& 4#32 ≠ 0#32 then 0xf8#8 else 0xe8#8) (width - bits) else []) ++
    (if amount ≠ 0#32 then shiftRax wide 0xe0#8 amount else []) ++ moveR9 ++ load (rnOf w) true wide ++
    aluR9 wide (if bitOf w 30 then 0x29#8 else 0x01#8) ++ save (rdOf w) (!bitOf w 29) ++
    (if bitOf w 29 then saveArithmeticFlags (bitOf w 30) else []))

def addSubShifted (w : U32) : Option (List Byte) :=
  let wide := wideOf w
  let shift := (w >>> 22) &&& 3#32
  let amount := (w >>> 10) &&& 63#32
  if shift = 3#32 ∨ (wide = false ∧ 32#32 ≤ amount) then none else
  some (load (rmOf w) false wide ++
    (if amount ≠ 0#32 then shiftRax wide (shiftExtension shift) amount else []) ++ moveR9 ++
    load (rnOf w) false wide ++ aluR9 wide (if bitOf w 30 then 0x29#8 else 0x01#8) ++ save (rdOf w) false ++
    (if bitOf w 29 then saveArithmeticFlags (bitOf w 30) else []))

inductive Block
  | spAlignment | alignment | data
  deriving DecidableEq, Repr

def Block.status : Block → U32
  | .spAlignment => Status.spAlignmentFault
  | .alignment => Status.alignmentFault
  | .data => Status.dataAbort

-- mov r11, rax
def moveR11 : List Byte := [0x49#8, 0x89#8, 0xc3#8]

def testAl (mask : Byte) : List Byte := [0xa8#8, mask]

-- an operation on `r8`, `r10` or `r11` by its ModRM byte and a small immediate
def aluSmall (modrm : Byte) (value : U32) : List Byte := [0x49#8, 0x83#8, modrm, value.truncate 8]

-- add rax, displacement
def addRax (displacement : U32) : List Byte := [0x48#8, 0x05#8] ++ le32 displacement

-- cmp r9, r10
def compareR9 : List Byte := [0x4d#8, 0x39#8, 0xd1#8]

def checksSp (t : Target) (rn : U32) : Bool :=
  rn = 31#32 ∧ t.sctlr &&& (if t.currentEl = 0#32 then 16#64 else 8#64) ≠ 0#64

def outsideRegime (t : Target) : Bool :=
  1#32 < t.currentEl ∨ t.hcrEl2 ≠ 0#64 ∨ t.scrEl3 ≠ 0#64 ∨
    t.sctlr &&& (1#64 <<< (if t.currentEl = 0#32 then 24 else 25)) ≠ 0#64

def elementChecks (base : U64) (bytes : U32) : List (Piece Block) :=
  [.code (imm base ++ [0x49#8, 0x29#8, 0xc1#8]), .guard 0x82#8 .data,
    .code (aluSmall 0xf8#8 bytes), .guard 0x82#8 .data,
    .code ([0x4d#8, 0x89#8, 0xc2#8] ++ aluSmall 0xea#8 bytes ++ compareR9), .guard 0x87#8 .data]

def faultBlock (pc : U64) (n : U32) (block : Block) : List Byte :=
  saveHostR11 Offset.far ++ finish pc n block.status

def checked (pieces : List (Piece Block)) (body : List Byte) (pc : U64) (n : U32) (sp alignment : Bool) :
    Emit Bool := do
  let holes ← emitPieces pieces
  bytes (body ++ [0xe9#8])
  let next ← hole
  let spTarget ← position
  bytes (if sp then faultBlock pc n .spAlignment else [])
  let alignmentTarget ← position
  bytes (if alignment then faultBlock pc n .alignment else [])
  let dataTarget ← position
  bytes (faultBlock pc n .data)
  fixAll holes fun
    | .spAlignment => spTarget
    | .alignment => alignmentTarget
    | .data => dataTarget
  fix next
  pure true

def writebackCode (shape : MemoryShape) : List Byte :=
  if shape.mode ≠ 2#32 then
    [0x4c#8, 0x89#8, 0xd8#8] ++ (if shape.mode = 1#32 then addRax shape.displacement else []) ++
      save shape.rn true
  else []

def pairElement (shape : MemoryShape) (second : Bool) : List Byte :=
  let reg := if second then shape.rt2 else shape.rt
  let eight := shape.width = 8#32
  (if shape.read then [] else load reg false eight) ++
    [if eight then 0x4a#8 else 0x42#8, if shape.read then 0x8b#8 else 0x89#8] ++
    (if second then [0x44#8, 0x0a#8, shape.width.truncate 8] else [0x04#8, 0x0a#8]) ++
    (if shape.read then save reg false else [])

def pairPieces (t : Target) (shape : MemoryShape) : List (Piece Block) :=
  let bytes := shape.width
  (if checksSp t shape.rn then
    [.code (load 31#32 true true ++ moveR11 ++ testAl 15#8), .guard 0x85#8 .spAlignment] else []) ++
  [.code (load shape.rn true true ++ (if shape.mode ≠ 1#32 then addRax shape.displacement else []) ++
      moveR11 ++ moveR9 ++ testAl ((bytes - 1#32).truncate 8)), .guard 0x85#8 .alignment] ++
  elementChecks t.base bytes ++
  [.code (aluSmall 0xc3#8 bytes), .guard 0x82#8 .data,
    .code (aluSmall 0xf8#8 (2#32 * bytes)), .guard 0x82#8 .data,
    .code (aluSmall 0xea#8 bytes ++ compareR9), .guard 0x87#8 .data]

def pairBody (shape : MemoryShape) : List Byte :=
  aluSmall 0xeb#8 shape.width ++ pairElement shape false ++ pairElement shape true ++ writebackCode shape

def scalarPieces (t : Target) (shape : MemoryShape) : List (Piece Block) :=
  [.code (load shape.rn true true)] ++
  (if checksSp t shape.rn then [.code (moveR11 ++ testAl 15#8), .guard 0x85#8 .spAlignment] else []) ++
  [.code ((if shape.registerOffset then
      moveR11 ++ load shape.rm false (shape.option &&& 1#32 ≠ 0#32) ++
        (if shape.option = 6#32 then [0x48#8, 0x63#8, 0xc0#8] else []) ++
        (if shape.shift ≠ 0#32 then shiftRax true 0xe0#8 shape.shift else []) ++ [0x4c#8, 0x01#8, 0xd8#8]
    else if shape.mode ≠ 1#32 then addRax shape.displacement else []) ++ moveR11 ++ moveR9)] ++
  (if 1#32 < shape.width then
    [.code (testAl ((shape.width - 1#32).truncate 8)), .guard 0x85#8 .alignment] else []) ++
  elementChecks t.base shape.width

def scalarBody (shape : MemoryShape) : List Byte :=
  (if shape.read then
    [if shape.result64 then 0x4a#8 else 0x42#8] ++
      (if shape.width < 4#32 then
        [0x0f#8, (if shape.signedLoad then 0xbe#8 else 0xb6#8) + (if shape.width = 2#32 then 1#8 else 0#8)]
      else [if shape.signedLoad then 0x63#8 else 0x8b#8]) ++ [0x04#8, 0x0a#8] ++ save shape.rt false
  else
    load shape.rt false (shape.width = 8#32) ++ (if shape.width = 2#32 then [0x66#8] else []) ++
      [if shape.width = 8#32 then 0x4a#8 else 0x42#8, if shape.width = 1#32 then 0x88#8 else 0x89#8,
        0x04#8, 0x0a#8]) ++ writebackCode shape

def inlineMemory (t : Target) (w : U32) (pc : U64) (n : U32) : Emit Bool := do
  bytes (field32 Offset.instruction w)
  match decodeMemory w with
  | none => do
    bytes (finish pc n Status.undefinedInstruction)
    pure false
  | some shape =>
    if outsideRegime t then do
      bytes (finish pc n Status.systemRegisterTrap)
      pure false
    else if pairFamily w then
      checked (pairPieces t shape) (pairBody shape) pc n (checksSp t shape.rn) true
    else checked (scalarPieces t shape) (scalarBody shape) pc n (checksSp t shape.rn) (1#32 < shape.width)

def branchTo (taken pc : U64) (n : U32) (fall : ℕ) : Emit Bool := do
  bytes (finish taken (n + 1#32) Status.next)
  fix fall
  bytes (finish (pc + 4#64) (n + 1#32) Status.next)
  pure false

def conditionalBranch (w : U32) (pc : U64) (n : U32) : Emit Bool :=
  let condition := w &&& 15#32
  let target := pc + sext ((w >>> 5) &&& 0x7ffff#32) 19 * 4#64
  if 14#32 ≤ condition then do
    bytes (finish target (n + 1#32) Status.next)
    pure false
  else do
    let fall ← conditionFalse condition
    branchTo target pc n fall

def testBranch (w : U32) (pc : U64) (n : U32) : Emit Bool := do
  let bit := ((w >>> 26) &&& 32#32) ||| ((w >>> 19) &&& 31#32)
  bytes (load (rdOf w) false (32#32 ≤ bit) ++
    (rex (32#32 ≤ bit) ++ [0x0f#8, 0xba#8, 0xe0#8, bit.truncate 8]))
  let fall ← jcc (if bitOf w 24 then 0x83#8 else 0x82#8)
  branchTo (pc + sext ((w >>> 5) &&& 0x3fff#32) 14 * 4#64) pc n fall

def compareBranch (w : U32) (pc : U64) (n : U32) : Emit Bool := do
  bytes (load (rdOf w) false (wideOf w) ++ [0x48#8, 0x85#8, 0xc0#8])
  let fall ← jcc (if bitOf w 24 then 0x84#8 else 0x85#8)
  branchTo (pc + sext ((w >>> 5) &&& 0x7ffff#32) 19 * 4#64) pc n fall

def branch (w : U32) (pc : U64) (n : U32) : List Byte :=
  (if w >>> 31 ≠ 0#32 then field (30#32 * 8#32) (pc + 4#64) else []) ++
    finish (pc + sext (w &&& 0x3ffffff#32) 26 * 4#64) (n + 1#32) Status.next

def branchRegister (w : U32) (pc : U64) (n : U32) : List Byte :=
  if rnOf w = 31#32 then stop w pc n Status.undefinedInstruction
  else
    load (rnOf w) false true ++ moveR9 ++
      (if w &&& 0xfffffc1f#32 = 0xd63f0000#32 then field (30#32 * 8#32) (pc + 4#64) else []) ++
      [0x4c#8, 0x89#8, 0x89#8] ++ le32 Offset.pc ++ retire (n + 1#32) Status.next

def ends (code : List Byte) : Emit Bool := do
  bytes code
  pure false

def translateOne (t : Target) (provider : Bool) (w : U32) (pc : U64) (n : U32) : Emit Bool :=
  if isMrsMsr w = true ∧ sysregKey w = Key.cpacrEl1 ∧ t.currentEl = 0#32 then undefined w pc n
  else if isMrsMsr w = true ∧ (sysregKey w = Key.fpcr ∨ sysregKey w = Key.fpsr) then undefined w pc n
  else if provider = true ∧ memoryFamily w = true then ends (stop w pc n Status.memoryDispatch)
  else if w &&& 0x3fe00800#32 = 0x1a800000#32 then conditionalSelect w
  else if w &&& 0x7fe0f000#32 = 0x1ac02000#32 then straight w pc n (variableShift w)
  else if w &&& 0x7fe00000#32 = 0x1b000000#32 then straight w pc n (multiplyAdd w)
  else if w &&& 0x3fe00410#32 = 0x3a400000#32 then conditionalCompare w
  else if w &&& 0x7f800000#32 = 0x33000000#32 then straight w pc n (bitfieldMove w)
  else if w &&& 0x7f800000#32 = 0x53000000#32 then straight w pc n (unsignedBitfieldMove w)
  else if w &&& 0x1f800000#32 = 0x12000000#32 then straight w pc n (logicalImmediate w)
  else if isIdRead w then idRead w pc n
  else if isMrsMsr w = true ∧ threadOffset (sysregKey w) ≠ 0#32 then straight w pc n (threadRegister t w)
  else if w &&& 0x7f800000#32 = 0x52800000#32 ∨ w &&& 0x7f800000#32 = 0x72800000#32 ∨
      w &&& 0x7f800000#32 = 0x12800000#32 then straight w pc n (moveWide w)
  else if w &&& 0x1f000000#32 = 0x10000000#32 then straight w pc n (pcRelative w pc)
  else if w &&& 0x1f000000#32 = 0x0a000000#32 then straight w pc n (logicalShifted w)
  else if w &&& 0x1f800000#32 = 0x11000000#32 then straight w pc n (addSubImmediate w)
  else if w &&& 0x1fe00000#32 = 0x0b200000#32 then straight w pc n (addSubExtended w)
  else if w &&& 0x1f200000#32 = 0x0b000000#32 then straight w pc n (addSubShifted w)
  else if memoryFamily w then inlineMemory t w pc n
  else if w &&& 0xff000010#32 = 0x54000000#32 then conditionalBranch w pc n
  else if w &&& 0x7e000000#32 = 0x36000000#32 then testBranch w pc n
  else if w &&& 0x7e000000#32 = 0x34000000#32 then compareBranch w pc n
  else if w &&& 0x7c000000#32 = 0x14000000#32 then ends (branch w pc n)
  else if w &&& 0xfffffc1f#32 = 0xd61f0000#32 ∨ w &&& 0xfffffc1f#32 = 0xd63f0000#32 ∨
      w &&& 0xfffffc1f#32 = 0xd65f0000#32 then ends (branchRegister w pc n)
  else if w = 0xd503201f#32 then pure true
  else if w = 0xd4400000#32 then ends (finish (pc + 4#64) (n + 1#32) Status.halt)
  else
    let boundary := if knownPrivileged w t.currentEl then Status.privilegeFault
      else systemBoundary w t.currentEl
    ends (stop w pc n (if boundary ≠ Status.next then boundary else Status.undefinedInstruction))

def word (bs : List Byte) (at_ : ℕ) : U32 :=
  bs.getD (at_ + 3) 0#8 ++ bs.getD (at_ + 2) 0#8 ++ bs.getD (at_ + 1) 0#8 ++ bs.getD at_ 0#8

def fetchFails (base pc : U64) (size : ℕ) : Bool :=
  pc &&& 3#64 ≠ 0#64 ∨ size < 4 ∨ pc < base ∨ size - 4 < (pc - base).toNat ∨ 0xfffffffffffffffc#64 < pc

def translateFrom (t : Target) (provider : Bool) (guest : List Byte) : ℕ → U32 → U64 → Emit Unit
  | 0, _, _ => pure ()
  | remaining + 1, n, pc =>
    if provider = false ∧ fetchFails t.base pc guest.length = true then
      bytes (finish pc n Status.instructionAbort)
    else do
      let w := word guest (if provider then 0 else (pc - t.base).toNat)
      let more ← translateOne t provider w pc n
      if more then do
        if remaining = 0 then bytes (finish (pc + 4#64) (n + 1#32) Status.next)
        translateFrom t provider guest remaining (n + 1#32) (pc + 4#64)

def translateImpl (code : Buffer) (t : Target) (provider : Bool) (guest : List Byte) (pc : U64)
    (limit : ℕ) : U32 × Buffer :=
  let out := ((translateFrom t provider guest limit 0#32 pc).write { code with used := 0 }).2
  (if out.capacity < out.used then Status.codeFull else Status.next, out)

end Nextcore.Jit
