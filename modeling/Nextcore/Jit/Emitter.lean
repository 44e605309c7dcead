import Nextcore.Jit.Shape
import Nextcore.Lib.Emit

/-! The byte emitters of `jit.c` and the classification of system words. -/

namespace Nextcore.Jit

open Cpu Emit

namespace Offset

abbrev sp : U32 := 256#32
abbrev pc : U32 := 264#32
abbrev pstate : U32 := 272#32
abbrev far : U32 := 336#32
abbrev hcrEl2 : U32 := 656#32
abbrev scrEl3 : U32 := 672#32
abbrev retired : U32 := 680#32
abbrev currentEl : U32 := 712#32
abbrev instruction : U32 := 728#32
abbrev tpidrEl0 : U32 := 840#32
abbrev tpidrroEl0 : U32 := 848#32
abbrev tpidrEl1 : U32 := 856#32

end Offset

def rex (wide : Bool) : List Byte := if wide then [0x48#8] else []

def imm (x : U64) : List Byte := [0x48#8, 0xb8#8] ++ le64 x

def load (reg : U32) (sp wide : Bool) : List Byte :=
  if reg = 31#32 then
    if sp then rex wide ++ [0x8b#8, 0x81#8] ++ le32 Offset.sp else [0x31#8, 0xc0#8]
  else rex wide ++ [0x8b#8, 0x81#8] ++ le32 (reg * 8#32)

def save (reg : U32) (sp : Bool) : List Byte :=
  if reg = 31#32 then
    if sp then [0x48#8, 0x89#8, 0x81#8] ++ le32 Offset.sp else []
  else [0x48#8, 0x89#8, 0x81#8] ++ le32 (reg * 8#32)

def field (off : U32) (x : U64) : List Byte := imm x ++ [0x48#8, 0x89#8, 0x81#8] ++ le32 off

def field32 (off x : U32) : List Byte := [0xc7#8, 0x81#8] ++ le32 off ++ le32 x

def saveHostR11 (off : U32) : List Byte := [0x4c#8, 0x89#8, 0x99#8] ++ le32 off

-- mov r9, rax
def moveR9 : List Byte := [0x49#8, 0x89#8, 0xc1#8]

-- mov r9, value
def constR9 (value : U64) : List Byte := [0x49#8, 0xb9#8] ++ le64 value

def aluR9 (wide : Bool) (opcode : Byte) : List Byte := [if wide then 0x4c#8 else 0x44#8, opcode, 0xc8#8]

def shiftRax (wide : Bool) (extension : Byte) (amount : U32) : List Byte :=
  rex wide ++ [0xc1#8, extension, amount.truncate 8]

def notRax (wide : Bool) : List Byte := rex wide ++ [0xf7#8, 0xd0#8]

def mergeFlags : List Byte :=
  constR9 (~~~0xf0000000#64) ++ [0x4c#8, 0x21#8, 0x89#8] ++ le32 Offset.pstate ++
    [0x48#8, 0x09#8, 0x81#8] ++ le32 Offset.pstate

def saveArithmeticFlags (subtract : Bool) : List Byte :=
  -- every flag is captured before the shifts clobber them; A64 C is no borrow
  [0x41#8, 0x0f#8, 0x98#8, 0xc1#8,
    0x41#8, 0x0f#8, 0x94#8, 0xc2#8,
    0x41#8, 0x0f#8, if subtract then 0x93#8 else 0x92#8, 0xc3#8,
    0x0f#8, 0x90#8, 0xc0#8,
    0x45#8, 0x0f#8, 0xb6#8, 0xc9#8,
    0x45#8, 0x0f#8, 0xb6#8, 0xd2#8,
    0x45#8, 0x0f#8, 0xb6#8, 0xdb#8,
    0x0f#8, 0xb6#8, 0xc0#8,
    0x41#8, 0xc1#8, 0xe1#8, 31#8,
    0x41#8, 0xc1#8, 0xe2#8, 30#8,
    0x41#8, 0xc1#8, 0xe3#8, 29#8,
    0xc1#8, 0xe0#8, 28#8,
    0x44#8, 0x09#8, 0xc8#8,
    0x44#8, 0x09#8, 0xd0#8,
    0x44#8, 0x09#8, 0xd8#8] ++ mergeFlags

def retire (count status : U32) : List Byte :=
  [0x48#8, 0x81#8, 0x81#8] ++ le32 Offset.retired ++ le32 count ++ [0xb8#8] ++ le32 status ++ [0xc3#8]

def finish (pc : U64) (count status : U32) : List Byte := field Offset.pc pc ++ retire count status

def jcc (cc : Byte) : Emit ℕ := do
  bytes [0x0f#8, cc]
  hole

def conditionTest (condition : U32) : List Byte × Byte :=
  let group := condition >>> 1
  let (code, cc) :=
    if group < 4#32 then
      ([0x83#8, 0xe0#8, if group = 0#32 then 4#8 else if group = 1#32 then 2#8
        else if group = 2#32 then 8#8 else 1#8], 0x84#8)
    else if group = 4#32 then ([0x83#8, 0xe0#8, 6#8, 0x83#8, 0xf8#8, 2#8], 0x85#8)
    else
      ([0x41#8, 0x89#8, 0xc1#8, 0x41#8, 0xc1#8, 0xe9#8, 3#8, 0x44#8, 0x31#8, 0xc8#8,
        0x83#8, 0xe0#8, if group = 5#32 then 1#8 else 5#8], 0x85#8)
  ([0x8b#8, 0x81#8] ++ le32 Offset.pstate ++ [0xc1#8, 0xe8#8, 28#8] ++ code,
    if condition &&& 1#32 ≠ 0#32 then cc ^^^ 1#8 else cc)

def conditionFalse (condition : U32) : Emit ℕ :=
  if 14#32 ≤ condition then pure 0
  else do
    bytes (conditionTest condition).1
    jcc (conditionTest condition).2

def tagLength : ℕ → U32 → U32
  | 0, _ => 0#32
  | fuel + 1, tag => if 1#32 < tag then tagLength fuel (tag >>> 1) + 1#32 else 0#32

def replicate (element : U64) (size width : ℕ) : U64 :=
  (List.range (width / size)).foldl (fun mask k => mask ||| (element <<< (k * size))) 0#64

def logicalMask (w : U32) : Option U64 :=
  let width : ℕ := if w >>> 31 ≠ 0#32 then 64 else 32
  let n := (w >>> 22) &&& 1#32
  let s := (w >>> 10) &&& 63#32
  let r := (w >>> 16) &&& 63#32
  if width = 32 ∧ n ≠ 0#32 then none else
  let len := tagLength 7 ((n <<< 6) ||| (~~~s &&& 63#32))
  if len < 1#32 then none else
  let size := 1#32 <<< len.toNat
  let levels := size - 1#32
  if width < size.toNat ∨ s &&& levels = levels then none else
  let s := s &&& levels
  let r := r &&& levels
  let element := (1#64 <<< (s + 1#32).toNat) - 1#64
  let element := if r ≠ 0#32 then (element >>> r.toNat) ||| (element <<< (size - r).toNat) else element
  let element := if size.toNat < 64 then element &&& ((1#64 <<< size.toNat) - 1#64) else element
  some (replicate element size.toNat width)

def isSystemEncoding (w : U32) : Bool := w &&& 0xffc00000#32 = 0xd5000000#32

def isExceptionReturn (w : U32) : Bool := w = 0xd69f03e0#32 ∨ w = 0xd69f0be0#32 ∨ w = 0xd69f0fe0#32

namespace Key

abbrev tpidrEl0 : U32 := 0x5e82#32
abbrev tpidrroEl0 : U32 := 0x5e83#32
abbrev tpidrEl1 : U32 := 0x4684#32
abbrev fpcr : U32 := 0x5a20#32
abbrev fpsr : U32 := 0x5a21#32
abbrev cpacrEl1 : U32 := 0x4082#32

end Key

def sysregEl0Visible (key : U32) : Bool :=
  key ∈ [0x5801#32, 0x5802#32, Key.fpcr, Key.fpsr, Key.tpidrEl0, Key.tpidrroEl0, 0x5f00#32, 0x5f01#32,
    0x5f02#32, 0x5f10#32, 0x5f11#32, 0x5f12#32, 0x5f19#32, 0x5f1a#32, 0x4212#32]

def sysregEl1Only (key : U32) : Bool :=
  key ∈ [0x4020#32, 0x4021#32, 0x4022#32, 0x4038#32, 0x4039#32, 0x403a#32, 0x4031#32, 0x4080#32, 0x4100#32,
    0x4101#32, 0x4102#32, 0x4510#32, 0x4600#32, 0x4290#32, 0x4300#32, 0x4201#32, 0x4200#32]

def threadOffset (key : U32) : U32 :=
  if key = Key.tpidrEl0 then Offset.tpidrEl0
  else if key = Key.tpidrroEl0 then Offset.tpidrroEl0
  else if key = Key.tpidrEl1 then Offset.tpidrEl1
  else 0#32

def knownPrivileged (w currentEl : U32) : Bool :=
  if isExceptionReturn w then currentEl = 0#32
  else if w = 0xd503207f#32 ∨ w = 0xd503205f#32 ∨ w &&& 0xffe0001f#32 = 0xd4000002#32 ∨
      w &&& 0xffe0001f#32 = 0xd4000003#32 then currentEl = 0#32
  else if w &&& 0xfffff0ff#32 = 0xd50340df#32 ∨ w &&& 0xfffff0ff#32 = 0xd50340ff#32 ∨
      w &&& 0xfffffeff#32 = 0xd50040bf#32 then currentEl = 0#32
  else isMrsMsr w && currentEl = 0#32 && !sysregEl0Visible (sysregKey w) && sysregEl1Only (sysregKey w)

def systemBoundary (w currentEl : U32) : U32 :=
  if isExceptionReturn w then Status.systemRegisterTrap
  else if isSystemEncoding w = false then Status.next
  else if w = 0xd503201f#32 then Status.next
  else if knownPrivileged w currentEl then Status.privilegeFault
  else Status.systemRegisterTrap

end Nextcore.Jit
