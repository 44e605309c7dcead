import Mathlib.Data.List.TakeWhile
import Nextcore.Lib.Bytes

/-! The environment store of the NVRAM device. -/

namespace Nextcore.Nvram

abbrev CString := {s : List Byte // 0#8 ∉ s}

def nul : Byte := 0#8

def equals : Byte := 0x3d#8

def cstr (bytes : List Byte) : CString :=
  ⟨bytes.takeWhile (· ≠ nul), fun h => by simpa [nul] using List.mem_takeWhile_imp h⟩

def ascii (s : List Char) : List Byte := s.map fun c => BitVec.ofNat 8 c.toNat

def copyStr (len : ℕ) (src : CString) : CString :=
  ⟨src.1.take (len - 1), fun h => src.2 (List.mem_of_mem_take h)⟩

def bankMaxLen : ℕ := 0x2000
def commonPartLen : ℕ := 0x7f0
def envNameMax : ℕ := 64
def envValueMax : ℕ := 256
def maxEnv : ℕ := 32
def maxParts : ℕ := 8

def chrpSig : Byte := 0x5a#8
def chrpPartFree : Byte := 0x7f#8
def commonSig : Byte := 0x70#8

def panicPartName : List Byte := ascii ['A', 'P', 'L', ',', 'O', 'S', 'X', 'P', 'a', 'n', 'i'] ++ [nul]
def common : List Byte := ascii ['c', 'o', 'm', 'm', 'o', 'n']

structure Env where
  name : CString
  value : CString
  flags : U32
  parsedUint : U32
  deriving DecidableEq

/-- A partition; `len` of the source is the length of the data. -/
structure Part where
  sig : Byte
  name : List Byte
  data : List Byte
  deriving DecidableEq, Repr

structure NvramV1 where
  env : List Env
  parts : List Part
  bankLen : ℕ
  generation : U32
  deriving DecidableEq

def zeroed : NvramV1 := { env := [], parts := [], bankLen := 0, generation := 0#32 }

def digit (base : U32) (c : Byte) : Option U32 :=
  if 0x30#8 ≤ c ∧ c ≤ 0x39#8 then some (c - 0x30#8).toNat
  else if base = 16#32 ∧ 0x61#8 ≤ c ∧ c ≤ 0x66#8 then some ((c - 0x61#8).toNat + 10)
  else if base = 16#32 ∧ 0x41#8 ≤ c ∧ c ≤ 0x46#8 then some ((c - 0x41#8).toNat + 10)
  else none

def digits (base : U32) (acc : U32) : List Byte → U32
  | [] => acc
  | c :: cs =>
    match digit base c with
    | none => acc
    | some d => if base ≤ d then acc else digits base (acc * base + d) cs

/-- `parse_env_uint`; no digits leave the accumulator at zero. -/
def parseEnvUint : List Byte → U32
  | 0x30#8 :: x :: value => if x = 0x78#8 ∨ x = 0x58#8 then digits 16#32 0#32 value
    else digits 10#32 0#32 (0x30#8 :: x :: value)
  | value => digits 10#32 0#32 value

def findEnv (n : NvramV1) (name : CString) : Option ℕ := n.env.findIdx? (·.name = name)

def Part.isCommon (part : Part) : Bool := (cstr part.name).1 = common

def findCommon (n : NvramV1) : Option ℕ := n.parts.findIdx? Part.isCommon

def emptyCommon : Part :=
  { sig := commonSig, name := common ++ List.replicate 10 nul, data := List.replicate commonPartLen nul }

def ensureCommon (n : NvramV1) : Option (NvramV1 × ℕ) :=
  match findCommon n with
  | some i => some (n, i)
  | none =>
    if maxParts ≤ n.parts.length then none
    else some ({ n with parts := n.parts ++ [emptyCommon] }, n.parts.length)

/-- `vf_nvram_init` of any store; `true` is the result 0. -/
def init : Bool × NvramV1 :=
  match ensureCommon { zeroed with bankLen := bankMaxLen } with
  | none => (false, { zeroed with bankLen := bankMaxLen })
  | some (n, _) => (true, n)

def fresh : NvramV1 := { env := [], parts := [emptyCommon], bankLen := bankMaxLen, generation := 0#32 }

lemma init_eq : init = (true, fresh) := rfl

def envUnset (n : NvramV1) (name : CString) : ℤ × NvramV1 :=
  match findEnv n name with
  | none => (0, n)
  | some i => (1, { n with env := n.env.eraseIdx i })

/-- `vf_nvram_env_set`; `true` is the result 0. -/
def envSet (n : NvramV1) (name value : CString) (flags : U32) : Bool × NvramV1 :=
  if name.1 = [] ∨ envNameMax ≤ name.1.length ∨ envValueMax ≤ value.1.length then (false, n)
  else
    let n := (envUnset n name).2
    if maxEnv ≤ n.env.length then (false, n)
    else
      let v : Env :=
        { name := copyStr envNameMax name
          value := copyStr envValueMax value
          flags := flags
          parsedUint := parseEnvUint value.1 }
      (true, { n with env := n.env ++ [v] })

end Nextcore.Nvram
