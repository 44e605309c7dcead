import Nextcore.Lib.Bytes
import Nextcore.Lib.Loop

/-! `runtime/fp_scalar.c`: the sum and the quotient of two raw binary32 words. The exponents are
`int`s that stay small, so they are integers here; the shift distances wrap as `unsigned` does. -/

namespace Nextcore.Fp

open Loop

inductive Rounding where
  | rn
  | rp
  | rm
  | rz
deriving DecidableEq, Repr

structure Fp32State where
  rounding : Rounding
  status : U32
deriving DecidableEq, Repr

structure Fp32Result where
  bits : U32
  status : U32
deriving DecidableEq, Repr

def ioc : U32 := 1#32
def dzc : U32 := 2#32
def ofc : U32 := 4#32
def ufc : U32 := 8#32
def ixc : U32 := 16#32
def statusMask : U32 := 31#32

def sign : U32 := 0x80000000#32
def abs : U32 := 0x7fffffff#32
def inf : U32 := 0x7f800000#32
def quiet : U32 := 0x00400000#32
def fraction : U32 := 0x007fffff#32
def hidden : U32 := 0x00800000#32

def init : Fp32State := { rounding := .rn, status := 0#32 }

def Rounding.ofField (field : U32) : Rounding :=
  if field = 0#32 then .rn else if field = 1#32 then .rp else if field = 2#32 then .rm else .rz

def configure (state : Fp32State) (control : U32) : Bool × Fp32State :=
  if control &&& ~~~0x00c00000#32 ≠ 0#32 then (false, state)
  else (true, { state with rounding := Rounding.ofField (control >>> 22) })

def clearStatus (state : Fp32State) (mask : U32) : Fp32State :=
  { state with status := state.status &&& ~~~(mask &&& statusMask) }

def result (state : Fp32State) (bits flags : U32) : Fp32Result × Fp32State :=
  ({ bits := bits, status := state.status ||| flags }, { state with status := state.status ||| flags })

def isNan (bits : U32) : Bool := bits &&& abs > inf

def isSnan (bits : U32) : Bool := isNan bits && bits &&& quiet = 0#32

def nanResult (state : Fp32State) (a b : U32) : Fp32Result × Fp32State :=
  if isSnan a then result state (a ||| quiet) ioc
  else if isSnan b then result state (b ||| quiet) ioc
  else result state (if isNan a then a else b) 0#32

def shiftJam (value : U64) (distance : ℕ) : U64 :=
  if distance = 0 then value
  else if 64 ≤ distance then (if value ≠ 0#64 then 1#64 else 0#64)
  else (value >>> distance) ||| (if value <<< (64 - distance) ≠ 0#64 then 1#64 else 0#64)

def unsigned (value : ℤ) : ℕ := (value % 2 ^ 32).toNat

section Normalise

variable {w : ℕ}

def normaliseTurn (leading : BitVec w) (s : BitVec w × ℤ) : Option (Turn (BitVec w × ℤ) Unit) :=
  if s.1 &&& leading = 0#w then some (.again (s.1 <<< 1, s.2 - 1)) else some (.done () s)

def normalise (leading : BitVec w) (fuel : ℕ) (value : BitVec w) (exponent : ℤ) : Option (BitVec w × ℤ) :=
  (iterate (normaliseTurn leading) fuel (value, exponent)).map Prod.snd

end Normalise

def unpack (fuel : ℕ) (bits : U32) : Option (U32 × ℤ) :=
  let encoded := (bits >>> 23) &&& 255#32
  if encoded ≠ 0#32 then some ((bits &&& fraction) ||| hidden, encoded.toNat - 127)
  else normalise hidden fuel (bits &&& fraction) (-126)

def overflow (state : Fp32State) (sgn : U32) : Fp32Result × Fp32State :=
  let infinity : Bool := state.rounding = .rn ∨ (state.rounding = .rp ∧ sgn = 0#32) ∨
    (state.rounding = .rm ∧ sgn ≠ 0#32)
  result state (sgn ||| if infinity then inf else inf - 1#32) (ofc ||| ixc)

def increment (rounding : Rounding) (sgn tail rounded : U32) : Bool :=
  if rounding = .rn then tail > 4#32 ∨ (tail = 4#32 ∧ rounded &&& 1#32 ≠ 0#32)
  else tail ≠ 0#32 ∧ ((rounding = .rp ∧ sgn = 0#32) ∨ (rounding = .rm ∧ sgn ≠ 0#32))

def encode (state : Fp32State) (sgn : U32) (exponent : ℤ) (rounded flags : U32) : Fp32Result × Fp32State :=
  let carry : Bool := rounded ≥ hidden <<< 1
  let exponent := if carry then exponent + 1 else exponent
  let rounded := if carry then rounded >>> 1 else rounded
  if exponent > 127 then overflow state sgn else
  let encoded := if rounded ≥ hidden then BitVec.ofInt 32 (exponent + 127) <<< 23 else 0#32
  result state (sgn ||| encoded ||| (rounded &&& fraction)) flags

def pack (state : Fp32State) (sgn : U32) (exponent : ℤ) (significand : U64) : Fp32Result × Fp32State :=
  let tiny : Bool := exponent < -126
  let significand := if tiny then shiftJam significand (unsigned (-126 - exponent)) else significand
  let exponent := if tiny then -126 else exponent
  let tail := (significand &&& 7#64).setWidth 32
  let rounded := (significand >>> 3).setWidth 32
  let flags := if tail ≠ 0#32 then ixc ||| (if tiny then ufc else 0#32) else 0#32
  encode state sgn exponent (rounded + if increment state.rounding sgn tail rounded then 1#32 else 0#32) flags

def addOrdered (fuel : ℕ) (state : Fp32State) (sa : U32) (ea : ℤ) (ma : U64) (sb : U32) (eb : ℤ) (mb : U64) :
    Option (Fp32Result × Fp32State) :=
  let mb := shiftJam mb (unsigned (ea - eb))
  let sum := if sa = sb then ma + mb else ma - mb
  if sum = 0#64 then some (result state (if state.rounding = .rm then sign else 0#32) 0#32) else
  let long : Bool := sum &&& (1#64 <<< 27) ≠ 0#64
  let ea := if long then ea + 1 else ea
  let sum := if long then shiftJam sum 1 else sum
  (normalise (1#64 <<< 26) fuel sum ea).map fun s => pack state sa s.2 s.1

def addFinite (fuel : ℕ) (state : Fp32State) (a b : U32) : Option (Fp32Result × Fp32State) := do
  let (ma, ea) ← unpack fuel a
  let (mb, eb) ← unpack fuel b
  let ma := ma.setWidth 64 <<< 3
  let mb := mb.setWidth 64 <<< 3
  if ea < eb ∨ (ea = eb ∧ ma < mb) then addOrdered fuel state (b &&& sign) eb mb (a &&& sign) ea ma
  else addOrdered fuel state (a &&& sign) ea ma (b &&& sign) eb mb

def ncFp32Add (fuel : ℕ) (state : Fp32State) (a b : U32) : Option (Fp32Result × Fp32State) :=
  let aa := a &&& abs
  let ab := b &&& abs
  let sa := a &&& sign
  let sb := b &&& sign
  if isNan a ∨ isNan b then some (nanResult state a b)
  else if aa = inf ∨ ab = inf then
    if aa = inf ∧ ab = inf ∧ sa ≠ sb then some (result state (inf ||| quiet) ioc)
    else some (result state (if aa = inf then a else b) 0#32)
  else if aa = 0#32 ∧ ab = 0#32 then
    some (result state (if sa = sb then sa else if state.rounding = .rm then sign else 0#32) 0#32)
  else if aa = 0#32 ∨ ab = 0#32 then some (result state (if aa = 0#32 then b else a) 0#32)
  else addFinite fuel state a b

def divFinite (fuel : ℕ) (state : Fp32State) (a b : U32) : Option (Fp32Result × Fp32State) := do
  let (ma, ea) ← unpack fuel a
  let (mb, eb) ← unpack fuel b
  let exponent := if ma < mb then ea - eb - 1 else ea - eb
  let ma := if ma < mb then ma <<< 1 else ma
  let numerator := ma.setWidth 64 <<< 26
  let quotient := numerator / mb.setWidth 64
  let quotient := if numerator % mb.setWidth 64 ≠ 0#64 then quotient ||| 1#64 else quotient
  some (pack state ((a ^^^ b) &&& sign) exponent quotient)

def ncFp32Div (fuel : ℕ) (state : Fp32State) (a b : U32) : Option (Fp32Result × Fp32State) :=
  let aa := a &&& abs
  let ab := b &&& abs
  let sgn := (a ^^^ b) &&& sign
  if isNan a ∨ isNan b then some (nanResult state a b)
  else if (aa = 0#32 ∧ ab = 0#32) ∨ (aa = inf ∧ ab = inf) then some (result state (inf ||| quiet) ioc)
  else if aa = inf then some (result state (sgn ||| inf) 0#32)
  else if ab = inf then some (result state sgn 0#32)
  else if ab = 0#32 then some (result state (sgn ||| inf) dzc)
  else if aa = 0#32 then some (result state sgn 0#32)
  else divFinite fuel state a b

end Nextcore.Fp
