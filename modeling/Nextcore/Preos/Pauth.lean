import Nextcore.Preos.State

/-! `pauth.rs`: QARMA5 and the pointer-authentication step that the reference and
the C dispatcher share. -/

namespace Nextcore.Preos.Pauth

abbrev Cells := Vector (BitVec 4) 16

def sub : List (BitVec 4) :=
  [11#4, 6#4, 8#4, 15#4, 12#4, 0#4, 9#4, 14#4, 3#4, 7#4, 4#4, 5#4, 13#4, 2#4, 1#4, 10#4]

def shuffle : Vector (Fin 16) 16 := #v[13, 6, 11, 0, 7, 12, 1, 10, 8, 3, 14, 5, 2, 9, 4, 15]

def tweakMap : Vector (Fin 16) 16 := #v[4, 5, 6, 7, 11, 2, 3, 8, 12, 13, 14, 15, 0, 1, 10, 9]

def tweakLfsr : List (Fin 16) := [2, 4, 7, 11, 12, 14, 15]

def roundConstants : List U64 :=
  [0#64, 0x13198a2e03707344#64, 0xa4093822299f31d0#64, 0x082efa98ec4e6c89#64, 0x452821e638d01377#64]

def alpha : U64 := 0xc0ac29b7c97c50dd#64

def cells (word : U64) : Cells := Vector.ofFn fun i : Fin 16 => (word >>> (i.val * 4)).truncate 4

def packed (value : Cells) : U64 :=
  (List.finRange 16).foldl (fun word i => word ||| ((value.get i).zeroExtend 64 <<< (i.val * 4))) 0#64

def xor (state : Cells) (word : U64) : Cells :=
  Vector.ofFn fun i : Fin 16 => state.get i ^^^ (word >>> (i.val * 4)).truncate 4

def permutation (value : Cells) (map : Vector (Fin 16) 16) (inverse : Bool) : Cells :=
  (List.finRange 16).foldl (fun result i =>
    if inverse then result.set (map.get i) (value.get i) (map.get i).isLt
    else result.set i (value.get (map.get i)) i.isLt) (Vector.replicate 16 0#4)

def substitute (value : Cells) (inverse : Bool) : Cells :=
  value.map fun cell =>
    if inverse then BitVec.ofNat 4 ((sub.findIdx? (· == cell)).getD 0) else sub.getD cell.toNat 0#4

def rotation : List (List ℕ) := [[0, 1, 2, 1], [1, 0, 1, 2], [2, 1, 0, 1], [1, 2, 1, 0]]

def mix (value : Cells) : Cells :=
  Vector.ofFn fun i : Fin 16 =>
    let column := i.val % 4
    let row := i.val / 4
    (List.range 4).foldl (fun out source =>
      let amount := (rotation.getD row []).getD source 0
      let cell := value.get (Fin.ofNat 16 (column + 4 * source))
      if amount ≠ 0 then out ^^^ ((cell <<< amount) ||| (cell >>> (4 - amount))) else out) 0#4

def tweakCell (cell : BitVec 4) (inverse : Bool) : BitVec 4 :=
  if inverse then (cell <<< 1) ||| ((cell ^^^ (cell >>> 3)) &&& 1#4)
  else (cell >>> 1) ||| (((cell ^^^ (cell >>> 1)) &&& 1#4) <<< 3)

def tweak (value : Cells) (inverse : Bool) : Cells :=
  let result := if inverse then value else permutation value tweakMap false
  let result := tweakLfsr.foldl (fun result i => result.set i (tweakCell (result.get i) inverse) i.isLt) result
  if inverse then permutation result tweakMap true else result

def forward (key : Key) (state schedule : Cells) (round : ℕ) (constant : U64) : Cells × Cells :=
  let state := xor state (key.lo ^^^ packed schedule ^^^ constant)
  let state := if round ≠ 0 then mix (permutation state shuffle false) else state
  (substitute state false, tweak schedule false)

def backward (key : Key) (state schedule : Cells) (round : ℕ) (constant : U64) : Cells × Cells :=
  let state := substitute state true
  let state := if round ≠ 0 then permutation (mix state) shuffle true else state
  let schedule := tweak schedule true
  (xor state (key.lo ^^^ packed schedule ^^^ constant ^^^ alpha), schedule)

def reflect (key : Key) (whitening : U64) (state schedule : Cells) : Cells :=
  let state := xor state (whitening ^^^ packed schedule)
  let state := substitute (mix (permutation state shuffle false)) false
  let state := xor (mix (permutation state shuffle false)) key.lo
  let state := substitute (permutation state shuffle true) true
  xor (permutation (mix state) shuffle true) (key.hi ^^^ packed schedule)

def qarma5 (data modifier : U64) (key : Key) : U64 :=
  let whitening := key.hi.rotateRight 1 ^^^ (key.hi >>> 63)
  let rounds := roundConstants.zipIdx
  let (state, schedule) := rounds.foldl (fun s r => forward key s.1 s.2 r.2 r.1)
    (cells (data ^^^ key.hi), cells modifier)
  let state := reflect key whitening state schedule
  let (state, _) := rounds.reverse.foldl (fun s r => backward key s.1 s.2 r.2 r.1) (state, schedule)
  packed state ^^^ whitening

inductive PauthError
  | unsupported
  deriving DecidableEq, Repr

def addressMask (pointer tcr : U64) (selectorBit : ℕ) : Except PauthError U64 :=
  let shift := if pointer &&& (1#64 <<< selectorBit) ≠ 0#64 then 16 else 0
  let tsz := (tcr >>> shift) &&& 63#64
  if ¬(tsz = 16#64 ∨ tsz = 17#64) ∨ tcr &&& ((1#64 <<< 37) ||| (1#64 <<< 38) ||| (1#64 <<< 59)) ≠ 0#64 then
    .error .unsupported
  else .ok ((1#64 <<< (64#64 - tsz).toNat) - 1#64)

def canonical (pointer mask : U64) : U64 :=
  (pointer &&& mask) ||| (if pointer &&& (1#64 <<< 55) ≠ 0#64 then ~~~mask else 0#64)

def sign (keys : Fin 5 → Key) (pointer modifier : U64) (key : ℕ) (tcr : U64) : Except PauthError U64 :=
  if 4 ≤ key then .error .unsupported else do
  let mask ← addressMask pointer tcr 63
  let high := if pointer >>> 63 ≠ 0#64 then ~~~mask else 0#64
  let original := (pointer &&& mask) ||| high
  let tag := qarma5 original modifier (keys (Fin.ofNat 5 key))
  let extension := pointer &&& ~~~mask
  let tag := if extension ≠ 0#64 ∧ extension ≠ ~~~mask then tag ^^^ (1#64 <<< 62) else tag
  .ok ((pointer &&& mask) ||| (high &&& (1#64 <<< 55)) ||| (tag &&& ~~~mask &&& ~~~(1#64 <<< 55)))

def authenticate (keys : Fin 5 → Key) (pointer modifier : U64) (key : ℕ) (tcr : U64) :
    Except PauthError U64 :=
  if 4 ≤ key then .error .unsupported else do
  let mask ← addressMask pointer tcr 55
  let original := canonical pointer mask
  let expected := qarma5 original modifier (keys (Fin.ofNat 5 key))
  if (expected ^^^ pointer) &&& ~~~mask &&& ~~~(1#64 <<< 55) = 0#64 then .ok original
  else
    -- bits 62:61 are poisoned, with the A and B keys told apart
    let failure : U64 := if key % 2 = 0 then 1#64 else 2#64
    .ok ((original &&& ~~~(3#64 <<< 61)) ||| (failure <<< 61))

def strip (pointer tcr : U64) : Except PauthError U64 := do
  let mask ← addressMask pointer tcr 55
  .ok (canonical pointer mask)

structure PauthContext where
  x : Fin 31 → U64
  sp : U64
  pc : U64
  sctlr : U64
  tcr : U64
  keys : Fin 5 → Key
  currentEl : U32
  reserved : U32

namespace PauthContext

def reg (c : PauthContext) (index : U32) (allowSp : Bool) : U64 :=
  if index < 31#32 then c.x (Fin.ofNat 31 index.toNat) else if allowSp then c.sp else 0#64

def put (c : PauthContext) (index : U32) (value : U64) : PauthContext :=
  if index < 31#32 then { c with x := Function.update c.x (Fin.ofNat 31 index.toNat) value } else c

end PauthContext

def keySlot (syskey : U32) : Option (Fin 5 × Bool) :=
  if 0x4108#32 ≤ syskey ∧ syskey ≤ 0x410b#32 then
    some (Fin.ofNat 5 ((syskey - 0x4108#32).toNat / 2), (syskey - 0x4108#32).toNat % 2 = 1)
  else if 0x4110#32 ≤ syskey ∧ syskey ≤ 0x4113#32 then
    some (Fin.ofNat 5 (2 + (syskey - 0x4110#32).toNat / 2), (syskey - 0x4110#32).toNat % 2 = 1)
  else if 0x4118#32 ≤ syskey ∧ syskey ≤ 0x4119#32 then some (4, syskey.toNat % 2 = 1)
  else none

def Key.half (k : Key) (high : Bool) : U64 := if high then k.hi else k.lo

def Key.setHalf (k : Key) (high : Bool) (value : U64) : Key :=
  if high then { k with hi := value } else { k with lo := value }

def syskeyOf (word : U32) : U32 := (word >>> 5) &&& 0x7fff#32

def isMrs (word : U32) : Bool := word &&& 0xffe00000#32 = 0xd5200000#32

def isMsr (word : U32) : Bool := word &&& 0xffe00000#32 = 0xd5000000#32

def isRegisterAccess (word : U32) : Bool :=
  (isMrs word || isMsr word) &&
    ((keySlot (syskeyOf word)).isSome || syskeyOf word = 0x4080#32 || syskeyOf word = 0x4102#32 ||
      syskeyOf word = 0x4031#32)

def registerStep (context : PauthContext) (word : U32) : Except PauthError PauthContext :=
  let rd := word &&& 31#32
  if context.currentEl ≠ 1#32 ∨ context.reserved ≠ 0#32 then .error .unsupported else do
  let next ← match keySlot (syskeyOf word) with
    | some (index, high) =>
      if isMrs word then .ok (context.put rd (Key.half (context.keys index) high))
      else .ok { context with
        keys := Function.update context.keys index
          (Key.setHalf (context.keys index) high (context.reg rd false)) }
    | none =>
      if isMrs word then
        .ok (context.put rd (if syskeyOf word = 0x4080#32 then context.sctlr
          else if syskeyOf word = 0x4102#32 then context.tcr else 0x10#64))
      else if syskeyOf word = 0x4031#32 then .error .unsupported
      else if syskeyOf word = 0x4080#32 then
        if context.reg rd false &&& 1#64 ≠ 0#64 then .error .unsupported
        else .ok { context with sctlr := context.reg rd false }
      else .ok { context with tcr := context.reg rd false }
  .ok { next with pc := context.pc + 4#64 }

inductive Operation
  | sign | authenticate | strip
  deriving DecidableEq, Repr

structure Decoded where
  operation : Operation
  key : ℕ
  destination : U32
  pointer : U64
  modifier : U64
  branch : Bool := false
  link : Bool := false

/-- The PAC instructions; `none` belongs to another decoder. -/
def decode (context : PauthContext) (word : U32) : Option (Except PauthError Decoded) :=
  let rd := word &&& 31#32
  let rn := (word >>> 5) &&& 31#32
  let bitAt (i : ℕ) : ℕ := ((word >>> i) &&& 1#32).toNat
  let operationAt (i : ℕ) : Operation := if bitAt i = 0 then .sign else .authenticate
  let link : Bool := word &&& (1#32 <<< 21) ≠ 0#32
  if word &&& 0xffffc000#32 = 0xdac10000#32 then
    let zero : Bool := word &&& (1#32 <<< 13) ≠ 0#32
    if zero = true ∧ rn ≠ 31#32 then some (.error .unsupported)
    else some (.ok ⟨operationAt 12, ((word >>> 10) &&& 3#32).toNat, rd, context.reg rd false,
      if zero then 0#64 else context.reg rn true, false, false⟩)
  else if word &&& 0xfffffbff#32 = 0xdac143e0#32 ||| rd then
    some (.ok ⟨.strip, 0, rd, context.reg rd false, 0#64, false, false⟩)
  else if word = 0xd50320ff#32 then some (.ok ⟨.strip, 0, 30#32, context.x 30, 0#64, false, false⟩)
  else if word &&& 0xffffff1f#32 = 0xd503231f#32 then
    some (.ok ⟨operationAt 7, bitAt 6, 30#32, context.x 30,
      if word &&& 0x20#32 ≠ 0#32 then context.sp else 0#64, false, false⟩)
  else if word &&& 0xffffff3f#32 = 0xd503211f#32 then
    some (.ok ⟨operationAt 7, bitAt 6, 17#32, context.x 17, context.x 16, false, false⟩)
  else if word &&& 0xffdff800#32 = 0xd71f0800#32 then
    some (.ok ⟨.authenticate, bitAt 10, rd, context.reg rn false, context.reg rd true, true, link⟩)
  else if word &&& 0xffdff81f#32 = 0xd61f081f#32 then
    some (.ok ⟨.authenticate, bitAt 10, rd, context.reg rn false, 0#64, true, link⟩)
  else if word = 0xd65f0bff#32 ∨ word = 0xd65f0fff#32 then
    some (.ok ⟨.authenticate, bitAt 10, rd, context.x 30, context.sp, true, false⟩)
  else none

def enableBit (key : ℕ) : ℕ := [31, 30, 27, 13].getD key 0

def evaluate (context : PauthContext) (d : Decoded) : Except PauthError U64 :=
  if d.operation = .strip then strip d.pointer context.tcr
  else if context.sctlr &&& (1#64 <<< enableBit d.key) = 0#64 then .ok d.pointer
  else if d.operation = .sign then sign context.keys d.pointer d.modifier d.key context.tcr
  else authenticate context.keys d.pointer d.modifier d.key context.tcr

def operationStep (context : PauthContext) (d : Decoded) : Except PauthError PauthContext :=
  if 1#32 < context.currentEl ∨ context.reserved ≠ 0#32 then .error .unsupported else do
  let value ← evaluate context d
  if d.branch then
    .ok { context with
      x := if d.link then Function.update context.x 30 (context.pc + 4#64) else context.x
      pc := value }
  else .ok { context.put d.destination value with pc := context.pc + 4#64 }

def genericStep (context : PauthContext) (word : U32) : Except PauthError PauthContext :=
  if 1#32 < context.currentEl ∨ context.reserved ≠ 0#32 then .error .unsupported
  else
    let value := qarma5 (context.reg ((word >>> 5) &&& 31#32) false)
      (context.reg ((word >>> 16) &&& 31#32) true) (context.keys 4) &&& 0xffffffff00000000#64
    .ok { context.put (word &&& 31#32) value with pc := context.pc + 4#64 }

/-- `pauth::step`: `none` belongs to another decoder, and an error leaves the context as it was. -/
def step (context : PauthContext) (word : U32) : Option (Except PauthError PauthContext) :=
  if word &&& 0xffe0fc00#32 = 0x9ac03000#32 then some (genericStep context word)
  else if isRegisterAccess word then some (registerStep context word)
  else (decode context word).map fun d => d.bind (operationStep context)

/-- `vf_preos_pauth_step` on a valid pointer: `none` is its failure return. -/
def vfPreosPauthStep (context : PauthContext) (word : U32) : Option PauthContext :=
  match step context word with
  | some (.ok next) => some next
  | _ => none

end Nextcore.Preos.Pauth
