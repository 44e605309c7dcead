import Mathlib.Data.List.GetD
import Nextcore.Fp.Bank

/-! `runtime/simd_memory.c`: loads and stores of a whole vector register in an owned view of memory. -/

namespace Nextcore.Fp

open Lanes

structure SimdGprs where
  x : Fin 31 → U64
  sp : U64

structure SimdMemory where
  bytesAt : U64
  bytes : List Byte
  guestBase : U64
  readable : U32
  writable : U32
  spAlignment : U32
  dataAlignment : U32
  bigEndian : U32
  length_lt : bytes.length < 2 ^ 64

inductive SimdMemResult where
  | ok
  | invalid
  | undefined
  | trapEl1
  | unsupported
  | spAlignment
  | dataAlignment
  | dataAbort
deriving DecidableEq, Repr

def SimdMemResult.ofAccess : FpResult → SimdMemResult
  | .ok => .ok
  | .invalid => .invalid
  | .undefined => .undefined
  | .trapEl1 => .trapEl1
  | .unsupported => .unsupported

structure SimdHost where
  bankAt : U64
  gprsAt : U64
  memoryAt : U64

def gprsSize : U64 := 256#64

def memorySize : U64 := 48#64

namespace SimdMemory

def length (memory : SimdMemory) : U64 := BitVec.ofNat 64 memory.bytes.length

def refused (memory : SimdMemory) (host : SimdHost) : Bool :=
  memory.bytesAt = 0#64 || memory.length = 0#64 || 1#32 < memory.readable || 1#32 < memory.writable ||
    1#32 < memory.spAlignment || 1#32 < memory.dataAlignment || 1#32 < memory.bigEndian ||
    0xffffffffffffffff#64 - memory.guestBase < memory.length - 1#64 ||
    0xffffffffffffffff#64 - memory.bytesAt < memory.length - 1#64 ||
    overlaps host.bankAt bankSize host.gprsAt gprsSize || overlaps host.bankAt bankSize host.memoryAt memorySize ||
    overlaps host.gprsAt gprsSize host.memoryAt memorySize ||
    overlaps memory.bytesAt memory.length host.bankAt bankSize ||
    overlaps memory.bytesAt memory.length host.gprsAt gprsSize ||
    overlaps memory.bytesAt memory.length host.memoryAt memorySize

end SimdMemory

def decodeQ (instruction : U32) : Option (U64 × U32) :=
  if instruction &&& 0xff800000#32 = 0x3d800000#32 then
    some ((((instruction >>> 10) &&& 4095#32).zeroExtend 64) <<< 4, 0#32)
  else if instruction &&& 0xffa00000#32 = 0x3c800000#32 then
    let mode := (instruction >>> 10) &&& 3#32
    if mode = 2#32 then none else
    let imm := (instruction >>> 12) &&& 511#32
    let signedOffset : ℤ := imm.toNat - (if imm &&& 256#32 ≠ 0#32 then 512 else 0)
    some (BitVec.ofInt 64 signedOffset, mode)
  else none

/-- The loop of a load; `none` is a read outside of the bytes. -/
def loadQ (bytes : List Byte) (index : ℕ) : ℕ → Option (U64 × U64)
  | 0 => some (0#64, 0#64)
  | i + 1 => do
    let (low, high) ← loadQ bytes index i
    let lowByte ← bytes[index + i]?
    let highByte ← bytes[index + (i + 8)]?
    some (low ||| (lowByte.zeroExtend 64 <<< (8 * i)), high ||| (highByte.zeroExtend 64 <<< (8 * i)))

/-- The loop of a store; `none` is a write outside of the bytes. -/
def storeQ (bytes : List Byte) (index : ℕ) (low high : U64) : ℕ → Option (List Byte)
  | 0 => some bytes
  | i + 1 => do
    let bytes ← storeQ bytes index low high i
    if index + (i + 8) < bytes.length then
      some ((bytes.set (index + i) ((low >>> (8 * i)).truncate 8)).set (index + (i + 8))
        ((high >>> (8 * i)).truncate 8))
    else none

def SimdGprs.base (gprs : SimdGprs) (rn : Fin 32) : U64 := if h : rn.val < 31 then gprs.x ⟨rn, h⟩ else gprs.sp

def SimdGprs.setBase (gprs : SimdGprs) (rn : Fin 32) (value : U64) : SimdGprs :=
  if h : rn.val < 31 then { gprs with x := Function.update gprs.x ⟨rn, h⟩ value } else { gprs with sp := value }

/-- What a call does once its view is admitted, with the bytes that it leaves; `none` is an access outside of them. -/
def transferQ (instruction : U32) (offset : U64) (mode : U32) (bank : Bank) (gprs : SimdGprs) (memory : SimdMemory) :
    Option (SimdMemResult × Bank × SimdGprs × List Byte) :=
  let refuse := fun result => some (result, bank, gprs, memory.bytes)
  let rn := regField instruction 5
  let rt := regField instruction 0
  let load := decide ((instruction >>> 22) &&& 1#32 ≠ 0#32)
  let base := gprs.base rn
  if rn = 31 ∧ memory.spAlignment ≠ 0#32 ∧ base &&& 15#64 ≠ 0#64 then refuse .spAlignment else
  let updated := base + offset
  let address := if mode = 1#32 then base else updated
  if memory.dataAlignment ≠ 0#32 ∧ address &&& 15#64 ≠ 0#64 then refuse .dataAlignment else
  if (if load then memory.readable = 0#32 else memory.writable = 0#32) ∨ 0xffffffffffffffff#64 - 15#64 < address ∨
      address < memory.guestBase then refuse .dataAbort else
  let index := address - memory.guestBase
  if memory.length < 16#64 ∨ memory.length - 16#64 < index then refuse .dataAbort else do
  let (bank, bytes) ←
    if load then do
      let (low, high) ← loadQ memory.bytes index.toNat 8
      some ((bank.write rt 0 low).write rt 1 high, memory.bytes)
    else do
      let bytes ← storeQ memory.bytes index.toNat (bank.v rt 0) (bank.v rt 1) 8
      some (bank, bytes)
  some (.ok, bank, if mode ≠ 0#32 then gprs.setBase rn updated else gprs, bytes)

def executeQ (host : SimdHost) (access : FpAccess) (instruction : U32) (bank : Bank) (gprs : SimdGprs)
    (memory : SimdMemory) : Option (SimdMemResult × Bank × SimdGprs × List Byte) :=
  let refuse := fun result => some (result, bank, gprs, memory.bytes)
  if host.bankAt = 0#64 ∨ host.gprsAt = 0#64 ∨ host.memoryAt = 0#64 then refuse .invalid else
  match decodeQ instruction with
  | none => refuse .unsupported
  | some (offset, mode) =>
    if access.check ≠ .ok then refuse (.ofAccess access.check) else
    if bank.controls = false then refuse .invalid else
    if memory.refused host then refuse .invalid else
    if memory.bigEndian ≠ 0#32 then refuse .unsupported else
    transferQ instruction offset mode bank gprs memory

/-! The reference: the forms by their fixed fields, and the bytes of memory as the byte lanes of a register. -/

inductive QForm where
  | unsignedOffset
  | unscaled
  | postIndex
  | preIndex
deriving DecidableEq, Repr

namespace QForm

def Encodes (instruction : U32) : QForm → Prop
  | unsignedOffset => instruction.extractLsb' 23 9 = 0b001111011#9
  | unscaled => instruction.extractLsb' 23 9 = 0b001111001#9 ∧ instruction.extractLsb' 21 1 = 0b0#1 ∧
      instruction.extractLsb' 10 2 = 0b00#2
  | postIndex => instruction.extractLsb' 23 9 = 0b001111001#9 ∧ instruction.extractLsb' 21 1 = 0b0#1 ∧
      instruction.extractLsb' 10 2 = 0b01#2
  | preIndex => instruction.extractLsb' 23 9 = 0b001111001#9 ∧ instruction.extractLsb' 21 1 = 0b0#1 ∧
      instruction.extractLsb' 10 2 = 0b11#2

def offset (instruction : U32) : QForm → U64
  | unsignedOffset => 16#64 * (instruction.extractLsb' 10 12).setWidth 64
  | _ => (instruction.extractLsb' 12 9).signExtend 64

def rn (instruction : U32) : Fin 32 := (instruction.extractLsb' 5 5).toFin

def rt (instruction : U32) : Fin 32 := (instruction.extractLsb' 0 5).toFin

def address (instruction : U32) (gprs : SimdGprs) (form : QForm) : U64 :=
  if form = postIndex then gprs.base (rn instruction) else gprs.base (rn instruction) + form.offset instruction

def registers (instruction : U32) (gprs : SimdGprs) (form : QForm) : SimdGprs :=
  if form = postIndex ∨ form = preIndex then
    gprs.setBase (rn instruction) (gprs.base (rn instruction) + form.offset instruction)
  else gprs

end QForm

def HoldsQ (bytes : List Byte) (index : ℕ) (q : BitVec 128) : Prop := ∀ i < 16, bytes[index + i]? = some (lane q 8 i)

structure SpanInside (memory : SimdMemory) (address : U64) : Prop where
  low : memory.guestBase.toNat ≤ address.toNat
  high : address.toNat + 16 ≤ memory.guestBase.toNat + memory.bytes.length
  no_wrap : address.toNat + 16 ≤ 2 ^ 64

structure LoadedQ (memory : SimdMemory) (address : U64) (rt : Fin 32) (bank bank' : Bank) (bytes' : List Byte) :
    Prop where
  holds : HoldsQ memory.bytes (address.toNat - memory.guestBase.toNat) (bank'.q rt)
  others : ∀ reg, reg ≠ rt → bank'.q reg = bank.q reg
  fpcr : bank'.fpcr = bank.fpcr
  fpsr : bank'.fpsr = bank.fpsr
  bytes : bytes' = memory.bytes

structure StoredQ (memory : SimdMemory) (address : U64) (rt : Fin 32) (bank bank' : Bank) (bytes' : List Byte) :
    Prop where
  holds : HoldsQ bytes' (address.toNat - memory.guestBase.toNat) (bank.q rt)
  others : ∀ j, (j < address.toNat - memory.guestBase.toNat ∨ address.toNat - memory.guestBase.toNat + 16 ≤ j) →
    bytes'[j]? = memory.bytes[j]?
  length : bytes'.length = memory.bytes.length
  bank : bank' = bank

structure Transferred (instruction : U32) (form : QForm) (bank : Bank) (gprs : SimdGprs) (memory : SimdMemory)
    (bank' : Bank) (gprs' : SimdGprs) (bytes' : List Byte) : Prop where
  span : SpanInside memory (form.address instruction gprs)
  registers : gprs' = form.registers instruction gprs
  load : instruction.getLsbD 22 = true →
    LoadedQ memory (form.address instruction gprs) (QForm.rt instruction) bank bank' bytes'
  store : instruction.getLsbD 22 = false →
    StoredQ memory (form.address instruction gprs) (QForm.rt instruction) bank bank' bytes'

section Bytes

variable {bytes : List Byte} {index : ℕ}

lemma lane_halves (low high : U64) {i : ℕ} (hi : i < 8) :
    lane (high ++ low) 8 i = (low >>> (8 * i)).truncate 8 ∧
      lane (high ++ low) 8 (i + 8) = (high >>> (8 * i)).truncate 8 := by
  constructor
  · apply BitVec.eq_of_getLsbD_eq
    intro b hb
    rw [getLsbD_lane, BitVec.getLsbD_append, if_pos (by omega), BitVec.truncate_eq_setWidth, BitVec.getLsbD_setWidth,
      BitVec.getLsbD_ushiftRight, Nat.mul_comm]
  · apply BitVec.eq_of_getLsbD_eq
    intro b hb
    rw [getLsbD_lane, BitVec.getLsbD_append, if_neg (by omega), BitVec.truncate_eq_setWidth, BitVec.getLsbD_setWidth,
      BitVec.getLsbD_ushiftRight]
    congr 2
    omega

lemma loadQ_rounds (hin : index + 16 ≤ bytes.length) {i : ℕ} (hi : i ≤ 8) :
    ∃ low high, loadQ bytes index i = some (low, high) ∧
      (∀ b, low.getLsbD b = (decide (b < 8 * i) && (bytes.getD (index + b / 8) 0#8).getLsbD (b % 8))) ∧
      ∀ b, high.getLsbD b = (decide (b < 8 * i) && (bytes.getD (index + (b / 8 + 8)) 0#8).getLsbD (b % 8)) := by
  have hround (half : U64) (byte : Byte) (k : ℕ) (hk : k < 8) (f : ℕ → Byte) (hbyte : f k = byte)
      (hhalf : ∀ b, half.getLsbD b = (decide (b < 8 * k) && (f (b / 8)).getLsbD (b % 8))) (b : ℕ) :
      (half ||| (byte.zeroExtend 64 <<< (8 * k))).getLsbD b =
        (decide (b < 8 * (k + 1)) && (f (b / 8)).getLsbD (b % 8)) := by
    rw [BitVec.getLsbD_or, hhalf, BitVec.getLsbD_shiftLeft, show byte.zeroExtend 64 = byte.setWidth 64 from rfl,
      BitVec.getLsbD_setWidth]
    by_cases hlow : b < 8 * k
    · simp [hlow, show b < 8 * (k + 1) by omega]
    by_cases hhigh : b < 8 * (k + 1)
    · have hdiv : b / 8 = k := by omega
      have hmod : b - 8 * k = b % 8 := by omega
      simp [hlow, hhigh, hdiv, hmod, hbyte, show b < 64 by omega, show b % 8 < 64 by omega]
    · simp [hlow, hhigh, BitVec.getLsbD_of_ge byte (b - 8 * k) (by omega)]
  induction i with
  | zero => exact ⟨0#64, 0#64, rfl, by simp, by simp⟩
  | succ i ih =>
    obtain ⟨low, high, hrun, hlow, hhigh⟩ := ih (by omega)
    refine ⟨low ||| ((bytes.getD (index + i) 0#8).zeroExtend 64 <<< (8 * i)),
      high ||| ((bytes.getD (index + (i + 8)) 0#8).zeroExtend 64 <<< (8 * i)), ?_, ?_, ?_⟩
    · have hfirst : bytes[index + i]? = some (bytes.getD (index + i) 0#8) := by
        rw [List.getD_eq_getElem _ _ (by omega), List.getElem?_eq_getElem]
      have hsecond : bytes[index + (i + 8)]? = some (bytes.getD (index + (i + 8)) 0#8) := by
        rw [List.getD_eq_getElem _ _ (by omega), List.getElem?_eq_getElem]
      simp only [loadQ, hrun, hfirst, hsecond, Option.bind_eq_bind, Option.bind_some]
    · exact hround low _ i (by omega) (fun k => bytes.getD (index + k) 0#8) rfl hlow
    · exact hround high _ i (by omega) (fun k => bytes.getD (index + (k + 8)) 0#8) rfl hhigh

lemma loadQ_eq (hin : index + 16 ≤ bytes.length) :
    ∃ low high, loadQ bytes index 8 = some (low, high) ∧ HoldsQ bytes index (high ++ low) := by
  obtain ⟨low, high, hrun, hlow, hhigh⟩ := loadQ_rounds hin (le_refl 8)
  refine ⟨low, high, hrun, fun i hi => ?_⟩
  rw [List.getElem?_eq_getElem (by omega), ← List.getD_eq_getElem _ 0#8 (by omega)]
  congr 1
  apply BitVec.eq_of_getLsbD_eq
  intro b hb
  rw [getLsbD_lane, BitVec.getLsbD_append, decide_eq_true hb, Bool.true_and]
  by_cases hhalf : i * 8 + b < 64
  · rw [if_pos hhalf, hlow, decide_eq_true (by omega), Bool.true_and, show (i * 8 + b) / 8 = i by omega,
      show (i * 8 + b) % 8 = b by omega]
  · rw [if_neg hhalf, hhigh, decide_eq_true (by omega), Bool.true_and, show (i * 8 + b - 64) / 8 + 8 = i by omega,
      show (i * 8 + b - 64) % 8 = b by omega]

lemma storeQ_rounds (hin : index + 16 ≤ bytes.length) (low high : U64) {i : ℕ} (hi : i ≤ 8) :
    ∃ bytes', storeQ bytes index low high i = some bytes' ∧ bytes'.length = bytes.length ∧
      ∀ j, bytes'[j]? = if (index ≤ j ∧ j < index + i) ∨ (index + 8 ≤ j ∧ j < index + 8 + i) then
        some (lane (high ++ low) 8 (j - index)) else bytes[j]? := by
  induction i with
  | zero => exact ⟨bytes, rfl, rfl, fun j => by rw [if_neg (by omega)]⟩
  | succ i ih =>
    obtain ⟨bytes', hrun, hlen, hbytes⟩ := ih (by omega)
    obtain ⟨hfirst, hsecond⟩ := lane_halves low high (show i < 8 by omega)
    refine ⟨(bytes'.set (index + i) (lane (high ++ low) 8 i)).set (index + (i + 8)) (lane (high ++ low) 8 (i + 8)), ?_,
      by rw [List.length_set, List.length_set, hlen], fun j => ?_⟩
    · rw [storeQ, hrun, Option.bind_eq_bind, Option.bind_some, if_pos (by omega), hfirst, hsecond]
    · rw [List.getElem?_set, List.getElem?_set, List.length_set, hbytes]
      by_cases hlow : index + i = j
      · subst hlow
        rw [if_neg (by omega), if_pos rfl, if_pos (by omega), if_pos (by omega), Nat.add_sub_cancel_left]
      by_cases hhigh : index + (i + 8) = j
      · subst hhigh
        rw [if_pos rfl, if_pos (by omega), if_pos (by omega), Nat.add_sub_cancel_left]
      · rw [if_neg hhigh, if_neg hlow]
        exact if_congr (by omega) rfl rfl

lemma storeQ_eq (hin : index + 16 ≤ bytes.length) (low high : U64) :
    ∃ bytes', storeQ bytes index low high 8 = some bytes' ∧ bytes'.length = bytes.length ∧
      HoldsQ bytes' index (high ++ low) ∧ ∀ j, (j < index ∨ index + 16 ≤ j) → bytes'[j]? = bytes[j]? := by
  obtain ⟨bytes', hrun, hlen, hbytes⟩ := storeQ_rounds hin low high (le_refl 8)
  refine ⟨bytes', hrun, hlen, fun i hi => ?_, fun j hj => ?_⟩
  · rw [hbytes, Nat.add_sub_cancel_left, if_pos (by omega)]
  · rw [hbytes, if_neg (by omega)]

lemma HoldsQ.unique {q q' : BitVec 128} (h : HoldsQ bytes index q) (h' : HoldsQ bytes index q') : q = q' := by
  apply BitVec.eq_of_getLsbD_eq
  intro b hb
  have hlane := Option.some.inj ((h (b / 8) (by omega)).symm.trans (h' (b / 8) (by omega)))
  have hbit := congrArg (BitVec.getLsbD · (b % 8)) hlane
  simp only [getLsbD_lane, show b % 8 < 8 by omega, decide_true, Bool.true_and, Nat.div_add_mod'] at hbit
  exact hbit

end Bytes

section Execute

variable {instruction : U32} {form : QForm} {host : SimdHost} {access : FpAccess} {bank : Bank} {gprs : SimdGprs}
  {memory : SimdMemory}

def QForm.mode : QForm → U32
  | unsignedOffset | unscaled => 0#32
  | postIndex => 1#32
  | preIndex => 3#32

lemma unsigned_iff : instruction &&& 0xff800000#32 = 0x3d800000#32 ↔ QForm.unsignedOffset.Encodes instruction := by
  rw [and_eq_iff_fields [(23, 9)] (by decide) (by decide)]
  simp only [List.forall_mem_cons, List.not_mem_nil, false_implies, implies_true, and_true]
  exact Iff.rfl

lemma indexed_iff : instruction &&& 0xffa00000#32 = 0x3c800000#32 ↔
    instruction.extractLsb' 23 9 = 0b001111001#9 ∧ instruction.extractLsb' 21 1 = 0b0#1 := by
  rw [and_eq_iff_fields [(23, 9), (21, 1)] (by decide) (by decide)]
  simp only [List.forall_mem_cons, List.not_mem_nil, false_implies, implies_true, and_true]
  exact Iff.rfl

lemma unsigned_offset : ((((instruction >>> 10) &&& 4095#32).zeroExtend 64) <<< 4 : U64) =
    QForm.unsignedOffset.offset instruction := by
  have hfield : ((instruction >>> 10) &&& 4095#32).toNat = (instruction.extractLsb' 10 12).toNat := by
    rw [Bits.toNat_and_mask _ 12 _ rfl, BitVec.toNat_ushiftRight, BitVec.extractLsb'_toNat]
  have hlt := (instruction.extractLsb' 10 12).isLt
  apply BitVec.eq_of_toNat_eq
  rw [QForm.offset, BitVec.toNat_shiftLeft, BitVec.toNat_setWidth, hfield, BitVec.toNat_mul, BitVec.toNat_setWidth,
    Nat.shiftLeft_eq, Nat.mod_eq_of_lt (a := BitVec.toNat _) (by omega)]
  exact congrArg (· % 2 ^ 64) (Nat.mul_comm _ _)

lemma signed_offset :
    BitVec.ofInt 64 ((((instruction >>> 12) &&& 511#32).toNat : ℤ) -
      (if ((instruction >>> 12) &&& 511#32) &&& 256#32 ≠ 0#32 then 512 else 0)) =
        (instruction.extractLsb' 12 9).signExtend 64 := by
  have hfield : ((instruction >>> 12) &&& 511#32).toNat = (instruction.extractLsb' 12 9).toNat := by
    rw [Bits.toNat_and_mask _ 9 _ rfl, BitVec.toNat_ushiftRight, BitVec.extractLsb'_toNat]
  have hlt := (instruction.extractLsb' 12 9).isLt
  have hsign : ((instruction >>> 12) &&& 511#32) &&& 256#32 ≠ 0#32 ↔ 256 ≤ (instruction.extractLsb' 12 9).toNat := by
    have hbit := and_bit (x := (instruction >>> 12) &&& 511#32) (show 8 < 32 by decide)
    rw [BitVec.getLsbD, Nat.testBit_eq_decide_div_mod_eq, hfield, decide_eq_false_iff_not] at hbit
    exact (not_congr hbit).trans (by omega)
  rw [if_congr hsign rfl rfl, BitVec.signExtend, BitVec.toInt_eq_toNat_cond, hfield]
  congr 1
  split_ifs with h h'
  · omega
  · push_cast
    omega
  · omega
  · omega

lemma decodeQ_iff {offset : U64} {mode : U32} : decodeQ instruction = some (offset, mode) ↔
    ∃ form : QForm, form.Encodes instruction ∧ form.offset instruction = offset ∧ form.mode = mode := by
  have htwo (v : BitVec 2) (c : U32) (hc : c = v.setWidth 32) :
      (instruction >>> 10) &&& 3#32 = c ↔ instruction.extractLsb' 10 2 = v := by
    rw [hc, ← BitVec.toNat_inj, ← BitVec.toNat_inj, Bits.toNat_and_mask _ 2 _ rfl, BitVec.toNat_ushiftRight,
      BitVec.extractLsb'_toNat, BitVec.toNat_setWidth, Nat.mod_eq_of_lt (lt_trans v.isLt (by decide))]
  unfold decodeQ
  by_cases hunsigned : instruction &&& 0xff800000#32 = 0x3d800000#32
  · rw [if_pos hunsigned, unsigned_offset]
    have hform := unsigned_iff.mp hunsigned
    constructor
    · intro h
      cases h
      exact ⟨.unsignedOffset, hform, rfl, rfl⟩
    · rintro ⟨form, hencodes, rfl, rfl⟩
      cases form with
      | unsignedOffset => rfl
      | unscaled | postIndex | preIndex => exact absurd (hform.symm.trans hencodes.1) (by decide)
  rw [if_neg hunsigned]
  by_cases hindexed : instruction &&& 0xffa00000#32 = 0x3c800000#32
  · rw [if_pos hindexed]
    dsimp only
    rw [signed_offset]
    obtain ⟨hhigh, hbit⟩ := indexed_iff.mp hindexed
    constructor
    · intro h
      split at h
      · cases h
      rename_i hmode
      cases h
      have hfield := (instruction.extractLsb' 10 2).isLt
      by_cases hzero : instruction.extractLsb' 10 2 = 0b00#2
      · exact ⟨.unscaled, ⟨hhigh, hbit, hzero⟩, rfl, ((htwo _ _ rfl).mpr hzero).symm⟩
      by_cases hone : instruction.extractLsb' 10 2 = 0b01#2
      · exact ⟨.postIndex, ⟨hhigh, hbit, hone⟩, rfl, ((htwo _ _ rfl).mpr hone).symm⟩
      by_cases hthree : instruction.extractLsb' 10 2 = 0b11#2
      · exact ⟨.preIndex, ⟨hhigh, hbit, hthree⟩, rfl, ((htwo _ _ rfl).mpr hthree).symm⟩
      · exact absurd ((htwo 0b10#2 _ rfl).mpr (by bv_omega)) hmode
    · rintro ⟨form, hencodes, rfl, rfl⟩
      cases form with
      | unsignedOffset => exact absurd (unsigned_iff.mpr hencodes) hunsigned
      | unscaled =>
        rw [(htwo _ 0#32 rfl).mpr hencodes.2.2]
        rfl
      | postIndex =>
        rw [(htwo _ 1#32 rfl).mpr hencodes.2.2]
        rfl
      | preIndex =>
        rw [(htwo _ 3#32 rfl).mpr hencodes.2.2]
        rfl
  · rw [if_neg hindexed]
    constructor
    · intro h
      cases h
    · rintro ⟨form, hencodes, -, -⟩
      cases form with
      | unsignedOffset => exact absurd (unsigned_iff.mpr hencodes) hunsigned
      | unscaled | postIndex | preIndex => exact absurd (indexed_iff.mpr ⟨hencodes.1, hencodes.2.1⟩) hindexed

lemma spanInside_of_checks {address : U64} (hwrap : ¬0xffffffffffffffff#64 - 15#64 < address)
    (hlow : ¬address < memory.guestBase)
    (hhigh : ¬(memory.length < 16#64 ∨ memory.length - 16#64 < address - memory.guestBase)) :
    SpanInside memory address ∧ (address - memory.guestBase).toNat = address.toNat - memory.guestBase.toNat := by
  have hlength : memory.length.toNat = memory.bytes.length := by
    rw [SimdMemory.length, BitVec.toNat_ofNat, Nat.mod_eq_of_lt memory.length_lt]
  rw [not_or] at hhigh
  obtain ⟨hshort, hindex⟩ := hhigh
  have hlength16 : 16 ≤ memory.length.toNat := by bv_omega
  have hle : memory.guestBase.toNat ≤ address.toNat := by bv_omega
  have hsub : (address - memory.guestBase).toNat = address.toNat - memory.guestBase.toNat :=
    BitVec.toNat_sub_of_le (by bv_omega)
  have hspan : (address - memory.guestBase).toNat ≤ memory.length.toNat - 16 := by bv_omega
  exact ⟨⟨hle, by omega, by bv_omega⟩, hsub⟩

def Outcome (instruction : U32) (form : QForm) (bank : Bank) (gprs : SimdGprs) (memory : SimdMemory)
    (outcome : Option (SimdMemResult × Bank × SimdGprs × List Byte)) : Prop :=
  (∃ result, result ≠ .ok ∧ outcome = some (result, bank, gprs, memory.bytes)) ∨
    ∃ bank' gprs' bytes', outcome = some (.ok, bank', gprs', bytes') ∧
      Transferred instruction form bank gprs memory bank' gprs' bytes'

lemma transferQ_outcome (form : QForm) (instruction : U32) (bank : Bank) (gprs : SimdGprs) (memory : SimdMemory) :
    Outcome instruction form bank gprs memory
      (transferQ instruction (form.offset instruction) form.mode bank gprs memory) := by
  have hrn : regField instruction 5 = QForm.rn instruction := regField_eq instruction 5
  have hrt : regField instruction 0 = QForm.rt instruction := regField_eq instruction 0
  have hload : decide ((instruction >>> 22) &&& 1#32 ≠ 0#32) = instruction.getLsbD 22 := by
    rw [BitVec.and_one_eq_setWidth_ofBool_getLsbD, BitVec.getLsbD_ushiftRight]
    cases instruction.getLsbD 22 <;> rfl
  have haddress : (if form.mode = 1#32 then gprs.base (QForm.rn instruction)
      else gprs.base (QForm.rn instruction) + form.offset instruction) = form.address instruction gprs := by
    cases form <;> rfl
  have hregisters : (if form.mode ≠ 0#32 then gprs.setBase (QForm.rn instruction)
      (gprs.base (QForm.rn instruction) + form.offset instruction) else gprs) = form.registers instruction gprs := by
    cases form <;> rfl
  rw [transferQ]
  dsimp only
  rw [hrn, hrt, hload, haddress, hregisters]
  generalize hat : form.address instruction gprs = address
  by_cases hsp : QForm.rn instruction = 31 ∧ memory.spAlignment ≠ 0#32 ∧
      gprs.base (QForm.rn instruction) &&& 15#64 ≠ 0#64
  · exact .inl ⟨.spAlignment, by decide, if_pos hsp⟩
  rw [if_neg hsp]
  by_cases hdata : memory.dataAlignment ≠ 0#32 ∧ address &&& 15#64 ≠ 0#64
  · exact .inl ⟨.dataAlignment, by decide, if_pos hdata⟩
  rw [if_neg hdata]
  by_cases habort : (if instruction.getLsbD 22 then memory.readable = 0#32 else memory.writable = 0#32) ∨
      0xffffffffffffffff#64 - 15#64 < address ∨ address < memory.guestBase
  · exact .inl ⟨.dataAbort, by decide, if_pos habort⟩
  rw [if_neg habort]
  by_cases hlong : memory.length < 16#64 ∨ memory.length - 16#64 < address - memory.guestBase
  · exact .inl ⟨.dataAbort, by decide, if_pos hlong⟩
  rw [if_neg hlong]
  rw [not_or, not_or] at habort
  obtain ⟨hspan, hindex⟩ := spanInside_of_checks habort.2.1 habort.2.2 hlong
  have hin : address.toNat - memory.guestBase.toNat + 16 ≤ memory.bytes.length := by
    have hlow := hspan.low
    have hhigh := hspan.high
    omega
  rw [hindex]
  refine .inr ?_
  cases hbit : instruction.getLsbD 22 with
  | true =>
    obtain ⟨low, high, hrun, hholds⟩ := loadQ_eq hin
    have hq := Bank.q_write_write bank (QForm.rt instruction) low high
    have hothers : ∀ reg, reg ≠ QForm.rt instruction →
        ((bank.write (QForm.rt instruction) 0 low).write (QForm.rt instruction) 1 high).q reg = bank.q reg := by
      intro reg hreg
      rw [Bank.q_write_of_ne hreg, Bank.q_write_of_ne hreg]
    refine ⟨_, _, memory.bytes, by rw [hrun]; rfl, ⟨hat ▸ hspan, rfl, fun _ => ?_, fun h => ?_⟩⟩
    · rw [hat]
      exact ⟨by rwa [hq], hothers, rfl, rfl, rfl⟩
    · rw [hbit] at h
      cases h
  | false =>
    obtain ⟨bytes', hrun, hlen, hholds, hothers⟩ :=
      storeQ_eq hin (bank.v (QForm.rt instruction) 0) (bank.v (QForm.rt instruction) 1)
    refine ⟨bank, _, bytes', by rw [hrun]; rfl, ⟨hat ▸ hspan, rfl, fun h => ?_, fun _ => ?_⟩⟩
    · rw [hbit] at h
      cases h
    · rw [hat]
      exact ⟨hholds, hothers, hlen, rfl⟩

lemma executeQ_outcome (host : SimdHost) (access : FpAccess) (instruction : U32) (bank : Bank) (gprs : SimdGprs)
    (memory : SimdMemory) :
    (∃ result, result ≠ .ok ∧
      executeQ host access instruction bank gprs memory = some (result, bank, gprs, memory.bytes)) ∨
    ∃ form : QForm, form.Encodes instruction ∧
      Outcome instruction form bank gprs memory (executeQ host access instruction bank gprs memory) := by
  rw [executeQ]
  dsimp only
  by_cases hpointers : host.bankAt = 0#64 ∨ host.gprsAt = 0#64 ∨ host.memoryAt = 0#64
  · exact .inl ⟨.invalid, by decide, if_pos hpointers⟩
  rw [if_neg hpointers]
  cases hdecode : decodeQ instruction with
  | none => exact .inl ⟨.unsupported, by decide, rfl⟩
  | some decoded =>
    obtain ⟨offset, mode⟩ := decoded
    dsimp only
    by_cases hgranted : access.check ≠ .ok
    · refine .inl ⟨.ofAccess access.check, ?_, if_pos hgranted⟩
      cases hcheck : access.check with
      | ok => exact absurd hcheck hgranted
      | invalid | undefined | trapEl1 | unsupported => decide
    rw [if_neg hgranted]
    by_cases hcontrols : bank.controls = false
    · exact .inl ⟨.invalid, by decide, if_pos hcontrols⟩
    rw [if_neg hcontrols]
    by_cases hview : memory.refused host = true
    · exact .inl ⟨.invalid, by decide, if_pos hview⟩
    rw [if_neg hview]
    by_cases hendian : memory.bigEndian ≠ 0#32
    · exact .inl ⟨.unsupported, by decide, if_pos hendian⟩
    rw [if_neg hendian]
    obtain ⟨form, hencodes, rfl, rfl⟩ := decodeQ_iff.mp hdecode
    exact .inr ⟨form, hencodes, transferQ_outcome form instruction bank gprs memory⟩

lemma QForm.Encodes.unique {form' : QForm} (h : form.Encodes instruction) (h' : form'.Encodes instruction) :
    form = form' := by
  have hmode : decodeQ instruction = some (form.offset instruction, form.mode) := decodeQ_iff.mpr ⟨form, h, rfl, rfl⟩
  have hmode' : decodeQ instruction = some (form'.offset instruction, form'.mode) :=
    decodeQ_iff.mpr ⟨form', h', rfl, rfl⟩
  rw [hmode] at hmode'
  have hsame : form.mode = form'.mode := congrArg Prod.snd (Option.some.inj hmode')
  have hclash : QForm.unsignedOffset.Encodes instruction → ¬QForm.unscaled.Encodes instruction :=
    fun hu hs => absurd (hu.symm.trans hs.1) (by decide)
  cases form with
  | unsignedOffset =>
    cases form' with
    | unsignedOffset => rfl
    | unscaled => exact absurd h' (hclash h)
    | postIndex | preIndex => exact absurd hsame (by decide)
  | unscaled =>
    cases form' with
    | unsignedOffset => exact absurd h (hclash h')
    | unscaled => rfl
    | postIndex | preIndex => exact absurd hsame (by decide)
  | postIndex =>
    cases form' with
    | postIndex => rfl
    | unsignedOffset | unscaled | preIndex => exact absurd hsame (by decide)
  | preIndex =>
    cases form' with
    | preIndex => rfl
    | unsignedOffset | unscaled | postIndex => exact absurd hsame (by decide)

structure QCall where
  host : SimdHost
  access : FpAccess
  instruction : U32
  bank : Bank
  gprs : SimdGprs
  memory : SimdMemory

def QCall.run (c : QCall) : Option (SimdMemResult × Bank × SimdGprs × List Byte) :=
  executeQ c.host c.access c.instruction c.bank c.gprs c.memory

lemma QCall.run_cases (c : QCall) : ∃ result bank' gprs' bytes', c.run = some (result, bank', gprs', bytes') ∧
    (result ≠ .ok → bank' = c.bank ∧ gprs' = c.gprs ∧ bytes' = c.memory.bytes) ∧
    (result = .ok → ∃ form : QForm, form.Encodes c.instruction ∧
      Transferred c.instruction form c.bank c.gprs c.memory bank' gprs' bytes') := by
  rcases executeQ_outcome c.host c.access c.instruction c.bank c.gprs c.memory with
    ⟨result, hne, hrun⟩ | ⟨form, hencodes, ⟨result, hne, hrun⟩ | ⟨bank', gprs', bytes', hrun, htransferred⟩⟩
  · exact ⟨result, _, _, _, hrun, fun _ => ⟨rfl, rfl, rfl⟩, fun hok => absurd hok hne⟩
  · exact ⟨result, _, _, _, hrun, fun _ => ⟨rfl, rfl, rfl⟩, fun hok => absurd hok hne⟩
  · exact ⟨.ok, bank', gprs', bytes', hrun, fun hne => absurd rfl hne, fun _ => ⟨form, hencodes, htransferred⟩⟩

lemma QCall.transferred {c : QCall} {bank' : Bank} {gprs' : SimdGprs} {bytes' : List Byte}
    (hrun : c.run = some (.ok, bank', gprs', bytes')) (hform : form.Encodes c.instruction) :
    Transferred c.instruction form c.bank c.gprs c.memory bank' gprs' bytes' := by
  obtain ⟨result, _, _, _, hrun', -, hok⟩ := c.run_cases
  rw [hrun] at hrun'
  cases hrun'
  obtain ⟨form', hform', htransferred⟩ := hok rfl
  rwa [hform.unique hform']

/-- Every call ends without an access outside of the view; unless it succeeds it leaves the bank, the registers and the
bytes; when it succeeds the whole span is inside, and only the base of a writeback form changes. A load of what a store
has left at an address gives the stored register. -/
theorem q_memory_atomic :
    (∀ c : QCall, ∃ result bank' gprs' bytes', c.run = some (result, bank', gprs', bytes') ∧
      (result ≠ .ok → bank' = c.bank ∧ gprs' = c.gprs ∧ bytes' = c.memory.bytes) ∧
      (result = .ok → ∃ form : QForm, form.Encodes c.instruction ∧
        Transferred c.instruction form c.bank c.gprs c.memory bank' gprs' bytes')) ∧
    ∀ (store load : QCall) (form form₁ : QForm) bank' gprs' bank₁ gprs₁ bytes₁,
      form.Encodes store.instruction → store.instruction.getLsbD 22 = false →
      form₁.Encodes load.instruction → load.instruction.getLsbD 22 = true →
      store.run = some (.ok, bank', gprs', load.memory.bytes) → load.run = some (.ok, bank₁, gprs₁, bytes₁) →
      load.memory.guestBase = store.memory.guestBase →
      form₁.address load.instruction load.gprs = form.address store.instruction store.gprs →
      bank₁.q (QForm.rt load.instruction) = store.bank.q (QForm.rt store.instruction) := by
  refine ⟨QCall.run_cases, ?_⟩
  intro store load form form₁ bank' gprs' bank₁ gprs₁ bytes₁ hform hstore hform₁ hload hrun hrun₁ hbase haddress
  have hloaded := ((QCall.transferred hrun₁ hform₁).load hload).holds
  have hstored := ((QCall.transferred hrun hform).store hstore).holds
  rw [hbase, haddress] at hloaded
  exact hloaded.unique hstored

def wordCall (instruction : U32) (low high : U64) (bytes : Fin 32 → Byte) : QCall where
  host := ⟨0x10000#64, 0x20000#64, 0x30000#64⟩
  access := ⟨1#32, 1#32, 0x00300000#64, 0#32⟩
  instruction := instruction
  bank := ⟨fun _ half => if half = 0 then low else high, 0#32, 0#32⟩
  gprs := ⟨fun _ => 0x1000#64, 0x1000#64⟩
  memory := ⟨0x40000#64, List.ofFn bytes, 0x1000#64, 1#32, 1#32, 1#32, 1#32, 0#32, by rw [List.length_ofFn]; decide⟩

-- str q0, [x1, #16]!
def storeCall : QCall := wordCall 0x3c810c20#32 0x0706050403020100#64 0x0f0e0d0c0b0a0908#64 fun _ => 0#8

-- ldr q2, [x3, #16] on the bytes that the store leaves
def loadCall : QCall := wordCall 0x3dc00462#32 0#64 0#64 fun i => if i.val < 16 then 0#8 else BitVec.ofNat 8 (i.val - 16)

theorem q_memory_atomic_store_load :
    ∃ bank' gprs' bank₁ gprs₁ bytes₁, storeCall.run = some (.ok, bank', gprs', loadCall.memory.bytes) ∧
      loadCall.run = some (.ok, bank₁, gprs₁, bytes₁) ∧ bank₁.q 2 = 0x0f0e0d0c0b0a09080706050403020100#128 := by
  have hstored : (storeCall.run.map fun r => (r.1, r.2.2.2)) = some (.ok, loadCall.memory.bytes) := by decide +kernel
  have hloaded : (loadCall.run.map fun r => r.1) = some .ok := by decide +kernel
  obtain ⟨⟨_, bank', gprs', _⟩, hstore, heq⟩ := Option.map_eq_some_iff.mp hstored
  obtain ⟨⟨_, bank₁, gprs₁, bytes₁⟩, hload, hok⟩ := Option.map_eq_some_iff.mp hloaded
  cases heq
  cases hok
  exact ⟨bank', gprs', bank₁, gprs₁, bytes₁, hstore, hload,
    q_memory_atomic.2 storeCall loadCall .preIndex .unsignedOffset bank' gprs' bank₁ gprs₁ bytes₁
      ⟨by decide, by decide, by decide⟩ (by decide) rfl (by decide) hstore hload rfl (by decide)⟩

end Execute

end Nextcore.Fp
