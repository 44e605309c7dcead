import Nextcore.Abi.MemoryV1
import Nextcore.Abi.MemoryV2
import Nextcore.Service.Stage1

/-! `MemoryService`: the version 1 provider, a window of caller-owned RAM at a physical base. -/

namespace Nextcore.Service

open Abi Abi.V1 Bytes

structure MemoryService where
  ram : List Byte
  base : U64
  deriving DecidableEq, Repr

namespace MemoryService

def new (ram : List Byte) (base : U64) : Except Error MemoryService :=
  if ram.length < 8 ∨ 2 ^ 64 ≤ base.toNat + ram.length then .error .invalidRange else .ok ⟨ram, base⟩

def answer (result : U32) : Reply := { abiVersion := 1#32, structSize := 80#32, result := result }

def requestValid (r : Request) : Bool :=
  if r.abiVersion ≠ 1#32 ∨ r.structSize ≠ 80#32 ∨ r.flags ≠ 0#32 ∨ r.reserved ≠ 0#32 ∨ r.epoch ≠ 0#64 ∨
      ¬(r.operation = opFetch ∨ r.operation = opLoad ∨ r.operation = opStore) ∨
      ¬(r.width = 1#32 ∨ r.width = 2#32 ∨ r.width = 4#32 ∨ r.width = 8#32) ∨ ¬(r.count = 1#32 ∨ r.count = 2#32) ∨
      (r.count = 2#32 ∧ ¬(r.width = 4#32 ∨ r.width = 8#32)) ∨
      (r.operation = opFetch ∧ (r.width ≠ 4#32 ∨ r.count ≠ 1#32 ∨ r.address ≠ r.pc)) ∨
      (r.operation ≠ opStore ∧ (r.value0 ≠ 0#64 ∨ r.value1 ≠ 0#64)) ∨ (r.count = 1#32 ∧ r.value1 ≠ 0#64) then false
  else
    let mask := V2.elementMask r.width
    r.value0 &&& ~~~mask = 0#64 ∧ r.value1 &&& ~~~mask = 0#64

def regimeServed (r : Request) : Bool :=
  ¬(1#32 < r.currentEl ∨ r.sctlr &&& 1#64 ≠ 0#64 ∨
    r.sctlr &&& (1#64 <<< if r.currentEl = 0#32 then 24 else 25) ≠ 0#64)

def alignmentReply (r : Request) : Reply :=
  let out := { answer guestFault with address := r.address }
  if r.operation = opFetch then { out with fault := pcAlignment, esr := 0x8a000000#64 }
  else
    { out with
      fault := dataAlignment
      esr := ((0x24#64 + r.currentEl.zeroExtend 64) <<< 26) ||| (1#64 <<< 25) ||| 0x21#64 |||
        (if r.operation = opStore then 64#64 else 0#64) }

def place (s : MemoryService) (r : Request) (element : ℕ) : Except U64 ℕ :=
  let delta := BitVec.ofNat 64 element * r.width.zeroExtend 64
  let outside : Except U64 ℕ := .error (r.address + delta)
  if r.address.uaddOverflow delta = true then outside
  else ((offset (r.address + delta) r.width.toNat s.base s.ram.length).map Except.ok).getD outside

def storeElements (r : Request) : List ℕ → ℕ → List Byte → List Byte
  | [], _, ram => ram
  | i :: is, element, ram =>
    storeElements r is (element + 1) (storeLe ram i r.width.toNat (if element = 0 then r.value0 else r.value1))

def loadElement (s : MemoryService) (r : Request) (places : List ℕ) (element : ℕ) : U64 :=
  (places[element]?.map fun i => loadLe s.ram i r.width.toNat).getD 0#64

def transfer (s : MemoryService) (r : Request) (places : List ℕ) : Reply × MemoryService :=
  if r.operation = opStore then (answer ok, { s with ram := storeElements r places 0 s.ram })
  else ({ answer ok with value0 := s.loadElement r places 0, value1 := s.loadElement r places 1 }, s)

def execute (s : MemoryService) (r : Request) : Reply × MemoryService :=
  if requestValid r = false then (answer invalidRequest, s) else
  if regimeServed r = false then ({ answer unsupported with address := r.address }, s) else
  if r.address &&& (r.width - 1#32).zeroExtend 64 ≠ 0#64 then (alignmentReply r, s) else
  match (List.range r.count.toNat).mapM (s.place r) with
  | .error address => ({ answer unsupported with address := address }, s)
  | .ok places => s.transfer r places

end MemoryService

end Nextcore.Service
