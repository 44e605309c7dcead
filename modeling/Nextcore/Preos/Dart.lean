import Nextcore.Lib.Run
import Nextcore.Preos.State

/-! `m1.rs`: the bounded DMA translation table of the machine graph. Its mappings
stay disjoint per stream and inside RAM, so a translation does not depend on
the order of the slots. -/

namespace Nextcore.Preos

abbrev m1MaxDartMappings : ℕ := 16
abbrev m1DartGranule : U64 := 1#64 <<< 12

namespace Dma

abbrev read : BitVec 8 := 1#8
abbrev write : BitVec 8 := 1#8 <<< 1

end Dma

inductive M1DmaAccess
  | deviceReadGuest | deviceWriteGuest | bidirectional
  deriving DecidableEq, Repr

def M1DmaAccess.bits : M1DmaAccess → BitVec 8
  | deviceReadGuest => Dma.read
  | deviceWriteGuest => Dma.write
  | bidirectional => Dma.read ||| Dma.write

inductive M1DmaFault
  | invalidArguments | unmapped | permission | overlap | bounds | tableFull
  deriving DecidableEq, Repr

structure M1DartMapping where
  valid : Bool
  streamId : BitVec 16
  iova : U64
  pa : U64
  bytes : U64
  permissions : BitVec 8
  deriving DecidableEq, Repr

def emptyDartMapping : M1DartMapping := ⟨false, 0#16, 0#64, 0#64, 0#64, 0#8⟩

def checkedAdd (a b : U64) : Option U64 := if a.uaddOverflow b then none else some (a + b)

def rangesOverlap (leftBase leftBytes rightBase rightBytes : U64) : Bool :=
  match checkedAdd leftBase leftBytes, checkedAdd rightBase rightBytes with
  | some leftEnd, some rightEnd => decide (leftBase < rightEnd) && decide (rightBase < leftEnd)
  | _, _ => true

def byteRange (address : U64) (bytes limit : ℕ) : Except M1DmaFault (ℕ × ℕ) :=
  if 2 ^ 64 ≤ address.toNat + bytes then .error .bounds
  else if limit < address.toNat + bytes then .error .bounds
  else .ok (address.toNat, address.toNat + bytes)

structure M1Dart where
  mappings : Fin m1MaxDartMappings → M1DartMapping
  mappingCount : U32
  ramBytes : U64
  generation : U32

namespace M1Dart

def saturatingSucc (n : U32) : U32 := if n = BitVec.allOnes 32 then n else n + 1#32

def saturatingPred (n : U32) : U32 := if n = 0#32 then n else n - 1#32

def new (ramBytes : U64) : M1Dart := ⟨fun _ => emptyDartMapping, 0#32, ramBytes, 0#32⟩

def reset (d : M1Dart) : M1Dart :=
  { d with
    mappings := fun _ => emptyDartMapping
    mappingCount := 0#32
    generation := saturatingSucc d.generation }

def find (d : M1Dart) (p : M1DartMapping → Bool) : Option (Fin m1MaxDartMappings) :=
  (List.finRange m1MaxDartMappings).find? fun i => p (d.mappings i)

def map (d : M1Dart) (streamId : BitVec 16) (iova pa bytes : U64) (access : M1DmaAccess) :
    Except M1DmaFault Unit × M1Dart :=
  if bytes = 0#64 ∨ iova &&& (m1DartGranule - 1#64) ≠ 0#64 ∨ pa &&& (m1DartGranule - 1#64) ≠ 0#64 ∨
      bytes &&& (m1DartGranule - 1#64) ≠ 0#64 ∨ (checkedAdd iova bytes).isNone ∨ (checkedAdd pa bytes).isNone ∨
      d.ramBytes < (checkedAdd pa bytes).getD (BitVec.allOnes 64) then
    (.error .invalidArguments, d)
  else if (d.find fun m => m.valid && decide (m.streamId = streamId) &&
      rangesOverlap m.iova m.bytes iova bytes).isSome then
    (.error .overlap, d)
  else
    match d.find fun m => !m.valid with
    | none => (.error .tableFull, d)
    | some slot =>
      (.ok (), { d with
        mappings := Function.update d.mappings slot ⟨true, streamId, iova, pa, bytes, access.bits⟩
        mappingCount := saturatingSucc d.mappingCount
        generation := saturatingSucc d.generation })

def unmap (d : M1Dart) (streamId : BitVec 16) (iova bytes : U64) : Bool × M1Dart :=
  match d.find fun m => m.valid && decide (m.streamId = streamId) && decide (m.iova = iova) &&
      decide (m.bytes = bytes) with
  | none => (false, d)
  | some slot =>
    (true, { d with
      mappings := Function.update d.mappings slot emptyDartMapping
      mappingCount := saturatingPred d.mappingCount
      generation := saturatingSucc d.generation })

def holds (streamId : BitVec 16) (iova bytes : U64) (m : M1DartMapping) : Bool :=
  m.valid && decide (m.streamId = streamId) && decide (m.iova ≤ iova) && (checkedAdd iova bytes).isSome &&
    decide ((checkedAdd iova bytes).getD (BitVec.allOnes 64) ≤ saturatingAdd m.iova m.bytes)

def translate (d : M1Dart) (streamId : BitVec 16) (iova bytes : U64) (access : M1DmaAccess) :
    Except M1DmaFault U64 :=
  if bytes = 0#64 then .error .invalidArguments
  else
    match d.find (holds streamId iova bytes) with
    | none => .error .unmapped
    | some slot =>
      let mapping := d.mappings slot
      if mapping.permissions &&& access.bits ≠ access.bits then .error .permission
      else
        match checkedAdd mapping.pa (iova - mapping.iova) with
        | none => .error .bounds
        | some pa => .ok pa

def dmaRead (d : M1Dart) (streamId : BitVec 16) (iova : U64) (destination guestRam : List Byte) :
    Except M1DmaFault Unit × List Byte :=
  match d.translate streamId iova (BitVec.ofNat 64 destination.length) .deviceReadGuest with
  | .error fault => (.error fault, destination)
  | .ok pa =>
    match byteRange pa destination.length guestRam.length with
    | .error fault => (.error fault, destination)
    | .ok range => (.ok (), Bytes.slice guestRam range.1 (range.2 - range.1))

def dmaWrite (d : M1Dart) (streamId : BitVec 16) (iova : U64) (source guestRam : List Byte) :
    Except M1DmaFault Unit × List Byte :=
  match d.translate streamId iova (BitVec.ofNat 64 source.length) .deviceWriteGuest with
  | .error fault => (.error fault, guestRam)
  | .ok pa =>
    match byteRange pa source.length guestRam.length with
    | .error fault => (.error fault, guestRam)
    | .ok range => (.ok (), Bytes.blit guestRam range.1 source)

end M1Dart

end Nextcore.Preos
