import Nextcore.Lib.Bytes

/-! The version 2 memory provider records, shared by the C dispatcher and the
Rust services. Version 3 data messages use the same layout. -/

namespace Nextcore.Abi

abbrev opFetch : U32 := 1#32
abbrev opLoad : U32 := 2#32
abbrev opStore : U32 := 3#32

namespace V2

abbrev version : U32 := 2#32
abbrev profileFixedNc : U32 := 1#32
abbrev profileFixedNcUnaligned : U32 := 3#32
abbrev ok : U32 := 0#32
abbrev guestFault : U32 := 1#32
abbrev unsupported : U32 := 2#32
abbrev unavailable : U32 := 3#32
abbrev invalidRequest : U32 := 4#32
abbrev pcAlignment : U32 := 1#32
abbrev dataAlignment : U32 := 2#32
abbrev addressSize : U32 := 3#32
abbrev translation : U32 := 4#32
abbrev permission : U32 := 5#32
abbrev accessFlag : U32 := 6#32
abbrev noLevel : U32 := 0xffffffff#32
abbrev input : U32 := 1#32
abbrev walk : U32 := 2#32
abbrev leaf : U32 := 3#32
abbrev cachedLeaf : U32 := 4#32
abbrev hasDescriptor : U32 := 1#32
abbrev hasOutput : U32 := 2#32

structure Controls where
  abiVersion : U32
  structSize : U32
  profile : U32
  reserved : U32
  sctlr : U64
  ttbr0 : U64
  ttbr1 : U64
  tcr : U64
  mair : U64
  hcr : U64
  scr : U64
  epoch : U64
  deriving DecidableEq, Repr

structure Request where
  abiVersion : U32
  structSize : U32
  operation : U32
  flags : U32
  width : U32
  count : U32
  currentEl : U32
  reserved0 : U32
  pc : U64
  address : U64
  value0 : U64
  value1 : U64
  pstate : U64
  controls : Controls
  reserved1 : U64
  deriving DecidableEq, Repr

structure Reply where
  abiVersion : U32 := 0
  structSize : U32 := 0
  result : U32 := 0
  fault : U32 := 0
  level : U32 := 0
  context : U32 := 0
  fsc : U32 := 0
  metadataFlags : U32 := 0
  value0 : U64 := 0
  value1 : U64 := 0
  address : U64 := 0
  esr : U64 := 0
  epoch : U64 := 0
  descriptorPa : U64 := 0
  outputPa : U64 := 0
  reserved : Vector U64 5 := Vector.replicate 5 0#64
  deriving DecidableEq, Repr

def elementMask (width : U32) : U64 :=
  if width = 8#32 then BitVec.allOnes 64 else (1#64 <<< (width * 8#32).toNat) - 1#64

end V2

end Nextcore.Abi
