import Nextcore.Lib.Bytes

/-! The version 1 memory provider records. -/

namespace Nextcore.Abi.V1

abbrev ok : U32 := 0#32
abbrev guestFault : U32 := 1#32
abbrev unsupported : U32 := 2#32
abbrev invalidRequest : U32 := 3#32
abbrev pcAlignment : U32 := 1#32
abbrev dataAlignment : U32 := 2#32

structure Request where
  abiVersion : U32
  structSize : U32
  operation : U32
  flags : U32
  pc : U64
  address : U64
  value0 : U64
  value1 : U64
  sctlr : U64
  epoch : U64
  width : U32
  count : U32
  currentEl : U32
  reserved : U32
  deriving DecidableEq, Repr

structure Reply where
  abiVersion : U32 := 0
  structSize : U32 := 0
  result : U32 := 0
  fault : U32 := 0
  value0 : U64 := 0
  value1 : U64 := 0
  address : U64 := 0
  esr : U64 := 0
  epoch : U64 := 0
  reserved : Vector U64 3 := Vector.replicate 3 0#64
  deriving DecidableEq, Repr

end Nextcore.Abi.V1
