import Nextcore.Abi.MemoryV2

/-! The control records of the dynamic profile. -/

namespace Nextcore.Abi.Dynamic

abbrev dataVersion : U32 := 3#32
abbrev profile : U32 := 2#32
abbrev version : U32 := 1#32
abbrev prepare : U32 := 1#32
abbrev commit : U32 := 2#32
abbrev cancel : U32 := 3#32
abbrev write : U32 := 1#32
abbrev isb : U32 := 2#32
abbrev dsb : U32 := 3#32
abbrev tlbi : U32 := 4#32
abbrev selSctlr : U32 := 1#32
abbrev selTtbr0 : U32 := 2#32
abbrev selTtbr1 : U32 := 3#32
abbrev selTcr : U32 := 4#32
abbrev selMair : U32 := 5#32
abbrev ok : U32 := 0#32
abbrev unsupported : U32 := 1#32
abbrev invalid : U32 := 2#32
abbrev unavailable : U32 := 3#32
abbrev empty : U32 := 0#32
abbrev proposed : U32 := 1#32
abbrev known : U32 := 2#32
abbrev uncertain : U32 := 3#32
abbrev control : U32 := 1#32
abbrev pending : U32 := 2#32
abbrev wrap : U32 := 3#32
abbrev mapping : U32 := 4#32
abbrev bytes : U32 := 5#32
abbrev stale : U32 := 6#32
abbrev token : U32 := 7#32
abbrev malformed : U32 := 8#32
abbrev overflow : U32 := 9#32
abbrev backing : U32 := 10#32
abbrev isbWord : U32 := 0xd5033fdf#32
abbrev dsbWord : U32 := 0xd5033f9f#32
abbrev tlbiWord : U32 := 0xd508871f#32

structure Snapshot where
  sctlr : U64 := 0
  ttbr0 : U64 := 0
  ttbr1 : U64 := 0
  tcr : U64 := 0
  mair : U64 := 0
  hcr : U64 := 0
  scr : U64 := 0
  reserved : U64 := 0
  deriving DecidableEq, Repr

namespace Snapshot

def fromControls (c : V2.Controls) : Snapshot :=
  ⟨c.sctlr, c.ttbr0, c.ttbr1, c.tcr, c.mair, c.hcr, c.scr, 0#64⟩

def controls (s : Snapshot) (epoch : U64) : V2.Controls :=
  ⟨dataVersion, 80#32, profile, 0#32, s.sctlr, s.ttbr0, s.ttbr1, s.tcr, s.mair, s.hcr, s.scr, epoch⟩

end Snapshot

structure Request where
  abiVersion : U32
  structSize : U32
  phase : U32
  operation : U32
  selector : U32
  currentEl : U32
  flags : U32
  reserved : U32
  pc : U64
  operand : U64
  revision : U64
  epoch : U64
  before : Snapshot
  candidate : Snapshot
  deriving DecidableEq, Repr

structure Reply where
  abiVersion : U32 := 0
  structSize : U32 := 0
  result : U32 := 0
  detail : U32 := 0
  phase : U32 := 0
  operation : U32 := 0
  selector : U32 := 0
  stateTag : U32 := 0
  token : U64 := 0
  revision : U64 := 0
  epoch : U64 := 0
  invalidations : U64 := 0
  architectural : Snapshot := {}
  effective : Snapshot := {}
  deriving DecidableEq, Repr

end Nextcore.Abi.Dynamic
