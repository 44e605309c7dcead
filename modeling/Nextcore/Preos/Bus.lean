import Nextcore.Preos.Sysreg
import Nextcore.Lib.Bytes

/-! The physical memory boundary of the reference core, its RAM bus, and the
address translation in front of it. -/

namespace Nextcore.Preos

open Mmu

variable {β : Type}

structure GuestBus (β : Type) where
  read : β → U64 → ℕ → Access → Except ExceptionKind U64
  write : β → U64 → ℕ → U64 → Access → Except ExceptionKind β
  -- The RAM of a pair transfer, unless the bus does not opt in.
  pairRam : β → Option (List Byte × U64) := fun _ => none
  setPairRam : β → List Byte → β := fun s _ => s
  afterInstruction : β → GuestCpuState → GuestCpuState × β := fun s cpu => (cpu, s)

def readWidth (memory : List Byte) (index width : ℕ) : Option U64 :=
  if index + width ≤ memory.length then some (Bytes.loadLe memory index width) else none

def writeWidth (memory : List Byte) (index width : ℕ) (value : U64) : Option (List Byte) :=
  if index + width ≤ memory.length then some (Bytes.storeLe memory index width value) else none

structure RamBus where
  ram : List Byte
  base : U64
  deriving DecidableEq, Repr

namespace RamBus

def read (s : RamBus) (address : U64) (size : ℕ) (_ : Access) : Except ExceptionKind U64 :=
  if address < s.base then .error .dataAbort
  else
    match readWidth s.ram (address - s.base).toNat size with
    | some value => .ok value
    | none => .error .dataAbort

def write (s : RamBus) (address : U64) (size : ℕ) (value : U64) (_ : Access) : Except ExceptionKind RamBus :=
  if address < s.base then .error .dataAbort
  else
    match writeWidth s.ram (address - s.base).toNat size value with
    | some ram => .ok { s with ram := ram }
    | none => .error .dataAbort

def bus : GuestBus RamBus where
  read := read
  write := write
  pairRam s := some (s.ram, s.base)
  setPairRam s ram := { s with ram := ram }

end RamBus

def legacyFault (failure : TranslationFailure) : Fault :=
  match failure.kind with
  | .architectural fault => fault
  | .tableRead _ | .unsupported => .translation

def mapMmuFault : Fault → ExceptionKind
  | .addressSize | .translation | .accessFlag => .translationFault
  | .permission => .permissionFault
  | .alignment => .alignmentFault

namespace GuestBus

def tableReader (bus : GuestBus β) (s : β) : TableReader := fun physical =>
  match bus.read s physical 8 .read with
  | .ok value => .ok value
  | .error _ => .error .unavailable

end GuestBus

namespace GuestCpuState

def mmuAddress (cpu : GuestCpuState) (bus : GuestBus β) (s : β) (address : U64) (size : ℕ) (access : Access) :
    Except ExceptionKind U64 × GuestCpuState :=
  if 1 < size ∧ address &&& (BitVec.ofNat 64 size - 1#64) ≠ 0#64 ∧ cpu.sys.sctlrEl1 &&& 2#64 ≠ 0#64 then
    (.error .alignmentFault, cpu)
  else
    let out := cpu.mmu.translateDetailed address access cpu.currentEl (bus.tableReader s)
    (match out.1 with
      | .ok translation => .ok translation.pa
      | .error failure => .error (mapMmuFault (legacyFault failure)),
      { cpu with mmu := out.2 })

def fetch32 (cpu : GuestCpuState) (bus : GuestBus β) (s : β) : Except ExceptionKind U32 × GuestCpuState :=
  if cpu.pc &&& 3#64 ≠ 0#64 then (.error .alignmentFault, cpu)
  else
    let translated := cpu.mmuAddress bus s cpu.pc 4 .execute
    (match translated.1 with
      | .error kind => .error kind
      | .ok physical =>
        match bus.read s physical 4 .execute with
        | .ok value => .ok (value.truncate 32)
        | .error _ => .error .instructionAbort,
      translated.2)

end GuestCpuState

end Nextcore.Preos
