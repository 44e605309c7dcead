import Nextcore.Cpu.State
import Nextcore.Lib.X86.Machine

/-! The fields of `vf_cpu` that generated code may touch, by their offset. -/

namespace Nextcore.Jit

open Cpu X86

def readField (cpu : VfCpu) (off : ℕ) : Option U64 :=
  if off % 8 = 0 ∧ off < 248 then some (cpu.x (Fin.ofNat 32 (off / 8)))
  else if off = 256 then some cpu.sp
  else if off = 264 then some cpu.pc
  else if off = 272 then some cpu.pstate
  else if off = 336 then some cpu.far
  else if off = 656 then some cpu.hcrEl2
  else if off = 672 then some cpu.scrEl3
  else if off = 680 then some cpu.retired
  else if off = 840 then some cpu.tpidrEl0
  else if off = 848 then some cpu.tpidrroEl0
  else if off = 856 then some cpu.tpidrEl1
  else none

def writeField (cpu : VfCpu) (off : ℕ) (v : U64) : Option VfCpu :=
  if off % 8 = 0 ∧ off < 248 then some { cpu with x := Function.update cpu.x (Fin.ofNat 32 (off / 8)) v }
  else if off = 256 then some { cpu with sp := v }
  else if off = 264 then some { cpu with pc := v }
  else if off = 272 then some { cpu with pstate := v }
  else if off = 336 then some { cpu with far := v }
  else if off = 680 then some { cpu with retired := v }
  else if off = 840 then some { cpu with tpidrEl0 := v }
  else if off = 848 then some { cpu with tpidrroEl0 := v }
  else if off = 856 then some { cpu with tpidrEl1 := v }
  else none

structure Host where
  guestAt : U64
  ramAt : U64

def layout (host : Host) : Layout VfCpu where
  guestAt := host.guestAt
  ramAt := host.ramAt
  read64 cpu off := readField cpu off.toNat
  write64 cpu off v := writeField cpu off.toNat v
  read32 cpu off :=
    if off = 712#32 then some cpu.currentEl
    else if off = 728#32 then some cpu.instruction
    else (readField cpu off.toNat).map (BitVec.truncate 32)
  write32 cpu off v := if off = 728#32 then some { cpu with instruction := v } else none

variable {host : Host}

lemma slot_offset {reg : U32} (h : reg < 31#32) :
    (reg * 8#32).toNat % 8 = 0 ∧ (reg * 8#32).toNat < 248 ∧ (reg * 8#32).toNat / 8 = reg.toNat := by
  have hlt : reg.toNat < 31 := h
  have hmul : (reg * 8#32).toNat = reg.toNat * 8 := by
    rw [BitVec.toNat_mul, show (8#32).toNat = 8 from rfl]
    exact Nat.mod_eq_of_lt (by omega)
  omega

lemma read64_slot {reg : U32} (h : reg < 31#32) (cpu : VfCpu) :
    (layout host).read64 cpu (reg * 8#32) = some (cpu.x (VfCpu.slot reg)) := by
  obtain ⟨h1, h2, h3⟩ := slot_offset h
  change readField cpu _ = _
  rw [readField, if_pos ⟨h1, h2⟩, h3]
  rfl

lemma read32_slot {reg : U32} (h : reg < 31#32) (cpu : VfCpu) :
    (layout host).read32 cpu (reg * 8#32) = some ((cpu.x (VfCpu.slot reg)).truncate 32) := by
  obtain ⟨h1, h2, h3⟩ := slot_offset h
  have hne : ∀ k : U32, 248 ≤ k.toNat → reg * 8#32 ≠ k := by
    intro k hk heq
    rw [heq] at h2
    omega
  change (if reg * 8#32 = 712#32 then _ else if reg * 8#32 = 728#32 then _ else _) = _
  rw [if_neg (hne _ (by decide)), if_neg (hne _ (by decide)), readField, if_pos ⟨h1, h2⟩, h3]
  rfl

lemma write64_slot {reg : U32} (h : reg < 31#32) (cpu : VfCpu) (v : U64) :
    (layout host).write64 cpu (reg * 8#32) v = some (cpu.setX reg v) := by
  obtain ⟨h1, h2, h3⟩ := slot_offset h
  change writeField cpu _ v = _
  rw [writeField, if_pos ⟨h1, h2⟩, h3]
  rfl

end Nextcore.Jit
