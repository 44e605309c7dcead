import Nextcore.Jit.Block
import Nextcore.Jit.Dispatch
import Nextcore.Lib.Loop

/-! `vf_run`: poll, translate, execute and dispatch until the budget is used up. -/

namespace Nextcore.Jit

open Cpu Emit X86 Loop

structure Scratch where
  rax : Value
  r9 : Value
  r10 : Value
  r11 : Value
  flags : Flags

structure Caller where
  host : Host
  scratch : U64 → Scratch

abbrev Protect (τ : Type) := τ → Bool → τ × U32

/-- A call of the generated entry; `none` is code the host cannot run. -/
def callEntry (caller : Caller) (bytes : List Byte) (cpu : VfCpu) (ram : List Byte) :
    Option (U32 × VfCpu × List Byte) :=
  let s := caller.scratch cpu.compiledBlocks
  returned (run (layout caller.host) bytes (entry s.rax s.r9 s.r10 s.r11 s.flags cpu ram))

def settle (before : U64) (cpu : VfCpu) : VfCpu :=
  let cpu := cpu.advanceCounter (cpu.retired - before)
  { cpu with compiledBlocks := cpu.compiledBlocks + 1#64 }

def executeNativeBlock (caller : Caller) (bytes : List Byte) (cpu : VfCpu) (ram : List Byte) :
    Option (U32 × VfCpu × List Byte) :=
  (callEntry caller bytes cpu ram).map fun (status, g, ram) => (status, settle cpu.retired g, ram)

def vfTranslateCpu (code : Buffer) (cpu : VfCpu) (guest : List Byte) (pc : U64) (limit : ℕ) : U32 × VfCpu × Buffer :=
  if cpu.stateValid = false then (Status.privilegeFault, cpu, code)
  else if cpu.sctlr &&& 1#64 ≠ 0#64 then (Status.systemRegisterTrap, { cpu with instruction := 0#32 }, code)
  else
    let (status, code) := translateImpl code (Target.ofCpu cpu) false guest pc limit
    (status, cpu, code)

def returns {S : Type} (status : U32) (cpu : VfCpu) (put : VfCpu → S) : Turn S U32 :=
  .done status (put { cpu with status := status })

def dispatch (slow : VfCpu → Option VfCpu) (status : U32) (cpu : VfCpu) : Turn VfCpu U32 :=
  let fails : Turn VfCpu U32 :=
    let status := researchSystemRegisterFailure cpu status
    if status ≠ Status.next then returns status (cpu.commitStatus status) id else .again cpu
  if status = Status.undefinedInstruction ∨ status = Status.systemRegisterTrap then
    match slow cpu with
    | some cpu => .again cpu
    | none => fails
  else fails

def mapTurn {S : Type} (put : VfCpu → S) : Turn VfCpu U32 → Turn S U32
  | .again cpu => .again (put cpu)
  | .done status cpu => .done status (put cpu)

structure Image where
  bytes : List Byte → List Byte
  size : ℕ
  length_bytes : ∀ ram, (bytes ram).length = size

structure RunState (τ : Type) where
  cpu : VfCpu
  ram : List Byte
  code : Buffer
  opaque_ : τ

def blockCount (most : ℕ) (budget start : U64) (cpu : VfCpu) : ℕ :=
  let left := (budget - (cpu.retired - start)).toNat
  if cpu.irqLevel ≠ 0#32 ∨ cpu.fiqLevel ≠ 0#32 ∨ (cpu.cntpCtl ||| cpu.cntvCtl) &&& 1#64 ≠ 0#64 then 1
  else if most < left then most else left

section Run

variable {τ : Type} (caller : Caller) (pauth : Option PauthStep) (protect : Protect τ) (image : Image)

def executeTurn (s : RunState τ) : Option (Turn (RunState τ) U32) :=
  (executeNativeBlock caller s.code.bytes s.cpu s.ram).map fun (status, cpu, ram) =>
    mapTurn (fun cpu => { s with cpu := cpu, ram := ram }) (dispatch (slowStep pauth) status cpu)

def blockTurn (count : ℕ) (s : RunState τ) : Option (Turn (RunState τ) U32) :=
  let (opaque_, failed) := protect s.opaque_ false
  let s := { s with opaque_ := opaque_ }
  if failed ≠ 0#32 then some (returns Status.protection s.cpu fun cpu => { s with cpu := cpu }) else
  let (status, cpu, code) := vfTranslateCpu s.code s.cpu (image.bytes s.ram) s.cpu.pc count
  let s := { s with code := code }
  if status ≠ Status.next then
    some (returns status (if status ≠ Status.codeFull then cpu.commitStatus status else cpu)
      fun cpu => { s with cpu := cpu }) else
  let (opaque_, failed) := protect s.opaque_ true
  let s := { s with cpu := cpu, opaque_ := opaque_ }
  if failed ≠ 0#32 then some (returns Status.protection s.cpu fun cpu => { s with cpu := cpu })
  else executeTurn caller pauth s

def vfRunTurn (most : ℕ) (budget start : U64) (s : RunState τ) : Option (Turn (RunState τ) U32) :=
  let put := fun cpu : VfCpu => { s with cpu := cpu }
  if ¬(s.cpu.retired - start < budget) then some (returns Status.budget s.cpu put)
  else if s.cpu.sctlr &&& 1#64 ≠ 0#64 then
    some (returns Status.systemRegisterTrap { s.cpu with instruction := 0#32 } put)
  else
    let (asynchronous, cpu) := s.cpu.pollInterrupt
    if asynchronous ≠ Status.next then some (returns asynchronous cpu put)
    else blockTurn caller pauth protect image (blockCount most budget start cpu) (put cpu)

def vfRunBlocks (most : ℕ) (budget : U64) (s : RunState τ) : Option (U32 × RunState τ) :=
  if s.ram.length < 8 ∨ s.cpu.stateValid = false then
    some (Status.dataFault, { s with cpu := { s.cpu with status := Status.dataFault } })
  else iterate (vfRunTurn caller pauth protect image most budget s.cpu.retired) (budget.toNat + 1) s

def vfRun (budget : U64) (s : RunState τ) : Option (U32 × RunState τ) :=
  vfRunBlocks caller pauth protect image 32 budget s

end Run

lemma executeNativeBlock_block {block : List Byte} {effect : VfCpu → List Byte → Effect} (hruns : Runs block effect)
    (caller : Caller) {bytes : List Byte} (hbytes : bytes.take block.length = block) {cpu g : VfCpu}
    {ram ram' : List Byte} {status : U32} (heffect : effect cpu ram = .stops status g ram') :
    executeNativeBlock caller bytes cpu ram = some (status, settle cpu.retired g, ram') := by
  have hsplit : bytes = block ++ bytes.drop block.length := by
    conv_lhs => rw [← List.take_append_drop block.length bytes]
    rw [hbytes]
  let s := caller.scratch cpu.compiledBlocks
  have hrun := hruns caller.host s.rax s.r9 s.r10 s.r11 s.flags cpu ram (bytes.drop block.length)
  rw [heffect, ← hsplit] at hrun
  change returned _ = some (status, g, ram') at hrun
  unfold executeNativeBlock callEntry
  dsimp only
  rw [hrun]
  rfl

section Turn

variable {τ : Type} {protect : Protect τ} {image : Image} {most : ℕ} {budget start : U64} {s : RunState τ}
  (hleft : s.cpu.retired - start < budget) (hvalid : s.cpu.stateValid = true) (hmmu : s.cpu.sctlr &&& 1#64 = 0#64)
  (hquiet : s.cpu.pollInterrupt.1 = Status.next) (hwritable : (protect s.opaque_ false).2 = 0#32)
  (hfits : (vfTranslateCpu s.code s.cpu (image.bytes s.ram) s.cpu.pc (blockCount most budget start s.cpu)).1 =
    Status.next)
  (hexecutable : (protect (protect s.opaque_ false).1 true).2 = 0#32)
  (hcount : blockCount most budget start s.cpu ≠ 0)

include hleft hvalid hmmu hquiet hwritable hfits hexecutable hcount in
lemma vfRunTurn_block (caller : Caller) (pauth : Option PauthStep) {status : U32} {g : VfCpu} {ram : List Byte}
    (heffect : blockEffect (Target.ofCpu s.cpu) false (image.bytes s.ram) s.cpu.pc
      (blockCount most budget start s.cpu) s.cpu s.ram = .stops status g ram) :
    ∃ s' : RunState τ, s'.ram = ram ∧ s'.code.capacity = s.code.capacity ∧
      vfRunTurn caller pauth protect image most budget start s =
        some (mapTurn (fun cpu => { s' with cpu := cpu })
          (dispatch (slowStep pauth) status (settle s.cpu.retired g))) := by
  obtain ⟨block, -, hruns, hstatus, -, hcapacity, htake⟩ := translateImpl_spec s.code (Target.ofCpu s.cpu) false
    (image.bytes s.ram) s.cpu.pc hcount
  have htranslated : (translateImpl s.code (Target.ofCpu s.cpu) false (image.bytes s.ram) s.cpu.pc
      (blockCount most budget start s.cpu)).1 = Status.next := by
    unfold vfTranslateCpu at hfits
    rw [if_neg (by simp [hvalid]), if_neg (not_not.mpr hmmu)] at hfits
    exact hfits
  have hroom : block.length ≤ s.code.capacity := by
    rw [htranslated] at hstatus
    by_contra hfull
    rw [if_pos (Nat.not_le.mp hfull)] at hstatus
    cases hstatus
  unfold vfRunTurn
  dsimp only
  rw [if_neg (not_not.mpr hleft), if_neg (not_not.mpr hmmu), if_neg (not_not.mpr hquiet),
    VfCpu.pollInterrupt_next hquiet]
  unfold blockTurn vfTranslateCpu
  dsimp only
  rw [if_neg (not_not.mpr hwritable), if_neg (show ¬s.cpu.stateValid = false by simp [hvalid]),
    if_neg (not_not.mpr hmmu)]
  dsimp only
  rw [if_neg (not_not.mpr htranslated), if_neg (not_not.mpr hexecutable)]
  unfold executeTurn
  dsimp only
  rw [executeNativeBlock_block hruns caller (htake hroom) heffect]
  exact ⟨{ s with
    ram := ram, opaque_ := (protect (protect s.opaque_ false).1 true).1,
    code := (translateImpl s.code (Target.ofCpu s.cpu) false (image.bytes s.ram) s.cpu.pc
      (blockCount most budget start s.cpu)).2 }, rfl, hcapacity, rfl⟩

end Turn

end Nextcore.Jit
