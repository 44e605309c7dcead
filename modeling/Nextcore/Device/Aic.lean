import Nextcore.Lib.Bytes
import Nextcore.Lib.Run
import Nextcore.Lib.Scan

/-! `aic_v1.c`: the wired interrupt controller. An interrupt that an EVENT read
returns stays masked until software clears its mask bit. -/

namespace Nextcore.Device

structure VfAic where
  irqCount : ℕ
  cpuCount : ℕ
  globalCfg : U32
  target : ℕ → U32
  level : ℕ → U32
  software : ℕ → U32
  masked : ℕ → U32
  irqs : 0 < irqCount ∧ irqCount ≤ 1024
  cpus : 0 < cpuCount ∧ cpuCount ≤ 32

namespace VfAic

abbrev regRev : ℕ := 0x0000
abbrev regInfo : ℕ := 0x0004
abbrev regGlbCfg : ℕ := 0x0010
abbrev regRst : ℕ := 0x000c
abbrev regWhoami : ℕ := 0x2000
abbrev regEvent : ℕ := 0x2004
abbrev regTarget : ℕ := 0x3000
abbrev regSwBase : ℕ := 0x4000
abbrev regCpuBase : ℕ := 0x5000
abbrev eventExt : U32 := 0x10000#32

def eirWords (irqs : ℕ) : ℕ := (irqs + 31) / 32

def wordValid (a : VfAic) (word : ℕ) : U32 :=
  let first := word * 32
  if a.irqCount ≤ first then 0#32
  else if 32 ≤ a.irqCount - first then BitVec.allOnes 32
  else (1#32 <<< (a.irqCount - first)) - 1#32

def resolveAccess (a : VfAic) (cpu off : ℕ) : Option (ℕ × ℕ) :=
  if regCpuBase ≤ off ∧ off < regCpuBase + a.cpuCount * 0x80 then
    let slot := (off - regCpuBase) / 0x80
    let delta := (off - regCpuBase) % 0x80
    if 0x7c < delta then none else some (slot, regWhoami + delta)
  else if a.cpuCount ≤ cpu then none
  else some (cpu, off)

def resetState (a : VfAic) : VfAic :=
  { a with
    target := fun _ => 1#32
    level := fun _ => 0#32
    software := fun _ => 0#32
    masked := fun _ => BitVec.allOnes 32
    globalCfg := 0#32 }

def init (irqs cpus : ℕ) : Option VfAic :=
  if h : (0 < irqs ∧ irqs ≤ 1024) ∧ 0 < cpus ∧ cpus ≤ 32 then
    some (resetState ⟨irqs, cpus, 0#32, fun _ => 0#32, fun _ => 0#32, fun _ => 0#32, fun _ => 0#32, h.1, h.2⟩)
  else none

def setLine (a : VfAic) (irq : ℕ) (high : Bool) : Option VfAic :=
  if a.irqCount ≤ irq then none
  else
    let bit := 1#32 <<< (irq % 32)
    let word := irq / 32
    some { a with
      level := Function.update a.level word (if high then a.level word ||| bit else a.level word &&& ~~~bit) }

def nextIrq (a : VfAic) (cpu : ℕ) : Option ℕ :=
  if a.cpuCount ≤ cpu then none
  else
    (List.range (eirWords a.irqCount)).findSome? fun word =>
      let pending := (a.level word ||| a.software word) &&& ~~~a.masked word
      let accept := fun bit =>
        decide (word * 32 + bit < a.irqCount ∧ a.target (word * 32 + bit) &&& (1#32 <<< cpu) ≠ 0#32)
      (Scan.scan accept 32 pending).map (word * 32 + ·)

def pending (a : VfAic) (cpu : ℕ) : Bool := (a.nextIrq cpu).isSome

def readBank (a : VfAic) (off : ℕ) (bank : ℕ → U32) : Option U32 :=
  if off < regSwBase ∨ 0x4200 ≤ off ∨ off % 4 ≠ 0 then none
  else
    let word := off % 0x80 / 4
    if eirWords a.irqCount ≤ word then none else some (bank word)

def writeBank (a : VfAic) (off : ℕ) (value : U32) (op : ℕ) : Option VfAic :=
  if off < regSwBase ∨ 0x4200 ≤ off ∨ off % 4 ≠ 0 then none
  else
    let word := off % 0x80 / 4
    let group := (off - regSwBase) / 0x80
    if eirWords a.irqCount ≤ word ∨ 3 < group then none
    else if value &&& ~~~a.wordValid word ≠ 0#32 then none
    else if op = 0 then
      some { a with software := Function.update a.software word (a.software word ||| value) }
    else if op = 1 then
      some { a with software := Function.update a.software word (a.software word &&& ~~~value) }
    else if op = 2 then
      some { a with masked := Function.update a.masked word (a.masked word ||| value) }
    else if op = 3 then
      some { a with masked := Function.update a.masked word (a.masked word &&& ~~~value) }
    else none

def readEvent (a : VfAic) (cpu : ℕ) : U32 × VfAic :=
  match a.nextIrq cpu with
  | none => (0#32, a)
  | some irq =>
    (eventExt ||| BitVec.ofNat 32 irq,
      { a with masked := Function.update a.masked (irq / 32) (a.masked (irq / 32) ||| 1#32 <<< (irq % 32)) })

def read (a : VfAic) (cpu off width : ℕ) : Option (U32 × VfAic) :=
  if width ≠ 4 ∨ off % 4 ≠ 0 then none
  else
    (a.resolveAccess cpu off).bind fun (cpu, off) =>
      if off = regRev then some (2#32, a)
      else if off = regInfo then
        some ((BitVec.ofNat 32 (a.cpuCount - 1) <<< 16) ||| BitVec.ofNat 32 a.irqCount, a)
      else if off = regGlbCfg then some (a.globalCfg, a)
      else if off = regWhoami then some (BitVec.ofNat 32 cpu, a)
      else if off = regEvent then some (a.readEvent cpu)
      else if regTarget ≤ off ∧ off < 0x4000 then
        let irq := (off - regTarget) / 4
        if a.irqCount ≤ irq then none else some (a.target irq, a)
      else if 0x4100 ≤ off ∧ off < 0x4200 then (a.readBank off a.masked).map (·, a)
      else if 0x4200 ≤ off ∧ off < 0x4280 then
        let word := (off - 0x4200) / 4
        if eirWords a.irqCount ≤ word then none else some (a.level word ||| a.software word, a)
      else none

def write (a : VfAic) (cpu off width : ℕ) (value : U32) : Option VfAic :=
  if width ≠ 4 ∨ off % 4 ≠ 0 then none
  else
    (a.resolveAccess cpu off).bind fun (_, off) =>
      if off = regRst then some a.resetState
      else if off = regGlbCfg then some { a with globalCfg := value }
      else if regTarget ≤ off ∧ off < 0x4000 then
        let irq := (off - regTarget) / 4
        if a.irqCount ≤ irq ∨ (a.cpuCount < 32 ∧ value >>> a.cpuCount ≠ 0#32) then none
        else some { a with target := Function.update a.target irq value }
      else if regSwBase ≤ off ∧ off < 0x4200 then a.writeBank off value ((off - regSwBase) / 0x80)
      else none

end VfAic

end Nextcore.Device
