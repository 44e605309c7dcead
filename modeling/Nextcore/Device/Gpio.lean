import Nextcore.Lib.Bytes

/-! `apple_gpio_v1.c`. An access outside an array of the record is `none`. -/

namespace Nextcore.Device

inductive GpioCall
  | irq (group : ℕ) (asserted : Bool)
  | out (pin : ℕ) (level : Bool)
  deriving DecidableEq, Repr

structure VfAppleGpio where
  npins : ℕ
  nirqgrps : ℕ
  gpioCfg : Vector U32 512
  intCfg : Vector (Vector U32 16) 7
  input : Vector U32 16
  oldIn : Vector U32 16
  npl : U32
  -- Whether the callbacks are set.
  out : Bool
  irq : Bool
  deriving DecidableEq, Repr

namespace VfAppleGpio

abbrev maxPinNr : ℕ := 512
abbrev maxIntGrpNr : ℕ := 7
abbrev intWords : ℕ := 16
abbrev regNplInEn : ℕ := 0xC48
abbrev data1 : U32 := 1#32
abbrev cfgGpIn : U32 := 0#32
abbrev cfgGpOut : U32 := 2#32
abbrev cfgIntLvlHi : U32 := 4#32
abbrev cfgIntLvlLo : U32 := 6#32
abbrev cfgIntEdgRis : U32 := 8#32
abbrev cfgIntEdgFal : U32 := 10#32
abbrev cfgIntEdgAny : U32 := 12#32
abbrev cfgMask : U32 := 14#32
abbrev funcGpio : U32 := 0#32
abbrev funcAlt0 : U32 := 0x20#32
abbrev funcMask : U32 := 0x60#32
abbrev intrGrpShift : ℕ := 16
abbrev intMasked : U32 := 0x70000#32
abbrev cfgDisabled : U32 := 0x7000e#32

def regCfg (n : ℕ) : ℕ := 0x000 + n * 4

def gpioIntWord (pin : ℕ) : ℕ := (pin + 31) / 32

def regInt (g n : ℕ) : ℕ := 0x800 + g * 0x40 + gpioIntWord n * 4

def gpioWidthOk (off : U32) (width : ℕ) : Bool := width = 4 ∧ off &&& 3#32 = 0#32

def updateWord {α : Type} {n : ℕ} (words : Vector α n) (i : ℕ) (f : α → α) : Option (Vector α n) :=
  if h : i < n then some (words.set i (f words[i])) else none

def bit (pin : ℕ) : U32 := 1#32 <<< (pin % 32)

def gpioTestBit (words : Vector U32 16) (pin : ℕ) : Option Bool :=
  (words[pin / 32]?).map fun w => w.getLsbD (pin % 32)

def gpioSetBit (words : Vector U32 16) (pin : ℕ) : Option (Vector U32 16) := updateWord words (pin / 32) (· ||| bit pin)

def gpioClearBit (words : Vector U32 16) (pin : ℕ) : Option (Vector U32 16) :=
  updateWord words (pin / 32) (· &&& ~~~bit pin)

def gpioIntSetBit (words : Vector U32 16) (pin : ℕ) : Option (Vector U32 16) :=
  updateWord words (gpioIntWord pin) (· ||| bit pin)

def gpioIntClearBit (words : Vector U32 16) (pin : ℕ) : Option (Vector U32 16) :=
  updateWord words (gpioIntWord pin) (· &&& ~~~bit pin)

def gpioIntWords (npins : ℕ) : ℕ := if npins = 0 then 0 else gpioIntWord (npins - 1) + 1

def scanRow (row : Vector U32 16) : (remaining w : ℕ) → Option Bool
  | 0, _ => some false
  | remaining + 1, w =>
    match row[w]? with
    | none => none
    | some word => if word ≠ 0#32 then some true else scanRow row remaining (w + 1)

def gpioGroupActive (g : VfAppleGpio) (group : ℕ) : Option Bool :=
  if g.nirqgrps ≤ group then some false
  else (g.intCfg[group]?).bind fun row => scanRow row (gpioIntWords g.npins) 0

def gpioRaiseIrq (g : VfAppleGpio) (group : ℕ) : Option (List GpioCall) :=
  if g.irq then (g.gpioGroupActive group).map fun asserted => [.irq group asserted] else some []

def gpioDriveOut (g : VfAppleGpio) (pin : ℕ) (cfg : U32) : List GpioCall :=
  if g.out = false ∨ g.npins ≤ pin then []
  else
    let level :=
      if cfg &&& funcMask ≠ 0#32 then true
      else if cfg &&& cfgMask = cfgGpOut then decide (cfg &&& data1 ≠ 0#32) else true
    [.out pin level]

def withRow (g : VfAppleGpio) (group : ℕ) (f : Vector U32 16 → Option (Vector U32 16)) : Option VfAppleGpio :=
  if h : group < 7 then (f g.intCfg[group]).map fun row => { g with intCfg := g.intCfg.set group row } else none

def irqgrpOf (cfg : U32) : ℕ := ((cfg &&& intMasked) >>> intrGrpShift).toNat

def setWhen (g : VfAppleGpio) (pends : Bool) (group pin : ℕ) : Option VfAppleGpio :=
  if pends then g.withRow group (gpioIntSetBit · pin) else some g

def levelPends (g : VfAppleGpio) (pin : ℕ) (cfg : U32) : Option Bool :=
  if cfg &&& cfgMask = cfgIntLvlHi then gpioTestBit g.input pin
  else if cfg &&& cfgMask = cfgIntLvlLo then (gpioTestBit g.input pin).map not
  else some false

def gpioUpdateLevelPending (g : VfAppleGpio) (pin : ℕ) (cfg : U32) : Option (List GpioCall × VfAppleGpio) :=
  if cfg &&& intMasked = intMasked then some ([], g)
  else if g.nirqgrps ≤ irqgrpOf cfg then some ([], g)
  else do
    let g ← g.withRow (irqgrpOf cfg) (gpioIntClearBit · pin)
    let pends ← g.levelPends pin cfg
    let g ← g.setWhen pends (irqgrpOf cfg) pin
    let calls ← g.gpioRaiseIrq (irqgrpOf cfg)
    some (calls, g)

def gpioUpdatePincfg (g : VfAppleGpio) (pin : ℕ) (value : U32) : Option (List GpioCall × VfAppleGpio) :=
  if g.npins ≤ pin then some ([], g)
  else do
    let (calls, g) ← g.gpioUpdateLevelPending pin value
    let gpioCfg ← updateWord g.gpioCfg pin fun _ => value
    let g := { g with gpioCfg := gpioCfg }
    some (calls ++ g.gpioDriveOut pin value, g)

def inputPends (g : VfAppleGpio) (pin : ℕ) (level : Bool) (cfg : U32) : Option Bool :=
  if cfg &&& cfgMask = cfgIntLvlHi then some level
  else if cfg &&& cfgMask = cfgIntLvlLo then some !level
  else if cfg &&& cfgMask = cfgIntEdgRis then (gpioTestBit g.oldIn pin).map fun old => !old && level
  else if cfg &&& cfgMask = cfgIntEdgFal then (gpioTestBit g.oldIn pin).map fun old => old && !level
  else if cfg &&& cfgMask = cfgIntEdgAny then (gpioTestBit g.oldIn pin).map fun old => old != level
  else some false

def grouped (g : VfAppleGpio) (cfg : U32) : Bool := cfg &&& intMasked ≠ intMasked ∧ irqgrpOf cfg < g.nirqgrps

def gpioPutInput (g : VfAppleGpio) (pin : ℕ) (level : Bool) : Option VfAppleGpio :=
  (if level then gpioSetBit g.input pin else gpioClearBit g.input pin).map fun input => { g with input := input }

def gpioLatchInput (g : VfAppleGpio) (pin : ℕ) : Option VfAppleGpio := do
  let word ← g.input[pin / 32]?
  let oldIn ← updateWord g.oldIn (pin / 32) fun _ => word
  some { g with oldIn := oldIn }

def gpioApplyInputIrq (g : VfAppleGpio) (pin : ℕ) (level : Bool) : Option (List GpioCall × VfAppleGpio) :=
  if g.npins ≤ pin then some ([], g)
  else do
    let g ← g.gpioPutInput pin level
    let cfg ← g.gpioCfg[pin]?
    if g.grouped cfg = false then
      let g ← g.gpioLatchInput pin
      some ([], g)
    else
      let pends ← g.inputPends pin level cfg
      let g ← g.setWhen pends (irqgrpOf cfg) pin
      let g ← g.gpioLatchInput pin
      let calls ← g.gpioRaiseIrq (irqgrpOf cfg)
      some (calls, g)

def gpioCfgIndex (off : U32) : Option ℕ :=
  if off.toNat < regCfg 0 ∨ regCfg (maxPinNr - 1) < off.toNat then none else some ((off.toNat - regCfg 0) / 4)

def gpioIntIndex (off : U32) : Option (ℕ × ℕ) :=
  if off.toNat < regInt 0 0 ∨ regInt maxIntGrpNr (maxPinNr - 1) < off.toNat then none
  else
    let rel := off.toNat - regInt 0 0
    some (rel / 64, rel % 64 / 4)

/-- `vf_apple_gpio_init` over whatever the record held; `none` is its refusal. -/
def vfAppleGpioInit (g : VfAppleGpio) (npins nirqgrps : ℕ) (out irq : Bool) : Option VfAppleGpio :=
  if npins = 0 ∨ maxPinNr ≤ npins ∨ nirqgrps = 0 ∨ maxIntGrpNr < nirqgrps then none
  else
    some
      { npins := npins, nirqgrps := nirqgrps, out := out, irq := irq, npl := 0#32
        gpioCfg := Vector.ofFn fun i => if i.val < npins then cfgDisabled else g.gpioCfg.get i
        intCfg := Vector.ofFn fun grp => Vector.ofFn fun w =>
          if grp.val < nirqgrps ∧ w.val < gpioIntWords npins then 0#32 else (g.intCfg.get grp).get w
        input := Vector.replicate 16 0#32
        oldIn := Vector.replicate 16 0#32 }

def vfAppleGpioSetIn (g : VfAppleGpio) (pin : ℕ) (level : Bool) : Option (ℤ × List GpioCall × VfAppleGpio) :=
  if g.npins ≤ pin then some (-1, [], g)
  else (g.gpioApplyInputIrq pin level).map fun (calls, g) => (0, calls, g)

def vfAppleGpioIrqAsserted (g : VfAppleGpio) (group : ℕ) : Option Bool :=
  if group < g.nirqgrps then g.gpioGroupActive group else some false

/-- `vf_apple_gpio_read`: the inner `none` is a refused access. -/
def vfAppleGpioRead (g : VfAppleGpio) (off : U32) (width : ℕ) : Option (Option U32) :=
  if gpioWidthOk off width = false then some none else
  match gpioCfgIndex off with
  | some pin =>
    if g.npins ≤ pin then some (some 0#32)
    else do
      let cfg ← g.gpioCfg[pin]?
      if cfg &&& funcMask = funcGpio ∧ cfg &&& cfgMask = cfgGpIn then do
        let cfg := cfg &&& ~~~data1
        some (some (if ← gpioTestBit g.input pin then cfg ||| data1 else cfg))
      else some (some cfg)
  | none =>
    match gpioIntIndex off with
    | some (group, word) =>
      if g.nirqgrps ≤ group ∨ intWords ≤ word then some (some 0#32)
      else (g.intCfg[group]?).bind fun row => (row[word]?).map some
    | none => if off.toNat = regNplInEn then some (some g.npl) else some (some 0#32)

def vfAppleGpioWrite (g : VfAppleGpio) (off : U32) (width : ℕ) (value : U32) :
    Option (ℤ × List GpioCall × VfAppleGpio) :=
  if gpioWidthOk off width = false then some (-1, [], g) else
  match gpioCfgIndex off with
  | some pin =>
    if g.npins ≤ pin then some (0, [], g)
    else (g.gpioUpdatePincfg pin value).map fun (calls, g) => (0, calls, g)
  | none =>
    match gpioIntIndex off with
    | some (group, word) =>
      if g.nirqgrps ≤ group ∨ intWords ≤ word then some (0, [], g)
      else do
        let g ← g.withRow group (updateWord · word (· &&& ~~~value))
        let calls ← g.gpioRaiseIrq group
        some (0, calls, g)
    | none => some (-1, [], g)

inductive Op
  | write (off : U32) (width : ℕ) (value : U32)
  | setIn (pin : ℕ) (level : Bool)
  | read (off : U32) (width : ℕ)
  | irqAsserted (group : ℕ)
  deriving DecidableEq, Repr

def step (g : VfAppleGpio) : Op → Option (List GpioCall × VfAppleGpio)
  | .write off width value => (g.vfAppleGpioWrite off width value).map Prod.snd
  | .setIn pin level => (g.vfAppleGpioSetIn pin level).map Prod.snd
  | .read off width => (g.vfAppleGpioRead off width).map fun _ => ([], g)
  | .irqAsserted group => (g.vfAppleGpioIrqAsserted group).map fun _ => ([], g)

def run (g : VfAppleGpio) : List Op → Option (List GpioCall × VfAppleGpio)
  | [] => some ([], g)
  | op :: ops => do
    let (calls, g) ← g.step op
    let (rest, g) ← run g ops
    some (calls ++ rest, g)

end VfAppleGpio

end Nextcore.Device
