import Nextcore.Lib.Window

/-! `ans_pci_v1.c`: the PCIe endpoint of the storage controller. The level it is given
is held by one of three latches, and reaches a message sink and an AIC line. -/

namespace Nextcore.Device

abbrev U8 := BitVec 8
abbrev U16 := BitVec 16

namespace AnsPci

abbrev tierHost : U32 := 3#32
abbrev statusBootstrap : U32 := 1#32
abbrev flags : U32 := 0x1f#32
abbrev commandMaster : U16 := 1#16 <<< 2
abbrev commandEnableMask : U16 := 6#16
abbrev msiEnable : U64 := 1#64
abbrev msixEnable : U64 := 1#64
abbrev msixBirMask : U64 := 7#64
abbrev aicStorageIrqLine : ℕ := 1
abbrev ioportSize : U64 := 0x10000#64
abbrev mmcfgSize : U64 := 0x10000000#64

abbrev mmioStatus : ℕ := 0x000
abbrev mmioFlags : ℕ := 0x004
abbrev mmioTier : ℕ := 0x008
abbrev mmioIoportSize : ℕ := 0x010
abbrev mmioMmcfgSize : ℕ := 0x014
abbrev mmioConfig : ℕ := 0x018
abbrev mmioMsiCtrl : ℕ := 0x020
abbrev mmioMsiAddr : ℕ := 0x028
abbrev mmioMsiData : ℕ := 0x030
abbrev mmioMsixCtrl : ℕ := 0x038
abbrev mmioMsixTableBir : ℕ := 0x03c
abbrev mmioSize : ℕ := 0x040

end AnsPci

structure MsiGpa where
  mem : Window 2
  base : U64

/-- `vf_ans_pci_v1`. A callback is kept with its opaque argument as a function on what
lies behind it: `α` behind the AIC sink, `μ` behind the message sink. -/
structure VfAnsPci (α μ : Type) where
  status : U32
  flags : U32
  command : U16
  lastConfigWrite : U64
  configWriteSeen : Bool
  intxPending : Bool
  msiEnabled : Bool
  msiAddr : U64
  msiData : U16
  msiPending : Bool
  msixEnabled : Bool
  msixTableBir : U8
  msixPending : Bool
  msiGpa : Option MsiGpa
  msiMessageFn : Option (μ → U64 → U16 → Bool × μ)
  msiMessageWritten : Bool
  lastMsiMessageAddr : U64
  lastMsiMessageData : U16
  aicFn : Option (α → ℕ → Bool → Bool × α)
  aicSyncSeen : Bool
  aicLineHigh : Bool
  -- Not in the record of the source: the messages written so far.
  sent : List (U64 × U16)

structure Env (α μ : Type) where
  mem : HostMemory
  aic : α
  msg : μ

namespace VfAnsPci

open AnsPci

variable {α μ : Type}

def init : VfAnsPci α μ where
  status := statusBootstrap
  flags := AnsPci.flags
  command := 0#16
  lastConfigWrite := 0#64
  configWriteSeen := false
  intxPending := false
  msiEnabled := false
  msiAddr := 0#64
  msiData := 0#16
  msiPending := false
  msixEnabled := false
  msixTableBir := 0#8
  msixPending := false
  msiGpa := none
  msiMessageFn := none
  msiMessageWritten := false
  lastMsiMessageAddr := 0#64
  lastMsiMessageData := 0#16
  aicFn := none
  aicSyncSeen := false
  aicLineHigh := false
  sent := []

def deliveryPendingLevel (s : VfAnsPci α μ) : Bool := s.intxPending || s.msiPending || s.msixPending

def syncAic (s : VfAnsPci α μ) (e : Env α μ) : Bool × VfAnsPci α μ × Env α μ :=
  let high := s.deliveryPendingLevel
  match s.aicFn with
  | none => (false, s, e)
  | some fn =>
    let r := fn e.aic aicStorageIrqLine high
    if r.1 then (true, { s with aicSyncSeen := true, aicLineHigh := high }, { e with aic := r.2 })
    else (false, s, { e with aic := r.2 })

def messageWritten (s : VfAnsPci α μ) : VfAnsPci α μ :=
  { s with
    msiMessageWritten := true
    lastMsiMessageAddr := s.msiAddr
    lastMsiMessageData := s.msiData
    sent := s.sent ++ [(s.msiAddr, s.msiData)] }

def tryMsiMessageWrite (s : VfAnsPci α μ) (e : Env α μ) : Bool × VfAnsPci α μ × Env α μ :=
  match s.msiGpa with
  | some gpa =>
    if s.msiAddr < gpa.base then (false, s, e)
    else
      let off := (s.msiAddr - gpa.base).toNat
      if gpa.mem.len < off then (false, s, e)
      else if gpa.mem.len - off < 2 then (false, s, e)
      else
        let mem := e.mem.store gpa.mem.toSpan off [s.msiData.truncate 8]
        (true, s.messageWritten,
          { e with mem := mem.store gpa.mem.toSpan (off + 1) [(s.msiData >>> 8).truncate 8] })
  | none =>
    match s.msiMessageFn with
    | none => (false, s, e)
    | some fn =>
      let r := fn e.msg s.msiAddr s.msiData
      if r.1 then (true, s.messageWritten, { e with msg := r.2 }) else (false, s, { e with msg := r.2 })

def applyMsiEnable (s : VfAnsPci α μ) (e : Env α μ) (enable : Bool) : VfAnsPci α μ × Env α μ :=
  let was := s.msiEnabled
  let s := { s with msiEnabled := enable }
  if s.msixEnabled then (s.syncAic e).2
  else
    let p :=
      if !was && enable then
        if s.intxPending then
          ({ s with msiPending := true, intxPending := false }.tryMsiMessageWrite e).2
        else (s, e)
      else if was && !enable then
        if s.msiPending then ({ s with intxPending := true, msiPending := false }, e) else (s, e)
      else (s, e)
    (p.1.syncAic p.2).2

def applyMsixEnable (s : VfAnsPci α μ) (e : Env α μ) (enable : Bool) : VfAnsPci α μ × Env α μ :=
  let was := s.msixEnabled
  let s := { s with msixEnabled := enable }
  let p :=
    if !was && enable then
      if s.intxPending || s.msiPending then
        ({ s with msixPending := true, intxPending := false, msiPending := false }, e)
      else (s, e)
    else if was && !enable then
      if s.msixPending then
        let s := { s with msixPending := false }
        if s.msiEnabled then
          ({ s with msiPending := true, intxPending := false }.tryMsiMessageWrite e).2
        else ({ s with intxPending := true }, e)
      else (s, e)
    else (s, e)
  (p.1.syncAic p.2).2

def setIrq (s : VfAnsPci α μ) (e : Env α μ) (level : Bool) : VfAnsPci α μ × Env α μ :=
  let p :=
    if s.msixEnabled then
      ({ s with msixPending := level, intxPending := false, msiPending := false }, e)
    else if s.msiEnabled then
      let s := { s with msiPending := level, intxPending := false, msixPending := false }
      if level then (s.tryMsiMessageWrite e).2 else (s, e)
    else
      ({ s with intxPending := level, msiPending := false, msixPending := false }, e)
  (p.1.syncAic p.2).2

def busMasterEnabled (s : VfAnsPci α μ) : Bool := decide (s.command &&& commandMaster ≠ 0#16)

def enableMemoryBusMaster (s : VfAnsPci α μ) : VfAnsPci α μ := { s with command := s.command ||| commandEnableMask }

def bindMsiGpa (s : VfAnsPci α μ) (mem : Option Span) (base : U64) : Option (VfAnsPci α μ) :=
  match mem with
  | none => some { s with msiGpa := none, msiMessageWritten := false }
  | some span => if h : 2 ≤ span.len then some { s with msiGpa := some ⟨⟨span, h⟩, base⟩ } else none

def bindMsiMessage (s : VfAnsPci α μ) (fn : Option (μ → U64 → U16 → Bool × μ)) : VfAnsPci α μ :=
  { s with
    msiMessageFn := fn
    msiMessageWritten := if fn.isNone && s.msiGpa.isNone then false else s.msiMessageWritten }

def bindAic (s : VfAnsPci α μ) (e : Env α μ) (fn : Option (α → ℕ → Bool → Bool × α)) :
    Bool × VfAnsPci α μ × Env α μ :=
  let s := { s with aicFn := fn }
  match fn with
  | none => (true, { s with aicSyncSeen := false, aicLineHigh := false }, e)
  | some _ => s.syncAic e

def read (s : VfAnsPci α μ) (offset width : ℕ) : Option U64 :=
  if mmioSize ≤ offset then none
  else if offset = mmioStatus then if width = 32 then some (s.status.zeroExtend 64) else none
  else if offset = mmioFlags then if width = 32 then some (s.flags.zeroExtend 64) else none
  else if offset = mmioTier then if width = 32 then some (tierHost.zeroExtend 64) else none
  else if offset = mmioIoportSize then if width = 32 then some ioportSize else none
  else if offset = mmioMmcfgSize then if width = 32 then some mmcfgSize else none
  else if offset = mmioConfig then if width = 64 then some (s.command.zeroExtend 64) else none
  else if offset = mmioMsiCtrl then if width = 32 then some (if s.msiEnabled then msiEnable else 0#64) else none
  else if offset = mmioMsiAddr then if width = 64 then some s.msiAddr else none
  else if offset = mmioMsiData then if width = 32 then some (s.msiData.zeroExtend 64) else none
  else if offset = mmioMsixCtrl then if width = 32 then some (if s.msixEnabled then msixEnable else 0#64) else none
  else if offset = mmioMsixTableBir then if width = 32 then some (s.msixTableBir.zeroExtend 64) else none
  else none

def write (s : VfAnsPci α μ) (e : Env α μ) (offset width : ℕ) (value : U64) : Option (VfAnsPci α μ × Env α μ) :=
  if offset = mmioConfig then
    if width = 64 then
      some ({ s with
        lastConfigWrite := value
        configWriteSeen := true
        command := value.truncate 16 &&& commandEnableMask }, e)
    else none
  else if offset = mmioMsiCtrl then
    if width = 32 then some (s.applyMsiEnable e (decide (value &&& msiEnable ≠ 0#64))) else none
  else if offset = mmioMsiAddr then if width = 64 then some ({ s with msiAddr := value }, e) else none
  else if offset = mmioMsiData then if width = 32 then some ({ s with msiData := value.truncate 16 }, e) else none
  else if offset = mmioMsixCtrl then
    if width = 32 then some (s.applyMsixEnable e (decide (value &&& msixEnable ≠ 0#64))) else none
  else if offset = mmioMsixTableBir then
    if width = 32 then some ({ s with msixTableBir := (value &&& msixBirMask).truncate 8 }, e) else none
  else none

end VfAnsPci

end Nextcore.Device
