import Nextcore.Device.AnsPci
import Nextcore.Lib.Run

/-! `ans_v1.c`: the storage controller. Its registers and doorbells, the armed admin
Identify command and its completion, and the interrupt it gives to its endpoint. -/

namespace Nextcore.Device

namespace Ans

abbrev vendorSize : ℕ := 0x60000
abbrev nvmeAliasSize : ℕ := 0x1200
abbrev irqAdminCq : U32 := 1#32
abbrev regCapLo : ℕ := 0x0000
abbrev regCapHi : ℕ := 0x0004
abbrev regVs : ℕ := 0x0008
abbrev regIntms : ℕ := 0x000c
abbrev regIntmc : ℕ := 0x0010
abbrev regCc : ℕ := 0x0014
abbrev regCsts : ℕ := 0x001c
abbrev regAqa : ℕ := 0x0024
abbrev regAsqLo : ℕ := 0x0028
abbrev regAsqHi : ℕ := 0x002c
abbrev regAcqLo : ℕ := 0x0030
abbrev regAcqHi : ℕ := 0x0034
abbrev dbBase : ℕ := 0x1000
abbrev dbEnd : ℕ := 0x1200
abbrev regMaxPend : ℕ := 0x1210
abbrev regBootStatus : ℕ := 0x1300
abbrev regModesel : ℕ := 0x1304
abbrev regBaseCmdId : ℕ := 0x1308
abbrev regLinearSq : ℕ := 0x24908
abbrev capLoVal : U32 := 0x0f0107ff#32
abbrev capHiVal : U32 := 0x00401820#32
abbrev vsVal : U32 := 0x00010400#32
abbrev maxPendVal : U32 := 0x00400040#32
abbrev bootStatusOk : U32 := 0xde71ce55#32
abbrev baseCmdIdVal : U32 := 0x6000#32
abbrev ccEn : U32 := 1#32
abbrev cstsRdy : U32 := 1#32
abbrev dbValueMask : U32 := 0xffff#32
abbrev vendorSparseCap : ℕ := 48
abbrev idCnsNs : U8 := 0#8
abbrev idCnsCtrl : U8 := 1#8
abbrev opcIdentify : U8 := 6#8
abbrev idNsStubNsid : U64 := 1#64
abbrev prpPageMask : U64 := 0xfff#64

def idCtrlFields (isAppleAns : Bool) : List (ℕ × List Byte) :=
  [(77, [if isAppleAns then 8#8 else 7#8]), (80, Bytes.leBytes (vsVal.zeroExtend 64) 4), (111, [1#8]),
    (512, [if isAppleAns then 0x76#8 else 0x66#8]), (513, [0x44#8]), (516, Bytes.leBytes 16#64 4)]

def idNsFields : List (ℕ × List Byte) :=
  [(0, Bytes.leBytes 0#64 8), (8, Bytes.leBytes 0#64 8), (16, Bytes.leBytes 0#64 8), (25, [0#8]), (26, [0#8])]

end Ans

structure AdminIdentify where
  opcode : U8
  cns : U8
  buf : Window 4096
  cqBuf : Window 16

structure VfAns (ι : Type) where
  modesel : U32
  linearSq : U32
  baseCmdId : U32
  cc : U32
  csts : U32
  intm : U32
  irqStatus : U32
  aqa : U32
  asqLo : U32
  asqHi : U32
  acqLo : U32
  acqHi : U32
  doorbell : ℕ → U32
  vendorSparse : List (ℕ × U32)
  isAppleAns : Bool
  pci : Option ι
  mbox : Option Bool
  ascwrap : Option Bool
  autoboot : Option Bool
  adminId : Option AdminIdentify
  adminAsq : Option (Window 64)
  adminAcq : Option (Window 16)
  adminIdPrp1 : Option (Window 4096)
  adminIdPrp2 : Option (Window 4096)
  adminCqTail : U16
  adminCqPhase : U8

namespace VfAns

open Ans

variable {ι : Type}

def init : VfAns ι where
  modesel := 0#32
  linearSq := 0#32
  baseCmdId := baseCmdIdVal
  cc := 0#32
  csts := 0#32
  intm := 0#32
  irqStatus := 0#32
  aqa := 0#32
  asqLo := 0#32
  asqHi := 0#32
  acqLo := 0#32
  acqHi := 0#32
  doorbell := fun _ => 0#32
  vendorSparse := []
  isAppleAns := true
  pci := none
  mbox := none
  ascwrap := none
  autoboot := none
  adminId := none
  adminAsq := none
  adminAcq := none
  adminIdPrp1 := none
  adminIdPrp2 := none
  adminCqTail := 0#16
  adminCqPhase := 1#8

def outOfBounds (off width : ℕ) : Bool := decide (width ≠ 4 ∨ off % 4 ≠ 0 ∨ vendorSize ≤ off)

def dbIndex (off : ℕ) : Option ℕ := if off < dbBase ∨ dbEnd ≤ off ∨ off % 4 ≠ 0 then none else some ((off - dbBase) / 4)

def sparseFind (a : VfAns ι) (off : ℕ) : Option ℕ := a.vendorSparse.findIdx? fun slot => decide (slot.1 = off)

def sparseStore (a : VfAns ι) (off : ℕ) (value : U32) : Option (VfAns ι) :=
  match a.sparseFind off with
  | some idx => some { a with vendorSparse := a.vendorSparse.set idx (off, value) }
  | none =>
    if vendorSparseCap ≤ a.vendorSparse.length then none
    else some { a with vendorSparse := a.vendorSparse ++ [(off, value)] }

def sparseLoad (a : VfAns ι) (off : ℕ) : U32 := ((a.vendorSparse.find? fun slot => decide (slot.1 = off)).map Prod.snd).getD 0#32

def clearAdminIdentify (a : VfAns ι) : VfAns ι := { a with adminId := none }

def checkAdminAcqSlot (a : VfAns ι) : Bool :=
  match a.adminAcq with
  | none => true
  | some acq =>
    if a.acqLo ||| a.acqHi = 0#32 then false else !decide (acq.len < a.adminCqTail.toNat * 16 + 16)

def writeAdminAcqCqe (a : VfAns ι) (mem : HostMemory) (cqe : Span) : HostMemory :=
  match a.adminAcq with
  | none => mem
  | some acq =>
    let r := mem.load cqe 0 16
    r.2.store acq.toSpan (a.adminCqTail.toNat * 16) r.1

def irqCheck (a : VfAns ι) : Bool := decide (a.irqStatus &&& ~~~a.intm &&& irqAdminCq ≠ 0#32)

def adminCqPending (a : VfAns ι) : U16 := a.adminCqTail - (a.doorbell 1).truncate 16

/-- What a submission entry asks for: the first data pointer, when it is an Identify
of the armed shape whose pointers the bound pages can stand for. -/
def identifyEntry (a : VfAns ι) (sqe : List Byte) (expectOpcode expectCns : U8) : Option U64 :=
  let cdw0 := Bytes.loadLe sqe 0 4
  let opcode : U8 := cdw0.truncate 8
  let psdt := (cdw0 >>> 14) &&& 3#64
  let cns : U8 := (Bytes.loadLe sqe 40 1).truncate 8
  let nsid := Bytes.loadLe sqe 4 4
  let prp1 := Bytes.loadLe sqe 24 8
  let prp2 := Bytes.loadLe sqe 32 8
  if opcode ≠ expectOpcode ∨ cns ≠ expectCns then none
  else if psdt ≠ 0#64 then none
  else if prp1 = 0#64 then none
  else if expectCns = idCnsNs ∧ nsid ≠ idNsStubNsid then none
  else
    match a.adminIdPrp1 with
    | none => some prp1
    | some prp1Mem =>
      if prp1Mem.len < 4096 then none
      else if prp1 &&& prpPageMask = 0#64 then
        if prp2 ≠ 0#64 then none else some prp1
      else
        match a.adminIdPrp2 with
        | none => none
        | some prp2Mem =>
          if prp2Mem.len < 4096 then none
          else if prp2 = 0#64 then none
          else if prp2 &&& prpPageMask ≠ 0#64 then none
          else some prp1

def fetchAdminAsqIdentify (a : VfAns ι) (mem : HostMemory) (oldSqTail : U16) (expectOpcode expectCns : U8) :
    Option U64 × HostMemory :=
  match a.adminAsq with
  | none => (some 0#64, mem)
  | some asq =>
    if a.asqLo ||| a.asqHi = 0#32 then (none, mem)
    else if asq.len < oldSqTail.toNat * 64 + 64 then (none, mem)
    else
      let r := mem.load asq.toSpan (oldSqTail.toNat * 64) 64
      (a.identifyEntry r.1 expectOpcode expectCns, r.2)

def writeIdentifyPrp (a : VfAns ι) (mem : HostMemory) (buf : Span) (prp1 : U64) : HostMemory :=
  match a.adminIdPrp1 with
  | none => mem
  | some prp1Mem =>
    if prp1Mem.len < 4096 then mem
    else
      let prpOff := (prp1 &&& prpPageMask).toNat
      if prpOff = 0 then
        let r := mem.load buf 0 4096
        r.2.store prp1Mem.toSpan 0 r.1
      else
        match a.adminIdPrp2 with
        | none => mem
        | some prp2Mem =>
          if prp2Mem.len < 4096 then mem
          else
            let first := 4096 - prpOff
            if 4096 ≤ first then mem
            else
              let head := mem.load buf 0 first
              let mem := head.2.store prp1Mem.toSpan prpOff head.1
              let rest := mem.load buf first (4096 - first)
              rest.2.store prp2Mem.toSpan 0 rest.1

def read (a : VfAns ι) (off width : ℕ) : Option U32 :=
  if outOfBounds off width then none
  else
    match dbIndex off with
    | some dbi => some (a.doorbell dbi)
    | none =>
      if off = regCapLo then some capLoVal
      else if off = regCapHi then some capHiVal
      else if off = regVs then some vsVal
      else if off = regIntms ∨ off = regIntmc then some a.intm
      else if off = regCc then some a.cc
      else if off = regCsts then some a.csts
      else if off = regAqa then some a.aqa
      else if off = regAsqLo then some a.asqLo
      else if off = regAsqHi then some a.asqHi
      else if off = regAcqLo then some a.acqLo
      else if off = regAcqHi then some a.acqHi
      else if off = regMaxPend then some maxPendVal
      else if off = regBootStatus then some bootStatusOk
      else if off = regModesel then some a.modesel
      else if off = regBaseCmdId then some baseCmdIdVal
      else if off = regLinearSq then some a.linearSq
      else if nvmeAliasSize ≤ off then some (a.sparseLoad off)
      else some 0#32

def writeStored (a : VfAns ι) (off : ℕ) (value : U32) : Option (VfAns ι) :=
  if off = regCsts then some a
  else if off = regAqa then some { a with aqa := value }
  else if off = regAsqLo then some { a with asqLo := value }
  else if off = regAsqHi then some { a with asqHi := value }
  else if off = regAcqLo then some { a with acqLo := value }
  else if off = regAcqHi then some { a with acqHi := value }
  else if off = regModesel then some { a with modesel := value }
  else if off = regBaseCmdId then some { a with baseCmdId := value }
  else if off = regLinearSq then some { a with linearSq := value }
  else if off = regCapLo ∨ off = regCapHi ∨ off = regVs then some a
  else if off = regMaxPend ∨ off = regBootStatus then a.sparseStore off value
  else if nvmeAliasSize ≤ off then a.sparseStore off value
  else some a

def armAdminIdentify (a : VfAns ι) (opcode cns : U8) (buf cqBuf : Span) : Option (VfAns ι) :=
  if hbuf : buf.len < 4096 then none
  else if hcq : cqBuf.len < 16 then none
  else if opcode ≠ opcIdentify then none
  else if cns ≠ idCnsCtrl ∧ cns ≠ idCnsNs then none
  else some { a with adminId := some ⟨opcode, cns, ⟨buf, not_lt.mp hbuf⟩, ⟨cqBuf, not_lt.mp hcq⟩⟩ }

def admitWindow (least : ℕ) (mem : Option Span) : Option (Option (Window least)) :=
  match mem with
  | none => some none
  | some span => if h : least ≤ span.len then some (some ⟨span, h⟩) else none

def bindAdminAsq (a : VfAns ι) (mem : Option Span) : Option (VfAns ι) :=
  (admitWindow 64 mem).map fun adminAsq => { a with adminAsq }

def bindAdminAcq (a : VfAns ι) (mem : Option Span) : Option (VfAns ι) :=
  (admitWindow 16 mem).map fun adminAcq => { a with adminAcq }

def bindIdentifyPrp1 (a : VfAns ι) (mem : Option Span) : Option (VfAns ι) :=
  (admitWindow 4096 mem).map fun adminIdPrp1 => { a with adminIdPrp1 }

def bindIdentifyPrp2 (a : VfAns ι) (mem : Option Span) : Option (VfAns ι) :=
  (admitWindow 4096 mem).map fun adminIdPrp2 => { a with adminIdPrp2 }

end VfAns

structure AnsWorld (ι α μ : Type) extends Env α μ where
  ans : VfAns ι
  pci : ι → VfAnsPci α μ

namespace AnsWorld

open Ans

variable {ι α μ : Type} [DecidableEq ι]

def onPci (w : AnsWorld ι α μ) (i : ι) (r : VfAnsPci α μ × Env α μ) : AnsWorld ι α μ :=
  { w with toEnv := r.2, pci := Function.update w.pci i r.1 }

def syncPciIrq (w : AnsWorld ι α μ) : AnsWorld ι α μ :=
  match w.ans.pci with
  | none => w
  | some i => w.onPci i ((w.pci i).setIrq w.toEnv w.ans.irqCheck)

def postAdminIdentifyCqe (w : AnsWorld ι α μ) (cqBuf : Span) : AnsWorld ι α μ :=
  let dw2 := w.ans.doorbell 0 &&& dbValueMask
  let dw3 : U32 := (w.ans.adminCqPhase &&& 1#8).zeroExtend 32 <<< 16
  let mem := w.mem.store cqBuf 0 (List.replicate 16 0#8)
  let mem := mem.store cqBuf 8 (Bytes.leBytes (dw2.zeroExtend 64) 4)
  let mem := mem.store cqBuf 12 (Bytes.leBytes (dw3.zeroExtend 64) 4)
  let mem := w.ans.writeAdminAcqCqe mem cqBuf
  syncPciIrq { w with
    mem := mem
    ans := { w.ans with
      adminCqPhase := w.ans.adminCqPhase ^^^ 1#8
      adminCqTail := w.ans.adminCqTail + 1#16
      irqStatus := w.ans.irqStatus ||| irqAdminCq } }

def refreshAdminCqIrq (w : AnsWorld ι α μ) : AnsWorld ι α μ :=
  syncPciIrq { w with
    ans := { w.ans with
      irqStatus := if w.ans.adminCqPending = 0#16 then w.ans.irqStatus &&& ~~~irqAdminCq else w.ans.irqStatus } }

def identifyOpen (w : AnsWorld ι α μ) : Bool :=
  decide (w.ans.cc &&& ccEn ≠ 0#32) && decide (w.ans.csts &&& cstsRdy ≠ 0#32) &&
    (w.ans.pci.map fun i => (w.pci i).busMasterEnabled).getD true && w.ans.mbox.getD true && w.ans.ascwrap.getD true &&
      w.ans.autoboot.getD true

def identifyFill (mem : HostMemory) (buf : Span) (fields : List (ℕ × List Byte)) : HostMemory :=
  fields.foldl (fun mem field => mem.store buf field.1 field.2) (mem.store buf 0 (List.replicate 4096 0#8))

def identifyCnsCtrlDma (w : AnsWorld ι α μ) (cns : U8) (buf : Span) : Option HostMemory :=
  if buf.len < 4096 then none
  else if cns ≠ idCnsCtrl then none
  else if w.identifyOpen then some (identifyFill w.mem buf (idCtrlFields w.ans.isAppleAns))
  else none

def identifyCnsNsDma (w : AnsWorld ι α μ) (cns : U8) (buf : Span) : Option HostMemory :=
  if buf.len < 4096 then none
  else if cns ≠ idCnsNs then none
  else if w.identifyOpen then some (identifyFill w.mem buf idNsFields)
  else none

def tryAdminIdentifyOnDoorbell (w : AnsWorld ι α μ) (oldSqTail : U16) : AnsWorld ι α μ :=
  match w.ans.adminId with
  | none => w
  | some arm =>
    let w := { w with ans := w.ans.clearAdminIdentify }
    if arm.opcode ≠ opcIdentify then w
    else if arm.cns ≠ idCnsCtrl ∧ arm.cns ≠ idCnsNs then w
    else
      let fetched := w.ans.fetchAdminAsqIdentify w.mem oldSqTail arm.opcode arm.cns
      let w := { w with mem := fetched.2 }
      match fetched.1 with
      | none => w
      | some prp1 =>
        if !w.ans.checkAdminAcqSlot then w
        else
          let dma :=
            if arm.cns = idCnsCtrl then w.identifyCnsCtrlDma arm.cns arm.buf.toSpan
            else w.identifyCnsNsDma arm.cns arm.buf.toSpan
          match dma with
          | none => w
          | some mem =>
            postAdminIdentifyCqe { w with mem := w.ans.writeIdentifyPrp mem arm.buf.toSpan prp1 } arm.cqBuf.toSpan

def applyCcEnable (w : AnsWorld ι α μ) (cc : U32) : AnsWorld ι α μ :=
  syncPciIrq { w with
    ans :=
      if cc &&& ccEn ≠ 0#32 then { w.ans with cc := cc, csts := w.ans.csts ||| cstsRdy }
      else
        { w.ans with
          cc := cc
          csts := w.ans.csts &&& ~~~cstsRdy
          doorbell := fun _ => 0#32
          intm := 0#32
          irqStatus := 0#32
          adminCqTail := 0#16
          adminCqPhase := 1#8
          adminId := none } }

def bindPci (w : AnsWorld ι α μ) (pci : Option ι) : AnsWorld ι α μ :=
  let w :=
    match w.ans.pci with
    | none => w
    | some old => if pci = some old then w else w.onPci old ((w.pci old).setIrq w.toEnv false)
  syncPciIrq { w with ans := { w.ans with pci := pci } }

def write (w : AnsWorld ι α μ) (off width : ℕ) (value : U32) : Option (AnsWorld ι α μ) :=
  if VfAns.outOfBounds off width then none
  else
    match VfAns.dbIndex off with
    | some dbi =>
      let newv := value &&& dbValueMask
      let oldv := w.ans.doorbell dbi
      let w := { w with ans := { w.ans with doorbell := Function.update w.ans.doorbell dbi newv } }
      if dbi = 0 ∧ newv ≠ oldv ∧ w.ans.adminId.isSome then some (w.tryAdminIdentifyOnDoorbell (oldv.truncate 16))
      else if dbi = 1 then some w.refreshAdminCqIrq
      else some w
    | none =>
      if off = regIntms then some (syncPciIrq { w with ans := { w.ans with intm := w.ans.intm ||| value } })
      else if off = regIntmc then some (syncPciIrq { w with ans := { w.ans with intm := w.ans.intm &&& ~~~value } })
      else if off = regCc then some (w.applyCcEnable value)
      else (w.ans.writeStored off value).map fun ans => { w with ans }

end AnsWorld

/-- The calls on the controller and its endpoints; `outside` is what their surroundings
do on their own. -/
inductive AnsOp (ι α μ : Type)
  | ansRead (off width : ℕ)
  | ansWrite (off width : ℕ) (value : U32)
  | bindPci (pci : Option ι)
  | gates (mbox ascwrap autoboot : Option Bool)
  | setIsAppleAns (enabled : Bool)
  | arm (opcode cns : U8) (buf cqBuf : Span)
  | disarm
  | bindAdminAsq (mem : Option Span)
  | bindAdminAcq (mem : Option Span)
  | bindIdentifyPrp1 (mem : Option Span)
  | bindIdentifyPrp2 (mem : Option Span)
  | pciRead (i : ι) (off width : ℕ)
  | pciWrite (i : ι) (off width : ℕ) (value : U64)
  | pciSetIrq (i : ι) (level : Bool)
  | pciEnableMemoryBusMaster (i : ι)
  | pciBindMsiGpa (i : ι) (mem : Option Span) (base : U64)
  | pciBindMsiMessage (i : ι) (fn : Option (μ → U64 → U16 → Bool × μ))
  | pciBindAic (i : ι) (fn : Option (α → ℕ → Bool → Bool × α))
  | outside (change : Env α μ → Env α μ)

namespace AnsWorld

variable {ι α μ : Type} [DecidableEq ι]

def init (env : Env α μ) : AnsWorld ι α μ := { toEnv := env, ans := .init, pci := fun _ => .init }

def accept (w : AnsWorld ι α μ) (r : Option (AnsWorld ι α μ)) : Option U64 × AnsWorld ι α μ :=
  match r with
  | none => (none, w)
  | some w' => (some 0#64, w')

def onAns (w : AnsWorld ι α μ) (r : Option (VfAns ι)) : Option U64 × AnsWorld ι α μ :=
  w.accept (r.map fun ans => { w with ans })

def step (w : AnsWorld ι α μ) : AnsOp ι α μ → Option U64 × AnsWorld ι α μ
  | .ansRead off width => ((w.ans.read off width).map (BitVec.zeroExtend 64), w)
  | .ansWrite off width value => w.accept (w.write off width value)
  | .bindPci pci => w.accept (some (w.bindPci pci))
  | .gates mbox ascwrap autoboot => w.onAns (some { w.ans with mbox, ascwrap, autoboot })
  | .setIsAppleAns enabled => w.onAns (some { w.ans with isAppleAns := enabled })
  | .arm opcode cns buf cqBuf => w.onAns (w.ans.armAdminIdentify opcode cns buf cqBuf)
  | .disarm => w.onAns (some w.ans.clearAdminIdentify)
  | .bindAdminAsq mem => w.onAns (w.ans.bindAdminAsq mem)
  | .bindAdminAcq mem => w.onAns (w.ans.bindAdminAcq mem)
  | .bindIdentifyPrp1 mem => w.onAns (w.ans.bindIdentifyPrp1 mem)
  | .bindIdentifyPrp2 mem => w.onAns (w.ans.bindIdentifyPrp2 mem)
  | .pciRead i off width => ((w.pci i).read off width, w)
  | .pciWrite i off width value => w.accept (((w.pci i).write w.toEnv off width value).map (w.onPci i))
  | .pciSetIrq i level => w.accept (some (w.onPci i ((w.pci i).setIrq w.toEnv level)))
  | .pciEnableMemoryBusMaster i => w.accept (some (w.onPci i ((w.pci i).enableMemoryBusMaster, w.toEnv)))
  | .pciBindMsiGpa i mem base => w.accept (((w.pci i).bindMsiGpa mem base).map fun s => w.onPci i (s, w.toEnv))
  | .pciBindMsiMessage i fn => w.accept (some (w.onPci i ((w.pci i).bindMsiMessage fn, w.toEnv)))
  | .pciBindAic i fn =>
    let r := (w.pci i).bindAic w.toEnv fn
    (if r.1 then some 0#64 else none, w.onPci i r.2)
  | .outside change => (some 0#64, { w with toEnv := change w.toEnv })

end AnsWorld

end Nextcore.Device
