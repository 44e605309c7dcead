import Nextcore.Device.AnsPci

/-! The devices behind the bridge that have an interrupt line of their own: timer,
storage, recovery envelope, display, SEP mailbox and serial port. -/

namespace Nextcore.Device

structure VfTimer where
  frequency : U64
  counter : U64
  compare : U64
  ctl : U32
  deriving DecidableEq, Repr

namespace VfTimer

abbrev frequencyHz : U64 := 24000000#64
abbrev mmioCounter : ℕ := 0x000
abbrev mmioCompare : ℕ := 0x008
abbrev mmioCtl : ℕ := 0x010
abbrev mmioFrequency : ℕ := 0x018
abbrev ctlEnable : U32 := 1#32
abbrev ctlMasked : U32 := 2#32
abbrev ctlWritableMask : U32 := 3#32

def init : VfTimer := ⟨frequencyHz, 0#64, 0#64, 0#32⟩

def advance (t : VfTimer) (ticks : U64) : VfTimer :=
  { t with counter := if BitVec.allOnes 64 - ticks < t.counter then BitVec.allOnes 64 else t.counter + ticks }

def irqPending (t : VfTimer) : Bool :=
  if t.ctl &&& ctlEnable = 0#32 then false
  else if t.ctl &&& ctlMasked ≠ 0#32 then false
  else decide (t.compare ≤ t.counter)

def read (t : VfTimer) (offset width : ℕ) : Option U64 :=
  if offset = mmioCounter then if width = 64 then some t.counter else none
  else if offset = mmioCompare then if width = 64 then some t.compare else none
  else if offset = mmioCtl then if width = 32 then some ((t.ctl &&& ctlWritableMask).zeroExtend 64) else none
  else if offset = mmioFrequency then if width = 64 then some t.frequency else none
  else none

def write (t : VfTimer) (offset width : ℕ) (value : U64) : Option VfTimer :=
  if offset = mmioCompare then if width = 64 then some { t with compare := value } else none
  else if offset = mmioCtl then
    if width ≠ 32 then none
    else if value &&& ~~~ctlWritableMask.zeroExtend 64 ≠ 0#64 then none
    else some { t with ctl := value.truncate 32 &&& ctlWritableMask }
  else none

end VfTimer

structure VfStorage where
  attached : Bool
  readOnly : Bool
  blockCount : U64
  generation : U32
  deriving DecidableEq, Repr

namespace VfStorage

abbrev blockBytes : U64 := 4096#64
abbrev mmioStatus : ℕ := 0x000
abbrev mmioBlockCount : ℕ := 0x008
abbrev mmioGeneration : ℕ := 0x010

def init : VfStorage := ⟨false, false, 0#64, 0#32⟩

def attach (s : VfStorage) (blockCount : U64) (readOnly : Bool) : Option VfStorage :=
  if blockCount = 0#64 then none
  else if blockCount * blockBytes / blockBytes ≠ blockCount then none
  else some ⟨true, readOnly, blockCount, if s.generation < BitVec.allOnes 32 then s.generation + 1#32 else s.generation⟩

def detach (s : VfStorage) : VfStorage := { s with attached := false, readOnly := false, blockCount := 0#64 }

def irqPending (s : VfStorage) : Bool := s.attached

def read (s : VfStorage) (offset width : ℕ) : Option U64 :=
  if width ≠ 64 then none
  else if offset = mmioStatus then
    some ((if s.attached then 1#64 else 0#64) ||| if s.readOnly then 2#64 else 0#64)
  else if offset = mmioBlockCount then some s.blockCount
  else if offset = mmioGeneration then some (s.generation.zeroExtend 64)
  else none

end VfStorage

structure VfRecovery where
  expectedSequence : U32
  lastSequence : U32
  flags : U32
  payload : List Byte
  ready : Bool
  signatureVerified : Bool
  deriving DecidableEq, Repr

namespace VfRecovery

abbrev maxPayload : ℕ := 1024
abbrev headerBytes : ℕ := 20
abbrev magic : U64 := 0x31524656#64
abbrev mmioStatus : ℕ := 0x000
abbrev mmioLastSequence : ℕ := 0x004
abbrev mmioPayloadLen : ℕ := 0x008

def crc32Bit (crc : U32) : U32 := (crc >>> 1) ^^^ (0xedb88320#32 &&& (0#32 - (crc &&& 1#32)))

def crc32 (bytes : List Byte) : U32 :=
  ~~~bytes.foldl (fun crc b => crc32Bit^[8] (crc ^^^ b.zeroExtend 32)) 0xffffffff#32

inductive IngestError
  | shortFrame
  | badMagic
  | payloadLarge
  | badLength
  | badChecksum
  | sequence
  deriving DecidableEq, Repr

def init : VfRecovery := ⟨0#32, 0#32, 0#32, [], false, false⟩

def ingest (r : VfRecovery) (frame : List Byte) : Except IngestError VfRecovery :=
  if frame.length < headerBytes then .error .shortFrame
  else if Bytes.loadLe frame 0 4 ≠ magic then .error .badMagic
  else
    let sequence : U32 := (Bytes.loadLe frame 4 4).truncate 32
    let flags : U32 := (Bytes.loadLe frame 8 4).truncate 32
    let payloadLen := (Bytes.loadLe frame 12 4).toNat
    if maxPayload < payloadLen then .error .payloadLarge
    else if frame.length ≠ headerBytes + payloadLen then .error .badLength
    else
      let payload := frame.drop headerBytes
      if (Bytes.loadLe frame 16 4).truncate 32 ≠ crc32 payload then .error .badChecksum
      else if sequence ≠ r.expectedSequence then .error .sequence
      else .ok ⟨r.expectedSequence + 1#32, sequence, flags, payload, true, false⟩

def clearReady (r : VfRecovery) : VfRecovery := { r with ready := false }

def irqPending (r : VfRecovery) : Bool := r.ready

def read (r : VfRecovery) (offset width : ℕ) : Option U64 :=
  if width ≠ 32 then none
  else if offset = mmioStatus then
    some ((if r.ready then 1#64 else 0#64) ||| if r.signatureVerified then 2#64 else 0#64)
  else if offset = mmioLastSequence then some (r.lastSequence.zeroExtend 64)
  else if offset = mmioPayloadLen then some (BitVec.ofNat 64 r.payload.length)
  else none

end VfRecovery

structure VfAdpDisplay where
  flags : U32
  width : U32
  height : U32
  stride : U32
  guestAddress : U64
  backingBytes : U64
  frameCount : U64
  generation : U32
  vblankPending : Bool
  deriving DecidableEq, Repr

namespace VfAdpDisplay

abbrev flagPresent : U32 := 1#32
abbrev flagConfigured : U32 := 2#32
abbrev flagEnabled : U32 := 4#32
abbrev flagPresented : U32 := 8#32
abbrev flagVblankPending : U32 := 16#32
abbrev maxWidth : U32 := 8192#32
abbrev maxHeight : U32 := 8192#32
abbrev mmioCtrl : ℕ := 0x000
abbrev mmioWidth : ℕ := 0x004
abbrev mmioHeight : ℕ := 0x008
abbrev mmioStride : ℕ := 0x00c
abbrev mmioFrameCount : ℕ := 0x010
abbrev mmioTier : ℕ := 0x014
abbrev mmioVblankAck : ℕ := 0x018
abbrev mmioGeneration : ℕ := 0x01c
abbrev tierL1Framebuffer : U64 := 1#64
abbrev ctrlDisable : U64 := 0#64
abbrev ctrlPresent : U64 := 1#64

def configured (s : VfAdpDisplay) : Bool := decide (s.flags &&& flagConfigured ≠ 0#32)

def refreshFlags (s : VfAdpDisplay) : VfAdpDisplay :=
  let f := flagPresent
  let f := if s.width ≠ 0#32 ∧ s.height ≠ 0#32 ∧ s.backingBytes ≠ 0#64 then f ||| flagConfigured else f
  let f := if s.flags &&& flagEnabled ≠ 0#32 then f ||| flagEnabled else f
  let f := if s.flags &&& flagPresented ≠ 0#32 then f ||| flagPresented else f
  { s with flags := if s.vblankPending then f ||| flagVblankPending else f }

def init : VfAdpDisplay := ⟨flagPresent, 0#32, 0#32, 0#32, 0#64, 0#64, 0#64, 0#32, false⟩

def configure (s : VfAdpDisplay) (guestAddress backingBytes : U64) (width height stride : U32) : Option VfAdpDisplay :=
  if guestAddress &&& 7#64 ≠ 0#64 ∨ backingBytes = 0#64 ∨ width = 0#32 ∨ height = 0#32 ∨ maxWidth < width ∨
      maxHeight < height then none
  else if stride < width * 4#32 then none
  else if backingBytes < stride.zeroExtend 64 * height.zeroExtend 64 then none
  else
    some (refreshFlags { s with
      guestAddress := guestAddress
      backingBytes := backingBytes
      width := width
      height := height
      stride := stride
      flags := s.flags &&& ~~~(flagEnabled ||| flagPresented)
      vblankPending := false
      generation := s.generation + 1#32 })

def present (s : VfAdpDisplay) : Option VfAdpDisplay :=
  if s.configured then
    some (refreshFlags { s with
      flags := s.flags ||| (flagEnabled ||| flagPresented)
      frameCount := s.frameCount + 1#64
      vblankPending := true })
  else none

def ackVblank (s : VfAdpDisplay) : VfAdpDisplay := refreshFlags { s with vblankPending := false }

def irqPending (s : VfAdpDisplay) : Bool := s.vblankPending

def read (s : VfAdpDisplay) (offset width : ℕ) : Option (U64 × VfAdpDisplay) :=
  if width ≠ 32 then none
  else if offset = mmioCtrl then some (s.refreshFlags.flags.zeroExtend 64, s.refreshFlags)
  else if offset = mmioWidth then some (s.width.zeroExtend 64, s)
  else if offset = mmioHeight then some (s.height.zeroExtend 64, s)
  else if offset = mmioStride then some (s.stride.zeroExtend 64, s)
  else if offset = mmioFrameCount then some ((s.frameCount.truncate 32 : U32).zeroExtend 64, s)
  else if offset = mmioTier then some (tierL1Framebuffer, s)
  else if offset = mmioGeneration then some (s.generation.zeroExtend 64, s)
  else none

def write (s : VfAdpDisplay) (offset width : ℕ) (value : U64) : Option VfAdpDisplay :=
  if width ≠ 32 then none
  else if offset = mmioCtrl then
    if value = ctrlDisable then some (refreshFlags { s with flags := s.flags &&& ~~~flagEnabled })
    else if value = ctrlPresent then s.present
    else none
  else if offset = mmioVblankAck then if value = 1#64 then some s.ackVblank else none
  else none

end VfAdpDisplay

structure SepMboxMsg where
  ep : U8
  tag : U8
  op : U8
  param : U8
  data : U32
  deriving DecidableEq, Repr

structure VfSepMailbox where
  status : U32
  flags : U32
  msgOut : U64
  replyPending : Bool
  deriving DecidableEq, Repr

namespace VfSepMailbox

abbrev tierL1Mailbox : U64 := 1#64
abbrev statusBootstrap : U32 := 1#32
abbrev epBootstrap : U8 := 255#8
abbrev opPing : U8 := 1#8
abbrev opGetStatus : U8 := 2#8
abbrev opPingAck : U8 := 101#8
abbrev opStatusReply : U8 := 102#8
abbrev opAnnounce : U8 := 210#8
abbrev opL1Reject : U8 := 0xfe#8
abbrev flagPresent : U32 := 1#32
abbrev flagReplyPending : U32 := 2#32
abbrev mmioStatus : ℕ := 0x000
abbrev mmioTier : ℕ := 0x004
abbrev mmioFlags : ℕ := 0x008
abbrev mmioMsgOut : ℕ := 0x010
abbrev mmioMsgIn : ℕ := 0x018

def packMsg (m : SepMboxMsg) : U64 := m.data ++ m.param ++ m.op ++ m.tag ++ m.ep

def unpackMsg (raw : U64) : SepMboxMsg :=
  ⟨raw.truncate 8, (raw >>> 8).truncate 8, (raw >>> 16).truncate 8, (raw >>> 24).truncate 8, (raw >>> 32).truncate 32⟩

def init : VfSepMailbox where
  status := statusBootstrap
  flags := flagPresent ||| flagReplyPending
  msgOut := packMsg ⟨epBootstrap, 0#8, opAnnounce, 0#8, statusBootstrap⟩
  replyPending := true

def irqPending (s : VfSepMailbox) : Bool := s.replyPending

def reply (s : VfSepMailbox) (m : SepMboxMsg) : SepMboxMsg :=
  if m.ep ≠ epBootstrap then ⟨m.ep, m.tag, opL1Reject, m.op, 0#32⟩
  else if m.op = opPing then ⟨epBootstrap, m.tag, opPingAck, 0#8, 0#32⟩
  else if m.op = opGetStatus then ⟨epBootstrap, m.tag, opStatusReply, 0#8, s.status⟩
  else ⟨epBootstrap, m.tag, opL1Reject, m.op, 0#32⟩

def handleMsg (s : VfSepMailbox) (msgIn : U64) : VfSepMailbox :=
  { s with
    msgOut := packMsg (s.reply (unpackMsg msgIn))
    replyPending := true
    flags := s.flags ||| flagReplyPending }

def read (s : VfSepMailbox) (offset width : ℕ) : Option (U64 × VfSepMailbox) :=
  if offset = mmioStatus then if width = 32 then some (s.status.zeroExtend 64, s) else none
  else if offset = mmioTier then if width = 32 then some (tierL1Mailbox, s) else none
  else if offset = mmioFlags then if width = 32 then some (s.flags.zeroExtend 64, s) else none
  else if offset = mmioMsgOut then
    if width = 64 then some (s.msgOut, { s with replyPending := false, flags := s.flags &&& ~~~flagReplyPending })
    else none
  else none

def write (s : VfSepMailbox) (offset width : ℕ) (value : U64) : Option VfSepMailbox :=
  if offset ≠ mmioMsgIn then none
  else if width ≠ 64 then none
  else some (s.handleMsg value)

end VfSepMailbox

/-- `vf_apple_uart_v1`, with the bytes that its receive buffer holds. The transmit
callback with its context is a value of `τ`. -/
structure VfAppleUart (τ : Type) where
  reg : ℕ → U32
  rxFifo : List Byte
  tx : Option τ
  irqPending : Bool
  room : rxFifo.length ≤ 16

namespace VfAppleUart

variable {τ : Type}

abbrev mmioSize : ℕ := 0x3c
abbrev regUfcon : ℕ := 0x0008
abbrev regUtrstat : ℕ := 0x0010
abbrev regUerstat : ℕ := 0x0014
abbrev regUfstat : ℕ := 0x0018
abbrev regUmstat : ℕ := 0x001c
abbrev regUtxh : ℕ := 0x0020
abbrev regUrxh : ℕ := 0x0024
abbrev utrstatTxEmpty : U32 := 4#32
abbrev utrstatTxBufferEmpty : U32 := 2#32
abbrev utrstatRxReady : U32 := 1#32
abbrev ufconFifoEnable : U32 := 1#32
abbrev ufconRxReset : U32 := 2#32

def idx (off : ℕ) : ℕ := off / 4

def outOfBounds (off width : ℕ) : Bool := decide (width ≠ 4 ∨ off % 4 ≠ 0 ∨ mmioSize ≤ off)

def setReg (u : VfAppleUart τ) (off : ℕ) (value : U32) : VfAppleUart τ :=
  { u with reg := Function.update u.reg (idx off) value }

def updateStatus (u : VfAppleUart τ) : VfAppleUart τ :=
  if u.rxFifo ≠ [] then u.setReg regUtrstat (u.reg (idx regUtrstat) ||| utrstatRxReady)
  else u.setReg regUtrstat (u.reg (idx regUtrstat) &&& ~~~utrstatRxReady)

def init (tx : Option τ) : VfAppleUart τ where
  reg := Function.update (fun _ => 0#32) (idx regUtrstat) (utrstatTxEmpty ||| utrstatTxBufferEmpty)
  rxFifo := []
  tx := tx
  irqPending := false
  room := by simp

def pushRx (u : VfAppleUart τ) (byte : Byte) : Option (VfAppleUart τ) :=
  if h : 16 ≤ u.rxFifo.length then none
  else
    let u : VfAppleUart τ := { u with rxFifo := u.rxFifo ++ [byte], room := by simp; omega }
    some { u.updateStatus with irqPending := true }

def popRx (u : VfAppleUart τ) : VfAppleUart τ :=
  { u with rxFifo := u.rxFifo.tail, room := by have := u.room; simp; omega }

def read (u : VfAppleUart τ) (off width : ℕ) : Option (U32 × VfAppleUart τ) :=
  if outOfBounds off width then none
  else if off = regUerstat then some (u.reg (idx off), u.setReg off 0#32)
  else if off = regUfstat then
    let value : U32 := BitVec.ofNat 32 u.rxFifo.length &&& 0xf#32
    some (if 16 ≤ u.rxFifo.length then value ||| (1#32 <<< 8) else value, u)
  else if off = regUrxh then
    if u.reg (idx regUfcon) &&& ufconFifoEnable ≠ 0#32 then
      match u.rxFifo.head? with
      | none => some (0#32, u)
      | some byte => some (byte.zeroExtend 32, u.popRx.updateStatus)
    else some (u.reg (idx regUrxh), u.updateStatus)
  else if off = regUtxh then none
  else some (u.reg (idx off), u)

def write (u : VfAppleUart τ) (off width : ℕ) (value : U32) : Option (VfAppleUart τ × Option (τ × Byte)) :=
  if outOfBounds off width then none
  else if off = regUfcon then
    let u := u.setReg off value
    if value &&& ufconRxReset ≠ 0#32 then
      let u : VfAppleUart τ := { u with rxFifo := [], room := by simp }
      let u := u.setReg off (u.reg (idx off) &&& ~~~ufconRxReset)
      some ({ u.updateStatus with irqPending := false }, none)
    else some (u, none)
  else if off = regUtxh then
    let status := u.reg (idx regUtrstat) ||| (utrstatTxEmpty ||| utrstatTxBufferEmpty)
    some ({ u.setReg regUtrstat status with irqPending := true }, u.tx.map (·, value.truncate 8))
  else if off = regUtrstat then
    some ({ u.setReg off (u.reg (idx off) &&& ~~~(value &&& utrstatTxEmpty)) with irqPending := false }, none)
  else if off = regUerstat then some (u.setReg off (u.reg (idx off) &&& ~~~value), none)
  else if off = regUfstat ∨ off = regUmstat ∨ off = regUrxh then none
  else some (u.setReg off value, none)

@[simp] lemma irqPending_setReg (u : VfAppleUart τ) (off : ℕ) (value : U32) : (u.setReg off value).irqPending = u.irqPending :=
  rfl

@[simp] lemma irqPending_updateStatus (u : VfAppleUart τ) : u.updateStatus.irqPending = u.irqPending := by
  rw [updateStatus]
  split_ifs <;> rfl

lemma irqPending_read {u u' : VfAppleUart τ} {off width : ℕ} {value : U32} (h : u.read off width = some (value, u')) :
    u'.irqPending = u.irqPending := by
  rw [read] at h
  cases hhead : u.rxFifo.head? with
  | none =>
    simp only [hhead] at h
    split_ifs at h <;> obtain ⟨-, rfl⟩ := Prod.mk.inj (Option.some.inj h) <;> simp
  | some byte =>
    simp only [hhead] at h
    split_ifs at h <;> obtain ⟨-, rfl⟩ := Prod.mk.inj (Option.some.inj h) <;> simp [popRx]

end VfAppleUart

namespace VfAdpDisplay

lemma irqPending_read {s s' : VfAdpDisplay} {offset width : ℕ} {value : U64}
    (h : s.read offset width = some (value, s')) : s'.irqPending = s.irqPending := by
  rw [read] at h
  split_ifs at h <;> obtain ⟨-, rfl⟩ := Prod.mk.inj (Option.some.inj h) <;> rfl

end VfAdpDisplay

namespace VfSepMailbox

lemma read_eq_self {s s' : VfSepMailbox} {offset width : ℕ} {value : U64} (hoff : offset ≠ mmioMsgOut)
    (h : s.read offset width = some (value, s')) : s' = s := by
  rw [read] at h
  split_ifs at h <;> exact (Prod.mk.inj (Option.some.inj h)).2.symm

end VfSepMailbox

end Nextcore.Device
