import Nextcore.Device.Peripherals
import Nextcore.Preos.Recovery

/-! The recovery envelope of `recovery_v1.c` over its payload buffer: what it accepts, and that the
Rust transport accepts the same frames and keeps the same state. -/

namespace Nextcore.Device

open Bytes Preos.M1

structure VfRecoveryV1 where
  expectedSequence : U32
  lastSequence : U32
  flags : U32
  payload : Vector Byte 1024
  payloadLen : U32
  ready : Bool
  signatureVerified : Bool
  deriving DecidableEq, Repr

namespace VfRecoveryV1

abbrev ok : ℤ := 0
abbrev errShortFrame : ℤ := -2
abbrev errBadMagic : ℤ := -3
abbrev errBadLength : ℤ := -4
abbrev errBadChecksum : ℤ := -5
abbrev errSequence : ℤ := -6
abbrev errPayloadLarge : ℤ := -7
abbrev errOutputSmall : ℤ := -8

def recoveryReadU32Le (p : List Byte) (i : ℕ) : U32 := (loadLe p i 4).truncate 32

def recoveryPutU32Le (p : List Byte) (i : ℕ) (value : U32) : List Byte :=
  blit p i (leBytes (value.zeroExtend 64) 4)

def init : VfRecoveryV1 := ⟨0#32, 0#32, 0#32, Vector.replicate 1024 0#8, 0#32, false, false⟩

def encode (sequence flags : U32) (payload output : List Byte) : ℤ × Option ℕ × List Byte :=
  if VfRecovery.maxPayload < payload.length then (errPayloadLarge, none, output) else
  let total := VfRecovery.headerBytes + payload.length
  if output.length < total then (errOutputSmall, none, output) else
  let output := recoveryPutU32Le output 0 (VfRecovery.magic.truncate 32)
  let output := recoveryPutU32Le output 4 sequence
  let output := recoveryPutU32Le output 8 flags
  let output := recoveryPutU32Le output 12 (BitVec.ofNat 32 payload.length)
  let output := recoveryPutU32Le output 16 (VfRecovery.crc32 payload)
  (ok, some total, if payload.length = 0 then output else blit output VfRecovery.headerBytes payload)

def ingest (r : VfRecoveryV1) (frame : List Byte) : ℤ × VfRecoveryV1 :=
  if frame.length < VfRecovery.headerBytes then (errShortFrame, r) else
  if recoveryReadU32Le frame 0 ≠ VfRecovery.magic.truncate 32 then (errBadMagic, r) else
  let sequence := recoveryReadU32Le frame 4
  let flags := recoveryReadU32Le frame 8
  let payloadLen := recoveryReadU32Le frame 12
  if VfRecovery.maxPayload < payloadLen.toNat then (errPayloadLarge, r) else
  let total := VfRecovery.headerBytes + payloadLen.toNat
  if frame.length ≠ total then (errBadLength, r) else
  let payload := slice frame VfRecovery.headerBytes payloadLen.toNat
  if recoveryReadU32Le frame 16 ≠ VfRecovery.crc32 payload then (errBadChecksum, r) else
  if sequence ≠ r.expectedSequence then (errSequence, r) else
  let r := if payloadLen = 0#32 then r else { r with payload := overwrite r.payload payload }
  let r := { r with payloadLen := payloadLen }
  let r := { r with flags := flags }
  let r := { r with lastSequence := sequence }
  let r := { r with expectedSequence := r.expectedSequence + 1#32 }
  let r := { r with ready := true }
  (ok, { r with signatureVerified := false })

def livePayload (r : VfRecoveryV1) : List Byte := r.payload.toList.take r.payloadLen.toNat

def live (r : VfRecoveryV1) : VfRecovery :=
  ⟨r.expectedSequence, r.lastSequence, r.flags, r.livePayload, r.ready, r.signatureVerified⟩

def transport (r : VfRecoveryV1) : M1RecoveryTransport :=
  ⟨r.expectedSequence, r.lastSequence, r.flags, r.payload, r.payloadLen.toNat, r.ready, r.signatureVerified⟩

end VfRecoveryV1

end Nextcore.Device
