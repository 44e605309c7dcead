import Nextcore.Lib.Bytes

/-! The bounded recovery envelope of `m1.rs`. -/

namespace Nextcore.Preos.M1

open Bytes

abbrev maxRecoveryPayload : ℕ := 1024
abbrev recoveryHeaderBytes : ℕ := 20

inductive M1RecoveryFault
  | shortFrame
  | badMagic
  | badLength
  | badChecksum
  | sequence
  | payloadTooLarge
  | outputTooSmall
  deriving DecidableEq, Repr

structure M1RecoveryTransport where
  expectedSequence : U32
  lastSequence : U32
  flags : U32
  payload : Vector Byte 1024
  payloadLen : ℕ
  ready : Bool
  signatureVerified : Bool
  deriving DecidableEq, Repr

-- the bytes of VFR1, little-endian
def recoveryMagic : U32 := (leValue [0x56#8, 0x46#8, 0x52#8, 0x31#8]).truncate 32

def putU32 (destination : List Byte) (i : ℕ) (value : U32) : List Byte :=
  blit destination i (leBytes (value.zeroExtend 64) 4)

def readU32 (source : List Byte) (i : ℕ) : U32 := (loadLe source i 4).truncate 32

def crc32 (bytes : List Byte) : U32 :=
  ~~~bytes.foldl (fun crc byte =>
    (List.range 8).foldl (fun crc _ =>
      let mask := 0#32 - (crc &&& 1#32)
      (crc >>> 1) ^^^ (0xedb88320#32 &&& mask)) (crc ^^^ byte.zeroExtend 32)) 0xffffffff#32

def overwrite (buffer : Vector Byte 1024) (bytes : List Byte) : Vector Byte 1024 :=
  Vector.ofFn fun i => (bytes[i.val]?).getD (buffer.get i)

namespace M1RecoveryTransport

def reset : M1RecoveryTransport := ⟨0#32, 0#32, 0#32, Vector.replicate 1024 0#8, 0, false, false⟩

/-- The result and the output buffer; a refused encoding writes nothing. -/
def encode (sequence flags : U32) (payload output : List Byte) : Except M1RecoveryFault ℕ × List Byte :=
  if maxRecoveryPayload < payload.length then (.error .payloadTooLarge, output) else
  let total := recoveryHeaderBytes + payload.length
  if output.length < total then (.error .outputTooSmall, output) else
  let output := putU32 output 0 recoveryMagic
  let output := putU32 output 4 sequence
  let output := putU32 output 8 flags
  let output := putU32 output 12 (BitVec.ofNat 32 payload.length)
  let output := putU32 output 16 (crc32 payload)
  (.ok total, blit output recoveryHeaderBytes payload)

def ingest (t : M1RecoveryTransport) (frame : List Byte) : Except M1RecoveryFault ℕ × M1RecoveryTransport :=
  if frame.length < recoveryHeaderBytes then (.error .shortFrame, t) else
  if readU32 frame 0 ≠ recoveryMagic then (.error .badMagic, t) else
  let sequence := readU32 frame 4
  let flags := readU32 frame 8
  let payloadLen := (readU32 frame 12).toNat
  if maxRecoveryPayload < payloadLen then (.error .payloadTooLarge, t) else
  let total := recoveryHeaderBytes + payloadLen
  if frame.length ≠ total then (.error .badLength, t) else
  let payload := slice frame recoveryHeaderBytes payloadLen
  if readU32 frame 16 ≠ crc32 payload then (.error .badChecksum, t) else
  if sequence ≠ t.expectedSequence then (.error .sequence, t) else
  let t := { t with payload := overwrite t.payload payload }
  let t := { t with payloadLen := payloadLen }
  let t := { t with flags := flags }
  let t := { t with lastSequence := sequence }
  let t := { t with expectedSequence := t.expectedSequence + 1#32 }
  let t := { t with ready := true }
  (.ok payloadLen, { t with signatureVerified := false })

def livePayload (t : M1RecoveryTransport) : List Byte := t.payload.toList.take t.payloadLen

end M1RecoveryTransport

end Nextcore.Preos.M1
