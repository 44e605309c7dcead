import Nextcore.Device.Envelope
import Nextcore.Lib.Crc

/-! The checksum of the recovery envelope sees every burst: a frame whose payload is changed within 32 consecutive bits
is not accepted. -/

namespace Nextcore.Device

open Bytes Preos.M1

def crcPolynomial : U32 := 0xedb88320#32

def payloadBit (payload : List Byte) (k : ℕ) : Bool := (payload.getD (k / 8) 0#8).getLsbD (k % 8)

structure Burst (payload changed : List Byte) : Prop where
  length : changed.length = payload.length
  differs : changed ≠ payload
  confined : ∃ first, ∀ k, k < first ∨ first + 32 ≤ k → payloadBit changed k = payloadBit payload k

def BurstFrame (frame changed : List Byte) : Prop :=
  changed.take recoveryHeaderBytes = frame.take recoveryHeaderBytes ∧
    Burst (frame.drop recoveryHeaderBytes) (changed.drop recoveryHeaderBytes)

lemma crc32Bit_eq_shift (crc : U32) : VfRecovery.crc32Bit crc = Crc.shift crcPolynomial crc := by
  have hlow : crc &&& 1#32 = if crc.getLsbD 0 then 1#32 else 0#32 := by
    rw [BitVec.and_one_eq_setWidth_ofBool_getLsbD]
    cases crc.getLsbD 0 <;> rfl
  rw [VfRecovery.crc32Bit, Crc.shift, hlow]
  cases crc.getLsbD 0 <;> rfl

lemma crc32_eq_feed (payload : List Byte) :
    crc32 payload = ~~~Crc.feed crcPolynomial 0xffffffff#32 (payload.flatMap Crc.bits) := by
  have hstep : VfRecovery.crc32Bit = Crc.shift crcPolynomial := funext crc32Bit_eq_shift
  rw [← crc32_eq, VfRecovery.crc32, hstep, Crc.feed_flatMap_bits (by decide)]

lemma flatMap_bits_injective {payload changed : List Byte} (hlen : changed.length = payload.length)
    (h : changed.flatMap Crc.bits = payload.flatMap Crc.bits) : changed = payload := by
  apply List.ext_getElem hlen
  intro i hi hi'
  apply BitVec.eq_of_getLsbD_eq
  intro b hb
  have hbit := congrArg (List.getD · (8 * i + b) false) h
  simp only [Crc.getD_flatMap_bits (show 0 < 8 by decide), show (8 * i + b) / 8 = i by omega,
    show (8 * i + b) % 8 = b by omega, List.getD_eq_getElem _ _ hi, List.getD_eq_getElem _ _ hi'] at hbit
  exact hbit

lemma crc32_burst {payload changed : List Byte} (h : Burst payload changed) : crc32 changed ≠ crc32 payload := by
  obtain ⟨hlen, hne, first, hconfined⟩ := h
  rw [crc32_eq_feed, crc32_eq_feed]
  intro heq
  have hbits : (changed.flatMap Crc.bits).length = (payload.flatMap Crc.bits).length := by
    simp [List.length_flatMap, hlen]
  have houtside : ∀ k, k < first ∨ first + 32 ≤ k →
      (changed.flatMap Crc.bits).getD k false = (payload.flatMap Crc.bits).getD k false := by
    intro k hk
    rw [Crc.getD_flatMap_bits (by decide), Crc.getD_flatMap_bits (by decide)]
    exact hconfined k hk
  exact Crc.feed_window (by decide) 0xffffffff#32 hbits (fun h => hne (flatMap_bits_injective hlen h)) houtside
    (BitVec.not_inj.mp heq)

lemma readU32_take {frame changed : List Byte} (h : changed.take recoveryHeaderBytes = frame.take recoveryHeaderBytes)
    {i : ℕ} (hi : i + 4 ≤ 20) : readU32 changed i = readU32 frame i := by
  have hslice (f : List Byte) : slice f i 4 = slice (f.take 20) i 4 := by
    rw [slice, slice, List.drop_take, List.take_take, Nat.min_eq_left (by omega)]
  have h' : changed.take 20 = frame.take 20 := h
  rw [readU32, readU32, loadLe, loadLe, hslice changed, hslice frame, h']

lemma ingest_burst {expected : U32} {frame changed : List Byte} (hframe : WellFramed expected frame)
    (h : BurstFrame frame changed) (t : M1RecoveryTransport) : t.ingest changed = (.error .badChecksum, t) := by
  obtain ⟨hheader, hburst⟩ := h
  have hlen : changed.length = frame.length := by
    have hhead := congrArg List.length hheader
    have htail := hburst.length
    rw [List.length_take, List.length_take] at hhead
    rw [List.length_drop, List.length_drop] at htail
    have := hframe.header
    omega
  have hslice (f : List Byte) (hf : f.length = frame.length) :
      slice f recoveryHeaderBytes (readU32 frame 12).toNat = f.drop recoveryHeaderBytes := by
    rw [slice, List.take_of_length_le]
    rw [List.length_drop, hf, hframe.length]
    omega
  have hchecksum : readU32 frame 16 ≠ crc32 (changed.drop recoveryHeaderBytes) := by
    rw [hframe.checksum, hslice frame rfl]
    exact (crc32_burst hburst).symm
  have hword {i : ℕ} (hi : i + 4 ≤ 20) : readU32 changed i = readU32 frame i := readU32_take hheader hi
  rw [M1RecoveryTransport.ingest, hlen, hword (i := 0) (by decide), hword (i := 4) (by decide),
    hword (i := 8) (by decide), hword (i := 12) (by decide), hword (i := 16) (by decide), if_neg (Nat.not_lt.mpr hframe.header),
    if_neg (not_not.mpr hframe.magic)]
  simp only
  rw [if_neg (Nat.not_lt.mpr hframe.bounded), if_neg (not_not.mpr hframe.length), hslice changed hlen, if_pos hchecksum]

/-- After an accepted frame is changed within 32 consecutive bits of its payload, both implementations refuse it for
its checksum and keep their record; the checksums of the two payloads differ. -/
theorem recovery_burst :
    (∀ t frame changed, acceptsTransport t frame = true → BurstFrame frame changed →
      ∀ t' : M1RecoveryTransport, t'.ingest changed = (.error .badChecksum, t')) ∧
    (∀ r frame changed, acceptsV1 r frame = true → BurstFrame frame changed →
      ∀ r' : VfRecoveryV1, r'.ingest changed = (VfRecoveryV1.errBadChecksum, r')) ∧
    ∀ payload changed, Burst payload changed →
      crc32 changed ≠ crc32 payload ∧ VfRecovery.crc32 changed ≠ VfRecovery.crc32 payload := by
  refine ⟨fun t frame changed ht h => ingest_burst ((acceptsTransport_iff t frame).mp ht) h, ?_, fun _ _ h => ?_⟩
  · intro r frame changed hr h r'
    rw [acceptsV1_eq] at hr
    have hrefused := ingest_burst ((acceptsTransport_iff _ frame).mp hr) h r'.transport
    obtain ⟨hstatus, hrecord⟩ := ingest_transport r' changed
    rw [hrefused] at hstatus hrecord
    exact Prod.ext hstatus (transport_injective hrecord)
  · rw [crc32_eq, crc32_eq]
    exact ⟨crc32_burst h, crc32_burst h⟩

-- eight bytes of a payload, and the same with bits 12 to 43 set
theorem recovery_burst_bit :
    acceptsTransport .reset (envelope 0#32 0#32 (List.replicate 8 0#8)) = true ∧
      M1RecoveryTransport.reset.ingest ((envelope 0#32 0#32 (List.replicate 8 0#8)).take recoveryHeaderBytes ++
        [0#8, 0xf0#8, 0xff#8, 0xff#8, 0xff#8, 0x0f#8, 0#8, 0#8]) = (.error .badChecksum, .reset) := by
  have haccepts : acceptsTransport .reset (envelope 0#32 0#32 (List.replicate 8 0#8)) = true :=
    (acceptsTransport_iff _ _).mpr (wellFramed_envelope 0#32 0#32 (by decide))
  have hheader : ((envelope 0#32 0#32 (List.replicate 8 0#8)).take recoveryHeaderBytes).length = recoveryHeaderBytes := by
    rw [List.length_take, length_envelope]
    rfl
  have hburst : Burst (List.replicate 8 0#8) [0#8, 0xf0#8, 0xff#8, 0xff#8, 0xff#8, 0x0f#8, 0#8, 0#8] := by
    refine ⟨rfl, by decide, 12, ?_⟩
    have hinside : ∀ k < 64, k < 12 ∨ 12 + 32 ≤ k →
        payloadBit [0#8, 0xf0#8, 0xff#8, 0xff#8, 0xff#8, 0x0f#8, 0#8, 0#8] k = payloadBit (List.replicate 8 0#8) k := by
      decide +kernel
    intro k hk
    by_cases hin : k < 64
    · exact hinside k hin hk
    · have hpast : 8 ≤ k / 8 := by omega
      rw [payloadBit, payloadBit, List.getD_eq_default _ _ hpast, List.getD_eq_default _ _ hpast]
  refine ⟨haccepts, recovery_burst.1 _ _ _ haccepts ⟨?_, ?_⟩ _⟩
  · rw [List.take_left' hheader]
  · rwa [List.drop_left' hheader, drop_header]

end Nextcore.Device
