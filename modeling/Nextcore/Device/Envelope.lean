import Nextcore.Device.Recovery
import Nextcore.Lib.Run

/-! The two recovery envelopes accept exactly what they encode, and they are one machine. -/

namespace Nextcore.Device

open Bytes Preos.M1

def u32Bytes (value : U32) : List Byte := leBytes (value.zeroExtend 64) 4

@[simp] lemma length_u32Bytes (value : U32) : (u32Bytes value).length = 4 := length_leBytes _ _

def envelope (sequence flags : U32) (payload : List Byte) : List Byte :=
  u32Bytes recoveryMagic ++ (u32Bytes sequence ++ (u32Bytes flags ++ (u32Bytes (BitVec.ofNat 32 payload.length) ++
    (u32Bytes (crc32 payload) ++ payload))))

lemma readU32_head (value : U32) (rest : List Byte) : readU32 (u32Bytes value ++ rest) 0 = value := by
  have hslice : slice (u32Bytes value ++ rest) 0 4 = u32Bytes value := by
    have h := slice_append (a := []) (b := u32Bytes value) (c := rest) (i := 0) (n := 4) rfl (length_u32Bytes value).symm
    simpa using h
  rw [readU32, loadLe, hslice]
  exact leValue_leBytes (by omega) (by omega) value

lemma readU32_drop (frame : List Byte) (i k : ℕ) : readU32 (frame.drop k) i = readU32 frame (k + i) := by
  rw [readU32, readU32, loadLe, loadLe, slice, slice, List.drop_drop]

lemma readU32_tail (value : U32) (rest : List Byte) (i : ℕ) : readU32 (u32Bytes value ++ rest) (4 + i) = readU32 rest i := by
  rw [← readU32_drop, List.drop_left' (length_u32Bytes value)]

lemma u32Bytes_readU32 {frame : List Byte} (h : 4 ≤ frame.length) :
    u32Bytes (readU32 frame 0) ++ frame.drop 4 = frame := by
  have hlen : (frame.take 4).length = 4 := by rw [List.length_take]; omega
  have hlt : (leValue (frame.take 4)).toNat < 2 ^ 32 := by
    have := leValue_lt (frame.take 4)
    rwa [hlen] at this
  have hback : ((leValue (frame.take 4)).truncate 32).zeroExtend 64 = leValue (frame.take 4) := by
    apply BitVec.eq_of_toNat_eq
    simp only [BitVec.truncate_eq_setWidth, BitVec.toNat_setWidth]
    omega
  have hhead : u32Bytes (readU32 frame 0) = frame.take 4 := by
    rw [u32Bytes, readU32, loadLe, slice, List.drop_zero, hback]
    have h : leBytes (leValue (frame.take 4)) (frame.take 4).length = frame.take 4 := leBytes_leValue (by omega)
    rwa [hlen] at h
  rw [hhead, List.take_append_drop]

structure WellFramed (expected : U32) (frame : List Byte) : Prop where
  header : recoveryHeaderBytes ≤ frame.length
  magic : readU32 frame 0 = recoveryMagic
  bounded : (readU32 frame 12).toNat ≤ maxRecoveryPayload
  length : frame.length = recoveryHeaderBytes + (readU32 frame 12).toNat
  checksum : readU32 frame 16 = crc32 (slice frame recoveryHeaderBytes (readU32 frame 12).toNat)
  sequence : readU32 frame 4 = expected

lemma toNat_ofNat_length {payload : List Byte} (h : payload.length ≤ maxRecoveryPayload) :
    (BitVec.ofNat 32 payload.length).toNat = payload.length := by
  rw [BitVec.toNat_ofNat]
  exact Nat.mod_eq_of_lt (lt_of_le_of_lt h (by decide))

lemma drop_header (sequence flags : U32) (payload : List Byte) :
    (envelope sequence flags payload).drop recoveryHeaderBytes = payload := by
  have hshape : envelope sequence flags payload = (u32Bytes recoveryMagic ++ u32Bytes sequence ++ u32Bytes flags ++
      u32Bytes (BitVec.ofNat 32 payload.length) ++ u32Bytes (crc32 payload)) ++ payload := by
    simp only [envelope, List.append_assoc]
  rw [hshape]
  apply List.drop_left'
  simp only [List.length_append, length_u32Bytes]

lemma length_envelope (sequence flags : U32) (payload : List Byte) :
    (envelope sequence flags payload).length = recoveryHeaderBytes + payload.length := by
  simp only [envelope, List.length_append, length_u32Bytes]
  change _ = 20 + payload.length
  omega

lemma read_envelope (sequence flags : U32) (payload : List Byte) :
    readU32 (envelope sequence flags payload) 0 = recoveryMagic ∧
      readU32 (envelope sequence flags payload) 4 = sequence ∧
      readU32 (envelope sequence flags payload) 8 = flags ∧
      readU32 (envelope sequence flags payload) 12 = BitVec.ofNat 32 payload.length ∧
      readU32 (envelope sequence flags payload) 16 = crc32 payload := by
  refine ⟨readU32_head _ _, ?_, ?_, ?_, ?_⟩
  · rw [envelope, readU32_tail _ _ 0, readU32_head]
  · rw [envelope, readU32_tail _ _ 4, readU32_tail _ _ 0, readU32_head]
  · rw [envelope, readU32_tail _ _ 8, readU32_tail _ _ 4, readU32_tail _ _ 0, readU32_head]
  · rw [envelope, readU32_tail _ _ 12, readU32_tail _ _ 8, readU32_tail _ _ 4, readU32_tail _ _ 0, readU32_head]

lemma wellFramed_envelope (sequence flags : U32) {payload : List Byte} (h : payload.length ≤ maxRecoveryPayload) :
    WellFramed sequence (envelope sequence flags payload) := by
  obtain ⟨h0, h4, -, h12, h16⟩ := read_envelope sequence flags payload
  have hlen := length_envelope sequence flags payload
  have hn := toNat_ofNat_length h
  refine ⟨by omega, h0, by rwa [h12, hn], by rw [h12, hn, hlen], ?_, h4⟩
  rw [h16, h12, hn, slice, drop_header, List.take_length]

lemma WellFramed.eq_envelope {expected : U32} {frame : List Byte} (h : WellFramed expected frame) :
    (frame.drop recoveryHeaderBytes).length ≤ maxRecoveryPayload ∧
      frame = envelope expected (readU32 frame 8) (frame.drop recoveryHeaderBytes) := by
  have hlen : (frame.drop recoveryHeaderBytes).length = (readU32 frame 12).toNat := by
    rw [List.length_drop, h.length]
    omega
  have hpayload : slice frame recoveryHeaderBytes (readU32 frame 12).toNat = frame.drop recoveryHeaderBytes := by
    rw [slice, ← hlen, List.take_length]
  have hword : ∀ k, k + 4 ≤ frame.length → u32Bytes (readU32 frame k) ++ frame.drop (k + 4) = frame.drop k := by
    intro k hk
    have hd := @u32Bytes_readU32 (frame.drop k) (by rw [List.length_drop]; omega)
    rwa [readU32_drop, List.drop_drop] at hd
  have hheader : 20 ≤ frame.length := h.header
  refine ⟨by rw [hlen]; exact h.bounded, ?_⟩
  rw [envelope, ← h.magic, ← h.sequence, hlen, BitVec.ofNat_toNat, BitVec.setWidth_eq, ← hpayload, ← h.checksum, hpayload,
    hword 16 (by omega), hword 12 (by omega), hword 8 (by omega), hword 4 (by omega), hword 0 (by omega), List.drop_zero]

lemma blit_words (output : List Byte) (i : ℕ) (bs : List Byte) (value : U32) (h : i + bs.length + 4 ≤ output.length) :
    putU32 (blit output i bs) (i + bs.length) value = blit output i (bs ++ u32Bytes value) :=
  blit_blit (by rw [length_leBytes]; exact h)

lemma encode_eq (sequence flags : U32) {payload output : List Byte} (hp : payload.length ≤ maxRecoveryPayload)
    (ho : recoveryHeaderBytes + payload.length ≤ output.length) :
    M1RecoveryTransport.encode sequence flags payload output =
      (.ok (recoveryHeaderBytes + payload.length), blit output 0 (envelope sequence flags payload)) := by
  have ho' : 20 + payload.length ≤ output.length := ho
  have h0 : putU32 output 0 recoveryMagic = blit output 0 (u32Bytes recoveryMagic) := rfl
  have h4 := blit_words output 0 (u32Bytes recoveryMagic) sequence
    (by rw [length_u32Bytes]; omega)
  have h8 := blit_words output 0 (u32Bytes recoveryMagic ++ u32Bytes sequence) flags
    (by rw [List.length_append, length_u32Bytes, length_u32Bytes]; omega)
  have h12 := blit_words output 0
    (u32Bytes recoveryMagic ++ u32Bytes sequence ++ u32Bytes flags) (BitVec.ofNat 32 payload.length)
    (by simp only [List.length_append, length_u32Bytes]; omega)
  have h16 := blit_words output 0
    (u32Bytes recoveryMagic ++ u32Bytes sequence ++ u32Bytes flags ++ u32Bytes (BitVec.ofNat 32 payload.length))
    (crc32 payload) (by simp only [List.length_append, length_u32Bytes]; omega)
  have h20 := @blit_blit output
    (u32Bytes recoveryMagic ++ u32Bytes sequence ++ u32Bytes flags ++ u32Bytes (BitVec.ofNat 32 payload.length) ++
      u32Bytes (crc32 payload)) payload 0 (by simp only [List.length_append, length_u32Bytes]; omega)
  simp only [List.length_append, length_u32Bytes, Nat.zero_add, Nat.reduceAdd] at h4 h8 h12 h16 h20
  rw [M1RecoveryTransport.encode, if_neg (by omega), if_neg (by omega)]
  simp only [h0, h4, h8, h12, h16]
  rw [h20]
  simp only [envelope, List.append_assoc]

lemma encode_ok {sequence flags : U32} {payload output written : List Byte} {total : ℕ}
    (h : M1RecoveryTransport.encode sequence flags payload output = (.ok total, written)) :
    payload.length ≤ maxRecoveryPayload ∧ recoveryHeaderBytes + payload.length ≤ output.length := by
  rw [M1RecoveryTransport.encode] at h
  split at h
  · cases h
  · rename_i hp
    dsimp only at h
    split at h
    · cases h
    · rename_i ho
      exact ⟨by omega, by omega⟩

def received (t : M1RecoveryTransport) (frame : List Byte) : M1RecoveryTransport :=
  { t with
    payload := overwrite t.payload (slice frame recoveryHeaderBytes (readU32 frame 12).toNat)
    payloadLen := (readU32 frame 12).toNat
    flags := readU32 frame 8
    lastSequence := readU32 frame 4
    expectedSequence := t.expectedSequence + 1#32
    ready := true
    signatureVerified := false }

lemma ingest_cases (t : M1RecoveryTransport) (frame : List Byte) :
    (WellFramed t.expectedSequence frame ∧ t.ingest frame = (.ok (readU32 frame 12).toNat, received t frame)) ∨
      ¬WellFramed t.expectedSequence frame ∧ ∃ fault, t.ingest frame = (.error fault, t) := by
  rw [M1RecoveryTransport.ingest]
  split
  · rename_i h
    exact .inr ⟨fun hw => by have := hw.header; omega, _, rfl⟩
  rename_i hheader
  split
  · rename_i h
    exact .inr ⟨fun hw => h hw.magic, _, rfl⟩
  rename_i hmagic
  dsimp only
  split
  · rename_i h
    exact .inr ⟨fun hw => by have := hw.bounded; omega, _, rfl⟩
  rename_i hbounded
  split
  · rename_i h
    exact .inr ⟨fun hw => h hw.length, _, rfl⟩
  rename_i hlength
  split
  · rename_i h
    exact .inr ⟨fun hw => h hw.checksum, _, rfl⟩
  rename_i hchecksum
  split
  · rename_i h
    exact .inr ⟨fun hw => h hw.sequence, _, rfl⟩
  rename_i hsequence
  exact .inl ⟨⟨by omega, not_not.mp hmagic, by omega, not_not.mp hlength, not_not.mp hchecksum, not_not.mp hsequence⟩, rfl⟩

lemma overwrite_nil (buffer : Vector Byte 1024) : overwrite buffer [] = buffer := by
  apply Vector.ext
  intro i hi
  simp only [overwrite, Vector.getElem_ofFn, List.getElem?_nil, Option.getD_none]
  rfl

lemma take_overwrite (buffer : Vector Byte 1024) {bytes : List Byte} (h : bytes.length ≤ 1024) :
    (overwrite buffer bytes).toList.take bytes.length = bytes := by
  apply List.ext_getElem
  · rw [List.length_take, Vector.length_toList]
    omega
  · intro i hi hi'
    simp [overwrite, hi']

lemma crc32_eq (bytes : List Byte) : VfRecovery.crc32 bytes = crc32 bytes := rfl

def statusOf : Except M1RecoveryFault ℕ → ℤ
  | .ok _ => VfRecoveryV1.ok
  | .error .shortFrame => VfRecoveryV1.errShortFrame
  | .error .badMagic => VfRecoveryV1.errBadMagic
  | .error .badLength => VfRecoveryV1.errBadLength
  | .error .badChecksum => VfRecoveryV1.errBadChecksum
  | .error .sequence => VfRecoveryV1.errSequence
  | .error .payloadTooLarge => VfRecoveryV1.errPayloadLarge
  | .error .outputTooSmall => VfRecoveryV1.errOutputSmall

lemma statusOf_ok_iff (result : Except M1RecoveryFault ℕ) : statusOf result = VfRecoveryV1.ok ↔ ∃ n, result = .ok n := by
  cases result with
  | ok n => exact ⟨fun _ => ⟨n, rfl⟩, fun _ => rfl⟩
  | error fault =>
    constructor
    · intro h
      cases fault <;> cases h
    · rintro ⟨n, h⟩
      cases h

lemma ingest_transport (r : VfRecoveryV1) (frame : List Byte) :
    (r.ingest frame).1 = statusOf (r.transport.ingest frame).1 ∧
      (r.ingest frame).2.transport = (r.transport.ingest frame).2 := by
  have hmagic : VfRecovery.magic.truncate 32 = recoveryMagic := by decide
  have hread : ∀ i, VfRecoveryV1.recoveryReadU32Le frame i = readU32 frame i := fun _ => rfl
  simp only [VfRecoveryV1.ingest, M1RecoveryTransport.ingest, hmagic, hread, crc32_eq]
  split
  · exact ⟨rfl, rfl⟩
  split
  · exact ⟨rfl, rfl⟩
  split
  · exact ⟨rfl, rfl⟩
  split
  · exact ⟨rfl, rfl⟩
  split
  · exact ⟨rfl, rfl⟩
  have hexpected : r.transport.expectedSequence = r.expectedSequence := rfl
  rw [hexpected]
  by_cases hs : readU32 frame 4 ≠ r.expectedSequence
  · rw [if_pos hs, if_pos hs]
    exact ⟨rfl, rfl⟩
  rw [if_neg hs, if_neg hs]
  refine ⟨rfl, ?_⟩
  -- an empty payload is not copied
  by_cases hz : readU32 frame 12 = 0#32
  · have hempty : slice frame recoveryHeaderBytes (0#32).toNat = [] := List.take_zero
    simp only [hz, if_true, hempty, overwrite_nil]
    rfl
  · simp only [hz, if_false]
    rfl

lemma encode_transport (sequence flags : U32) (payload output : List Byte) :
    VfRecoveryV1.encode sequence flags payload output =
      (statusOf (M1RecoveryTransport.encode sequence flags payload output).1,
        (M1RecoveryTransport.encode sequence flags payload output).1.toOption,
        (M1RecoveryTransport.encode sequence flags payload output).2) := by
  have hmagic : VfRecovery.magic.truncate 32 = recoveryMagic := by decide
  have hput : ∀ p i v, VfRecoveryV1.recoveryPutU32Le p i v = putU32 p i v := fun _ _ _ => rfl
  simp only [VfRecoveryV1.encode, M1RecoveryTransport.encode, hmagic, hput, crc32_eq]
  split
  · rfl
  split
  · rfl
  by_cases hz : payload.length = 0
  · rw [if_pos hz, List.length_eq_zero_iff.mp hz]
    simp [statusOf, Except.toOption, blit]
  · rw [if_neg hz]
    rfl

def IsEncoding (sequence flags : U32) (payload frame : List Byte) : Prop :=
  ∃ output total written, VfRecoveryV1.encode sequence flags payload output = (VfRecoveryV1.ok, some total, written) ∧
    M1RecoveryTransport.encode sequence flags payload output = (.ok total, written) ∧ frame = written.take total

lemma isEncoding_iff (sequence flags : U32) (payload frame : List Byte) :
    IsEncoding sequence flags payload frame ↔
      payload.length ≤ maxRecoveryPayload ∧ frame = envelope sequence flags payload := by
  have htake : ∀ output : List Byte, recoveryHeaderBytes + payload.length ≤ output.length →
      (blit output 0 (envelope sequence flags payload)).take (recoveryHeaderBytes + payload.length) =
        envelope sequence flags payload := fun output _ => by
    rw [blit, List.take_zero, List.nil_append]
    exact List.take_left' (length_envelope sequence flags payload)
  constructor
  · rintro ⟨output, total, written, -, h, rfl⟩
    obtain ⟨hp, ho⟩ := encode_ok h
    obtain ⟨rfl, rfl⟩ := Prod.mk.inj ((encode_eq sequence flags hp ho).symm.trans h)
      |>.imp (fun h => Except.ok.inj h) id
    exact ⟨hp, htake output ho⟩
  · rintro ⟨hp, rfl⟩
    have ho : recoveryHeaderBytes + payload.length ≤
        (List.replicate (recoveryHeaderBytes + payload.length) (0#8 : Byte)).length :=
      (List.length_replicate).ge
    have h := encode_eq sequence flags hp ho
    exact ⟨_, _, _, by rw [encode_transport, h]; rfl, h, (htake _ ho).symm⟩

lemma wellFramed_iff (expected : U32) (frame : List Byte) :
    WellFramed expected frame ↔
      ∃ flags payload, payload.length ≤ VfRecovery.maxPayload ∧ IsEncoding expected flags payload frame := by
  constructor
  · intro h
    obtain ⟨hp, hframe⟩ := h.eq_envelope
    exact ⟨_, _, hp, (isEncoding_iff _ _ _ _).mpr ⟨hp, hframe⟩⟩
  · rintro ⟨flags, payload, -, h⟩
    obtain ⟨hp, rfl⟩ := (isEncoding_iff _ _ _ _).mp h
    exact wellFramed_envelope expected flags hp

def liveTransport (t : M1RecoveryTransport) : VfRecovery :=
  ⟨t.expectedSequence, t.lastSequence, t.flags, t.livePayload, t.ready, t.signatureVerified⟩

structure EnvelopeLaws {S : Type} (accepts : S → List Byte → Bool) (next : S → List Byte → S) (live : S → VfRecovery) :
    Prop where
  accepted : ∀ s frame, accepts s frame = true ↔ ∃ flags payload,
    payload.length ≤ VfRecovery.maxPayload ∧ IsEncoding (live s).expectedSequence flags payload frame
  received : ∀ s frame flags payload, payload.length ≤ VfRecovery.maxPayload →
    IsEncoding (live s).expectedSequence flags payload frame →
    live (next s frame) =
      { expectedSequence := (live s).expectedSequence + 1#32, lastSequence := (live s).expectedSequence, flags := flags,
        payload := payload, ready := true, signatureVerified := false }
  refused : ∀ s frame, accepts s frame = false → next s frame = s

def acceptsTransport (t : M1RecoveryTransport) (frame : List Byte) : Bool := (t.ingest frame).1.isOk

def acceptsV1 (r : VfRecoveryV1) (frame : List Byte) : Bool := (r.ingest frame).1 == VfRecoveryV1.ok

lemma acceptsTransport_iff (t : M1RecoveryTransport) (frame : List Byte) :
    acceptsTransport t frame = true ↔ WellFramed t.expectedSequence frame := by
  rcases ingest_cases t frame with ⟨hw, h⟩ | ⟨hw, fault, h⟩
  · simp [acceptsTransport, h, hw, Except.isOk, Except.toBool]
  · simp [acceptsTransport, h, hw, Except.isOk, Except.toBool]

lemma transport_laws : EnvelopeLaws acceptsTransport (fun t frame => (t.ingest frame).2) liveTransport where
  accepted t frame := (acceptsTransport_iff t frame).trans (wellFramed_iff t.expectedSequence frame)
  received t frame flags payload hp henc := by
    obtain ⟨-, rfl⟩ := (isEncoding_iff _ _ _ _).mp henc
    have hw := wellFramed_envelope t.expectedSequence flags hp
    obtain ⟨-, h⟩ := (ingest_cases t _).resolve_right fun h => h.1 hw
    obtain ⟨-, h4, h8, h12, -⟩ := read_envelope t.expectedSequence flags payload
    have hn := toNat_ofNat_length hp
    have hslice : slice (envelope t.expectedSequence flags payload) recoveryHeaderBytes payload.length = payload := by
      rw [slice, drop_header, List.take_length]
    have htake := take_overwrite t.payload hp
    simp only [liveTransport, M1RecoveryTransport.livePayload, received, h, h4, h8, h12, hn, hslice, htake]
  refused t frame h := by
    rcases ingest_cases t frame with ⟨hw, -⟩ | ⟨-, fault, hf⟩
    · exact absurd ((acceptsTransport_iff t frame).mpr hw) (by rw [h]; exact Bool.false_ne_true)
    · exact congrArg Prod.snd hf

lemma acceptsV1_eq (r : VfRecoveryV1) (frame : List Byte) : acceptsV1 r frame = acceptsTransport r.transport frame := by
  rw [acceptsV1, (ingest_transport r frame).1, acceptsTransport, Bool.eq_iff_iff, beq_iff_eq, statusOf_ok_iff]
  cases (r.transport.ingest frame).1 with
  | ok n => exact ⟨fun _ => rfl, fun _ => ⟨n, rfl⟩⟩
  | error fault =>
    constructor
    · rintro ⟨n, h⟩
      cases h
    · intro h
      cases h

lemma transport_injective {r r' : VfRecoveryV1} (h : r.transport = r'.transport) : r = r' := by
  obtain ⟨e, l, f, p, n, ready, v⟩ := r
  obtain ⟨e', l', f', p', n', ready', v'⟩ := r'
  simp only [VfRecoveryV1.transport, M1RecoveryTransport.mk.injEq] at h
  obtain ⟨rfl, rfl, rfl, rfl, hn, rfl, rfl⟩ := h
  rw [BitVec.eq_of_toNat_eq hn]

lemma v1_laws : EnvelopeLaws acceptsV1 (fun r frame => (r.ingest frame).2) VfRecoveryV1.live where
  accepted r frame := by
    rw [acceptsV1_eq]
    exact transport_laws.accepted r.transport frame
  received r frame flags payload hp henc := by
    have h := transport_laws.received r.transport frame flags payload hp henc
    simp only [← (ingest_transport r frame).2] at h
    exact h
  refused r frame h := by
    rw [acceptsV1_eq] at h
    exact transport_injective ((ingest_transport r frame).2.trans (transport_laws.refused r.transport frame h))

/-- Both transports accept exactly the encodings of the expected sequence, hold what was encoded and
refuse without a trace; fed the same frames from the same record they answer and end alike. -/
theorem recovery_envelope :
    EnvelopeLaws acceptsV1 (fun r frame => (r.ingest frame).2) VfRecoveryV1.live ∧
      EnvelopeLaws acceptsTransport (fun t frame => (t.ingest frame).2) liveTransport ∧
      VfRecoveryV1.init.transport = M1RecoveryTransport.reset ∧
      ∀ (frames : List (List Byte)) (r : VfRecoveryV1),
        (Run.log VfRecoveryV1.ingest r frames).map (fun x => acceptsV1 x.before x.event) =
            (Run.log M1RecoveryTransport.ingest r.transport frames).map (fun x => acceptsTransport x.before x.event) ∧
          (Run.final VfRecoveryV1.ingest r frames).transport =
            Run.final M1RecoveryTransport.ingest r.transport frames := by
  refine ⟨v1_laws, transport_laws, rfl, fun frames => ?_⟩
  induction frames with
  | nil => exact fun r => ⟨rfl, rfl⟩
  | cons frame frames ih =>
    intro r
    obtain ⟨hlog, hfinal⟩ := ih (r.ingest frame).2
    rw [(ingest_transport r frame).2] at hlog hfinal
    refine ⟨?_, hfinal⟩
    rw [Run.log, Run.log, List.map_cons, List.map_cons, hlog]
    exact congrArg (· :: _) (acceptsV1_eq r frame)

end Nextcore.Device
