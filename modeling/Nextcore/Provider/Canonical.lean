import Nextcore.Mmu.Failure
import Nextcore.Provider.Soundness
import Nextcore.Service.Cold

/-! Replies the dispatcher takes as they are: what it requires of a reply, and
that every failure of a configured walker meets it. -/

namespace Nextcore.Provider

open Abi Abi.V2 Cpu Jit Mmu

def Inside (q : Request) (r : Reply) : Prop :=
  q.address ≤ r.address ∧ r.address - q.address < (q.width * q.count).zeroExtend 64

inductive Canonical (q : Request) (r : Reply) (version : U32) : Prop
  | ok (hresult : r.result = ok) (hvalid : okInvalid q r version = false)
  | refused (hresult : r.result = unsupported ∨ r.result = unavailable)
      (hvalues : r.value0 = 0#64 ∧ r.value1 = 0#64) (hinside : Inside q r)
      (hvalid : refusalInvalid q r version = false)
  | fault (hresult : r.result = guestFault) (hvalues : r.value0 = 0#64 ∧ r.value1 = 0#64)
      (hinside : Inside q r) (hwrap : wrapping q = false ∨ v2AlignmentRequired q = true)
      (hphysical : physicalDynamic q version = true → r.fault = pcAlignment ∨ r.fault = dataAlignment)
      (hvalid : v2FaultValid q r = some r.esr)

inductive Accepted (cpu : VfCpu) (q : Request) (r : Reply) (result : RunResultV2) :
    U32 × VfCpu × RunResultV2 → Prop
  | ok (hresult : r.result = V2.ok) :
      Accepted cpu q r result (Status.next, cpu, { result with lastReply := r })
  | fault (raised : VfCpu) (hresult : r.result = guestFault) (hrecorded : FaultRecorded cpu raised q r)
      (hesr : raised.esr = r.esr) :
      Accepted cpu q r result (faultStatusCode q r, raised,
        { lastReply := r, base := { result.base with lastAddress := r.address } })
  | refused (hresult : r.result = unsupported ∨ r.result = unavailable) :
      Accepted cpu q r result (Status.dataFault, cpu,
        { lastReply := r
          base :=
            { result.base with
              lastAddress := r.address
              providerStatus := if r.result = unavailable then ProviderStatus.unavailable
                else ProviderStatus.unsupported } })

lemma Accepted.status {cpu : VfCpu} {q : Request} {r : Reply} {result : RunResultV2}
    {out : U32 × VfCpu × RunResultV2} (h : Accepted cpu q r result out)
    (hstart : result.base.providerStatus ≠ ProviderStatus.invalidReply) :
    out.2.2.base.providerStatus ≠ ProviderStatus.invalidReply := by
  cases h with
  | ok => exact hstart
  | fault => exact hstart
  | refused =>
    dsimp only
    split <;> decide

lemma faultKind_valid (q : Request) (r : Reply) : validExceptionKind (faultKind q r) = true := by
  unfold faultKind
  split
  · decide
  split <;> decide

lemma raise_succeeds {cpu : VfCpu} (hvalid : cpu.stateValid = true)
    (hquiet : cpu.exceptionPending = Exception.none) (q : Request) (r : Reply) (pc far : U64)
    (syndrome instruction : U32) :
    ∃ raised, cpu.raiseException (faultKind q r) pc far syndrome instruction = some raised := by
  unfold VfCpu.raiseException
  rw [if_neg (by simp [hvalid, hquiet, faultKind_valid])]
  exact ⟨_, rfl⟩

lemma judgeReply_accepted {cpu : VfCpu} (hvalid : cpu.stateValid = true)
    (hquiet : cpu.exceptionPending = Exception.none) {q : Request} (hel : q.currentEl ≤ 3#32)
    {r : Reply} {version : U32} (hheader : headerInvalid q r version = false)
    (hcanonical : Canonical q r version) (result : RunResultV2) :
    Accepted cpu q r result (judgeReply cpu q 0#32 r result version) := by
  unfold judgeReply
  dsimp only
  rw [if_neg (by decide), if_neg (by simp [hheader])]
  cases hcanonical with
  | ok hresult hok =>
    rw [if_pos hresult, if_neg (by simp [hok])]
    exact .ok hresult
  | refused hresult hvalues hinside hrefusal =>
    have hne : r.result ≠ V2.ok ∧ r.result ≠ invalidRequest := by
      rcases hresult with h | h <;> rw [h] <;> decide
    rw [if_neg hne.1, if_neg (by simp [hvalues]), if_neg hne.2,
      if_neg (by rw [not_or, BitVec.not_lt, BitVec.not_le]; exact hinside), if_pos hresult,
      if_neg (by simp [hrefusal])]
    exact .refused hresult
  | fault hresult hvalues hinside hwrap hphysical hfault =>
    have hesr := v2FaultValid_esr hfault
    obtain ⟨raised, hraise⟩ := raise_succeeds hvalid hquiet q r cpu.pc r.address (r.esr.truncate 32)
      (if q.operation = opFetch then 0#32 else cpu.instruction)
    rw [if_neg (by rw [hresult]; decide), if_neg (by simp [hvalues]), if_neg (by rw [hresult]; decide),
      if_neg (by rw [not_or, BitVec.not_lt, BitVec.not_le]; exact hinside),
      if_neg (by rw [hresult]; decide), if_neg (by rcases hwrap with h | h <;> simp [h]),
      if_neg (by rintro ⟨hp, hpc, hdata⟩; exact (hphysical hp).elim hpc hdata)]
    unfold commitFault
    dsimp only
    rw [hfault]
    dsimp only
    rw [if_neg (not_not.mpr rfl), hraise]
    rw [hesr] at hfault hraise
    have hrecorded := raise_recorded hel hfault hinside.1 hinside.2 hraise
    exact .fault raised hresult hrecorded (hrecorded.esr.trans hesr.symm)

structure Regime (m : VfMmu) (c : Controls) : Prop where
  configured : m.Configured
  mask : m.physicalAddressMask = physicalMask c
  granule : m.granule = if sixteen c then .sixteenKiB else .fourKiB
  lower : m.tcrT0sz = (c.tcr &&& 63#64).toNat
  upper : m.tcrT1sz = ((c.tcr >>> 16) &&& 63#64).toNat

lemma physicalBits_table {c : Controls} {bits : ℕ} (h : VfMmu.physicalBits c.tcr = some bits) :
    physicalBitsTable.getD (physicalBitsIndex c) 0 = bits := by
  unfold VfMmu.physicalBits at h
  unfold physicalBitsIndex
  split at h
  all_goals simp_all [physicalBitsTable]

lemma lowerGranule_sixteen {c : Controls} {g : Granule}
    (h : VfMmu.lowerGranule ((c.tcr >>> 14) &&& 3#64) = some g) :
    g = if sixteen c then .sixteenKiB else .fourKiB := by
  unfold VfMmu.lowerGranule at h
  unfold sixteen
  split at h
  · rename_i hzero
    cases h
    simp [hzero]
  split at h
  · rename_i htwo
    cases h
    simp [htwo]
  · cases h

lemma regime_of_configured {m : VfMmu} {c : Controls}
    (h : VfMmu.disabled.configureStrictNc c.ttbr0 c.ttbr1 c.tcr = (m.invalidate, true)) :
    Regime m c := by
  have hconf := (VfMmu.configureStrictNc_configured h).1
  obtain ⟨asid, candidate, hc, hm⟩ := VfMmu.configureStrictNc_accepted h
  obtain ⟨bits, granule, hbits, hgranule, -, -, rfl⟩ := VfMmu.configureTcr_accepted hc
  have hmask := congrArg VfMmu.physicalAddressMask hm
  have hgran := congrArg VfMmu.granule hm
  have hlower := congrArg VfMmu.tcrT0sz hm
  have hupper := congrArg VfMmu.tcrT1sz hm
  refine ⟨VfMmu.configured_tlb hconf m.tlb m.next, ?_, ?_, hlower, hupper⟩
  · rw [physicalMask, physicalBits_table hbits]
    exact hmask
  · rw [← lowerGranule_sixteen hgranule]
    exact hgran

lemma Regime.start {m : VfMmu} {c : Controls} (hm : Regime m c) {va root : U64} {tsz start : ℕ}
    {disabled : Bool} (hroot : m.selectRoot va = some (root, tsz, disabled))
    (hstart : m.granule.startLevel tsz = some start) : startLevel c va = BitVec.ofNat 32 start := by
  obtain ⟨-, -, h16, h47, hhalf⟩ := VfMmu.selectRoot_eq_some hroot
  have htsz : ((if va >>> 63 ≠ 0#64 then (c.tcr >>> 16) &&& 63#64 else c.tcr &&& 63#64).truncate 32 :
      U32).toNat = tsz := by
    rcases hhalf with ⟨-, rfl, -, hlow⟩ | ⟨-, rfl, -, -, hhigh⟩
    · have hzero := (Bits.shiftRight_top_eq_zero_iff va).mpr (VfMmu.msb_of_lower h16 h47 hlow)
      rw [if_neg (not_not.mpr hzero), hm.lower]
      simp only [BitVec.truncate_eq_setWidth, BitVec.toNat_setWidth]
      have := Nat.lt_of_le_of_lt (hm.lower ▸ h47) (by decide : 47 < 2 ^ 32)
      omega
    · have hone : va >>> 63 ≠ 0#64 := by
        rw [Ne, Bits.shiftRight_top_eq_zero_iff, VfMmu.msb_of_upper h16 h47 hhigh]
        decide
      rw [if_pos hone, hm.upper]
      simp only [BitVec.truncate_eq_setWidth, BitVec.toNat_setWidth]
      have := Nat.lt_of_le_of_lt (hm.upper ▸ h47) (by decide : 47 < 2 ^ 32)
      omega
  unfold startLevel
  dsimp only
  generalize ((if va >>> 63 ≠ 0#64 then (c.tcr >>> 16) &&& 63#64 else c.tcr &&& 63#64).truncate 32 :
    U32) = t at htsz
  obtain ⟨hvalid, -, -⟩ := Granule.startLevel_eq_some hstart
  rw [hm.granule] at hstart hvalid
  have ht : t = BitVec.ofNat 32 tsz := BitVec.eq_of_toNat_eq (by simp; omega)
  cases hs : sixteen c with
  | false =>
    rw [hs] at hstart hvalid
    rw [ht]
    interval_cases tsz <;> revert hstart <;> decide +revert
  | true =>
    rw [hs] at hstart hvalid
    rw [ht]
    interval_cases tsz <;> revert hstart <;> decide +revert

lemma Regime.visits {m : VfMmu} {c : Controls} (hm : Regime m c) {va : U64} {level : ℕ}
    (h : m.Visits va level) :
    ¬BitVec.ofNat 32 level < startLevel c va ∧ BitVec.ofNat 32 level ≤ 3#32 := by
  obtain ⟨hmax, root, tsz, disabled, start, hroot, hstart, hle⟩ := h
  have hmax' : level ≤ 3 := hmax
  rw [hm.start hroot hstart]
  simp only [BitVec.lt_def, BitVec.le_def, BitVec.toNat_ofNat]
  omega

lemma Regime.firstLeaf {m : VfMmu} {c : Controls} (hm : Regime m c) {level : ℕ} (hmax : level ≤ maxLevel)
    (h : VfMmu.firstLeaf m.granule ≤ level) :
    ¬BitVec.ofNat 32 level < if sixteen c then 2#32 else 1#32 := by
  have hmax' : level ≤ 3 := hmax
  rw [hm.granule] at h
  cases hs : sixteen c with
  | false =>
    rw [hs] at h
    have h1 : 1 ≤ level := h
    simp only [Bool.false_eq_true, if_false, BitVec.lt_def, BitVec.toNat_ofNat]
    omega
  | true =>
    rw [hs] at h
    have h2 : 2 ≤ level := h
    simp only [if_true, BitVec.lt_def, BitVec.toNat_ofNat]
    omega

lemma high_of_inside {m : VfMmu} (hm : m.Configured) {x : U64}
    (h : x &&& ~~~m.physicalAddressMask = 0#64) : x >>> 48 = 0#64 := by
  obtain ⟨bits, -, h48, hmask⟩ := VfMmu.mask_toNat hm
  have hlt := Bits.lt_of_and_not hmask h
  have hpow : 2 ^ bits ≤ 2 ^ 48 := Nat.pow_le_pow_right (by decide) h48
  apply BitVec.eq_of_toNat_eq
  rw [BitVec.toNat_ushiftRight, Nat.shiftRight_eq_div_pow, Nat.div_eq_of_lt (by omega)]
  rfl

lemma high_of_physical {x : U64} (h : x &&& ~~~Mmu.physicalAddressMask = 0#64) : x >>> 48 = 0#64 :=
  (Bits.shiftRight_eq_zero_iff x 48).mpr h

lemma high_of_entry {m : VfMmu} (hm : m.Configured) {x : U64} (h : m.EntryAddress x) :
    x >>> 48 = 0#64 := by
  obtain ⟨bits, h32, h48, hmask⟩ := VfMmu.mask_toNat hm
  have hpow : 2 ^ bits ≤ 2 ^ 48 := Nat.pow_le_pow_right (by decide) h48
  have hpow32 : 2 ^ 32 ≤ 2 ^ bits := Nat.pow_le_pow_right (by decide) h32
  have hle := h.inside
  rw [BitVec.le_def, BitVec.toNat_sub, hmask] at hle
  simp only [BitVec.toNat_ofNat] at hle
  apply BitVec.eq_of_toNat_eq
  rw [BitVec.toNat_ushiftRight, Nat.shiftRight_eq_div_pow, Nat.div_eq_of_lt (by omega)]
  rfl

lemma provenance_walk {r : Reply} (hcontext : 2#32 ≤ r.context ∧ r.context ≤ 4#32) (hlevel : r.level ≤ 3#32)
    (hentry : r.descriptorPa &&& 7#64 = 0#64 ∧ r.descriptorPa >>> 48 = 0#64)
    (hflags : r.metadataFlags = 1#32 ∧ r.outputPa = 0#64 ∨
      r.metadataFlags = 3#32 ∧ r.outputPa >>> 48 = 0#64) : v2ProvenanceValid r = true := by
  unfold v2ProvenanceValid
  have hne : r.context ≠ 0#32 ∧ r.context ≠ input := by bv_omega
  have hle : ¬4#32 < r.context := by bv_omega
  rcases hflags with ⟨hf, hout⟩ | ⟨hf, hout⟩
  · simp [hf, hout, hentry, hne, hle, hlevel]
  · simp [hf, hout, hentry, hne, hle, hlevel]

lemma walkFault_valid {q : Request} {r : Reply} (haligned : v2AlignmentRequired q = false)
    (hlevel : r.level ≤ 3#32) (hfault : addressSize ≤ r.fault ∧ r.fault ≤ accessFlag)
    (hstride : q.operation = opFetch ∨ q.controls.sctlr &&& 2#64 ≠ 0#64 →
      (r.address - q.address) % q.width.zeroExtend 64 = 0#64)
    (hfsc : faultStatus r.fault r.level = r.fsc) (hcontext : r.context ≠ 0#32)
    (hvalid : contextValid q r = true) :
    v2FaultValid q r = some (((abortClass q + q.currentEl).zeroExtend 64 <<< 26) ||| (1#64 <<< 25) |||
      r.fsc.zeroExtend 64 ||| (if q.operation = opStore then 64#64 else 0#64)) := by
  have hne : ¬(r.fault = pcAlignment ∨ r.fault = dataAlignment) := by bv_omega
  unfold v2FaultValid
  rw [if_neg (by simp [haligned]), if_neg hne, if_neg, if_neg (by simp [hfsc, hcontext]),
    if_neg (by simp [hvalid]), hfsc]
  rintro (h | h | h | ⟨hop, h⟩)
  · exact absurd h (BitVec.not_lt.mpr hlevel)
  · exact absurd h (BitVec.not_lt.mpr hfault.1)
  · exact absurd h (BitVec.not_lt.mpr hfault.2)
  · exact h (hstride hop)

structure Probes (r : Request) (va : U64) : Prop where
  unwrapped : wrapping r = false
  aligned : v2AlignmentRequired r = false
  low : r.address ≤ va
  high : va - r.address < (r.width * r.count).zeroExtend 64

def Strided (r : Request) (va : U64) : Prop :=
  r.operation = opFetch ∨ r.controls.sctlr &&& 2#64 ≠ 0#64 →
    (va - r.address) % r.width.zeroExtend 64 = 0#64

def Taken (r : Request) (out : Reply) : Prop :=
  headerInvalid r out 2#32 = false ∧ Canonical r out 2#32

section

open Service

variable {s : MemoryServiceV2} {m : VfMmu} {r : Request} {va : U64}

lemma physicalDynamic_two (r : Request) : physicalDynamic r 2#32 = false := by
  simp [physicalDynamic]

lemma taken_refused {out : Reply} (hversion : out.abiVersion = 2#32) (hsize : out.structSize = 128#32)
    (hepoch : out.epoch = r.controls.epoch) (hreserved : out.reserved = Vector.replicate 5 0#64)
    (hprovenance : v2ProvenanceValid out = true)
    (hresult : out.result = unsupported ∨ out.result = unavailable)
    (hzero : out.value0 = 0#64 ∧ out.value1 = 0#64 ∧ out.fault = 0#32 ∧ out.fsc = 0#32 ∧ out.esr = 0#64)
    (hinside : Inside r out) : Taken r out := by
  have hle : ¬4#32 < out.result := by rcases hresult with h | h <;> rw [h] <;> decide
  refine ⟨by simp [headerInvalid, hversion, hsize, hepoch, hreserved, hprovenance, hle], ?_⟩
  refine .refused hresult ⟨hzero.1, hzero.2.1⟩ hinside ?_
  simp [refusalInvalid, hzero, physicalDynamic_two]

lemma taken_fault {out : Reply} (hversion : out.abiVersion = 2#32) (hsize : out.structSize = 128#32)
    (hepoch : out.epoch = r.controls.epoch) (hreserved : out.reserved = Vector.replicate 5 0#64)
    (hprovenance : v2ProvenanceValid out = true) (hresult : out.result = guestFault)
    (hzero : out.value0 = 0#64 ∧ out.value1 = 0#64) (hinside : Inside r out)
    (hwrap : wrapping r = false ∨ v2AlignmentRequired r = true)
    (hvalid : v2FaultValid r out = some out.esr) : Taken r out := by
  refine ⟨by simp [headerInvalid, hversion, hsize, hepoch, hreserved, hprovenance, hresult], ?_⟩
  exact .fault hresult hzero hinside hwrap (by simp [physicalDynamic_two]) hvalid

@[simp] lemma failure_address (s : MemoryServiceV2) (r : Request) (va : U64) (f : TranslationFailure) :
    (s.failure r va f).address = va := by
  obtain ⟨kind, _, _, _, _⟩ := f
  cases kind <;> rfl

@[simp] lemma failure_level (s : MemoryServiceV2) (r : Request) (va : U64) (f : TranslationFailure) :
    (s.failure r va f).level = (f.level.map (BitVec.ofNat 32)).getD noLevel := by
  obtain ⟨kind, _, _, _, _⟩ := f
  cases kind <;> rfl

@[simp] lemma failure_context (s : MemoryServiceV2) (r : Request) (va : U64) (f : TranslationFailure) :
    (s.failure r va f).context = MemoryServiceV2.contextOf f.context := by
  obtain ⟨kind, _, _, _, _⟩ := f
  cases kind <;> rfl

@[simp] lemma failure_descriptorPa (s : MemoryServiceV2) (r : Request) (va : U64)
    (f : TranslationFailure) : (s.failure r va f).descriptorPa = f.descriptorPa.getD 0 := by
  obtain ⟨kind, _, _, _, _⟩ := f
  cases kind <;> rfl

@[simp] lemma failure_outputPa (s : MemoryServiceV2) (r : Request) (va : U64) (f : TranslationFailure) :
    (s.failure r va f).outputPa = f.outputPa.getD 0 := by
  obtain ⟨kind, _, _, _, _⟩ := f
  cases kind <;> rfl

@[simp] lemma failure_metadataFlags (s : MemoryServiceV2) (r : Request) (va : U64)
    (f : TranslationFailure) :
    (s.failure r va f).metadataFlags = (if f.descriptorPa.isSome then hasDescriptor else 0#32) |||
      (if f.outputPa.isSome then hasOutput else 0#32) := by
  obtain ⟨kind, _, _, _, _⟩ := f
  cases kind <;> rfl

lemma failure_fault (s : MemoryServiceV2) (r : Request) (va : U64) {f : TranslationFailure}
    {fault : Fault} (hkind : f.kind = .architectural fault) :
    (s.failure r va f).fault =
      (MemoryServiceV2.faultCode fault ((f.level.map (BitVec.ofNat 32)).getD 0#32)).1 := by
  simp only [MemoryServiceV2.failure, hkind]

lemma faultCode_status {fault : Fault} (hfault : fault ≠ .alignment) (level : U32) :
    faultStatus (MemoryServiceV2.faultCode fault level).1 level =
        (MemoryServiceV2.faultCode fault level).2 ∧
      addressSize ≤ (MemoryServiceV2.faultCode fault level).1 ∧
      (MemoryServiceV2.faultCode fault level).1 ≤ accessFlag := by
  cases fault with
  | alignment => exact absurd rfl hfault
  | addressSize => exact ⟨rfl, BitVec.le_refl 3#32, (by decide : 3#32 ≤ 6#32)⟩
  | translation => exact ⟨rfl, (by decide : 3#32 ≤ 4#32), (by decide : 4#32 ≤ 6#32)⟩
  | permission => exact ⟨rfl, (by decide : 3#32 ≤ 5#32), (by decide : 5#32 ≤ 6#32)⟩
  | accessFlag => exact ⟨rfl, (by decide : 3#32 ≤ 6#32), BitVec.le_refl 6#32⟩

lemma failure_esr (s : MemoryServiceV2) (r : Request) (va : U64) {f : TranslationFailure} {fault : Fault}
    (hkind : f.kind = .architectural fault) (hfault : fault ≠ .alignment) :
    (s.failure r va f).esr = ((abortClass r + r.currentEl).zeroExtend 64 <<< 26) ||| (1#64 <<< 25) |||
      (s.failure r va f).fsc.zeroExtend 64 ||| (if r.operation = opStore then 64#64 else 0#64) := by
  have hcode := faultCode_status hfault ((f.level.map (BitVec.ofNat 32)).getD 0#32)
  have hne : (MemoryServiceV2.faultCode fault ((f.level.map (BitVec.ofNat 32)).getD 0#32)).1 ≠
      pcAlignment := by
    intro h
    rw [h] at hcode
    exact absurd hcode.2.1 (by decide)
  simp only [MemoryServiceV2.failure, hkind, if_neg hne, abortClass]
  split <;> rfl

lemma taken_failure {f : TranslationFailure} {fault : Fault} {level : ℕ}
    (hepoch : s.controls.epoch = r.controls.epoch) (hp : Probes r va) (hstride : Strided r va)
    (hkind : f.kind = .architectural fault) (hfault : fault ≠ .alignment) (hlevel : f.level = some level)
    (hmax : BitVec.ofNat 32 level ≤ 3#32)
    (hprovenance : v2ProvenanceValid (s.failure r va f) = true)
    (hcontext : contextValid r (s.failure r va f) = true) : Taken r (s.failure r va f) := by
  have hlevel' : (s.failure r va f).level = BitVec.ofNat 32 level := by
    simp [hlevel]
  refine taken_fault ?_ ?_ ?_ ?_ hprovenance ?_ ?_ ?_ (.inl hp.unwrapped) ?_
  · simp [MemoryServiceV2.failure, MemoryServiceV2.empty, hkind]
  · simp [MemoryServiceV2.failure, MemoryServiceV2.empty, hkind]
  · simpa [MemoryServiceV2.failure, MemoryServiceV2.empty, hkind] using hepoch
  · simp [MemoryServiceV2.failure, MemoryServiceV2.empty, hkind]
  · simp [MemoryServiceV2.failure, MemoryServiceV2.empty, hkind, MemoryServiceV2.resultOf]
  · simp [MemoryServiceV2.failure, MemoryServiceV2.empty, hkind]
  · rw [Inside, failure_address]
    exact ⟨hp.low, hp.high⟩
  · rw [failure_esr s r va hkind hfault]
    have hcode := faultCode_status hfault (BitVec.ofNat 32 level)
    refine walkFault_valid hp.aligned (hlevel' ▸ hmax) ?_ ?_ ?_ ?_ hcontext
    · simpa [MemoryServiceV2.failure, hkind, hlevel] using hcode.2
    · rw [failure_address]
      exact hstride
    · simpa [MemoryServiceV2.failure, hkind, hlevel] using hcode.1
    · have hne : MemoryServiceV2.contextOf f.context ≠ 0#32 := by cases f.context <;> decide
      rwa [failure_context]

lemma taken_refusal {f : TranslationFailure} (hepoch : s.controls.epoch = r.controls.epoch)
    (hp : Probes r va) (hkind : ∀ fault, f.kind ≠ .architectural fault)
    (hprovenance : v2ProvenanceValid (s.failure r va f) = true) : Taken r (s.failure r va f) := by
  have hinside : Inside r (s.failure r va f) := by
    rw [Inside, failure_address]
    exact ⟨hp.low, hp.high⟩
  cases hf : f.kind with
  | architectural fault => exact absurd hf (hkind fault)
  | tableRead error =>
    cases error <;> refine taken_refused ?_ ?_ ?_ ?_ hprovenance ?_ ?_ hinside <;>
      simp [MemoryServiceV2.failure, MemoryServiceV2.empty, hf, MemoryServiceV2.resultOf, hepoch]
  | unsupported =>
    refine taken_refused ?_ ?_ ?_ ?_ hprovenance ?_ ?_ hinside <;>
      simp [MemoryServiceV2.failure, MemoryServiceV2.empty, hf, MemoryServiceV2.resultOf, hepoch]

lemma provenance_failure (hm : m.Configured) {f : TranslationFailure} {level : ℕ} {entry : U64}
    (hcontext : f.context ≠ .input) (hlevel : f.level = some level)
    (hmax : BitVec.ofNat 32 level ≤ 3#32) (hdescriptor : f.descriptorPa = some entry)
    (hentry : m.EntryAddress entry)
    (houtput : f.outputPa = none ∨ ∃ pa : U64, f.outputPa = some pa ∧ pa >>> 48 = 0#64) :
    v2ProvenanceValid (s.failure r va f) = true := by
  refine provenance_walk ?_ (by simpa [hlevel] using hmax) ?_ ?_
  · rw [failure_context]
    cases hc : f.context with
    | input => exact absurd hc hcontext
    | walk => exact ⟨by decide, by decide⟩
    | leaf => exact ⟨by decide, by decide⟩
    | cachedLeaf => exact ⟨by decide, by decide⟩
  · rw [failure_descriptorPa, hdescriptor]
    exact ⟨hentry.aligned, high_of_entry hm hentry⟩
  · rw [failure_metadataFlags, failure_outputPa, hdescriptor]
    rcases houtput with hnone | ⟨pa, hsome, hhigh⟩
    · rw [hnone]
      exact .inl ⟨by simp [hasDescriptor], rfl⟩
    · rw [hsome]
      exact .inr ⟨by simp [hasDescriptor, hasOutput], hhigh⟩

lemma failed_taken (hm : Regime m r.controls) (hepoch : s.controls.epoch = r.controls.epoch)
    {f : TranslationFailure} (hf : m.Failed va f) (hp : Probes r va) (hstride : Strided r va) :
    Taken r (s.failure r va f) := by
  cases hf with
  | input =>
    refine taken_failure hepoch hp hstride rfl (by decide) rfl (by decide) ?_ ?_
    · simp [v2ProvenanceValid, TranslationFailure.architectural, MemoryServiceV2.contextOf]
    · simp [contextValid, inputFaultValid, failure_fault, TranslationFailure.architectural,
        MemoryServiceV2.contextOf, MemoryServiceV2.faultCode]
  | root table htable houtside =>
    rw [hm.mask] at houtside
    refine taken_failure hepoch hp hstride rfl (by decide) rfl (by decide) ?_ ?_
    · simp [v2ProvenanceValid, TranslationFailure.architectural, TranslationFailure.withOutput,
        MemoryServiceV2.contextOf, hasOutput, high_of_physical htable]
    · simp [contextValid, inputFaultValid, failure_fault, TranslationFailure.architectural,
        TranslationFailure.withOutput, MemoryServiceV2.contextOf, MemoryServiceV2.faultCode, addressSize,
        translation, houtside]
  | unreadable error level entry hlevel hentry =>
    obtain ⟨-, hmax⟩ := hm.visits hlevel
    exact taken_refusal hepoch hp (fun _ h => by cases h)
      (provenance_failure hm.configured (fun h => by cases h) rfl hmax rfl hentry (.inl rfl))
  | invalid level entry hlevel hentry =>
    obtain ⟨hstart, hmax⟩ := hm.visits hlevel
    have hinside := BitVec.not_lt.mpr (hm.mask ▸ hentry.inside)
    refine taken_failure hepoch hp hstride rfl (by decide) rfl hmax
      (provenance_failure hm.configured (fun h => by cases h) rfl hmax rfl hentry (.inl rfl)) ?_
    simp [contextValid, walkFaultValid, failure_fault, TranslationFailure.architectural,
      TranslationFailure.atDescriptor, MemoryServiceV2.contextOf, MemoryServiceV2.faultCode, walk, input,
      hstart, hinside]
  | output level entry output hlevel hentry houtput houtside =>
    obtain ⟨hstart, hmax⟩ := hm.visits hlevel
    rw [hm.mask] at houtside
    refine taken_failure hepoch hp hstride rfl (by decide) rfl hmax
      (provenance_failure hm.configured (fun h => by cases h) rfl hmax rfl hentry
        (.inr ⟨output, rfl, high_of_physical houtput⟩)) ?_
    simp [contextValid, walkFaultValid, failure_fault, TranslationFailure.architectural,
      TranslationFailure.atDescriptor, TranslationFailure.withOutput, MemoryServiceV2.contextOf,
      MemoryServiceV2.faultCode, walk, input, addressSize, translation, hasDescriptor, hasOutput, hstart,
      houtside]
  | unsupported level entry table hlevel hentry =>
    obtain ⟨-, hmax⟩ := hm.visits hlevel
    refine taken_refusal hepoch hp (fun _ h => by cases h)
      (provenance_failure hm.configured ?_ rfl hmax rfl hentry (.inl rfl))
    cases table <;> exact fun h => by cases h
  | leaf fault level entry pa hlevel hentry hfault hleaf hpa =>
    obtain ⟨hstart, hmax⟩ := hm.visits hlevel
    have hfirst := hm.firstLeaf hlevel.1 hleaf
    have hinside := BitVec.not_lt.mpr (hm.mask ▸ hentry.inside)
    have hprovenance : v2ProvenanceValid (s.failure r va
        (((TranslationFailure.architectural fault (some level) .leaf).atDescriptor entry).withOutput pa)) =
          true :=
      provenance_failure hm.configured (fun h => by cases h) rfl hmax rfl hentry
        (.inr ⟨pa, rfl, high_of_inside hm.configured hpa⟩)
    rw [hm.mask] at hpa
    rcases hfault with rfl | rfl <;>
    · refine taken_failure hepoch hp hstride rfl (by decide) rfl hmax hprovenance ?_
      simp [contextValid, walkFaultValid, failure_fault, TranslationFailure.architectural,
        TranslationFailure.atDescriptor, TranslationFailure.withOutput, MemoryServiceV2.contextOf,
        MemoryServiceV2.faultCode, V2.leaf, cachedLeaf, walk, input, permission, accessFlag, addressSize,
        hasDescriptor, hasOutput, hstart, hinside, hpa, hfirst]

end

end Nextcore.Provider
