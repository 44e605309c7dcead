import Nextcore.Provider.Completeness
import Nextcore.Service.Admission
import Nextcore.Service.EffectiveBank

/-! Every reply of a dynamic service to a request of the dynamic run is taken, with the effective MMU on or off. -/

namespace Nextcore.Provider

open Abi Abi.V2 Cpu Jit Service

def TakenDynamic (q : Request) (out : Reply) : Prop := headerInvalid q out 3#32 = false ∧ Canonical q out 3#32

section Relabel

lemma v2AlignmentRequired_normalForm {q : Request} {k : Controls} (hsctlr : k.sctlr = q.controls.sctlr) :
    v2AlignmentRequired (normalForm q k) = v2AlignmentRequired q := by
  unfold v2AlignmentRequired normalForm
  rw [hsctlr]

lemma contextValid_normalForm {q : Request} {k : Controls} (htcr : k.tcr = q.controls.tcr) (r : Reply) :
    contextValid (normalForm q k) r = contextValid q r := by
  have hmask : physicalMask k = physicalMask q.controls := by
    unfold physicalMask physicalBitsIndex
    rw [htcr]
  have hstart : startLevel k r.address = startLevel q.controls r.address := by
    unfold startLevel sixteen
    rw [htcr]
  have hsixteen : sixteen k = sixteen q.controls := by
    unfold sixteen
    rw [htcr]
  unfold contextValid inputFaultValid walkFaultValid normalForm
  dsimp only
  rw [hmask, hstart, hsixteen]

lemma v2FaultValid_normalForm {q : Request} {k : Controls} (hsctlr : k.sctlr = q.controls.sctlr)
    (htcr : k.tcr = q.controls.tcr) (r : Reply) : v2FaultValid (normalForm q k) r = v2FaultValid q r := by
  unfold v2FaultValid
  rw [v2AlignmentRequired_normalForm hsctlr, contextValid_normalForm htcr]
  unfold normalForm alignmentFaultOf abortClass
  dsimp only
  rw [hsctlr]

lemma taken_relabel {q : Request} {k : Controls} (hsctlr : k.sctlr = q.controls.sctlr) (htcr : k.tcr = q.controls.tcr)
    (hon : q.controls.sctlr &&& 1#64 ≠ 0#64) {out : Reply} (h : Taken (normalForm q k) out) :
    TakenDynamic q { out with abiVersion := 3#32, epoch := q.controls.epoch } := by
  obtain ⟨hheader, hcanonical⟩ := h
  have hoff : physicalDynamic q 3#32 = false := by
    simp [physicalDynamic, hon]
  constructor
  · simp only [headerInvalid, decide_eq_false_iff_not, not_or, not_not] at hheader ⊢
    exact ⟨trivial, hheader.2.1, trivial, hheader.2.2.2⟩
  · cases hcanonical with
    | ok hresult hvalid =>
      refine .ok hresult ?_
      simp only [okInvalid, decide_eq_false_iff_not] at hvalid ⊢
      rw [v2AlignmentRequired_normalForm hsctlr, physicalDynamic_two] at hvalid
      rw [hoff]
      exact hvalid
    | refused hresult hvalues hinside hvalid =>
      refine .refused hresult hvalues hinside ?_
      simp only [refusalInvalid, decide_eq_false_iff_not] at hvalid ⊢
      rw [physicalDynamic_two] at hvalid
      rw [hoff]
      exact hvalid
    | fault hresult hvalues hinside hwrap hphysical hvalid =>
      rw [v2AlignmentRequired_normalForm hsctlr] at hwrap
      rw [v2FaultValid_normalForm hsctlr htcr] at hvalid
      refine .fault hresult hvalues hinside hwrap ?_ hvalid
      rw [hoff]
      exact fun h => Bool.noConfusion h

end Relabel

section Physical

variable {s : MemoryServiceDynamic} {q : Request}

lemma taken_dataError (hepoch : s.epoch = q.controls.epoch) {va pa : U64} {result flags : U32}
    (hinside : Inside q (s.dataError result va))
    (hkind : result = unsupported ∧ flags = 0#32 ∧ pa = 0#64 ∨
      result = unavailable ∧ flags = hasOutput ∧ pa = va ∧ va >>> 48 = 0#64) :
    TakenDynamic q { s.dataError result va with outputPa := pa, metadataFlags := flags } := by
  rcases hkind with ⟨rfl, rfl, rfl⟩ | ⟨rfl, rfl, rfl, hhigh⟩
  · refine ⟨?_, .refused (.inl rfl) ⟨rfl, rfl⟩ hinside ?_⟩
    · simp [headerInvalid, MemoryServiceDynamic.dataError, v2ProvenanceValid, hepoch, unsupported]
    · simp [refusalInvalid, MemoryServiceDynamic.dataError]
  · refine ⟨?_, .refused (.inr rfl) ⟨rfl, rfl⟩ hinside ?_⟩
    · simp [headerInvalid, MemoryServiceDynamic.dataError, v2ProvenanceValid, hepoch, unavailable, hasOutput, hhigh]
    · simp [refusalInvalid, MemoryServiceDynamic.dataError, unavailable, unsupported, hasOutput]

lemma taken_unsupported (hepoch : s.epoch = q.controls.epoch) {va : U64} (hinside : Inside q (s.dataError unsupported va)) :
    TakenDynamic q (s.dataError unsupported va) :=
  taken_dataError hepoch hinside (.inl ⟨rfl, rfl, rfl⟩)

lemma inside_address (hr : Shaped q) (out : Reply) (haddress : out.address = q.address) : Inside q out := by
  rw [Inside, haddress]
  exact ⟨BitVec.le_refl _, inside_first hr⟩

lemma physical_range (hr : Shaped q) (hflow : ¬(q.address.uaddOverflow ((q.width * q.count).zeroExtend 64 - 1#64) = true ∨
      paLimit ≤ q.address ∨ paLimit - q.address < (q.width * q.count).zeroExtend 64)) :
    wrapping q = false ∧ q.address.toNat + (q.width * q.count).toNat ≤ 2 ^ 48 := by
  simp only [not_or, Bool.not_eq_true, BitVec.not_le, BitVec.not_lt] at hflow
  obtain ⟨-, hlow, hhigh⟩ := hflow
  obtain ⟨hbytes, hpos, hle, hcount⟩ := hr.bytes
  have hn : (q.width * q.count).toNat ≤ 16 ∧ 0 < (q.width * q.count).toNat := by
    rcases hcount with hc | hc
    · rw [hbytes, hc]
      omega
    · rw [hbytes, hc]
      omega
  generalize hsize : q.width * q.count = n at *
  rw [BitVec.le_def, BitVec.toNat_sub_of_le (BitVec.le_of_lt hlow)] at hhigh
  rw [BitVec.lt_def] at hlow
  have hlimit : paLimit.toNat = 2 ^ 48 := rfl
  have hwide : (n.zeroExtend 64 : U64).toNat = n.toNat := by
    simp only [BitVec.truncate_eq_setWidth, BitVec.toNat_setWidth]
    omega
  rw [hwide, hlimit] at hhigh
  rw [hlimit] at hlow
  refine ⟨?_, by omega⟩
  simp only [wrapping, hsize, decide_eq_false_iff_not, BitVec.not_lt, BitVec.le_def]
  have hone : ((n - 1#32).zeroExtend 64 : U64).toNat = n.toNat - 1 := by
    bv_omega
  rw [BitVec.toNat_sub, hone, BitVec.toNat_allOnes]
  omega

lemma physical_aligned (hr : Shaped q) (hcheck : q.controls.sctlr &&& 2#64 ≠ 0#64) :
    v2AlignmentRequired q = true ↔ q.address &&& (q.width.zeroExtend 64 - 1#64) ≠ 0#64 := by
  rw [hr.low_bits]
  simp [v2AlignmentRequired, hcheck]

lemma taken_misaligned (hepoch : s.epoch = q.controls.epoch) (hr : Shaped q) (hel : q.currentEl = 1#32)
    (haligned : v2AlignmentRequired q = true) :
    TakenDynamic q
      (let out := { s.dataError guestFault q.address with context := input }
      if q.operation = opFetch then { out with fault := pcAlignment, esr := 0x8a000000#64 }
      else
        { out with
          fault := dataAlignment
          fsc := 0x21#32
          esr := 0x96000021#64 ||| (if q.operation = opStore then 64#64 else 0#64) }) := by
  dsimp only
  by_cases hf : q.operation = opFetch
  · obtain ⟨hwidth, -, hpc⟩ := hr.fetch hf
    have hmis : q.pc &&& 3#64 ≠ 0#64 := by
      simp only [v2AlignmentRequired, hwidth, decide_eq_true_eq] at haligned
      rw [← hpc]
      exact haligned.1
    rw [if_pos hf]
    refine ⟨?_, .fault rfl ⟨rfl, rfl⟩ (inside_address hr _ rfl) (.inr haligned) (fun _ => .inl rfl) ?_⟩
    · simp [headerInvalid, MemoryServiceDynamic.dataError, v2ProvenanceValid, hepoch, guestFault, input]
    · simp [v2FaultValid, MemoryServiceDynamic.dataError, alignmentFaultOf, hf, hmis]
  · have hne : dataAlignment ≠ pcAlignment := by decide
    rw [if_neg hf]
    refine ⟨?_, .fault rfl ⟨rfl, rfl⟩ (inside_address hr _ rfl) (.inr haligned) (fun _ => .inr rfl) ?_⟩
    · simp [headerInvalid, MemoryServiceDynamic.dataError, v2ProvenanceValid, hepoch, guestFault, input]
    · simp [v2FaultValid, MemoryServiceDynamic.dataError, alignmentFaultOf, hf, haligned, hne, hel]

lemma taken_physical (hepoch : s.epoch = q.controls.epoch) (haligned : v2AlignmentRequired q = false)
    (hwrap : wrapping q = false) (hrange : q.address.toNat + (q.width * q.count).toNat ≤ 2 ^ 48)
    (hpos : 0 < (q.width * q.count).toNat) {value0 value1 : U64} (h0 : value0 &&& ~~~elementMask q.width = 0#64)
    (h1 : value1 &&& ~~~elementMask q.width = 0#64) (hscalar : q.count = 1#32 → value1 = 0#64)
    (hstore : q.operation = opStore → value0 = 0#64 ∧ value1 = 0#64) :
    TakenDynamic q { s.dataError ok 0#64 with value0 := value0, value1 := value1 } := by
  refine ⟨by simp [headerInvalid, MemoryServiceDynamic.dataError, v2ProvenanceValid, hepoch], .ok rfl ?_⟩
  have hhigh : ¬((1#64 <<< 48) ≤ q.address ∨ (1#64 <<< 48) - q.address < (q.width * q.count).zeroExtend 64) := by
    have hlimit : (1#64 <<< 48 : U64).toNat = 2 ^ 48 := rfl
    have hwide : ((q.width * q.count).zeroExtend 64 : U64).toNat = (q.width * q.count).toNat := by
      have hlt := (q.width * q.count).isLt
      simp only [BitVec.truncate_eq_setWidth, BitVec.toNat_setWidth]
      omega
    have hle : q.address ≤ 1#64 <<< 48 := by
      rw [BitVec.le_def, hlimit]
      omega
    rw [not_or, BitVec.not_le, BitVec.not_lt, BitVec.lt_def, BitVec.le_def, BitVec.toNat_sub_of_le hle, hlimit, hwide]
    omega
  simp only [okInvalid, decide_eq_false_iff_not]
  rintro (h | ⟨-, h⟩ | h | h | h | h | h | h | h | h | h | h | ⟨hc, h⟩ | ⟨hs, h⟩)
  · simp [hwrap] at h
  · exact hhigh h
  · simp [haligned] at h
  · exact h rfl
  · exact h rfl
  · exact h rfl
  · exact h rfl
  · exact h rfl
  · exact h rfl
  · exact h rfl
  · exact h h0
  · exact h h1
  · exact h (hscalar hc)
  · exact h.elim (fun h => h (hstore hs).1) (fun h => h (hstore hs).2)

lemma physicalByte_taken (hepoch : s.epoch = q.controls.epoch)
    (hrange : q.address.toNat + (q.width * q.count).toNat ≤ 2 ^ 48) {byte : ℕ}
    (hbyte : byte < (q.width * q.count).toNat) {out : Reply} (h : s.physicalByte q byte = .error out) :
    TakenDynamic q out := by
  have hnat : (q.address + BitVec.ofNat 64 byte).toNat = q.address.toNat + byte := by
    rw [BitVec.toNat_add, BitVec.toNat_ofNat]
    omega
  have hlow : q.address ≤ q.address + BitVec.ofNat 64 byte := by
    rw [BitVec.le_def, hnat]
    omega
  have hinside : ∀ result, Inside q (s.dataError result (q.address + BitVec.ofNat 64 byte)) := by
    intro result
    refine ⟨hlow, ?_⟩
    have hlt := (q.width * q.count).isLt
    rw [BitVec.lt_def]
    simp only [MemoryServiceDynamic.dataError]
    rw [BitVec.toNat_sub_of_le hlow, hnat]
    simp only [BitVec.truncate_eq_setWidth, BitVec.toNat_setWidth]
    omega
  have hhigh : (q.address + BitVec.ofNat 64 byte) >>> 48 = 0#64 := by
    apply BitVec.eq_of_toNat_eq
    rw [BitVec.toNat_ushiftRight, Nat.shiftRight_eq_div_pow, hnat, Nat.div_eq_of_lt (by omega)]
    rfl
  unfold MemoryServiceDynamic.physicalByte at h
  dsimp only at h
  split at h
  · cases h
  split at h
  · split at h
    · cases h
      exact taken_unsupported hepoch (hinside _)
    · cases h
  · cases h
    exact taken_dataError hepoch (hinside _) (.inr ⟨rfl, rfl, rfl, hhigh⟩)

lemma physicalBytes_taken (hepoch : s.epoch = q.controls.epoch)
    (hrange : q.address.toNat + (q.width * q.count).toNat ≤ 2 ^ 48) {remaining byte : ℕ}
    (hbytes : byte + remaining ≤ (q.width * q.count).toNat) :
    (∀ out, s.physicalBytes q remaining byte = .error out → TakenDynamic q out) ∧
      ∀ places, s.physicalBytes q remaining byte = .ok places → places.length = remaining := by
  induction remaining generalizing byte with
  | zero =>
    refine ⟨fun out h => ?_, fun places h => ?_⟩
    · cases h
    · cases h
      rfl
  | succ remaining ih =>
    obtain ⟨hrefused, hplaced⟩ := @ih (byte + 1) (by omega)
    unfold MemoryServiceDynamic.physicalBytes
    cases hplace : s.physicalByte q byte with
    | error out =>
      refine ⟨fun out' h => ?_, fun places h => ?_⟩
      · cases h
        exact physicalByte_taken hepoch hrange (by omega) hplace
      · cases h
    | ok place =>
      dsimp only
      cases hrest : s.physicalBytes q remaining (byte + 1) with
      | error out =>
        refine ⟨fun out' h => ?_, fun places h => ?_⟩
        · cases h
          exact hrefused out hrest
        · cases h
      | ok places =>
        refine ⟨fun out' h => ?_, fun places' h => ?_⟩
        · cases h
        · cases h
          rw [List.length_cons, hplaced places hrest]

lemma executePhysical_taken (hepoch : s.epoch = q.controls.epoch) (hr : Shaped q) (hel : q.currentEl = 1#32)
    (hcheck : q.controls.sctlr &&& 2#64 ≠ 0#64) : TakenDynamic q (s.executePhysical q).1 := by
  have haligned := physical_aligned hr hcheck
  obtain ⟨hbytes, hpos, -, hcount⟩ := hr.bytes
  unfold MemoryServiceDynamic.executePhysical
  split
  next hmis => exact taken_misaligned hepoch hr hel (haligned.mpr hmis)
  next hplain =>
    have hfalse : v2AlignmentRequired q = false := by
      rw [Bool.eq_false_iff, ne_eq, haligned]
      exact hplain
    dsimp only
    split
    · exact taken_unsupported hepoch (inside_address hr _ rfl)
    next hflow =>
      obtain ⟨hwrap, hrange⟩ := physical_range hr hflow
      have hbound : 0 + (q.width * q.count).toNat ≤ (q.width * q.count).toNat := by omega
      obtain ⟨hrefused, hplaced⟩ := physicalBytes_taken hepoch hrange hbound
      cases hplaces : s.physicalBytes q (q.width * q.count).toNat 0 with
      | error out => exact hrefused out hplaces
      | ok places =>
        have hsize : 0 < (q.width * q.count).toNat := by
          rw [hbytes]
          rcases hcount with hc | hc
          · rw [hc]
            omega
          · rw [hc]
            omega
        dsimp only
        by_cases hstore : q.operation = opStore
        · simp only [if_pos hstore]
          split
          · exact taken_unsupported hepoch (inside_address hr _ rfl)
          · exact taken_physical hepoch hfalse hwrap hrange hsize BitVec.zero_and BitVec.zero_and (fun _ => rfl)
              fun _ => ⟨rfl, rfl⟩
        · simp only [if_neg hstore]
          obtain ⟨h0, h1, h2⟩ := loadPlaces_masked hr.width s.inner.ram s.inner.tables places 0 (0#64, 0#64)
            BitVec.zero_and BitVec.zero_and
          split
          · exact taken_unsupported hepoch (inside_address hr _ rfl)
          · refine taken_physical hepoch hfalse hwrap hrange hsize h0 h1 (fun hc => h2 ?_) fun h => absurd h hstore
            rw [hplaced places hplaces, hbytes, hc]
            simp

end Physical

section Service

variable {s : MemoryServiceDynamic} {cpu : VfCpu} {q : Request}

lemma mapped_checks {a : Dynamic.Snapshot} (h : controlsValid (mapped a) = true) : a.sctlr &&& 2#64 ≠ 0#64 := by
  have hsctlr : (a.sctlr ||| 1#64) &&& ~~~0x18#64 = 0x30d00803#64 := by
    unfold controlsValid at h
    dsimp only at h
    rw [if_pos (show (mapped a).profile = profileFixedNc from rfl)] at h
    dsimp only at h
    split at h
    · cases h
    next hchecks =>
      simp only [not_or, not_not] at hchecks
      exact hchecks.2.2.2.2.2.2.2.1
  have hset := congrArg (fun v : U64 => v.getLsbD 1) hsctlr
  intro hzero
  have hclear := congrArg (fun v : U64 => v.getLsbD 1) hzero
  simp at hset hclear
  rw [hset] at hclear
  cases hclear

lemma mapped_sctlr {a : Dynamic.Snapshot} (h : a.sctlr &&& 1#64 ≠ 0#64) : (mapped a).sctlr = a.sctlr := by
  have hodd : a.sctlr.getLsbD 0 = true := by
    by_contra hbit
    refine h (BitVec.eq_of_getLsbD_eq fun i hi => ?_)
    by_cases hzero : i = 0
    · subst hzero
      simpa using hbit
    · simp [BitVec.getLsbD_one, hzero]
  change a.sctlr ||| 1#64 = a.sctlr
  refine BitVec.eq_of_getLsbD_eq fun i hi => ?_
  by_cases hzero : i = 0
  · subst hzero
    simp [hodd]
  · simp [BitVec.getLsbD_one, hzero]

lemma Sends.fields (hq : Sends cpu s.effectiveControls 3#32 q) :
    q.abiVersion = 3#32 ∧ q.controls = s.effectiveControls ∧ q.currentEl = cpu.currentEl := by
  cases hq with
  | fetch => exact ⟨rfl, rfl, rfl⟩
  | data shape =>
    unfold dataRequest
    dsimp only
    split
    · exact ⟨rfl, rfl, rfl⟩
    · exact ⟨rfl, rfl, rfl⟩

lemma dynamic_taken (hbanked : s.Banked) (hadmitted : s.Admitted) (hidle : s.prepared = none)
    (hvalid : cpu.stateValid = true) (hel : cpu.currentEl = 1#32) (hpstate : cpu.pstate &&& ~~~0xf00003cf#64 = 0#64)
    (hq : Sends cpu s.effectiveControls 3#32 q) : TakenDynamic q (s.execute q).1 := by
  obtain ⟨hversion, hcontrols, hqel⟩ := hq.fields
  have hrequest := hq.valid hvalid (by rw [hel]; decide) hpstate s.inner
  have hshaped : Shaped q := by
    obtain ⟨hwidth, hcount, hoperation, hfetch⟩ := (requestValid_shaped hrequest).1
    exact ⟨hwidth, hcount, hoperation, hfetch⟩
  have hepoch : s.epoch = q.controls.epoch := by rw [hcontrols]; rfl
  have hbank := ((admitted_iff hadmitted.epoch).mp hadmitted.effective).2.2
  have hnormal : s.normalized q = normalForm q s.inner.controls := rfl
  unfold MemoryServiceDynamic.execute
  cases hrefusal : s.refusal q with
  | some out =>
    unfold MemoryServiceDynamic.refusal at hrefusal
    rw [if_neg (by simp [hversion, hcontrols, hqel, hel, hidle]), hnormal, if_neg (by simp [hrequest])] at hrefusal
    split at hrefusal
    · cases hrefusal
      exact taken_unsupported hepoch (inside_address hshaped _ rfl)
    split at hrefusal
    · cases hrefusal
      exact taken_unsupported hepoch (inside_address hshaped _ rfl)
    · cases hrefusal
  | none =>
    dsimp only
    by_cases hon : s.effective.sctlr &&& 1#64 ≠ 0#64
    · rw [if_pos hon]
      have hserved : Served s.inner := by
        refine ⟨?_, hbanked.coherent⟩
        rw [hbanked.controls]
        exact hbanked.configured
      have hregime := hserved.regime
      have hwarm : s.inner.Warm s.inner.mmu := ⟨hregime.configured, hserved.coherent, rfl⟩
      have htaken : Taken (normalForm q s.inner.controls)
          (s.inner.executeCounted (s.normalized q) s.tableReads).1 :=
        sameReply_taken (hwarm.executeCounted (s.normalized q) s.tableReads).1
          (coldExecute_taken (r := s.normalized q) hregime hrequest)
      rw [hepoch]
      refine taken_relabel ?_ ?_ ?_ htaken
      · rw [hbanked.controls, hcontrols]
        exact mapped_sctlr hon
      · rw [hbanked.controls, hcontrols]
        rfl
      · rw [hcontrols]
        exact hon
    · rw [if_neg hon]
      refine executePhysical_taken hepoch hshaped (hqel.trans hel) ?_
      rw [hcontrols]
      exact mapped_checks hbank

end Service

end Nextcore.Provider
