import Nextcore.Lib.Run
import Nextcore.Provider.Canonical

/-! Every reply of a reachable version 2 service is taken by the dispatcher. -/

namespace Nextcore.Provider

open Abi Abi.V2 Cpu Jit Mmu Service Bytes

def WidthValid (width : U32) : Prop := width = 1#32 ∨ width = 2#32 ∨ width = 4#32 ∨ width = 8#32

lemma elementMask_toNat {width : U32} (h : WidthValid width) :
    (elementMask width).toNat = 2 ^ (8 * width.toNat) - 1 := by
  rcases h with rfl | rfl | rfl | rfl <;> rfl

lemma loadLe_masked {width : U32} (h : WidthValid width) (m : List Byte) (i : ℕ) :
    loadLe m i width.toNat &&& ~~~elementMask width = 0#64 := by
  refine Bits.and_not_of_lt (elementMask_toNat h) (lt_of_lt_of_le (leValue_lt _) ?_)
  refine Nat.pow_le_pow_right (by decide) (Nat.mul_le_mul_left _ ?_)
  simp only [slice, List.length_take]
  omega

lemma byte_masked {width : U32} (h : WidthValid width) (b : Byte) (byte : ℕ) :
    b.zeroExtend 64 <<< ((byte % width.toNat) * 8) &&& ~~~elementMask width = 0#64 := by
  have hpos : 0 < width.toNat := by rcases h with rfl | rfl | rfl | rfl <;> decide
  have hmod := Nat.mod_lt byte hpos
  refine Bits.and_not_of_lt (elementMask_toNat h) ?_
  rw [BitVec.toNat_shiftLeft, Nat.shiftLeft_eq]
  refine lt_of_le_of_lt (Nat.mod_le _ _) ?_
  have hb : (b.zeroExtend 64 : U64).toNat < 2 ^ 8 := by
    simp only [BitVec.truncate_eq_setWidth, BitVec.toNat_setWidth]
    exact lt_of_le_of_lt (Nat.mod_le _ _) b.isLt
  calc (b.zeroExtend 64 : U64).toNat * 2 ^ (byte % width.toNat * 8)
      < 2 ^ 8 * 2 ^ (byte % width.toNat * 8) := Nat.mul_lt_mul_of_pos_right hb (by positivity)
    _ = 2 ^ (8 + byte % width.toNat * 8) := (pow_add _ _ _).symm
    _ ≤ 2 ^ (8 * width.toNat) := Nat.pow_le_pow_right (by decide) (by omega)

lemma loadPlaces_masked {r : Request} (h : WidthValid r.width) (ram tables : List Byte)
    (places : List (Bool × ℕ)) (byte : ℕ) (values : U64 × U64)
    (h0 : values.1 &&& ~~~elementMask r.width = 0#64) (h1 : values.2 &&& ~~~elementMask r.width = 0#64) :
    (loadPlaces r ram tables places byte values).1 &&& ~~~elementMask r.width = 0#64 ∧
      (loadPlaces r ram tables places byte values).2 &&& ~~~elementMask r.width = 0#64 ∧
      (byte + places.length ≤ r.width.toNat →
        (loadPlaces r ram tables places byte values).2 = values.2) := by
  induction places generalizing byte values with
  | nil => exact ⟨h0, h1, fun _ => rfl⟩
  | cons place places ih =>
    obtain ⟨table, i⟩ := place
    simp only [loadPlaces]
    have hbyte := byte_masked h (if table then tables.getD i 0 else ram.getD i 0) byte
    split
    · obtain ⟨h0', h1', h2'⟩ := ih (byte + 1) (values.1 ||| _, values.2)
        (Bits.or_and_not_eq_zero h0 hbyte) h1
      refine ⟨h0', h1', fun hlen => h2' ?_⟩
      simp only [List.length_cons] at hlen
      omega
    · rename_i hsecond
      obtain ⟨h0', h1', h2'⟩ := ih (byte + 1) (values.1, values.2 ||| _) h0
        (Bits.or_and_not_eq_zero h1 hbyte)
      refine ⟨h0', h1', fun hlen => absurd (Nat.div_eq_of_lt ?_) hsecond⟩
      simp only [List.length_cons] at hlen
      omega

structure Shaped (r : Request) : Prop where
  width : WidthValid r.width
  count : r.count = 1#32 ∨ r.count = 2#32
  operation : r.operation = opFetch ∨ r.operation = opLoad ∨ r.operation = opStore
  fetch : r.operation = opFetch → r.width = 4#32 ∧ r.count = 1#32 ∧ r.address = r.pc

lemma requestValid_shaped {s : MemoryServiceV2} {r : Request} (h : s.requestValid r = true) :
    Shaped r ∧ r.controls = s.controls := by
  unfold MemoryServiceV2.requestValid at h
  dsimp only at h
  split at h
  · cases h
  · rename_i hchecks
    simp only [not_or, not_not, not_and] at hchecks
    obtain ⟨-, -, -, -, -, hcontrols, hop, hwidth, hcount, -, hfetch, -⟩ := hchecks
    refine ⟨⟨?_, ?_, ?_, fun hf => ?_⟩, hcontrols⟩
    · unfold WidthValid
      tauto
    · tauto
    · tauto
    · obtain ⟨h1, h2, h3⟩ := hfetch hf
      exact ⟨h1, h2, h3⟩

lemma Shaped.low_bits {r : Request} (h : Shaped r) :
    r.width.zeroExtend 64 - 1#64 = ((r.width - 1#32).zeroExtend 64 : U64) := by
  rcases h.width with hw | hw | hw | hw <;> rw [hw] <;> rfl

lemma Shaped.bytes {r : Request} (h : Shaped r) :
    (r.width * r.count).toNat = r.width.toNat * r.count.toNat ∧ 0 < r.width.toNat ∧
      r.width.toNat ≤ 8 ∧ (r.count.toNat = 1 ∨ r.count.toNat = 2) := by
  rcases h.width with hw | hw | hw | hw <;> rcases h.count with hc | hc <;> rw [hw, hc] <;> decide

lemma refusal_none {s : MemoryServiceV2} {r : Request} (hr : Shaped r) (h : s.refusal r = none) :
    v2AlignmentRequired r = false ∧ wrapping r = false := by
  unfold MemoryServiceV2.refusal at h
  split at h
  · cases h
  split at h
  · cases h
  rename_i haligned
  split at h
  · cases h
  rename_i hflow
  rw [hr.low_bits] at haligned
  refine ⟨by simpa [v2AlignmentRequired] using haligned, ?_⟩
  obtain ⟨hbytes, hpos, hle, hcount⟩ := hr.bytes
  simp only [BitVec.uaddOverflow, decide_eq_true_eq, not_le] at hflow
  simp only [wrapping, decide_eq_false_iff_not, BitVec.not_lt, BitVec.le_def]
  have hn : (r.width * r.count).toNat ≤ 16 ∧ 0 < (r.width * r.count).toNat := by
    rcases hcount with hc | hc <;> rw [hbytes, hc] <;> omega
  have h64 : ((r.width * r.count).zeroExtend 64 - 1#64 : U64).toNat = (r.width * r.count).toNat - 1 := by
    generalize r.width * r.count = n at hn
    bv_omega
  have h32 : ((r.width * r.count - 1#32).zeroExtend 64 : U64).toNat = (r.width * r.count).toNat - 1 := by
    generalize r.width * r.count = n at hn
    bv_omega
  rw [h64] at hflow
  have hsub : (BitVec.allOnes 64 - ((r.width * r.count - 1#32).zeroExtend 64 : U64)).toNat =
      2 ^ 64 - 1 - ((r.width * r.count).toNat - 1) := by
    rw [BitVec.toNat_sub, h32, BitVec.toNat_allOnes]
    omega
  rw [hsub]
  omega

lemma query_inside {r : Request} (hr : Shaped r) (hwrap : wrapping r = false) {byte : ℕ}
    (hbyte : byte < (r.width * r.count).toNat) :
    (r.address + BitVec.ofNat 64 byte).toNat = r.address.toNat + byte := by
  obtain ⟨hbytes, hpos, hle, hcount⟩ := hr.bytes
  have hn : (r.width * r.count).toNat ≤ 16 := by
    rcases hcount with hc | hc <;> rw [hbytes, hc] <;> omega
  simp only [wrapping, decide_eq_false_iff_not, BitVec.not_lt, BitVec.le_def] at hwrap
  have h32 : ((r.width * r.count - 1#32).zeroExtend 64 : U64).toNat = (r.width * r.count).toNat - 1 := by
    have hpos' : 0 < (r.width * r.count).toNat := by omega
    generalize r.width * r.count = n at hn hpos'
    bv_omega
  rw [BitVec.toNat_sub, h32, BitVec.toNat_allOnes] at hwrap
  rw [BitVec.toNat_add, BitVec.toNat_ofNat]
  omega

lemma probes {r : Request} (hr : Shaped r) (haligned : v2AlignmentRequired r = false)
    (hwrap : wrapping r = false) {i : ℕ} (hbyte : i < (r.width * r.count).toNat) :
    Probes r (r.address + BitVec.ofNat 64 i) ∧
      (r.address + BitVec.ofNat 64 i - r.address).toNat = i := by
  have hnat := query_inside hr hwrap hbyte
  have hlow : r.address ≤ r.address + BitVec.ofNat 64 i := by
    rw [BitVec.le_def, hnat]
    omega
  have hsub : (r.address + BitVec.ofNat 64 i - r.address).toNat = i := by
    rw [BitVec.toNat_sub_of_le hlow, hnat]
    omega
  refine ⟨⟨hwrap, haligned, hlow, ?_⟩, hsub⟩
  rw [BitVec.lt_def, hsub]
  simp only [BitVec.truncate_eq_setWidth, BitVec.toNat_setWidth]
  have := (r.width * r.count).isLt
  omega

lemma probes_query {r : Request} (hr : Shaped r) (haligned : v2AlignmentRequired r = false)
    (hwrap : wrapping r = false) {byte : ℕ} (hbyte : byte < (r.width * r.count).toNat) :
    Probes r (MemoryServiceV2.query r byte) := by
  unfold MemoryServiceV2.query
  split
  · have h0 := (probes hr haligned hwrap (i := 0) (by omega)).1
    simpa using h0
  · exact (probes hr haligned hwrap hbyte).1

section

variable {s : MemoryServiceV2} {r : Request}

lemma taken_served (hepoch : s.controls.epoch = r.controls.epoch)
    (haligned : v2AlignmentRequired r = false) (hwrap : wrapping r = false) {value0 value1 : U64}
    (h0 : value0 &&& ~~~elementMask r.width = 0#64) (h1 : value1 &&& ~~~elementMask r.width = 0#64)
    (hscalar : r.count = 1#32 → value1 = 0#64)
    (hstore : r.operation = opStore → value0 = 0#64 ∧ value1 = 0#64) :
    Taken r { s.empty ok with value0 := value0, value1 := value1 } := by
  refine ⟨by simp [headerInvalid, MemoryServiceV2.empty, v2ProvenanceValid, hepoch], .ok rfl ?_⟩
  simp only [okInvalid, decide_eq_false_iff_not]
  rintro (h | ⟨h, -⟩ | h | h | h | h | h | h | h | h | h | h | ⟨hc, h⟩ | ⟨hs, h⟩)
  · simp [hwrap] at h
  · simp [physicalDynamic_two] at h
  · simp [haligned] at h
  · exact h rfl
  · exact h rfl
  · exact h rfl
  · exact h rfl
  · exact h rfl
  · exact h rfl
  · exact h rfl
  · exact h h0
  · exact h h1
  · exact h (hscalar hc)
  · exact h.elim (fun h => h (hstore hs).1) (fun h => h (hstore hs).2)

lemma taken_bare (hepoch : s.controls.epoch = r.controls.epoch) {va pa : U64} {result flags : U32}
    (hresult : result = unsupported ∨ result = unavailable) (hlow : r.address ≤ va)
    (hhigh : va - r.address < (r.width * r.count).zeroExtend 64)
    (hflags : flags = 0#32 ∧ pa = 0#64 ∨ flags = hasOutput ∧ pa >>> 48 = 0#64) :
    Taken r { s.empty result with address := va, outputPa := pa, metadataFlags := flags } := by
  refine taken_refused rfl rfl hepoch rfl ?_ hresult ⟨rfl, rfl, rfl, rfl, rfl⟩ ⟨hlow, hhigh⟩
  rcases hflags with ⟨rfl, rfl⟩ | ⟨rfl, hpa⟩
  · simp [v2ProvenanceValid, MemoryServiceV2.empty]
  · simp [v2ProvenanceValid, MemoryServiceV2.empty, hasOutput, hpa]

lemma requestAccess_execute : MemoryServiceV2.requestAccess r = .execute ↔ r.operation = opFetch := by
  unfold MemoryServiceV2.requestAccess
  split
  · simpa using ‹_›
  · rename_i h
    split <;> simp [h]

lemma fetch_aligned (hr : Shaped r) (haligned : v2AlignmentRequired r = false)
    (hf : r.operation = opFetch) : r.address &&& 3#64 = 0#64 := by
  obtain ⟨hwidth, -, -⟩ := hr.fetch hf
  by_contra hne
  simp only [v2AlignmentRequired, hwidth, hf, decide_eq_false_iff_not, true_or, and_true] at haligned
  exact haligned hne

lemma strided_query (hr : Shaped r) (haligned : v2AlignmentRequired r = false)
    (hwrap : wrapping r = false) {byte : ℕ} (hbyte : byte < (r.width * r.count).toNat)
    (hmod : r.operation ≠ opFetch → r.controls.sctlr &&& 2#64 ≠ 0#64 → byte % r.width.toNat = 0) :
    Strided r (MemoryServiceV2.query r byte) := by
  intro hop
  unfold MemoryServiceV2.query
  split
  · simp
  · rename_i hf
    apply BitVec.eq_of_toNat_eq
    rw [BitVec.toNat_umod, (probes hr haligned hwrap hbyte).2]
    have hw : (r.width.zeroExtend 64 : U64).toNat = r.width.toNat := by
      simp only [BitVec.truncate_eq_setWidth, BitVec.toNat_setWidth]
      have := r.width.isLt
      omega
    rw [hw, hmod hf (hop.resolve_left hf)]
    rfl

lemma same_page {a : U64} {width byte : ℕ} (hw : width = 1 ∨ width = 2 ∨ width = 4 ∨ width = 8)
    (ha : a.toNat % width = 0) (hbyte : byte % width ≠ 0) (hflow : a.toNat + byte < 2 ^ 64) :
    (a + BitVec.ofNat 64 (byte - 1)) >>> 12 = (a + BitVec.ofNat 64 byte) >>> 12 := by
  apply BitVec.eq_of_toNat_eq
  simp only [BitVec.toNat_ushiftRight, Nat.shiftRight_eq_div_pow, BitVec.toNat_add, BitVec.toNat_ofNat]
  rcases hw with rfl | rfl | rfl | rfl <;> omega

lemma coldPlaces_error {remaining byte : ℕ} {out : Reply}
    (h : s.coldPlaces r remaining byte = .error out) :
    ∃ k, byte ≤ k ∧ k < byte + remaining ∧ s.coldPlace r k = .error out ∧
      ∀ j, byte ≤ j → j < k → ∃ place, s.coldPlace r j = .ok place := by
  induction remaining generalizing byte with
  | zero => cases h
  | succ n ih =>
    unfold MemoryServiceV2.coldPlaces at h
    cases hp : s.coldPlace r byte with
    | error out' =>
      rw [hp] at h
      cases h
      exact ⟨byte, le_rfl, by omega, hp, fun j h1 h2 => by omega⟩
    | ok place =>
      rw [hp] at h
      dsimp only at h
      cases hn : s.coldPlaces r n (byte + 1) with
      | error out' =>
        rw [hn] at h
        cases h
        obtain ⟨k, h1, h2, h3, h4⟩ := ih hn
        refine ⟨k, by omega, by omega, h3, fun j hj hk => ?_⟩
        rcases Nat.eq_or_lt_of_le hj with rfl | hj
        · exact ⟨place, hp⟩
        · exact h4 j hj hk
      | ok places =>
        rw [hn] at h
        cases h

lemma coldPlaces_length {remaining byte : ℕ} {places : List (Bool × ℕ)}
    (h : s.coldPlaces r remaining byte = .ok places) : places.length = remaining := by
  induction remaining generalizing byte places with
  | zero =>
    cases h
    rfl
  | succ n ih =>
    unfold MemoryServiceV2.coldPlaces at h
    cases hp : s.coldPlace r byte with
    | error out =>
      rw [hp] at h
      cases h
    | ok place =>
      rw [hp] at h
      dsimp only at h
      cases hn : s.coldPlaces r n (byte + 1) with
      | error out =>
        rw [hn] at h
        cases h
      | ok places' =>
        rw [hn] at h
        cases h
        rw [List.length_cons, ih hn]

lemma cold_failure_taken (hm : Regime s.mmu r.controls) (hr : Shaped r)
    (hepoch : s.controls.epoch = r.controls.epoch) (haligned : v2AlignmentRequired r = false) {va : U64}
    (hva : r.operation = opFetch → va = r.address) (hp : Probes r va) (hstride : Strided r va)
    {f : TranslationFailure} (h : s.coldTranslate r va = .error f) : Taken r (s.failure r va f) := by
  refine failed_taken hm hepoch (VfMmu.cold_failed hm.configured (fun hx => ?_) h) hp hstride
  have hf := requestAccess_execute.mp hx
  rw [hva hf]
  exact fetch_aligned hr haligned hf

lemma fault_byte (hm : Regime s.mmu r.controls) (hr : Shaped r)
    (haligned : v2AlignmentRequired r = false) (hwrap : wrapping r = false) {byte : ℕ}
    (hbyte : byte < (r.width * r.count).toNat)
    (hprev : 0 < byte → ∃ place, s.coldPlace r (byte - 1) = .ok place) {f : TranslationFailure}
    (h : s.coldTranslate r (MemoryServiceV2.query r byte) = .error f) (hdata : r.operation ≠ opFetch)
    (hcheck : r.controls.sctlr &&& 2#64 ≠ 0#64) : byte % r.width.toNat = 0 := by
  by_contra hmod
  have hpos : 0 < byte := Nat.pos_of_ne_zero (by rintro rfl; exact hmod (Nat.zero_mod _))
  have hw : r.width.toNat = 1 ∨ r.width.toNat = 2 ∨ r.width.toNat = 4 ∨ r.width.toNat = 8 := by
    rcases hr.width with hw | hw | hw | hw <;> rw [hw] <;> decide
  have haddress : r.address.toNat % r.width.toNat = 0 := by
    have hlow : r.address &&& ((r.width - 1#32).zeroExtend 64 : U64) = 0#64 := by
      by_contra hne
      simp only [v2AlignmentRequired, decide_eq_false_iff_not] at haligned
      exact haligned ⟨hne, .inr hcheck⟩
    have hmask : ∃ k, ((r.width - 1#32).zeroExtend 64 : U64).toNat = 2 ^ k - 1 ∧ r.width.toNat = 2 ^ k := by
      rcases hr.width with hw | hw | hw | hw <;> rw [hw]
      · exact ⟨0, rfl, rfl⟩
      · exact ⟨1, rfl, rfl⟩
      · exact ⟨2, rfl, rfl⟩
      · exact ⟨3, rfl, rfl⟩
    obtain ⟨k, hk, hwk⟩ := hmask
    rw [hwk, ← Bits.toNat_and_mask r.address k _ hk, hlow]
    rfl
  have hflow := query_inside hr hwrap hbyte
  have hlt := (r.address + BitVec.ofNat 64 byte).isLt
  rw [hflow] at hlt
  have hpage := same_page hw haddress hmod hlt
  obtain ⟨place, hplace⟩ := hprev hpos
  have hquery : ∀ b, MemoryServiceV2.query r b = r.address + BitVec.ofNat 64 b := by
    intro b
    rw [MemoryServiceV2.query, if_neg hdata]
  rw [hquery] at h
  unfold MemoryServiceV2.coldPlace at hplace
  rw [hquery] at hplace
  cases ht : s.coldTranslate r (r.address + BitVec.ofNat 64 (byte - 1)) with
  | error f' =>
    rw [ht] at hplace
    cases hplace
  | ok t =>
    obtain ⟨t', ht'⟩ := VfMmu.cold_page hm.configured
      (fun hx => hdata (requestAccess_execute.mp hx)) ht hpage
    rw [MemoryServiceV2.coldTranslate, ht'] at h
    cases h

lemma located_high (hm : Regime s.mmu r.controls) (hr : Shaped r)
    (haligned : v2AlignmentRequired r = false) {byte : ℕ} (hbyte : byte < (r.width * r.count).toNat)
    {t : Translation} (h : s.coldTranslate r (MemoryServiceV2.query r byte) = .ok t) :
    (if r.operation = opFetch then t.pa + BitVec.ofNat 64 byte else t.pa) >>> 48 = 0#64 := by
  obtain ⟨hinside, hlow⟩ := VfMmu.cold_output hm.configured h
  split
  · rename_i hf
    obtain ⟨hwidth, hcount, -⟩ := hr.fetch hf
    rw [hwidth, hcount] at hbyte
    have hb : byte < 4 := hbyte
    rw [MemoryServiceV2.query, if_pos hf] at hlow
    have hmod := Bits.toNat_and_mask t.pa 2 3#64 rfl
    rw [hlow (fetch_aligned hr haligned hf)] at hmod
    obtain ⟨bits, -, h48, hmask⟩ := VfMmu.mask_toNat hm.configured
    have hlt := Bits.lt_of_and_not hmask hinside
    have hpow : 2 ^ bits ≤ 2 ^ 48 := Nat.pow_le_pow_right (by decide) h48
    have hzero : t.pa.toNat % 4 = 0 := hmod.symm
    apply BitVec.eq_of_toNat_eq
    rw [BitVec.toNat_ushiftRight, Nat.shiftRight_eq_div_pow, BitVec.toNat_add, BitVec.toNat_ofNat,
      Nat.div_eq_of_lt (by omega)]
    rfl
  · exact high_of_inside hm.configured hinside

lemma coldPlace_taken (hm : Regime s.mmu r.controls) (hr : Shaped r)
    (hepoch : s.controls.epoch = r.controls.epoch) (haligned : v2AlignmentRequired r = false)
    (hwrap : wrapping r = false) {byte : ℕ} (hbyte : byte < (r.width * r.count).toNat)
    (hprev : 0 < byte → ∃ place, s.coldPlace r (byte - 1) = .ok place) {out : Reply}
    (h : s.coldPlace r byte = .error out) : Taken r out := by
  unfold MemoryServiceV2.coldPlace at h
  cases ht : s.coldTranslate r (MemoryServiceV2.query r byte) with
  | error f =>
    rw [ht] at h
    cases h
    refine cold_failure_taken hm hr hepoch haligned ?_ (probes_query hr haligned hwrap hbyte)
      (strided_query hr haligned hwrap hbyte (fault_byte hm hr haligned hwrap hbyte hprev ht)) ht
    intro hf
    rw [MemoryServiceV2.query, if_pos hf]
  | ok t =>
    rw [ht] at h
    have hhigh := located_high hm hr haligned hbyte ht
    obtain ⟨hp, -⟩ := probes hr haligned hwrap hbyte
    simp only [MemoryServiceV2.locate] at h
    split at h
    · cases h
      exact taken_bare hepoch (.inl rfl) hp.low hp.high (.inl ⟨rfl, rfl⟩)
    split at h
    · cases h
    split at h
    · split at h
      · cases h
        exact taken_bare hepoch (.inl rfl) hp.low hp.high (.inr ⟨rfl, hhigh⟩)
      · cases h
    · cases h
      exact taken_bare hepoch (.inr rfl) hp.low hp.high (.inr ⟨rfl, hhigh⟩)

lemma coldBytes_taken (hm : Regime s.mmu r.controls) (hr : Shaped r)
    (hepoch : s.controls.epoch = r.controls.epoch) (haligned : v2AlignmentRequired r = false)
    (hwrap : wrapping r = false) : Taken r (s.coldBytes r).1 := by
  unfold MemoryServiceV2.coldBytes
  cases hp : s.coldPlaces r (r.width * r.count).toNat 0 with
  | error out =>
    obtain ⟨k, -, hk, hplace, hprev⟩ := coldPlaces_error hp
    exact coldPlace_taken hm hr hepoch haligned hwrap (by omega)
      (fun hpos => hprev (k - 1) (by omega) (by omega)) hplace
  | ok places =>
    dsimp only
    unfold MemoryServiceV2.transfer
    split
    · exact taken_served hepoch haligned hwrap (BitVec.zero_and) (BitVec.zero_and) (fun _ => rfl)
        (fun _ => ⟨rfl, rfl⟩)
    · rename_i hload
      obtain ⟨h0, h1, h2⟩ := loadPlaces_masked hr.width s.ram s.tables places 0 (0#64, 0#64)
        BitVec.zero_and BitVec.zero_and
      refine taken_served hepoch haligned hwrap h0 h1 (fun hc => h2 ?_) (fun hs => absurd hs hload)
      obtain ⟨hbytes, -⟩ := hr.bytes
      rw [coldPlaces_length hp, hbytes, hc]
      simp

lemma coldFast_taken (hm : Regime s.mmu r.controls) (hr : Shaped r)
    (hepoch : s.controls.epoch = r.controls.epoch) (haligned : v2AlignmentRequired r = false)
    (hwrap : wrapping r = false) (hscalar : r.count = 1#32) {out : Reply} {ram : List Byte}
    (h : s.coldFast r = some (out, ram)) : Taken r out := by
  obtain ⟨hbytes, hpos, -⟩ := hr.bytes
  have hwidth : (r.width * r.count).toNat = r.width.toNat := by
    rw [hbytes, hscalar]
    simp
  have hp : Probes r r.address := by
    have h0 := (probes hr haligned hwrap (i := 0) (by omega)).1
    simpa using h0
  have hstride : Strided r r.address := fun _ => by simp
  unfold MemoryServiceV2.coldFast at h
  cases ht : s.coldTranslate r r.address with
  | error f =>
    rw [ht] at h
    cases h
    exact cold_failure_taken hm hr hepoch haligned (fun _ => rfl) hp hstride ht
  | ok t =>
    rw [ht] at h
    simp only [MemoryServiceV2.fastAnswer, hwidth] at h
    have hload : ∀ m i, r.operation ≠ opStore →
        Taken r { s.empty ok with value0 := loadLe m i r.width.toNat } := by
      intro m i hop
      exact taken_served hepoch haligned hwrap (loadLe_masked hr.width m i) BitVec.zero_and
        (fun _ => rfl) (fun hs => absurd hs hop)
    split at h
    · cases h
      exact taken_bare hepoch (.inl rfl) hp.low hp.high (.inl ⟨rfl, rfl⟩)
    split at h
    · split at h
      · cases h
        exact taken_served hepoch haligned hwrap BitVec.zero_and BitVec.zero_and (fun _ => rfl)
          (fun _ => ⟨rfl, rfl⟩)
      · cases h
        exact hload _ _ ‹_›
    split at h
    · split at h
      · cases h
      · cases h
        exact hload _ _ ‹_›
    · cases h

lemma inside_first (hr : Shaped r) : r.address - r.address < (r.width * r.count).zeroExtend 64 := by
  obtain ⟨hbytes, hpos, -, hcount⟩ := hr.bytes
  rw [BitVec.sub_self, BitVec.lt_def]
  simp only [BitVec.truncate_eq_setWidth, BitVec.toNat_setWidth, BitVec.toNat_ofNat]
  rw [hbytes]
  rcases hcount with hc | hc <;> rw [hc] <;> have := r.width.isLt <;> omega

lemma alignmentReply_taken (hr : Shaped r) (hepoch : s.controls.epoch = r.controls.epoch)
    (haligned : v2AlignmentRequired r = true) : Taken r (s.alignmentReply r) := by
  have hinside : Inside r (s.alignmentReply r) := by
    have haddress : (s.alignmentReply r).address = r.address := by
      unfold MemoryServiceV2.alignmentReply
      split <;> rfl
    rw [Inside, haddress]
    exact ⟨BitVec.le_refl _, inside_first hr⟩
  unfold MemoryServiceV2.alignmentReply at hinside ⊢
  dsimp only at hinside ⊢
  by_cases hf : r.operation = opFetch
  · rw [if_pos hf] at hinside ⊢
    refine taken_fault rfl rfl hepoch rfl ?_ rfl ⟨rfl, rfl⟩ hinside (.inr haligned) ?_
    · simp [v2ProvenanceValid, MemoryServiceV2.empty]
    · obtain ⟨hwidth, -, hpc⟩ := hr.fetch hf
      have hmis : r.pc &&& 3#64 ≠ 0#64 := by
        simp only [v2AlignmentRequired, hwidth, decide_eq_true_eq] at haligned
        rw [← hpc]
        exact haligned.1
      simp [v2FaultValid, MemoryServiceV2.empty, alignmentFaultOf, hf, hmis]
  · rw [if_neg hf] at hinside ⊢
    refine taken_fault rfl rfl hepoch rfl ?_ rfl ⟨rfl, rfl⟩ hinside (.inr haligned) ?_
    · simp [v2ProvenanceValid, MemoryServiceV2.empty]
    · have hne : dataAlignment ≠ pcAlignment := by decide
      simp [v2FaultValid, MemoryServiceV2.empty, alignmentFaultOf, hf, haligned, hne]

lemma refusal_taken (hr : Shaped r) (hvalid : s.requestValid r = true) {out : Reply}
    (hepoch : s.controls.epoch = r.controls.epoch) (h : s.refusal r = some out) : Taken r out := by
  unfold MemoryServiceV2.refusal at h
  rw [if_neg (by simp [hvalid]), hr.low_bits] at h
  split at h
  · rename_i haligned
    cases h
    exact alignmentReply_taken hr hepoch (by simpa [v2AlignmentRequired] using haligned)
  split at h
  · cases h
    exact taken_bare hepoch (.inl rfl) (BitVec.le_refl _) (inside_first hr) (.inl ⟨rfl, rfl⟩)
  · cases h

lemma coldExecute_taken (hm : Regime s.mmu r.controls) (hvalid : s.requestValid r = true) :
    Taken r (s.coldExecute r).1 := by
  obtain ⟨hr, hcontrols⟩ := requestValid_shaped hvalid
  have hepoch : s.controls.epoch = r.controls.epoch := by rw [hcontrols]
  unfold MemoryServiceV2.coldExecute
  cases hrefusal : s.refusal r with
  | some out => exact refusal_taken hr hvalid hepoch hrefusal
  | none =>
    obtain ⟨haligned, hwrap⟩ := refusal_none hr hrefusal
    dsimp only
    split
    · rename_i hfast
      simp only [MemoryServiceV2.fastScalar, decide_eq_true_eq] at hfast
      cases hcold : s.coldFast r with
      | some answer => exact coldFast_taken hm hr hepoch haligned hwrap hfast.1 hcold
      | none => exact coldBytes_taken hm hr hepoch haligned hwrap
    · exact coldBytes_taken hm hr hepoch haligned hwrap

lemma v2FaultValid_cached {q : Request} {out : Reply} (hfault : out.fault = permission)
    (hcontext : out.context = leaf) :
    v2FaultValid q { out with context := cachedLeaf } = v2FaultValid q out := by
  simp [v2FaultValid, contextValid, walkFaultValid, hfault, hcontext, cachedLeaf, leaf, input, walk]

lemma v2ProvenanceValid_cached {out : Reply} (hcontext : out.context = leaf) :
    v2ProvenanceValid { out with context := cachedLeaf } = v2ProvenanceValid out := by
  simp [v2ProvenanceValid, hcontext, cachedLeaf, leaf, input]

lemma sameReply_taken {warm cold : Reply} (hsame : MemoryServiceV2.SameReply warm cold)
    (h : Taken r cold) : Taken r warm := by
  rcases hsame with rfl | ⟨hfault, hcontext, rfl⟩
  · exact h
  · obtain ⟨hheader, hcanonical⟩ := h
    refine ⟨?_, ?_⟩
    · unfold headerInvalid at hheader ⊢
      rw [v2ProvenanceValid_cached hcontext]
      exact hheader
    · cases hcanonical with
      | ok hresult hvalid => simp [okInvalid, hfault, permission] at hvalid
      | refused hresult hvalues hinside hvalid => simp [refusalInvalid, hfault, permission] at hvalid
      | fault hresult hvalues hinside hwrap hphysical hvalid =>
        exact .fault hresult hvalues hinside hwrap hphysical
          ((v2FaultValid_cached hfault hcontext).trans hvalid)

end

def Reachable (s : MemoryServiceV2) : Prop :=
  ∃ ram ramBase tables tableBase controls start requests,
    MemoryServiceV2.new ram ramBase tables tableBase controls = .ok start ∧
      s = Run.final MemoryServiceV2.execute start requests

structure Served (s : MemoryServiceV2) : Prop where
  configured : VfMmu.disabled.configureStrictNc s.controls.ttbr0 s.controls.ttbr1 s.controls.tcr =
    (s.mmu.invalidate, true)
  coherent : s.mmu.Coherent (MemoryServiceV2.tableReader s.tables s.tableBase)

lemma new_served {ram : List Byte} {ramBase : U64} {tables : List Byte} {tableBase : U64}
    {controls : Controls} {s : MemoryServiceV2}
    (h : MemoryServiceV2.new ram ramBase tables tableBase controls = .ok s) : Served s := by
  unfold MemoryServiceV2.new at h
  split at h
  · cases h
  split at h
  · cases h
  split at h
  · cases h
  rename_i mmu hmmu
  cases h
  refine ⟨?_, (VfMmu.configureStrictNc_configured hmmu).2 _⟩
  rw [VfMmu.configureStrictNc_empty hmmu]
  exact hmmu

lemma Served.regime {s : MemoryServiceV2} (hs : Served s) : Regime s.mmu s.controls :=
  regime_of_configured hs.configured

lemma Served.execute {s : MemoryServiceV2} (hs : Served s) (q : Request) : Served (s.execute q).2 := by
  have hf := MemoryServiceV2.executeCounted_follows s q 0#64
  obtain ⟨calls, hcalls⟩ := hf.mmu
  change Served (s.executeCounted q 0#64).2.1
  refine ⟨?_, ?_⟩
  · rw [hf.controls, hcalls, VfMmu.afterCalls_invalidate]
    exact hs.configured
  · rw [hcalls, hf.tables, hf.tableBase]
    exact (VfMmu.afterCalls_preserves calls hs.regime.configured hs.coherent).2

lemma Reachable.served {s : MemoryServiceV2} (h : Reachable s) : Served s := by
  obtain ⟨ram, ramBase, tables, tableBase, controls, start, requests, hnew, rfl⟩ := h
  exact Run.final_invariant (I := Served) (C := fun _ => True) (fun _ q hs _ => hs.execute q) requests
    (fun _ _ => trivial) (new_served hnew)

lemma Served.taken {s : MemoryServiceV2} (hs : Served s) {q : Request}
    (hvalid : s.requestValid q = true) : Taken q (s.execute q).1 := by
  have hm := hs.regime
  have hwarm : s.Warm s.mmu := ⟨hm.configured, hs.coherent, rfl⟩
  have hrefines := hwarm.executeCounted q 0#64
  rw [← (requestValid_shaped hvalid).2] at hm
  exact sameReply_taken hrefines.1 (coldExecute_taken hm hvalid)

inductive Sends (cpu : VfCpu) (controls : Controls) (version : U32) : Request → Prop
  | fetch : Sends cpu controls version (fetchRequest cpu controls version)
  | data (shape : MemoryShape) (hshape : decodeMemory cpu.instruction = some shape)
      (hsp : spMisaligned cpu shape = false) : Sends cpu controls version (dataRequest cpu controls version shape)

lemma memoryRequestV2_controls {cpu : VfCpu} {c : Controls} (h : v2ControlsMatch cpu c = true)
    (op width count : U32) (address : U64) :
    (memoryRequestV2 cpu c op width count address).controls = c := by
  simp only [v2ControlsMatch, decide_eq_true_eq] at h
  obtain ⟨h1, h2, h3, h4, h5, h6, h7, -⟩ := h
  simp only [memoryRequestV2, h1, h2, h3, h4, h5, h6, h7]

lemma stateValid_mode {cpu : VfCpu} (h : cpu.stateValid = true) (hel : cpu.currentEl ≤ 1#32) :
    (cpu.currentEl = 0#32 ∧ cpu.pstate &&& 15#64 = 0#64) ∨
      (cpu.currentEl = 1#32 ∧ (cpu.pstate &&& 15#64 = 4#64 ∨ cpu.pstate &&& 15#64 = 5#64)) := by
  unfold VfCpu.stateValid at h
  dsimp only at h
  split at h
  · cases h
  split at h
  · exact .inl ⟨‹_›, by simpa using h⟩
  split at h
  · exact .inr ⟨‹_›, by simpa using h⟩
  · rename_i h0 h1
    exfalso
    bv_omega

lemma masked_value (v mask : U64) : v &&& mask &&& ~~~mask = 0#64 := by
  rw [BitVec.and_assoc, BitVec.and_not_self]
  exact BitVec.and_zero

def normalForm (q : Request) (controls : Controls) : Request :=
  { q with abiVersion := 2#32, controls := controls }

lemma normalForm_fetch (cpu : VfCpu) (controls k : Controls) (version : U32) :
    normalForm (fetchRequest cpu controls version) k =
      { memoryRequestV2 cpu controls opFetch 4#32 1#32 cpu.pc with controls := k } := by
  unfold fetchRequest versionRequest
  dsimp only
  split <;> rfl

lemma normalForm_data (cpu : VfCpu) (controls k : Controls) (version : U32) (shape : MemoryShape) :
    normalForm (dataRequest cpu controls version shape) k =
      { memoryRequestV2 cpu controls (if shape.read then opLoad else opStore) shape.width shape.count
          (dataAddress cpu shape) with
        controls := k
        value0 := if shape.read then 0#64 else memoryRegister cpu shape.rt false &&& elementMask shape.width
        value1 := if shape.read then 0#64
          else if shape.count = 2#32 then memoryRegister cpu shape.rt2 false &&& elementMask shape.width
          else 0#64 } := by
  unfold dataRequest versionRequest
  dsimp only
  cases shape.read with
  | false =>
    simp only [Bool.false_eq_true, if_false]
    split <;> rfl
  | true =>
    simp only [if_true]
    split <;> rfl

lemma Sends.valid {cpu : VfCpu} {controls : Controls} {version : U32} {q : Request}
    (hq : Sends cpu controls version q) (hvalid : cpu.stateValid = true) (hel : cpu.currentEl ≤ 1#32)
    (hpstate : cpu.pstate &&& ~~~0xf00003cf#64 = 0#64) (s : MemoryServiceV2) :
    s.requestValid (normalForm q s.controls) = true := by
  have hmode := stateValid_mode hvalid hel
  cases hq with
  | fetch =>
    rw [normalForm_fetch]
    unfold MemoryServiceV2.requestValid
    dsimp only
    rw [if_neg]
    · simp [memoryRequestV2]
    · rintro (h | h | h | h | h | h | h | h | h | h | h | h | h | h | h)
      · exact h rfl
      · exact h rfl
      · exact h rfl
      · exact h rfl
      · exact h rfl
      · exact h rfl
      · exact h (.inl rfl)
      · exact h (.inr (.inr (.inl rfl)))
      · exact h (.inl rfl)
      · exact absurd h.1 (by decide : ¬1#32 = 2#32)
      · exact h.2.elim (fun h => h rfl) (fun h => h.elim (fun h => h rfl) (fun h => h rfl))
      · exact h.2.elim (fun h => h rfl) (fun h => h rfl)
      · exact h.2 rfl
      · exact h hpstate
      · exact h hmode
  | data shape hshape hsp =>
    have hd := decodeMemory_decoded hshape
    rw [normalForm_data]
    unfold MemoryServiceV2.requestValid
    dsimp only
    rw [if_neg]
    · simp only [decide_eq_true_eq]
      constructor
      · split
        · exact BitVec.zero_and
        · exact masked_value _ _
      · split
        · exact BitVec.zero_and
        · split
          · exact masked_value _ _
          · exact BitVec.zero_and
    · rintro (h | h | h | h | h | h | h | h | h | h | h | h | h | h | h)
      · exact h rfl
      · exact h rfl
      · exact h rfl
      · exact h rfl
      · exact h rfl
      · exact h rfl
      · refine h ?_
        cases shape.read with
        | false => exact .inr (.inr rfl)
        | true => exact .inr (.inl rfl)
      · exact h hd.width
      · exact h (hd.count.imp id And.left)
      · obtain ⟨hc, hw⟩ := h
        have hw' : shape.width < 4#32 := hw
        rcases hd.count with h | ⟨-, h | h⟩
        · exact absurd (h.symm.trans hc) (by decide)
        · exact absurd (h ▸ hw') (by decide)
        · exact absurd (h ▸ hw') (by decide)
      · have hf : (if shape.read then opLoad else opStore) = opFetch := h.1
        revert hf
        cases shape.read <;> decide
      · obtain ⟨hs, hv⟩ := h
        cases hread : shape.read with
        | false => exact hs (by rw [hread]; rfl)
        | true => simp [hread] at hv
      · obtain ⟨hc, hv⟩ := h
        have hc' : shape.count = 1#32 := hc
        simp [hc'] at hv
      · exact h hpstate
      · exact h hmode

def served : Callback MemoryServiceV2 := fun s q => ((s.execute q).2, 0#32, (s.execute q).1)

/-- Completeness of the canonical provider: an exchange with a reachable service under the same
controls takes the service's reply as it is. -/
theorem canonical_provider_complete {s : MemoryServiceV2} (hs : Reachable s) {cpu : VfCpu}
    (hadmitted : Admitted cpu s.controls 2#32) {q : Request} (hq : Sends cpu s.controls 2#32 q)
    (result : RunResultV2) :
    Accepted cpu q (s.execute q).1 (exchangeStart result q 2#32)
      ((memoryExchangeVersion cpu served s q result 2#32).status,
        (memoryExchangeVersion cpu served s q result 2#32).cpu,
        (memoryExchangeVersion cpu served s q result 2#32).result) ∧
    (result.base.providerStatus ≠ ProviderStatus.invalidReply →
      (memoryExchangeVersion cpu served s q result 2#32).result.base.providerStatus ≠
        ProviderStatus.invalidReply) := by
  obtain ⟨-, -, hmatch⟩ | ⟨habsurd, -⟩ := hadmitted.controls
  swap
  · exact absurd habsurd (by decide)
  have hmatch' := hmatch
  simp only [v2ControlsMatch, decide_eq_true_eq] at hmatch'
  obtain ⟨-, -, -, -, -, -, -, hel, hpstate⟩ := hmatch'
  have hnormal : normalForm q s.controls = q := by
    have hversion : q.abiVersion = 2#32 ∧ q.controls = s.controls := by
      cases hq with
      | fetch => exact ⟨rfl, memoryRequestV2_controls hmatch _ _ _ _⟩
      | data shape =>
        have hcontrols := memoryRequestV2_controls hmatch (if shape.read then opLoad else opStore)
          shape.width shape.count (dataAddress cpu shape)
        unfold dataRequest
        dsimp only
        split <;> exact ⟨rfl, hcontrols⟩
    unfold normalForm
    rw [← hversion.1, ← hversion.2]
  have hvalid := hq.valid hadmitted.valid hel hpstate s
  rw [hnormal] at hvalid
  obtain ⟨hheader, hcanonical⟩ := hs.served.taken hvalid
  have hqel : q.currentEl ≤ 3#32 := by
    have hle := stateValid_el hadmitted.valid
    cases hq with
    | fetch => exact hle
    | data shape => rwa [dataRequest_el]
  have haccepted : Accepted cpu q (s.execute q).1 (exchangeStart result q 2#32)
      ((memoryExchangeVersion cpu served s q result 2#32).status,
        (memoryExchangeVersion cpu served s q result 2#32).cpu,
        (memoryExchangeVersion cpu served s q result 2#32).result) :=
    judgeReply_accepted hadmitted.valid hadmitted.quiet hqel hheader hcanonical _
  refine ⟨haccepted, fun hstart => ?_⟩
  exact haccepted.status hstart

namespace Fixture

def service : MemoryServiceV2 :=
  ⟨List.replicate 8 0#8, 0x1000#64, List.replicate 8 0#8, 0x2000#64, controls,
    (VfMmu.disabled.configureStrictNc 0x2000#64 0x2000#64 0x80100010#64).1⟩

lemma new_service : MemoryServiceV2.new (List.replicate 8 0#8) 0x1000#64 (List.replicate 8 0#8) 0x2000#64
    controls = .ok service := by
  decide

end Fixture

open Fixture in
theorem canonical_provider_complete_fetch :
    (service.execute (fetchRequest cpu service.controls 2#32)).1.result = guestFault ∧
      Accepted cpu (fetchRequest cpu service.controls 2#32)
        (service.execute (fetchRequest cpu service.controls 2#32)).1
        (exchangeStart result (fetchRequest cpu service.controls 2#32) 2#32)
        ((memoryExchangeVersion cpu served service (fetchRequest cpu service.controls 2#32) result
            2#32).status,
          (memoryExchangeVersion cpu served service (fetchRequest cpu service.controls 2#32) result
            2#32).cpu,
          (memoryExchangeVersion cpu served service (fetchRequest cpu service.controls 2#32) result
            2#32).result) :=
  ⟨by decide, (canonical_provider_complete (s := service) ⟨_, _, _, _, _, _, [], new_service, rfl⟩
    (show Admitted cpu service.controls 2#32 from ⟨by decide, by decide, .inl ⟨rfl, by decide, by decide⟩⟩) .fetch
    result).1⟩

end Nextcore.Provider
