import Nextcore.Preos.Dart

/-! The mappings of the table over any run of its operations. -/

namespace Nextcore.Preos.M1Dart

structure WellFormed (d : M1Dart) : Prop where
  count : d.mappingCount.toNat = (Finset.univ.filter fun i => (d.mappings i).valid = true).card
  inside : ∀ i, (d.mappings i).valid = true →
    0 < (d.mappings i).bytes.toNat ∧ (d.mappings i).iova.toNat + (d.mappings i).bytes.toNat < 2 ^ 64 ∧
      (d.mappings i).pa.toNat + (d.mappings i).bytes.toNat ≤ d.ramBytes.toNat
  disjoint : ∀ i j, i ≠ j → (d.mappings i).valid = true → (d.mappings j).valid = true →
    (d.mappings i).streamId = (d.mappings j).streamId →
      (d.mappings i).iova.toNat + (d.mappings i).bytes.toNat ≤ (d.mappings j).iova.toNat ∨
        (d.mappings j).iova.toNat + (d.mappings j).bytes.toNat ≤ (d.mappings i).iova.toNat

structure Covers (m : M1DartMapping) (streamId : BitVec 16) (iova bytes : U64) : Prop where
  valid : m.valid = true
  stream : m.streamId = streamId
  start : m.iova.toNat ≤ iova.toNat
  stop : iova.toNat + bytes.toNat ≤ m.iova.toNat + m.bytes.toNat

lemma checkedAdd_eq_some_iff (a b c : U64) : checkedAdd a b = some c ↔ a.toNat + b.toNat = c.toNat := by
  rw [checkedAdd]
  have hc := c.isLt
  have hadd := BitVec.toNat_add a b
  by_cases h : a.uaddOverflow b = true
  · rw [if_pos h]
    simp only [BitVec.uaddOverflow, decide_eq_true_eq] at h
    simp only [reduceCtorEq, false_iff]
    omega
  · rw [if_neg h]
    simp only [BitVec.uaddOverflow, decide_eq_true_eq] at h
    rw [Option.some_inj, ← BitVec.toNat_inj, hadd]
    omega

lemma checkedAdd_eq_none_iff (a b : U64) : checkedAdd a b = none ↔ 2 ^ 64 ≤ a.toNat + b.toNat := by
  rw [checkedAdd]
  by_cases h : a.uaddOverflow b = true
  · rw [if_pos h]
    simp only [BitVec.uaddOverflow, decide_eq_true_eq] at h
    simpa using h
  · rw [if_neg h]
    simp only [BitVec.uaddOverflow, decide_eq_true_eq] at h
    simpa using h

lemma rangesOverlap_eq_false_iff (lb ln rb rn : U64) :
    rangesOverlap lb ln rb rn = false ↔
      lb.toNat + ln.toNat < 2 ^ 64 ∧ rb.toNat + rn.toNat < 2 ^ 64 ∧
        (rb.toNat + rn.toNat ≤ lb.toNat ∨ lb.toNat + ln.toNat ≤ rb.toNat) := by
  rw [rangesOverlap]
  cases hl : checkedAdd lb ln with
  | none =>
    rw [checkedAdd_eq_none_iff] at hl
    simp only [Bool.true_eq_false, false_iff]
    omega
  | some le =>
    rw [checkedAdd_eq_some_iff] at hl
    have := le.isLt
    cases hr : checkedAdd rb rn with
    | none =>
      rw [checkedAdd_eq_none_iff] at hr
      simp only [Bool.true_eq_false, false_iff]
      omega
    | some re =>
      rw [checkedAdd_eq_some_iff] at hr
      have := re.isLt
      simp only [Bool.and_eq_false_iff, decide_eq_false_iff_not, BitVec.lt_def]
      omega

lemma find_some {d : M1Dart} {p : M1DartMapping → Bool} {i : Fin m1MaxDartMappings} (h : d.find p = some i) :
    p (d.mappings i) = true :=
  List.find?_some (p := fun i => p (d.mappings i)) h

lemma find_none_iff {d : M1Dart} {p : M1DartMapping → Bool} :
    d.find p = none ↔ ∀ i, p (d.mappings i) = false := by
  simp [find, List.find?_eq_none]

lemma find_eq_some {d : M1Dart} {p : M1DartMapping → Bool} {i : Fin m1MaxDartMappings}
    (hi : p (d.mappings i) = true) (huniq : ∀ j, p (d.mappings j) = true → j = i) : d.find p = some i := by
  cases h : d.find p with
  | none =>
    rw [find_none_iff.mp h i] at hi
    exact absurd hi (by simp)
  | some j => rw [huniq j (find_some h)]

lemma wellFormed_empty (n generation : _) : (⟨fun _ => emptyDartMapping, 0#32, n, generation⟩ : M1Dart).WellFormed := by
  refine ⟨by simp [emptyDartMapping], fun i h => ?_, fun i j _ h => ?_⟩ <;> simp [emptyDartMapping] at h

lemma wellFormed_new (ramBytes : U64) : (new ramBytes).WellFormed := wellFormed_empty _ _

lemma wellFormed_reset (d : M1Dart) : d.reset.WellFormed := wellFormed_empty _ _

lemma WellFormed.count_le {d : M1Dart} (h : d.WellFormed) : d.mappingCount.toNat ≤ m1MaxDartMappings := by
  rw [h.count]
  exact (Finset.card_filter_le _ _).trans (by simp)

lemma filter_valid_update_true (f : Fin m1MaxDartMappings → M1DartMapping) (slot : Fin m1MaxDartMappings)
    (m : M1DartMapping) (hold : (f slot).valid = false) (hnew : m.valid = true) :
    (Finset.univ.filter fun i => (Function.update f slot m i).valid = true).card =
      (Finset.univ.filter fun i => (f i).valid = true).card + 1 := by
  have hset : (Finset.univ.filter fun i => (Function.update f slot m i).valid = true) =
      insert slot (Finset.univ.filter fun i => (f i).valid = true) := by
    ext i
    by_cases hi : i = slot
    · subst hi
      simp [hnew]
    · simp [hi]
  rw [hset, Finset.card_insert_of_notMem (by simp [hold])]

lemma filter_valid_update_false (f : Fin m1MaxDartMappings → M1DartMapping) (slot : Fin m1MaxDartMappings)
    (m : M1DartMapping) (hold : (f slot).valid = true) (hnew : m.valid = false) :
    (Finset.univ.filter fun i => (Function.update f slot m i).valid = true).card + 1 =
      (Finset.univ.filter fun i => (f i).valid = true).card := by
  have h := filter_valid_update_true (Function.update f slot m) slot (f slot) (by simpa using hnew) hold
  rw [Function.update_idem, Function.update_eq_self] at h
  exact h.symm

lemma toNat_saturatingSucc {n : U32} (h : n.toNat < 2 ^ 32 - 1) : (saturatingSucc n).toNat = n.toNat + 1 := by
  have hne : n ≠ BitVec.allOnes 32 := by
    rintro rfl
    exact absurd h (by decide)
  rw [saturatingSucc, if_neg hne, BitVec.toNat_add]
  exact Nat.mod_eq_of_lt (by simp; omega)

lemma toNat_saturatingPred {n : U32} (h : 0 < n.toNat) : (saturatingPred n).toNat = n.toNat - 1 := by
  have hne : n ≠ 0#32 := by
    rintro rfl
    exact absurd h (by decide)
  have hle : 1#32 ≤ n := by rw [BitVec.le_def]; exact h
  rw [saturatingPred, if_neg hne, BitVec.toNat_sub_of_le hle]
  rfl

lemma map_cases (d : M1Dart) (streamId : BitVec 16) (iova pa bytes : U64) (access : M1DmaAccess) :
    ((d.map streamId iova pa bytes access).2 = d ∧ ∃ fault, (d.map streamId iova pa bytes access).1 = .error fault) ∨
    ∃ slot, (d.mappings slot).valid = false ∧ 0 < bytes.toNat ∧ iova.toNat + bytes.toNat < 2 ^ 64 ∧
      pa.toNat + bytes.toNat ≤ d.ramBytes.toNat ∧
      (∀ i, (d.mappings i).valid = true → (d.mappings i).streamId = streamId →
        rangesOverlap (d.mappings i).iova (d.mappings i).bytes iova bytes = false) ∧
      d.map streamId iova pa bytes access = (.ok (), { d with
        mappings := Function.update d.mappings slot ⟨true, streamId, iova, pa, bytes, access.bits⟩
        mappingCount := saturatingSucc d.mappingCount
        generation := saturatingSucc d.generation }) := by
  rw [map]
  split
  · exact Or.inl ⟨rfl, _, rfl⟩
  rename_i hargs
  split
  · exact Or.inl ⟨rfl, _, rfl⟩
  rename_i hoverlap
  cases hslot : d.find fun m => !m.valid with
  | none => exact Or.inl ⟨rfl, _, rfl⟩
  | some slot =>
    push Not at hargs
    obtain ⟨hbytes, -, -, -, hiova, hpa, hram⟩ := hargs
    refine Or.inr ⟨slot, by simpa using find_some hslot, ?_, ?_, ?_, ?_, rfl⟩
    · exact Nat.pos_of_ne_zero fun h => hbytes (BitVec.eq_of_toNat_eq h)
    · by_contra h
      rw [(checkedAdd_eq_none_iff iova bytes).mpr (by omega)] at hiova
      exact hiova rfl
    · cases hsum : checkedAdd pa bytes with
      | none => exact absurd (by rw [hsum]; rfl) hpa
      | some e =>
        rw [hsum, Option.getD_some] at hram
        rw [checkedAdd_eq_some_iff] at hsum
        rw [hsum, ← BitVec.le_def]
        exact BitVec.not_lt.mp hram
    · intro i hv hs
      have hnone := find_none_iff.mp (Option.not_isSome_iff_eq_none.mp hoverlap) i
      simpa [hv, hs] using hnone

lemma unmap_cases (d : M1Dart) (streamId : BitVec 16) (iova bytes : U64) :
    d.unmap streamId iova bytes = (false, d) ∨
    ∃ slot, (d.mappings slot).valid = true ∧ d.unmap streamId iova bytes = (true, { d with
      mappings := Function.update d.mappings slot emptyDartMapping
      mappingCount := saturatingPred d.mappingCount
      generation := saturatingSucc d.generation }) := by
  rw [unmap]
  cases hslot : d.find _ with
  | none => exact Or.inl rfl
  | some slot =>
    have hfound := find_some hslot
    simp only [Bool.and_eq_true] at hfound
    exact Or.inr ⟨slot, hfound.1.1.1, rfl⟩

lemma wellFormed_map {d : M1Dart} (streamId : BitVec 16) (iova pa bytes : U64) (access : M1DmaAccess)
    (h : d.WellFormed) : (d.map streamId iova pa bytes access).2.WellFormed := by
  rcases map_cases d streamId iova pa bytes access with
    ⟨he, -⟩ | ⟨slot, hfree, hpos, hiova, hpa, hclear, he⟩
  · rwa [he]
  · rw [he]
    refine ⟨?_, fun i hi => ?_, fun i j hij hi hj hs => ?_⟩
    · have hcount := h.count_le
      have hmax : m1MaxDartMappings = 16 := rfl
      rw [filter_valid_update_true _ _ _ hfree rfl, ← h.count, toNat_saturatingSucc (by omega)]
    · by_cases hslot : i = slot
      · subst hslot
        simpa using ⟨hpos, hiova, hpa⟩
      · simp only [Function.update_of_ne hslot] at hi ⊢
        exact h.inside i hi
    · by_cases his : i = slot
      · subst his
        have hjs : j ≠ i := fun hji => hij hji.symm
        simp only [Function.update_self, Function.update_of_ne hjs] at hj hs ⊢
        have hov := (rangesOverlap_eq_false_iff _ _ _ _).mp (hclear j hj hs.symm)
        omega
      · by_cases hjs : j = slot
        · subst hjs
          simp only [Function.update_self, Function.update_of_ne his] at hi hs ⊢
          have hov := (rangesOverlap_eq_false_iff _ _ _ _).mp (hclear i hi hs)
          omega
        · simp only [Function.update_of_ne his, Function.update_of_ne hjs] at hi hj hs ⊢
          exact h.disjoint i j hij hi hj hs

lemma wellFormed_unmap {d : M1Dart} (streamId : BitVec 16) (iova bytes : U64) (h : d.WellFormed) :
    (d.unmap streamId iova bytes).2.WellFormed := by
  rcases unmap_cases d streamId iova bytes with he | ⟨slot, hvalid, he⟩
  · rwa [he]
  · rw [he]
    have hsame : ∀ i, (Function.update d.mappings slot emptyDartMapping i).valid = true →
        i ≠ slot ∧ (d.mappings i).valid = true := by
      intro i hi
      by_cases his : i = slot
      · subst his
        simp [emptyDartMapping] at hi
      · exact ⟨his, by simpa [Function.update_of_ne his] using hi⟩
    refine ⟨?_, fun i hi => ?_, fun i j hij hi hj hs => ?_⟩
    · have hcard := filter_valid_update_false d.mappings slot emptyDartMapping hvalid rfl
      rw [← h.count] at hcard
      have hpred := toNat_saturatingPred (n := d.mappingCount) (by omega)
      exact hpred.trans (Nat.eq_sub_of_add_eq hcard).symm
    · obtain ⟨his, hv⟩ := hsame i hi
      simp only [Function.update_of_ne his]
      exact h.inside i hv
    · obtain ⟨his, hvi⟩ := hsame i hi
      obtain ⟨hjs, hvj⟩ := hsame j hj
      simp only [Function.update_of_ne his, Function.update_of_ne hjs] at hs ⊢
      exact h.disjoint i j hij hvi hvj hs

lemma holds_iff {m : M1DartMapping} (hm : m.iova.toNat + m.bytes.toNat < 2 ^ 64) (streamId : BitVec 16)
    (iova bytes : U64) : holds streamId iova bytes m = true ↔ Covers m streamId iova bytes := by
  have hsat : (saturatingAdd m.iova m.bytes).toNat = m.iova.toNat + m.bytes.toNat := by
    have hno : m.iova.uaddOverflow m.bytes = false := by
      simp only [BitVec.uaddOverflow, decide_eq_false_iff_not]
      omega
    rw [saturatingAdd, hno, if_neg Bool.false_ne_true, BitVec.toNat_add, Nat.mod_eq_of_lt hm]
  simp only [holds, Bool.and_eq_true, decide_eq_true_eq, BitVec.le_def]
  cases hsum : checkedAdd iova bytes with
  | none =>
    rw [checkedAdd_eq_none_iff] at hsum
    simp only [Option.isSome_none, Bool.false_eq_true, and_false, false_and, false_iff]
    rintro ⟨-, -, -, hstop⟩
    omega
  | some e =>
    rw [checkedAdd_eq_some_iff] at hsum
    rw [Option.getD_some, hsat, ← hsum]
    constructor
    · rintro ⟨⟨⟨⟨hv, hs⟩, hstart⟩, -⟩, hstop⟩
      exact ⟨hv, hs, hstart, hstop⟩
    · rintro ⟨hv, hs, hstart, hstop⟩
      exact ⟨⟨⟨⟨hv, hs⟩, hstart⟩, rfl⟩, hstop⟩

lemma holds_covers {d : M1Dart} (h : d.WellFormed) {streamId : BitVec 16} {iova bytes : U64}
    {i : Fin m1MaxDartMappings} :
    holds streamId iova bytes (d.mappings i) = true ↔ Covers (d.mappings i) streamId iova bytes := by
  by_cases hv : (d.mappings i).valid = true
  · exact holds_iff (h.inside i hv).2.1 streamId iova bytes
  · constructor
    · intro hh
      simp [holds, hv] at hh
    · intro hc
      exact absurd hc.valid hv

lemma covers_unique {d : M1Dart} (h : d.WellFormed) {streamId : BitVec 16} {iova bytes : U64} (hbytes : bytes ≠ 0#64)
    {i j : Fin m1MaxDartMappings} (hi : Covers (d.mappings i) streamId iova bytes)
    (hj : Covers (d.mappings j) streamId iova bytes) : i = j := by
  by_contra hij
  have hpos : 0 < bytes.toNat := Nat.pos_of_ne_zero fun hz => hbytes (BitVec.eq_of_toNat_eq hz)
  have hd := h.disjoint i j hij hi.valid hj.valid (hi.stream.trans hj.stream.symm)
  have h1 := hi.start
  have h2 := hi.stop
  have h3 := hj.start
  have h4 := hj.stop
  omega

lemma translate_ok_iff {d : M1Dart} (h : d.WellFormed) (streamId : BitVec 16) (iova bytes : U64) (access : M1DmaAccess)
    (pa : U64) : d.translate streamId iova bytes access = .ok pa ↔
      bytes ≠ 0#64 ∧ ∃ i, Covers (d.mappings i) streamId iova bytes ∧
        (d.mappings i).permissions &&& access.bits = access.bits ∧
        pa.toNat = (d.mappings i).pa.toNat + (iova.toNat - (d.mappings i).iova.toNat) := by
  rw [translate]
  by_cases hb : bytes = 0#64
  · simp [hb]
  rw [if_neg hb]
  cases hf : d.find (holds streamId iova bytes) with
  | none =>
    simp only [reduceCtorEq, false_iff, not_and]
    rintro - ⟨i, hc, -⟩
    rw [← holds_covers h, find_none_iff.mp hf i] at hc
    exact Bool.false_ne_true hc
  | some slot =>
    have hc := (holds_covers h).mp (find_some hf)
    have hsub : (iova - (d.mappings slot).iova).toNat = iova.toNat - (d.mappings slot).iova.toNat :=
      BitVec.toNat_sub_of_le hc.start
    have hin := h.inside slot hc.valid
    have hstart := hc.start
    have hstop := hc.stop
    have hram := d.ramBytes.isLt
    dsimp only
    split
    · rename_i hperm
      simp only [reduceCtorEq, false_iff, not_and]
      rintro - ⟨i, hci, hpi, -⟩
      rw [covers_unique h hb hci hc] at hpi
      exact hperm hpi
    rename_i hperm
    cases hsum : checkedAdd (d.mappings slot).pa (iova - (d.mappings slot).iova) with
    | none =>
      rw [checkedAdd_eq_none_iff, hsub] at hsum
      omega
    | some e =>
      rw [checkedAdd_eq_some_iff, hsub] at hsum
      simp only [Except.ok.injEq]
      constructor
      · rintro rfl
        exact ⟨hb, slot, hc, not_not.mp hperm, hsum.symm⟩
      · rintro ⟨-, i, hci, -, hpa⟩
        rw [covers_unique h hb hci hc] at hpa
        exact BitVec.eq_of_toNat_eq (by omega)

lemma translate_perm {d : M1Dart} (h : d.WellFormed) (σ : Equiv.Perm (Fin m1MaxDartMappings)) (streamId : BitVec 16)
    (iova bytes : U64) (access : M1DmaAccess) :
    translate { d with mappings := d.mappings ∘ σ } streamId iova bytes access =
      d.translate streamId iova bytes access := by
  rw [translate, translate]
  by_cases hb : bytes = 0#64
  · rw [if_pos hb, if_pos hb]
  rw [if_neg hb, if_neg hb]
  cases hf : d.find (holds streamId iova bytes) with
  | none =>
    have hnone : find { d with mappings := d.mappings ∘ σ } (holds streamId iova bytes) = none :=
      find_none_iff.mpr fun i => find_none_iff.mp hf (σ i)
    rw [hnone]
  | some slot =>
    have hc := (holds_covers h).mp (find_some hf)
    have hmoved : find { d with mappings := d.mappings ∘ σ } (holds streamId iova bytes) = some (σ.symm slot) := by
      refine find_eq_some ?_ fun j hj => ?_
      · simpa using find_some hf
      · have hcj := (holds_covers h).mp hj
        rw [← covers_unique h hb hcj hc, Equiv.symm_apply_apply]
    rw [hmoved]
    simp only [Function.comp_apply, Equiv.apply_symm_apply]

lemma getElem?_blit {m bs : List Byte} {i k : ℕ} (h : i + bs.length ≤ m.length) (hk : k < i ∨ i + bs.length ≤ k) :
    (Bytes.blit m i bs)[k]? = m[k]? := by
  rw [Bytes.blit]
  have hi : (m.take i).length = i := by
    rw [List.length_take]
    omega
  rcases hk with hk | hk
  · rw [List.append_assoc, List.getElem?_append_left (by omega), List.getElem?_take_of_lt hk]
  · rw [List.getElem?_append_right (by rw [List.length_append]; omega), List.length_append, hi, List.getElem?_drop]
    congr 1
    omega

structure Reaches (d : M1Dart) (streamId : BitVec 16) (iova : U64) (n : ℕ) (access : M1DmaAccess) (start : ℕ) :
    Prop where
  mapping : ∃ i, Covers (d.mappings i) streamId iova (BitVec.ofNat 64 n) ∧
    (d.mappings i).permissions &&& access.bits = access.bits ∧ (d.mappings i).pa.toNat ≤ start ∧
    start + n ≤ (d.mappings i).pa.toNat + (d.mappings i).bytes.toNat

lemma reaches_of_translate {d : M1Dart} (h : d.WellFormed) {streamId : BitVec 16} {iova pa : U64} {n limit : ℕ}
    {access : M1DmaAccess} {range : ℕ × ℕ}
    (ht : d.translate streamId iova (BitVec.ofNat 64 n) access = .ok pa) (hr : byteRange pa n limit = .ok range) :
    range = (pa.toNat, pa.toNat + n) ∧ pa.toNat + n ≤ limit ∧ Reaches d streamId iova n access pa.toNat := by
  rw [byteRange] at hr
  split at hr
  · exact absurd hr (by simp)
  split at hr
  · exact absurd hr (by simp)
  obtain ⟨hb, i, hc, hp, hpa⟩ := (translate_ok_iff h _ _ _ _ _).mp ht
  have hn : (BitVec.ofNat 64 n).toNat = n := by
    rw [BitVec.toNat_ofNat]
    exact Nat.mod_eq_of_lt (by omega)
  have hstart := hc.start
  have hstop := hc.stop
  rw [hn] at hstop
  exact ⟨(Except.ok.inj hr).symm, by omega, ⟨i, hc, hp, by omega, by omega⟩⟩

lemma dmaRead_cases {d : M1Dart} (h : d.WellFormed) (streamId : BitVec 16) (iova : U64) (destination ram : List Byte) :
    (∃ fault, d.dmaRead streamId iova destination ram = (.error fault, destination)) ∨
    ∃ start, Reaches d streamId iova destination.length .deviceReadGuest start ∧
      start + destination.length ≤ ram.length ∧
      d.dmaRead streamId iova destination ram = (.ok (), Bytes.slice ram start destination.length) := by
  rw [dmaRead]
  cases ht : d.translate streamId iova (BitVec.ofNat 64 destination.length) .deviceReadGuest with
  | error fault => exact Or.inl ⟨fault, rfl⟩
  | ok pa =>
    dsimp only
    cases hr : byteRange pa destination.length ram.length with
    | error fault => exact Or.inl ⟨fault, rfl⟩
    | ok range =>
      obtain ⟨rfl, hlen, hreach⟩ := reaches_of_translate h ht hr
      exact Or.inr ⟨pa.toNat, hreach, hlen, by simp⟩

lemma dmaWrite_cases {d : M1Dart} (h : d.WellFormed) (streamId : BitVec 16) (iova : U64) (source ram : List Byte) :
    (∃ fault, d.dmaWrite streamId iova source ram = (.error fault, ram)) ∨
    ∃ start, Reaches d streamId iova source.length .deviceWriteGuest start ∧ start + source.length ≤ ram.length ∧
      d.dmaWrite streamId iova source ram = (.ok (), Bytes.blit ram start source) := by
  rw [dmaWrite]
  cases ht : d.translate streamId iova (BitVec.ofNat 64 source.length) .deviceWriteGuest with
  | error fault => exact Or.inl ⟨fault, rfl⟩
  | ok pa =>
    dsimp only
    cases hr : byteRange pa source.length ram.length with
    | error fault => exact Or.inl ⟨fault, rfl⟩
    | ok range =>
      obtain ⟨rfl, hlen, hreach⟩ := reaches_of_translate h ht hr
      exact Or.inr ⟨pa.toNat, hreach, hlen, rfl⟩

inductive DartOp
  | map (streamId : BitVec 16) (iova pa bytes : U64) (access : M1DmaAccess)
  | unmap (streamId : BitVec 16) (iova bytes : U64)
  | reset
  | translate (streamId : BitVec 16) (iova bytes : U64) (access : M1DmaAccess)
  | dmaRead (streamId : BitVec 16) (iova : U64) (destination : List Byte)
  | dmaWrite (streamId : BitVec 16) (iova : U64) (source : List Byte)

inductive DartAnswer
  | done
  | failed (fault : Option M1DmaFault)
  | address (pa : U64)
  | read (destination : List Byte)

def DartAnswer.ofUnit : Except M1DmaFault Unit → DartAnswer
  | .error fault => .failed (some fault)
  | .ok () => .done

/-- One operation on the table and the guest RAM; `unmap` fails without a fault. -/
def step (s : M1Dart × List Byte) : DartOp → DartAnswer × (M1Dart × List Byte)
  | .map streamId iova pa bytes access =>
    let r := s.1.map streamId iova pa bytes access
    (.ofUnit r.1, r.2, s.2)
  | .unmap streamId iova bytes =>
    let r := s.1.unmap streamId iova bytes
    (if r.1 then .done else .failed none, r.2, s.2)
  | .reset => (.done, s.1.reset, s.2)
  | .translate streamId iova bytes access =>
    (match s.1.translate streamId iova bytes access with
      | .error fault => .failed (some fault)
      | .ok pa => .address pa, s)
  | .dmaRead streamId iova destination =>
    let r := s.1.dmaRead streamId iova destination s.2
    (match r.1 with
      | .error fault => .failed (some fault)
      | .ok () => .read r.2, s)
  | .dmaWrite streamId iova source =>
    let r := s.1.dmaWrite streamId iova source s.2
    (.ofUnit r.1, s.1, r.2)

abbrev DartEntry := Run.Entry (M1Dart × List Byte) DartOp DartAnswer

lemma wellFormed_step (s : M1Dart × List Byte) (op : DartOp) (h : s.1.WellFormed) : (step s op).2.1.WellFormed := by
  cases op with
  | map streamId iova pa bytes access => exact wellFormed_map streamId iova pa bytes access h
  | unmap streamId iova bytes => exact wellFormed_unmap streamId iova bytes h
  | reset => exact wellFormed_reset s.1
  | translate | dmaRead | dmaWrite => exact h

lemma failed_step (s : M1Dart × List Byte) (op : DartOp) (h : s.1.WellFormed) {fault : Option M1DmaFault}
    (hf : (step s op).1 = .failed fault) : (step s op).2 = s := by
  cases op with
  | map streamId iova pa bytes access =>
    rcases map_cases s.1 streamId iova pa bytes access with ⟨he, -⟩ | ⟨slot, -, -, -, -, -, he⟩
    · simp only [step, he]
    · simp [step, he, DartAnswer.ofUnit] at hf
  | unmap streamId iova bytes =>
    rcases unmap_cases s.1 streamId iova bytes with he | ⟨slot, -, he⟩
    · simp only [step, he]
    · simp [step, he] at hf
  | reset => simp [step] at hf
  | translate | dmaRead => rfl
  | dmaWrite streamId iova source =>
    rcases dmaWrite_cases h streamId iova source s.2 with ⟨e, he⟩ | ⟨start, -, -, he⟩
    · simp only [step, he]
    · simp [step, he, DartAnswer.ofUnit] at hf

structure Transfers (x : DartEntry) : Prop where
  read : ∀ streamId iova destination out, x.event = .dmaRead streamId iova destination → x.answer = .read out →
    ∃ start, Reaches x.before.1 streamId iova destination.length .deviceReadGuest start ∧
      start + destination.length ≤ x.before.2.length ∧ out = Bytes.slice x.before.2 start destination.length
  write : ∀ streamId iova source, x.event = .dmaWrite streamId iova source → x.answer = .done →
    ∃ start, Reaches x.before.1 streamId iova source.length .deviceWriteGuest start ∧
      start + source.length ≤ x.before.2.length ∧ x.after.2 = Bytes.blit x.before.2 start source ∧
      ∀ k, k < start ∨ start + source.length ≤ k → x.after.2[k]? = x.before.2[k]?
  other : (∀ streamId iova source, x.event ≠ .dmaWrite streamId iova source) → x.after.2 = x.before.2

lemma transfers_step (s : M1Dart × List Byte) (op : DartOp) (h : s.1.WellFormed) : Transfers (Run.entry step s op) := by
  refine ⟨fun streamId iova destination out hop hans => ?_, fun streamId iova source hop hans => ?_,
    fun hne => ?_⟩
  · simp only [Run.entry] at hop hans ⊢
    subst hop
    rcases dmaRead_cases h streamId iova destination s.2 with ⟨e, he⟩ | ⟨start, hreach, hlen, he⟩
    · simp [step, he] at hans
    · simp only [step, he, DartAnswer.read.injEq] at hans
      exact ⟨start, hreach, hlen, hans.symm⟩
  · simp only [Run.entry] at hop hans ⊢
    subst hop
    rcases dmaWrite_cases h streamId iova source s.2 with ⟨e, he⟩ | ⟨start, hreach, hlen, he⟩
    · simp [step, he, DartAnswer.ofUnit] at hans
    · refine ⟨start, hreach, hlen, by simp only [step, he], fun k hk => ?_⟩
      simp only [step, he]
      exact getElem?_blit hlen hk
  · cases op with
    | dmaWrite streamId iova source => exact absurd rfl (hne streamId iova source)
    | map | unmap | reset | translate | dmaRead => rfl

/-- Over any run from an empty table: the mappings of a stream are disjoint, lie in RAM
and are counted; a translation has one answer in any order of the slots; a transfer
touches only the RAM of a mapping with its permission; a failure changes nothing. -/
theorem dart_mapping_invariant (ramBytes : U64) (ram : List Byte) (ops : List DartOp) (x : DartEntry)
    (hx : x ∈ Run.log step (new ramBytes, ram) ops) :
    (x.before.1.WellFormed ∧ x.after.1.WellFormed) ∧
    (x.before.1.mappingCount.toNat ≤ m1MaxDartMappings ∧ x.after.1.mappingCount.toNat ≤ m1MaxDartMappings) ∧
    (∀ streamId iova bytes access pa, x.before.1.translate streamId iova bytes access = .ok pa ↔
      bytes ≠ 0#64 ∧ ∃ i, Covers (x.before.1.mappings i) streamId iova bytes ∧
        (x.before.1.mappings i).permissions &&& access.bits = access.bits ∧
        pa.toNat = (x.before.1.mappings i).pa.toNat + (iova.toNat - (x.before.1.mappings i).iova.toNat)) ∧
    (∀ (σ : Equiv.Perm (Fin m1MaxDartMappings)) streamId iova bytes access,
      translate { x.before.1 with mappings := x.before.1.mappings ∘ σ } streamId iova bytes access =
        x.before.1.translate streamId iova bytes access) ∧
    Transfers x ∧ (∀ fault, x.answer = .failed fault → x.after = x.before) := by
  obtain ⟨hbefore, hentry⟩ := Run.mem_log (I := fun s : M1Dart × List Byte => s.1.WellFormed) wellFormed_step ops
    (wellFormed_new ramBytes) hx
  have hafter : x.after.1.WellFormed := by
    rw [hentry]
    exact wellFormed_step _ _ hbefore
  refine ⟨⟨hbefore, hafter⟩, ⟨hbefore.count_le, hafter.count_le⟩, ?_, ?_, ?_, fun fault hf => ?_⟩
  · exact fun streamId iova bytes access pa => translate_ok_iff hbefore streamId iova bytes access pa
  · exact fun σ streamId iova bytes access => translate_perm hbefore σ streamId iova bytes access
  · rw [hentry]
    exact transfers_step _ _ hbefore
  · rw [hentry] at hf ⊢
    exact failed_step _ _ hbefore hf

def mapped : List DartOp :=
  [.map 7#16 0x10000#64 0#64 0x1000#64 .bidirectional, .dmaWrite 7#16 0x10004#64 [1#8, 2#8],
    .map 7#16 0x10000#64 0x1000#64 0x1000#64 .deviceReadGuest]

theorem dart_mapping_invariant_mapped :
    (Run.log step (new 0x4000#64, List.replicate 0x4000 0#8) mapped).Forall fun x =>
      (x.before.1.WellFormed ∧ x.after.1.WellFormed) ∧
      (x.before.1.mappingCount.toNat ≤ m1MaxDartMappings ∧ x.after.1.mappingCount.toNat ≤ m1MaxDartMappings) ∧
      (∀ pa, x.before.1.translate 7#16 0x10004#64 2#64 .deviceReadGuest = .ok pa ↔
        2#64 ≠ 0#64 ∧ ∃ i, Covers (x.before.1.mappings i) 7#16 0x10004#64 2#64 ∧
          (x.before.1.mappings i).permissions &&& Dma.read = Dma.read ∧
          pa.toNat = (x.before.1.mappings i).pa.toNat + (0x10004 - (x.before.1.mappings i).iova.toNat)) ∧
      (∀ σ : Equiv.Perm (Fin m1MaxDartMappings),
        translate { x.before.1 with mappings := x.before.1.mappings ∘ σ } 7#16 0x10004#64 2#64 .deviceReadGuest =
          x.before.1.translate 7#16 0x10004#64 2#64 .deviceReadGuest) ∧
      Transfers x ∧ (∀ fault, x.answer = .failed fault → x.after = x.before) := by
  refine List.forall_iff_forall_mem.mpr fun x hx => ?_
  obtain ⟨hformed, hcount, htranslate, hperm, htransfers, hfailed⟩ := dart_mapping_invariant _ _ mapped x hx
  exact ⟨hformed, hcount, htranslate _ _ _ _, fun σ => hperm σ _ _ _ _, htransfers, hfailed⟩

end Nextcore.Preos.M1Dart
