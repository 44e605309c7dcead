import Nextcore.Mmu.Leaf

/-! Every live TLB entry is the leaf a cold walk reaches, so a lookup and a
cold walk answer alike. -/

namespace Nextcore.Mmu

open Bits

namespace VfMmu

lemma msb_of_lower {va : U64} {tsz : ℕ} (h16 : 16 ≤ tsz) (h47 : tsz ≤ 47)
    (h : va >>> (64 - tsz) = 0#64) : va.getLsbD 63 = false := by
  have hb := congrArg (fun v => v.getLsbD (tsz - 1)) h
  simpa [BitVec.getLsbD_ushiftRight, show 64 - tsz + (tsz - 1) = 63 by omega] using hb

lemma msb_of_upper {va : U64} {tsz : ℕ} (h16 : 16 ≤ tsz) (h47 : tsz ≤ 47)
    (h : va >>> (64 - tsz) = (1#64 <<< tsz) - 1#64) : va.getLsbD 63 = true := by
  have hb := congrArg (fun v => v.getLsbD (tsz - 1)) h
  simp only [BitVec.getLsbD_ushiftRight, getLsbD_low_mask] at hb
  rw [show 64 - tsz + (tsz - 1) = 63 by omega] at hb
  rw [hb]
  simp
  omega

lemma selectRoot_eq_some {m : VfMmu} {va : U64} {root : U64} {tsz : ℕ} {disabled : Bool}
    (h : m.selectRoot va = some (root, tsz, disabled)) :
    ∃ start, m.granule.startLevel tsz = some start ∧ 16 ≤ tsz ∧ tsz ≤ 47 ∧
      ((root = m.ttbr0 ∧ tsz = m.tcrT0sz ∧ disabled = m.walkDisabled.1 ∧ va >>> (64 - tsz) = 0#64) ∨
       (root = m.ttbr1 ∧ tsz = m.tcrT1sz ∧ disabled = m.walkDisabled.2 ∧ m.tcrT1sz ≠ 0 ∧
        va >>> (64 - tsz) = (1#64 <<< tsz) - 1#64)) := by
  unfold selectRoot at h
  split at h
  · rename_i hc
    cases h
    obtain ⟨start, hs⟩ := Option.isSome_iff_exists.mp hc.1
    obtain ⟨h1, h2⟩ := Granule.validTsz_pos (Granule.startLevel_eq_some hs).1
    exact ⟨start, hs, h1, h2, .inl ⟨rfl, rfl, rfl, hc.2⟩⟩
  · split at h
    · rename_i hc
      cases h
      obtain ⟨start, hs⟩ := Option.isSome_iff_exists.mp hc.2.1
      obtain ⟨h1, h2⟩ := Granule.validTsz_pos (Granule.startLevel_eq_some hs).1
      exact ⟨start, hs, h1, h2, .inr ⟨rfl, rfl, rfl, hc.1, hc.2.2⟩⟩
    · cases h

lemma selectRoot_congr {m : VfMmu} {va va' : U64} {root : U64} {tsz s : ℕ} {disabled : Bool}
    (h : m.selectRoot va = some (root, tsz, disabled)) (hs : s ≤ 64 - tsz)
    (hv : va >>> s = va' >>> s) : m.selectRoot va' = some (root, tsz, disabled) := by
  obtain ⟨start, hstart, h16, h47, hcase⟩ := selectRoot_eq_some h
  have hvt := shiftRight_congr hv hs
  rcases hcase with ⟨rfl, rfl, rfl, hz⟩ | ⟨rfl, rfl, rfl, hne, ho⟩
  · rw [hvt] at hz
    simp [selectRoot, hstart, hz]
  · rw [hvt] at ho
    have hm := msb_of_upper h16 h47 ho
    have hn : ¬((m.granule.startLevel m.tcrT0sz).isSome ∧ va' >>> (64 - m.tcrT0sz) = 0#64) := by
      rintro ⟨hl, hz⟩
      obtain ⟨start0, hs0⟩ := Option.isSome_iff_exists.mp hl
      obtain ⟨h1, h2⟩ := Granule.validTsz_pos (Granule.startLevel_eq_some hs0).1
      rw [msb_of_lower h1 h2 hz] at hm
      cases hm
    simp [selectRoot, hn, hstart, hne, ho]

lemma walk_same_leaf {m : VfMmu} (hm : m.Configured) {el el' : ExceptionLevel}
    (hel : el.el10 = el'.el10) {read64 : TableReader} {va : U64} {access : Access}
    (va' : U64) (access' : Access) {leaf : Leaf} (h : m.walk va access el read64 = .ok leaf) :
    (∀ v : U64, leafPa leaf v &&& ~~~m.physicalAddressMask = 0#64) ∧
    (va >>> leaf.pageShift = va' >>> leaf.pageShift →
      m.canonicalVa va' = true ∧ m.walk va' access' el' read64 =
        if allowed access' el' leaf.permissions = false then .error (leafDenied leaf va')
        else .ok leaf) := by
  unfold walk at h
  split at h
  · cases h
  rename_i root tsz disabled hroot
  split at h
  · cases h
  rename_i start hstart
  split at h
  · cases h
  rename_i hdis
  dsimp only at h
  split at h
  · cases h
  rename_i htable
  obtain ⟨-, hmax, hshift⟩ := Granule.startLevel_eq_some hstart
  obtain ⟨hle, hps, hpa, hloop⟩ := walkLoop_same_leaf hm hel va' access'
    (by omega) h
  refine ⟨hpa, fun hv => ?_⟩
  have hs : leaf.pageShift ≤ 64 - tsz := by
    have := m.granule.levelShift_antitone (show start ≤ leaf.level by omega)
    omega
  have hroot' := selectRoot_congr hroot hs hv
  refine ⟨by simp [canonicalVa, hroot'], ?_⟩
  simp only [walk, hroot', hstart, hdis, htable, if_false, Bool.false_eq_true]
  exact hloop hv

lemma walkLoop_tlb (m : VfMmu) (tlb : Vector TlbEntry 16) (next : Fin 16) (va : U64)
    (access : Access) (el : ExceptionLevel) (read64 : TableReader) (tableVa : U64) (remaining : ℕ)
    (table permissions : U64) :
    { m with tlb := tlb, next := next }.walkLoop va access el read64 tableVa remaining table permissions =
      m.walkLoop va access el read64 tableVa remaining table permissions := by
  induction remaining generalizing table permissions with
  | zero => rfl
  | succ n ih =>
    simp only [walkLoop, ih]
    rfl

lemma walk_tlb (m : VfMmu) (tlb : Vector TlbEntry 16) (next : Fin 16) (va : U64)
    (access : Access) (el : ExceptionLevel) (read64 : TableReader) :
    { m with tlb := tlb, next := next }.walk va access el read64 = m.walk va access el read64 := by
  simp only [walk, walkLoop_tlb]
  rfl

def Coherent (m : VfMmu) (read64 : TableReader) : Prop :=
  ∀ e ∈ m.tlb, e.valid = true →
    ∃ va access el leaf, m.walk va access el read64 = .ok leaf ∧ e = m.filledEntry va el leaf

lemma coherent_of_empty {m : VfMmu} (h : m.tlb = Vector.replicate 16 tlbEntry)
    (read64 : TableReader) : m.Coherent read64 := by
  intro e he hv
  rw [h] at he
  obtain rfl : e = tlbEntry := (Vector.mem_replicate.mp he).2
  cases hv

lemma cache_coherent {m : VfMmu} {read64 : TableReader} (hm : m.Coherent read64) {va : U64}
    {access : Access} {el : ExceptionLevel} {leaf : Leaf}
    (h : m.walk va access el read64 = .ok leaf) : (m.cache va el leaf).Coherent read64 := by
  intro e he hv
  rcases @Vector.mem_or_eq_of_mem_set _ _ _ _ _ _ m.next.isLt he with hold | rfl
  · obtain ⟨va', access', el', leaf', hw, rfl⟩ := hm e hold hv
    exact ⟨va', access', el', leaf', (walk_tlb m _ _ _ _ _ _).trans hw, rfl⟩
  · exact ⟨va, access, el, leaf, (walk_tlb m _ _ _ _ _ _).trans h, rfl⟩

/-- Two answers that agree up to the context of a permission fault, which a
lookup reports as `cachedLeaf` and a walk as `leaf`. -/
def SameAnswer (warm cold : Except TranslationFailure Translation) : Prop :=
  warm = cold ∨ ∃ f, cold = .error f ∧ f.kind = .architectural .permission ∧ f.context = .leaf ∧
    warm = .error { f with context := .cachedLeaf }

def coldAnswer (m : VfMmu) (va : U64) (access : Access) (el : ExceptionLevel)
    (read64 : TableReader) : Except TranslationFailure Translation :=
  (m.walk va access el read64).map fun leaf =>
    translation el (leafPa leaf va) leaf.pageShift leaf.permissions
      (if m.strictNc then some normalNc else none)

lemma hit_same_answer {m : VfMmu} (hm : m.Configured) {read64 : TableReader}
    (hc : m.Coherent read64) {va : U64} {access : Access} {el : ExceptionLevel} {e : TlbEntry}
    (he : e ∈ m.tlb) (hmatch : m.matchesEntry va el e = true) :
    SameAnswer (m.hit va access el e) (m.coldAnswer va access el read64) := by
  simp only [matchesEntry, Bool.and_eq_true, beq_iff_eq] at hmatch
  obtain ⟨⟨⟨hvalid, -⟩, hel⟩, htag⟩ := hmatch
  obtain ⟨va', access', el', leaf, hw, rfl⟩ := hc e he hvalid
  obtain ⟨hpa, hsame⟩ := walk_same_leaf hm hel va access hw
  obtain ⟨-, hwalk⟩ := hsame htag.symm
  have hp : leaf.paBase ||| (va &&& ((1#64 <<< leaf.pageShift) - 1#64)) = leafPa leaf va := rfl
  simp only [hit, filledEntry, coldAnswer, hwalk, hp, hpa va, ne_eq, not_true_eq_false, if_false]
  by_cases hal : allowed access el leaf.permissions = false
  · rw [if_pos hal]
    refine .inr ⟨leafDenied leaf va, rfl, rfl, rfl, ?_⟩
    exact if_pos hal
  · rw [if_neg hal]
    refine .inl (if_neg hal)

def inputFault (m : VfMmu) (va : U64) (access : Access) : Option TranslationFailure :=
  if access = .execute ∧ va &&& 3#64 ≠ 0#64 then some (.architectural .alignment none .input)
  else if m.canonicalVa va = false then some (.architectural .translation (some 0) .input)
  else none

lemma translateDetailed_eq {m : VfMmu} (hen : m.enabled = true) (va : U64) (access : Access)
    (el : ExceptionLevel) (read64 : TableReader) :
    m.translateDetailed va access el read64 =
      match m.inputFault va access with
      | some f => (.error f, m)
      | none =>
        match m.tlb.toList.find? (m.matchesEntry va el) with
        | some e => (m.hit va access el e, m)
        | none =>
          (m.coldAnswer va access el read64,
            match m.walk va access el read64 with
            | .error _ => m
            | .ok leaf => m.cache va el leaf) := by
  unfold translateDetailed inputFault
  by_cases h1 : access = .execute ∧ va &&& 3#64 ≠ 0#64
  · simp only [if_pos h1]
  by_cases h2 : m.canonicalVa va = false
  · simp only [if_neg h1, if_pos h2, hen, Bool.true_eq_false, if_false]
  simp only [if_neg h1, if_neg h2, hen, Bool.true_eq_false, if_false, tlbLookup]
  cases hf : m.tlb.toList.find? (m.matchesEntry va el) with
  | some e => cases hh : m.hit va access el e <;> simp [Except.map, hh]
  | none => cases hw : m.walk va access el read64 <;> simp [coldAnswer, Except.map, hw, leafPa]

lemma cold_translateDetailed {m : VfMmu} (hen : m.enabled = true) (va : U64) (access : Access)
    (el : ExceptionLevel) (read64 : TableReader) :
    (m.invalidate.translateDetailed va access el read64).1 =
      match m.inputFault va access with
      | some f => .error f
      | none => m.coldAnswer va access el read64 := by
  have hfind : m.invalidate.tlb.toList.find? (m.invalidate.matchesEntry va el) = none := by
    rw [List.find?_eq_none]
    intro e he
    have : e = tlbEntry := by simpa [invalidate] using he
    simp [this, matchesEntry, tlbEntry]
  have hfault : m.invalidate.inputFault va access = m.inputFault va access := rfl
  have hcold : m.invalidate.coldAnswer va access el read64 = m.coldAnswer va access el read64 := by
    simp only [coldAnswer, invalidate, walk_tlb]
    rfl
  rw [translateDetailed_eq (m := m.invalidate) hen, hfault, hfind]
  cases m.inputFault va access with
  | some f => rfl
  | none => exact hcold

lemma translate_same_answer {m : VfMmu} (hm : m.Configured) {read64 : TableReader}
    (hc : m.Coherent read64) (va : U64) (access : Access) (el : ExceptionLevel) :
    SameAnswer (m.translateDetailed va access el read64).1
      (m.invalidate.translateDetailed va access el read64).1 := by
  rw [cold_translateDetailed hm.enabled, translateDetailed_eq hm.enabled]
  cases m.inputFault va access with
  | some f => exact .inl rfl
  | none =>
    dsimp only
    cases hf : m.tlb.toList.find? (m.matchesEntry va el) with
    | none => exact .inl rfl
    | some e =>
      have hmem : e ∈ m.tlb := by simpa using List.mem_of_find?_eq_some hf
      exact hit_same_answer hm hc hmem (List.find?_some hf)

lemma configured_tlb {m : VfMmu} (hm : m.Configured) (tlb : Vector TlbEntry 16) (next : Fin 16) :
    Configured { m with tlb := tlb, next := next } :=
  ⟨hm.enabled, hm.mask, hm.lower, hm.upper⟩

lemma translate_preserves {m : VfMmu} (hm : m.Configured) {read64 : TableReader}
    (hc : m.Coherent read64) (va : U64) (access : Access) (el : ExceptionLevel) :
    (m.translateDetailed va access el read64).2.Configured ∧
      (m.translateDetailed va access el read64).2.Coherent read64 := by
  rw [translateDetailed_eq hm.enabled]
  cases m.inputFault va access with
  | some f => exact ⟨hm, hc⟩
  | none =>
    cases m.tlb.toList.find? (m.matchesEntry va el) with
    | some e => exact ⟨hm, hc⟩
    | none =>
      cases hw : m.walk va access el read64 with
      | error f => exact ⟨hm, hc⟩
      | ok leaf => exact ⟨configured_tlb hm _ _, cache_coherent hc hw⟩

lemma configureTcr_accepted {m m' : VfMmu} {ttbr0 ttbr1 tcr : U64} {asid : BitVec 16}
    (h : m.configureTcr ttbr0 ttbr1 tcr asid = (m', true)) :
    ∃ bits granule, physicalBits tcr = some bits ∧
      lowerGranule ((tcr >>> 14) &&& 3#64) = some granule ∧
      (granule.startLevel (tcr &&& 0x3f#64).toNat).isSome = true ∧
      (((tcr >>> 16) &&& 0x3f#64).toNat ≠ 0 →
        (granule.startLevel ((tcr >>> 16) &&& 0x3f#64).toNat).isSome = true) ∧
      m' = invalidate
        { m with
          enabled := true, strictNc := false, ttbr0 := ttbr0, ttbr1 := ttbr1,
          tcrT0sz := (tcr &&& 0x3f#64).toNat, tcrT1sz := ((tcr >>> 16) &&& 0x3f#64).toNat,
          asid := asid, granule := granule,
          walkDisabled := (tcr &&& (1#64 <<< 7) ≠ 0#64, tcr &&& (1#64 <<< 23) ≠ 0#64),
          physicalAddressMask := (1#64 <<< bits) - 1#64 } := by
  unfold configureTcr at h
  dsimp only at h
  split at h
  · cases h
  split at h
  · cases h
  rename_i bits hbits
  split at h
  · cases h
  split at h
  · cases h
  rename_i granule hgranule
  split at h
  · cases h
  split at h
  · cases h
  split at h
  · cases h
  rename_i hlower
  split at h
  · cases h
  rename_i hupper
  cases h
  refine ⟨bits, granule, hbits, hgranule, ?_, fun hne => ?_, rfl⟩
  · cases hs : granule.startLevel (tcr &&& 0x3f#64).toNat with
    | none => exact (hlower (.inl (Option.isNone_iff_eq_none.mpr hs))).elim
    | some _ => rfl
  · cases hs : granule.startLevel ((tcr >>> 16) &&& 0x3f#64).toNat with
    | none => exact (hupper ⟨hne, .inl (Option.isNone_iff_eq_none.mpr hs)⟩).elim
    | some _ => rfl

lemma physicalBits_bounds {tcr : U64} {bits : ℕ} (h : physicalBits tcr = some bits) :
    32 ≤ bits ∧ bits ≤ 48 := by
  unfold physicalBits at h
  split at h <;> simp at h <;> omega

lemma configureTcr_configured {m m' : VfMmu} {ttbr0 ttbr1 tcr : U64} {asid : BitVec 16}
    (h : m.configureTcr ttbr0 ttbr1 tcr asid = (m', true)) :
    m'.Configured ∧ ∀ read64, m'.Coherent read64 := by
  obtain ⟨bits, granule, hbits, -, hlower, hupper, rfl⟩ := configureTcr_accepted h
  obtain ⟨h32, h48⟩ := physicalBits_bounds hbits
  exact ⟨⟨rfl, ⟨bits, h32, h48, rfl⟩, hlower, hupper⟩, coherent_of_empty rfl⟩

lemma configureStrictNc_accepted {m m' : VfMmu} {ttbr0 ttbr1 tcr : U64}
    (h : m.configureStrictNc ttbr0 ttbr1 tcr = (m', true)) :
    ∃ asid candidate, m.configureTcr ttbr0 ttbr1 tcr asid = (candidate, true) ∧
      m' = { candidate with strictNc := true } := by
  unfold configureStrictNc at h
  split at h
  · cases h
  · dsimp only at h
    split at h
    · rename_i candidate hc
      cases h
      exact ⟨_, candidate, hc, rfl⟩
    · cases h

lemma configureTcr_refused (m : VfMmu) (ttbr0 ttbr1 tcr : U64) (asid : BitVec 16) :
    (m.configureTcr ttbr0 ttbr1 tcr asid).2 = false → (m.configureTcr ttbr0 ttbr1 tcr asid).1 = m := by
  unfold configureTcr
  dsimp only
  repeat' split
  all_goals intro h
  · rfl
  · rfl
  · rfl
  · rfl
  · rfl
  · rfl
  · rfl
  · rfl
  · cases h

lemma configureStrictNc_refused (m : VfMmu) (ttbr0 ttbr1 tcr : U64) :
    (m.configureStrictNc ttbr0 ttbr1 tcr).2 = false → (m.configureStrictNc ttbr0 ttbr1 tcr).1 = m := by
  unfold configureStrictNc
  dsimp only
  repeat' split
  all_goals intro h
  · rfl
  · cases h
  · rfl

lemma configureStrictNc_configured {m m' : VfMmu} {ttbr0 ttbr1 tcr : U64}
    (h : m.configureStrictNc ttbr0 ttbr1 tcr = (m', true)) :
    m'.Configured ∧ ∀ read64, m'.Coherent read64 := by
  obtain ⟨asid, candidate, hc, rfl⟩ := configureStrictNc_accepted h
  obtain ⟨bits, granule, hbits, -, hlower, hupper, rfl⟩ := configureTcr_accepted hc
  obtain ⟨h32, h48⟩ := physicalBits_bounds hbits
  exact ⟨⟨rfl, ⟨bits, h32, h48, rfl⟩, hlower, hupper⟩, coherent_of_empty rfl⟩

def afterCalls (read64 : TableReader) (m : VfMmu) (calls : List (U64 × Access × ExceptionLevel)) :
    VfMmu :=
  calls.foldl (fun m c => (m.translateDetailed c.1 c.2.1 c.2.2 read64).2) m

lemma afterCalls_preserves {read64 : TableReader} (calls : List (U64 × Access × ExceptionLevel))
    {m : VfMmu} (hm : m.Configured) (hc : m.Coherent read64) :
    (afterCalls read64 m calls).Configured ∧ (afterCalls read64 m calls).Coherent read64 := by
  induction calls generalizing m with
  | nil => exact ⟨hm, hc⟩
  | cons c calls ih =>
    obtain ⟨h1, h2⟩ := translate_preserves hm hc c.1 c.2.1 c.2.2
    exact ih h1 h2

lemma translateDetailed_invalidate (m : VfMmu) (va : U64) (access : Access) (el : ExceptionLevel)
    (read64 : TableReader) :
    (m.translateDetailed va access el read64).2.invalidate = m.invalidate := by
  unfold translateDetailed
  split
  · rfl
  split
  · rfl
  split
  · rfl
  split
  · rfl
  · rfl
  · split <;> rfl

lemma afterCalls_invalidate (read64 : TableReader) (calls : List (U64 × Access × ExceptionLevel))
    (m : VfMmu) : (afterCalls read64 m calls).invalidate = m.invalidate := by
  induction calls generalizing m with
  | nil => rfl
  | cons c calls ih => exact (ih _).trans (translateDetailed_invalidate _ _ _ _ _)

lemma configureTcr_any (m m' : VfMmu) {x : VfMmu} {ttbr0 ttbr1 tcr : U64} {asid : BitVec 16} :
    m.configureTcr ttbr0 ttbr1 tcr asid = (x, true) →
      m'.configureTcr ttbr0 ttbr1 tcr asid = (x, true) := by
  unfold configureTcr
  dsimp only
  repeat' split
  all_goals intro h
  all_goals cases h
  rfl

lemma configureStrictNc_any {m x : VfMmu} {ttbr0 ttbr1 tcr : U64}
    (h : m.configureStrictNc ttbr0 ttbr1 tcr = (x, true)) (m' : VfMmu) :
    m'.configureStrictNc ttbr0 ttbr1 tcr = (x, true) := by
  unfold configureStrictNc at h ⊢
  dsimp only at h ⊢
  split at h
  · cases h
  rename_i hbits
  rw [if_neg hbits]
  split at h
  · rename_i candidate hc
    rw [configureTcr_any m m' hc]
    exact h
  · cases h

lemma configureStrictNc_empty {m x : VfMmu} {ttbr0 ttbr1 tcr : U64}
    (h : m.configureStrictNc ttbr0 ttbr1 tcr = (x, true)) : x.invalidate = x := by
  obtain ⟨asid, candidate, hc, rfl⟩ := configureStrictNc_accepted h
  obtain ⟨bits, granule, -, -, -, -, rfl⟩ := configureTcr_accepted hc
  rfl

/-- TLB transparency: after any calls since an accepted configuration, the next
call answers as it would on a copy whose TLB has been invalidated. -/
theorem tlb_transparent (read64 : TableReader) (m m' : VfMmu) (ttbr0 ttbr1 tcr : U64)
    (asid : BitVec 16)
    (hconf : m.configureTcr ttbr0 ttbr1 tcr asid = (m', true) ∨
      m.configureStrictNc ttbr0 ttbr1 tcr = (m', true))
    (calls : List (U64 × Access × ExceptionLevel)) (va : U64) (access : Access)
    (el : ExceptionLevel) :
    SameAnswer ((afterCalls read64 m' calls).translateDetailed va access el read64).1
      ((afterCalls read64 m' calls).invalidate.translateDetailed va access el read64).1 := by
  have hinit : m'.Configured ∧ ∀ read64, m'.Coherent read64 := by
    rcases hconf with h | h
    · exact configureTcr_configured h
    · exact configureStrictNc_configured h
  obtain ⟨hm, hc⟩ := afterCalls_preserves calls hinit.1 (hinit.2 read64)
  exact translate_same_answer hm hc va access el

def pageFixture : TableReader := fun pa =>
  if pa = 0x1000#64 then .ok 0x2003#64
  else if pa = 0x2000#64 then .ok 0x3003#64
  else if pa = 0x3000#64 then .ok 0x4003#64
  else if pa = 0x4000#64 then .ok 0x8403#64
  else .error .unavailable

theorem tlb_transparent_page :
    (afterCalls pageFixture (disabled.configureTcr 0x1000#64 0#64 16#64 0#16).1
      [(0#64, .execute, .el0)]).tlb[0].valid = true ∧
    SameAnswer
      ((afterCalls pageFixture (disabled.configureTcr 0x1000#64 0#64 16#64 0#16).1
        [(0#64, .execute, .el0)]).translateDetailed 8#64 .write .el0 pageFixture).1
      ((afterCalls pageFixture (disabled.configureTcr 0x1000#64 0#64 16#64 0#16).1
        [(0#64, .execute, .el0)]).invalidate.translateDetailed 8#64 .write .el0 pageFixture).1 :=
  ⟨by decide, tlb_transparent pageFixture disabled _ 0x1000#64 0#64 16#64 0#16
    (.inl (Prod.ext rfl (by decide))) [(0#64, .execute, .el0)] 8#64 .write .el0⟩

end VfMmu

end Nextcore.Mmu
