import Nextcore.Lib.Bits
import Nextcore.Mmu.Walk

/-! What one iteration of the walk does with a descriptor, and what a completed
walk says about every other VA of the page or block it ended in. -/

namespace Nextcore.Mmu

open Bits

namespace Granule

lemma startLevel_eq_some {g : Granule} {tsz level : ℕ} (h : g.startLevel tsz = some level) :
    g.validTsz tsz = true ∧ level ≤ maxLevel ∧ g.levelShift level < 64 - tsz := by
  unfold startLevel at h
  cases hv : g.validTsz tsz with
  | false => simp [hv] at h
  | true =>
    simp only [hv, Bool.not_true, Bool.false_eq_true, if_false] at h
    split at h
    · cases h
    · rename_i hl
      obtain rfl := Option.some.inj h
      cases g <;> simp [validTsz, levelShift, pageShift, indexBits, maxLevel] at * <;> omega

lemma levelShift_antitone (g : Granule) {l k : ℕ} (h : l ≤ k) : g.levelShift k ≤ g.levelShift l := by
  have : maxLevel - k ≤ maxLevel - l := by omega
  unfold levelShift
  have := Nat.mul_le_mul_left g.indexBits this
  omega

lemma levelShift_max (g : Granule) : g.levelShift maxLevel = g.pageShift := by
  simp [levelShift]

lemma validTsz_pos {g : Granule} {tsz : ℕ} (h : g.validTsz tsz = true) : 16 ≤ tsz ∧ tsz ≤ 47 := by
  cases g <;> simp [validTsz] at h <;> omega

end Granule

namespace VfMmu

lemma descriptorPermissions_eq (descriptor tablePermissions : U64) (level : ℕ)
    (el : ExceptionLevel) (access : Access) :
    descriptorPermissions descriptor tablePermissions level el access =
      if descriptor &&& afBit = 0#64 then .error .accessFlag
      else if allowed access el (leafPermissions descriptor tablePermissions) = false then
        .error .permission
      else if level = 0 ∧ descriptor &&& descriptorTypeMask = 1#64 then .error .translation
      else .ok (leafPermissions descriptor tablePermissions) := by
  unfold descriptorPermissions
  generalize leafPermissions descriptor tablePermissions = p
  obtain ⟨writable, user, ex0, exp⟩ := p
  cases access <;> cases el <;> cases writable <;> cases user <;> simp [allowed] <;> rfl

lemma hierarchyMask_congr {el el' : ExceptionLevel} (h : el.el10 = el'.el10) :
    hierarchyMask el = hierarchyMask el' := by
  simp [hierarchyMask, h]

lemma strictAllowed_congr (m : VfMmu) {el el' : ExceptionLevel} (h : el.el10 = el'.el10)
    (level : ℕ) (table : Bool) : m.strictAllowed el level table = m.strictAllowed el' level table := by
  simp [strictAllowed, hierarchyMask_congr h]

structure Configured (m : VfMmu) : Prop where
  enabled : m.enabled = true
  mask : ∃ bits, 32 ≤ bits ∧ bits ≤ 48 ∧ m.physicalAddressMask = (1#64 <<< bits) - 1#64
  lower : (m.granule.startLevel m.tcrT0sz).isSome = true
  upper : m.tcrT1sz ≠ 0 → (m.granule.startLevel m.tcrT1sz).isSome = true

def leafPa (leaf : Leaf) (va : U64) : U64 :=
  leaf.paBase ||| (va &&& ((1#64 <<< leaf.pageShift) - 1#64))

def leafDenied (leaf : Leaf) (va : U64) : TranslationFailure :=
  ((TranslationFailure.architectural .permission (some leaf.level) .leaf).atDescriptor
    leaf.descriptorPa).withOutput (leafPa leaf va)

lemma readDescriptor_congr (m : VfMmu) {el el' : ExceptionLevel} (h : el.el10 = el'.el10)
    (read64 : TableReader) {tableVa tableVa' : U64} {level : ℕ}
    (hi : tableVa >>> m.granule.levelShift level = tableVa' >>> m.granule.levelShift level)
    (table : U64) :
    m.readDescriptor el read64 tableVa level table =
      m.readDescriptor el' read64 tableVa' level table := by
  simp only [readDescriptor, hi, strictAllowed_congr m h]

structure Admitted (m : VfMmu) (read64 : TableReader) (level : ℕ) (entryAddress descriptor : U64) :
    Prop where
  bound : entryAddress ≤ m.physicalAddressMask - 7#64
  present : read64 entryAddress = .ok descriptor
  valid : descriptor &&& 1#64 ≠ 0#64
  block : descriptor &&& descriptorTypeMask = 1#64 →
    level ≠ 0 ∧ level ≠ maxLevel ∧ (level = 1 → m.granule = .fourKiB)
  output : descriptor &&& m.granule.addressMask &&& ~~~m.physicalAddressMask = 0#64

lemma readDescriptor_admitted {m : VfMmu} {el : ExceptionLevel} {read64 : TableReader}
    {tableVa table entryAddress descriptor : U64} {level : ℕ}
    (h : m.readDescriptor el read64 tableVa level table = .ok (entryAddress, descriptor)) :
    Admitted m read64 level entryAddress descriptor := by
  simp only [readDescriptor] at h
  split at h
  · cases h
  split at h
  · cases h
  rename_i hbound
  split at h
  · cases h
  rename_i hread
  split at h
  · cases h
  rename_i hvalid
  split at h
  · cases h
  rename_i hblock
  split at h
  · cases h
  rename_i houtput
  split at h
  · cases h
  cases h
  refine ⟨by simpa using hbound, hread, hvalid, ?_, by simpa using houtput⟩
  intro ht
  refine ⟨fun hz => hblock ⟨ht, .inl hz⟩, fun hz => hblock ⟨ht, .inr (.inl hz)⟩, fun h1 => ?_⟩
  cases hg : m.granule with
  | fourKiB => rfl
  | sixteenKiB => exact (hblock ⟨ht, .inr (.inr ⟨h1, hg⟩)⟩).elim

def IsLeaf (level : ℕ) (descriptor : U64) : Prop :=
  (level < maxLevel ∧ descriptor &&& descriptorTypeMask = 1#64) ∨
    (level = maxLevel ∧ descriptor &&& descriptorTypeMask = 3#64)

def leafOf (m : VfMmu) (level : ℕ) (entryAddress descriptor permissions : U64) : Leaf :=
  let p := leafPermissions descriptor permissions
  { paBase := descriptor &&& m.granule.addressMask &&& ~~~((1#64 <<< m.granule.levelShift level) - 1#64)
    pageShift := m.granule.levelShift level
    writable := p.writable
    userAccessible := p.userAccessible
    executableEl0 := p.executableEl0
    executablePrivileged := p.executablePrivileged
    level := level
    descriptorPa := entryAddress }

@[simp] lemma leafOf_permissions (m : VfMmu) (level : ℕ) (entryAddress descriptor permissions : U64) :
    (m.leafOf level entryAddress descriptor permissions).permissions =
      leafPermissions descriptor permissions := rfl

lemma block_shift_le {m : VfMmu} {read64 : TableReader} {level : ℕ} {entryAddress descriptor : U64}
    (ha : Admitted m read64 level entryAddress descriptor) (hl : IsLeaf level descriptor) :
    m.granule.levelShift level ≤ 30 := by
  rcases hl with ⟨hlt, ht⟩ | ⟨rfl, -⟩
  · obtain ⟨h0, h3, h1⟩ := ha.block ht
    cases hg : m.granule with
    | fourKiB => simp [Granule.levelShift, Granule.pageShift, Granule.indexBits, maxLevel] at *; omega
    | sixteenKiB =>
      have : level ≠ 1 := fun h => by simp [hg] at h1; exact h1 h
      simp [Granule.levelShift, Granule.pageShift, Granule.indexBits, maxLevel] at *
      omega
  · cases m.granule <;> simp [Granule.levelShift, Granule.pageShift]

lemma leafPa_bound {m : VfMmu} (hm : m.Configured) {read64 : TableReader} {level : ℕ}
    {entryAddress descriptor : U64} (ha : Admitted m read64 level entryAddress descriptor)
    (hl : IsLeaf level descriptor) (permissions va : U64) :
    leafPa (m.leafOf level entryAddress descriptor permissions) va &&& ~~~m.physicalAddressMask = 0#64 := by
  obtain ⟨bits, hb, -, hmask⟩ := hm.mask
  have hs := block_shift_le ha hl
  apply or_and_not_eq_zero
  · exact and_and_not_eq_zero _ ha.output
  · rw [hmask]
    exact low_mask_subset (by simp only [leafOf]; omega)

lemma walkStep_leaf {m : VfMmu} (hm : m.Configured) {el : ExceptionLevel} {read64 : TableReader}
    {tableVa table entryAddress descriptor : U64} {level : ℕ}
    (h : m.readDescriptor el read64 tableVa level table = .ok (entryAddress, descriptor))
    (hl : IsLeaf level descriptor) (va : U64) (access : Access) (permissions : U64) :
    m.walkStep va access el read64 tableVa level table permissions =
      let leaf := m.leafOf level entryAddress descriptor permissions
      if descriptor &&& afBit = 0#64 then
        .error (((TranslationFailure.architectural .accessFlag (some level) .leaf).atDescriptor
          entryAddress).withOutput (leafPa leaf va))
      else if allowed access el leaf.permissions = false then .error (leafDenied leaf va)
      else .ok (.leaf leaf) := by
  have ha := readDescriptor_admitted h
  have hp := leafPa_bound hm ha hl permissions va
  simp only [leafPa, leafOf] at hp
  rcases hl with ⟨hlt, ht⟩ | ⟨rfl, ht⟩
  · have h0 := (ha.block ht).1
    simp only [walkStep, h, hlt, ht, and_self, if_true, descriptorPermissions_eq, h0, false_and,
      if_false, leafOf_permissions]
    by_cases haf : descriptor &&& afBit = 0#64
    · simp only [haf, if_true]
      rfl
    by_cases hal : allowed access el (leafPermissions descriptor permissions) = false
    · simp only [haf, hal, if_true, if_false]
      rfl
    · simp only [haf, hal, if_false, hp, ne_eq, not_true_eq_false]
      rfl
  · have hout : descriptor &&& m.granule.addressMask &&&
        ~~~((1#64 <<< m.granule.levelShift maxLevel) - 1#64) = descriptor &&& m.granule.addressMask := by
      rw [Granule.levelShift_max, Granule.addressMask, Granule.rootAlignment]
      rw [BitVec.and_assoc, BitVec.and_assoc, BitVec.and_self]
    have h0 : ¬maxLevel = 0 := by decide
    simp only [walkStep, h, ht, lt_irrefl, false_and, if_false, ne_eq, not_true_eq_false, if_true,
      descriptorPermissions_eq, h0, leafOf_permissions]
    by_cases haf : descriptor &&& afBit = 0#64
    · simp only [haf, if_true]
      rfl
    by_cases hal : allowed access el (leafPermissions descriptor permissions) = false
    · simp only [haf, hal, if_true, if_false]
      rfl
    · simp only [haf, hal, if_false, leafOf, hout, Bool.true_eq_false]
      simp only [Granule.levelShift_max]

lemma walkStep_table {m : VfMmu} {el : ExceptionLevel} {read64 : TableReader}
    {tableVa table entryAddress descriptor : U64} {level : ℕ}
    (h : m.readDescriptor el read64 tableVa level table = .ok (entryAddress, descriptor))
    (hlt : level < maxLevel) (ht : descriptor &&& descriptorTypeMask = 3#64) (va : U64)
    (access : Access) (permissions : U64) :
    m.walkStep va access el read64 tableVa level table permissions =
      .ok (.table (descriptor &&& m.granule.addressMask)
        (permissions ||| (descriptor &&& hierarchyMask el))) := by
  have hne : ¬(3#64 = 1#64) := by decide
  simp only [walkStep, h, ht, hne, and_false, if_false, ne_eq, not_true_eq_false, hlt.ne]

lemma descriptor_kinds {m : VfMmu} {read64 : TableReader} {level : ℕ} {entryAddress descriptor : U64}
    (ha : Admitted m read64 level entryAddress descriptor) (hle : level ≤ maxLevel) :
    IsLeaf level descriptor ∨ (level < maxLevel ∧ descriptor &&& descriptorTypeMask = 3#64) := by
  have ht : descriptor &&& descriptorTypeMask = 1#64 ∨ descriptor &&& descriptorTypeMask = 3#64 :=
    two_bits_of_odd ha.valid
  rcases ht with ht | ht
  · exact .inl (.inl ⟨lt_of_le_of_ne hle (ha.block ht).2.1, ht⟩)
  · rcases lt_or_eq_of_le hle with hlt | rfl
    · exact .inr ⟨hlt, ht⟩
    · exact .inl (.inr ⟨rfl, ht⟩)

lemma walkLoop_same_leaf {m : VfMmu} (hm : m.Configured) {el el' : ExceptionLevel}
    (hel : el.el10 = el'.el10) {read64 : TableReader} {va limit : U64} {access : Access}
    (va' : U64) (access' : Access) {remaining : ℕ} (hr : remaining ≤ maxLevel + 1) {table permissions : U64} {leaf : Leaf}
    (h : m.walkLoop va access el read64 (va &&& limit) remaining table permissions = .ok leaf) :
    maxLevel + 1 - remaining ≤ leaf.level ∧ leaf.pageShift = m.granule.levelShift leaf.level ∧
    (∀ v : U64, leafPa leaf v &&& ~~~m.physicalAddressMask = 0#64) ∧
    (va >>> leaf.pageShift = va' >>> leaf.pageShift →
      m.walkLoop va' access' el' read64 (va' &&& limit) remaining table permissions =
        if allowed access' el' leaf.permissions = false then .error (leafDenied leaf va')
        else .ok leaf) := by
  induction remaining generalizing table permissions with
  | zero => simp [walkLoop] at h
  | succ n ih =>
    simp only [walkLoop] at h ⊢
    set level := maxLevel - n with hlevel
    have hle : level ≤ maxLevel := Nat.sub_le _ _
    have hstart : maxLevel + 1 - (n + 1) = level := by omega
    -- the tag fixes every index down to the leaf's level
    have hindex : ∀ k, level ≤ k → va >>> m.granule.levelShift k = va' >>> m.granule.levelShift k →
        (va &&& limit) >>> m.granule.levelShift level =
          (va' &&& limit) >>> m.granule.levelShift level := by
      intro k hk hv
      rw [and_shiftRight, and_shiftRight, shiftRight_congr hv (m.granule.levelShift_antitone hk)]
    cases hd : m.readDescriptor el read64 (va &&& limit) level table with
    | error f => simp [walkStep, hd] at h
    | ok d =>
      obtain ⟨entryAddress, descriptor⟩ := d
      have ha := readDescriptor_admitted hd
      rcases descriptor_kinds ha hle with hl | ⟨hlt, ht⟩
      · rw [walkStep_leaf hm hd hl] at h
        dsimp only at h
        by_cases haf : descriptor &&& afBit = 0#64
        · simp [haf] at h
        by_cases hal : allowed access el (leafPermissions descriptor permissions) = false
        · simp [haf, hal] at h
        · simp only [leafOf_permissions, haf, hal, if_false, Bool.true_eq_false, Except.ok.injEq] at h
          subst h
          refine ⟨hstart.le, rfl, leafPa_bound hm ha hl permissions, fun hv => ?_⟩
          have hd' := hd
          rw [readDescriptor_congr m hel read64 (hindex level le_rfl hv)] at hd'
          rw [walkStep_leaf hm hd' hl]
          dsimp only
          simp only [haf, if_false]
          by_cases hal' : allowed access' el' (leafPermissions descriptor permissions) = false
          · simp [hal']
          · simp [hal']
      · rw [walkStep_table hd hlt ht] at h
        dsimp only at h
        obtain ⟨h1, h2, h3, h4⟩ := ih (by omega) h
        refine ⟨by omega, h2, h3, fun hv => ?_⟩
        have hd' := hd
        rw [h2] at hv
        rw [readDescriptor_congr m hel read64 (hindex leaf.level (by omega) hv)] at hd'
        rw [walkStep_table hd' hlt ht]
        dsimp only
        rw [← hierarchyMask_congr hel]
        exact h4 (by rw [h2]; exact hv)

end VfMmu

end Nextcore.Mmu
