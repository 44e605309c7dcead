import Nextcore.Mmu.Coherence

/-! Every failure a configured walker reports, with the provenance it carries,
and what a success says about the page it lies in. -/

namespace Nextcore.Mmu

open Bits

namespace VfMmu

structure TableBase (m : VfMmu) (table : U64) : Prop where
  aligned : table &&& ~~~m.granule.addressMask = 0#64
  inside : table &&& ~~~m.physicalAddressMask = 0#64

structure EntryAddress (m : VfMmu) (entry : U64) : Prop where
  aligned : entry &&& 7#64 = 0#64
  inside : entry ≤ m.physicalAddressMask - 7#64

def Visits (m : VfMmu) (va : U64) (level : ℕ) : Prop :=
  level ≤ maxLevel ∧ ∃ root tsz disabled start, m.selectRoot va = some (root, tsz, disabled) ∧
    m.granule.startLevel tsz = some start ∧ start ≤ level

def firstLeaf : Granule → ℕ
  | .fourKiB => 1
  | .sixteenKiB => 2

inductive Failed (m : VfMmu) (va : U64) : TranslationFailure → Prop
  | input : Failed m va (.architectural .translation (some 0) .input)
  | root (table : U64) (htable : table &&& ~~~Mmu.physicalAddressMask = 0#64)
      (houtside : table &&& ~~~m.physicalAddressMask ≠ 0#64) :
      Failed m va ((TranslationFailure.architectural .addressSize (some 0) .input).withOutput table)
  | unreadable (error : TableReadError) (level : ℕ) (entry : U64) (hlevel : m.Visits va level)
      (hentry : m.EntryAddress entry) :
      Failed m va ⟨.tableRead error, some level, .walk, some entry, none⟩
  | invalid (level : ℕ) (entry : U64) (hlevel : m.Visits va level) (hentry : m.EntryAddress entry) :
      Failed m va ((TranslationFailure.architectural .translation (some level) .walk).atDescriptor entry)
  | output (level : ℕ) (entry output : U64) (hlevel : m.Visits va level) (hentry : m.EntryAddress entry)
      (houtput : output &&& ~~~Mmu.physicalAddressMask = 0#64)
      (houtside : output &&& ~~~m.physicalAddressMask ≠ 0#64) :
      Failed m va (((TranslationFailure.architectural .addressSize (some level) .walk).atDescriptor
        entry).withOutput output)
  | unsupported (level : ℕ) (entry : U64) (table : Bool) (hlevel : m.Visits va level)
      (hentry : m.EntryAddress entry) :
      Failed m va ⟨.unsupported, some level, if table then .walk else .leaf, some entry, none⟩
  | leaf (fault : Fault) (level : ℕ) (entry pa : U64) (hlevel : m.Visits va level)
      (hentry : m.EntryAddress entry) (hfault : fault = .accessFlag ∨ fault = .permission)
      (hleaf : firstLeaf m.granule ≤ level) (hpa : pa &&& ~~~m.physicalAddressMask = 0#64) :
      Failed m va (((TranslationFailure.architectural fault (some level) .leaf).atDescriptor
        entry).withOutput pa)

lemma mask_toNat {m : VfMmu} (hm : m.Configured) :
    ∃ bits, 32 ≤ bits ∧ bits ≤ 48 ∧ m.physicalAddressMask.toNat = 2 ^ bits - 1 := by
  obtain ⟨bits, h32, h48, hmask⟩ := hm.mask
  refine ⟨bits, h32, h48, ?_⟩
  rw [hmask]
  have hpow : 2 ^ bits < 2 ^ 64 := Nat.pow_lt_pow_right (by decide) (by omega)
  have hpos : 0 < 2 ^ bits := by positivity
  have hone : (1#64 <<< bits).toNat = 2 ^ bits := by
    rw [BitVec.toNat_shiftLeft, Nat.shiftLeft_eq, BitVec.toNat_one (by decide), one_mul,
      Nat.mod_eq_of_lt hpow]
  rw [BitVec.toNat_sub, hone]
  simp only [BitVec.toNat_ofNat]
  omega

lemma TableBase.entry {m : VfMmu} (hm : m.Configured) {table : U64} (ht : m.TableBase table)
    (va : U64) :
    table.uaddOverflow ((va &&& ((1#64 <<< m.granule.indexBits) - 1#64)) * 8#64) = false ∧
      m.EntryAddress (table + (va &&& ((1#64 <<< m.granule.indexBits) - 1#64)) * 8#64) := by
  obtain ⟨bits, h32, h48, hmask⟩ := mask_toNat hm
  have hlt := lt_of_and_not hmask ht.inside
  have hpow : 2 ^ bits ≤ 2 ^ 48 := Nat.pow_le_pow_right (by decide) h48
  have hdvd : 2 ^ 14 ∣ 2 ^ bits := Nat.pow_dvd_pow 2 (by omega)
  obtain ⟨n, hn⟩ := hdvd
  have hpage : ∃ k : ℕ, (k = 9 ∨ k = 11) ∧ m.granule.indexBits = k ∧ table.toNat % (8 * 2 ^ k) = 0 := by
    cases hg : m.granule with
    | fourKiB =>
      refine ⟨9, .inl rfl, rfl, ?_⟩
      have hlow := and_eq_zero_of_subset (k := 0xfff#64) ht.aligned (by rw [hg]; decide)
      have := toNat_and_mask table 12 0xfff#64 rfl
      rw [hlow] at this
      exact this.symm
    | sixteenKiB =>
      refine ⟨11, .inr rfl, rfl, ?_⟩
      have hlow := and_eq_zero_of_subset (k := 0x3fff#64) ht.aligned (by rw [hg]; decide)
      have := toNat_and_mask table 14 0x3fff#64 rfl
      rw [hlow] at this
      exact this.symm
  obtain ⟨k, hk, hbits, hmod⟩ := hpage
  rw [hbits]
  have hindex : (va &&& ((1#64 <<< k) - 1#64)).toNat < 2 ^ k := by
    rcases hk with rfl | rfl
    · rw [toNat_and_mask va 9 _ rfl]
      exact Nat.mod_lt _ (by decide)
    · rw [toNat_and_mask va 11 _ rfl]
      exact Nat.mod_lt _ (by decide)
  generalize va &&& ((1#64 <<< k) - 1#64) = index at hindex
  have hnat : table.toNat + index.toNat * 8 + 8 ≤ 2 ^ bits := by
    rcases hk with rfl | rfl <;> omega
  have hmul : (index * 8#64).toNat = index.toNat * 8 := by
    rw [BitVec.toNat_mul]
    simp only [BitVec.toNat_ofNat]
    rcases hk with rfl | rfl <;> omega
  have hsum : (table + index * 8#64).toNat = table.toNat + index.toNat * 8 := by
    rw [BitVec.toNat_add, hmul]
    omega
  refine ⟨?_, ?_, ?_⟩
  · simp only [BitVec.uaddOverflow, hmul, decide_eq_false_iff_not]
    omega
  · apply BitVec.eq_of_toNat_eq
    rw [toNat_and_mask _ 3 7#64 rfl, hsum]
    rcases hk with rfl | rfl <;> simp <;> omega
  · rw [BitVec.le_def, hsum, BitVec.toNat_sub, hmask]
    simp only [BitVec.toNat_ofNat]
    omega

lemma addressMask_inside (g : Granule) (x : U64) :
    x &&& g.addressMask &&& ~~~Mmu.physicalAddressMask = 0#64 := by
  have hmask : g.addressMask &&& ~~~Mmu.physicalAddressMask = 0#64 := by cases g <;> decide
  rw [BitVec.and_assoc, hmask, BitVec.and_zero]

lemma tableBase_of_inside {m : VfMmu} {x : U64}
    (h : x &&& m.granule.addressMask &&& ~~~m.physicalAddressMask = 0#64) :
    m.TableBase (x &&& m.granule.addressMask) :=
  ⟨by rw [BitVec.and_assoc, BitVec.and_not_self]; exact BitVec.and_zero, h⟩

lemma readDescriptor_failed {m : VfMmu} (hm : m.Configured) {el : ExceptionLevel}
    {read64 : TableReader} {va tableVa table : U64} {level : ℕ} {f : TranslationFailure}
    (ht : m.TableBase table) (hlevel : m.Visits va level)
    (h : m.readDescriptor el read64 tableVa level table = .error f) : m.Failed va f := by
  obtain ⟨hflow, hentry⟩ := ht.entry hm (tableVa >>> m.granule.levelShift level)
  simp only [readDescriptor] at h
  rw [if_neg (by simp [hflow]), if_neg (BitVec.not_lt.mpr hentry.inside)] at h
  split at h
  · cases h
    exact .unreadable _ level _ hlevel hentry
  split at h
  · cases h
    exact .invalid level _ hlevel hentry
  split at h
  · cases h
    exact .invalid level _ hlevel hentry
  split at h
  · rename_i houtside
    cases h
    exact .output level _ _ hlevel hentry (addressMask_inside _ _) houtside
  split at h
  · cases h
    exact .unsupported level _ _ hlevel hentry
  · cases h

lemma readDescriptor_entry {m : VfMmu} (hm : m.Configured) {el : ExceptionLevel}
    {read64 : TableReader} {tableVa table entry descriptor : U64} {level : ℕ} (ht : m.TableBase table)
    (h : m.readDescriptor el read64 tableVa level table = .ok (entry, descriptor)) :
    m.EntryAddress entry := by
  obtain ⟨hflow, hentry⟩ := ht.entry hm (tableVa >>> m.granule.levelShift level)
  simp only [readDescriptor] at h
  rw [if_neg (by simp [hflow]), if_neg (BitVec.not_lt.mpr hentry.inside)] at h
  repeat' split at h
  all_goals cases h
  exact hentry

lemma firstLeaf_le {m : VfMmu} {read64 : TableReader} {level : ℕ} {entry descriptor : U64}
    (ha : Admitted m read64 level entry descriptor) (hl : IsLeaf level descriptor) :
    firstLeaf m.granule ≤ level := by
  rcases hl with ⟨hlt, ht⟩ | ⟨rfl, -⟩
  · obtain ⟨h0, -, h1⟩ := ha.block ht
    cases hg : m.granule with
    | fourKiB => exact Nat.one_le_iff_ne_zero.mpr h0
    | sixteenKiB =>
      have hne : level ≠ 1 := fun h => by rw [h1 h] at hg; cases hg
      change 2 ≤ level
      omega
  · cases m.granule <;> decide

lemma walkLoop_failed {m : VfMmu} (hm : m.Configured) {el : ExceptionLevel} {read64 : TableReader}
    {va tableVa : U64} {access : Access} {remaining : ℕ} (hpos : 0 < remaining)
    (hmax : remaining ≤ maxLevel + 1) (hstart : ∀ level, maxLevel + 1 - remaining ≤ level →
      level ≤ maxLevel → m.Visits va level) {table permissions : U64} (ht : m.TableBase table)
    {f : TranslationFailure}
    (h : m.walkLoop va access el read64 tableVa remaining table permissions = .error f) :
    m.Failed va f := by
  induction remaining generalizing table permissions with
  | zero => omega
  | succ n ih =>
    simp only [walkLoop] at h
    have hle : maxLevel - n ≤ maxLevel := Nat.sub_le _ _
    have hlevel : m.Visits va (maxLevel - n) := hstart _ (by omega) hle
    cases hd : m.readDescriptor el read64 tableVa (maxLevel - n) table with
    | error f' =>
      simp only [walkStep, hd] at h
      cases h
      exact readDescriptor_failed hm ht hlevel hd
    | ok d =>
      obtain ⟨entry, descriptor⟩ := d
      have ha := readDescriptor_admitted hd
      rcases descriptor_kinds ha hle with hl | ⟨hlt, htype⟩
      · have hentry := readDescriptor_entry hm ht hd
        have hpa := leafPa_bound hm ha hl permissions va
        have hfirst := firstLeaf_le ha hl
        rw [walkStep_leaf hm hd hl] at h
        dsimp only at h
        by_cases haf : descriptor &&& afBit = 0#64
        · rw [if_pos haf] at h
          cases h
          exact .leaf _ _ _ _ hlevel hentry (.inl rfl) hfirst hpa
        rw [if_neg haf] at h
        by_cases hal : allowed access el
            (m.leafOf (maxLevel - n) entry descriptor permissions).permissions = false
        · rw [if_pos hal] at h
          cases h
          exact .leaf _ _ _ _ hlevel hentry (.inr rfl) hfirst hpa
        · rw [if_neg hal] at h
          cases h
      · rw [walkStep_table hd hlt htype] at h
        refine ih (by omega) (by omega) (fun level h1 h2 => hstart level (by omega) h2) ?_ h
        exact tableBase_of_inside ha.output

lemma walk_failed {m : VfMmu} (hm : m.Configured) {el : ExceptionLevel} {read64 : TableReader}
    {va : U64} {access : Access} {f : TranslationFailure}
    (h : m.walk va access el read64 = .error f) : m.Failed va f := by
  unfold walk at h
  split at h
  · cases h
    exact .input
  rename_i root tsz disabled hroot
  obtain ⟨start, hstart, -, -, -⟩ := selectRoot_eq_some hroot
  rw [hstart] at h
  dsimp only at h
  split at h
  · cases h
    exact .input
  split at h
  · rename_i houtside
    cases h
    exact .root _ (addressMask_inside _ _) houtside
  · rename_i hinside
    obtain ⟨-, hmax, -⟩ := Granule.startLevel_eq_some hstart
    refine walkLoop_failed hm (by omega) (by omega) (fun level h1 h2 => ?_)
      (tableBase_of_inside (not_not.mp hinside)) h
    exact ⟨h2, root, tsz, disabled, start, hroot, hstart, by omega⟩

lemma cold_failed {m : VfMmu} (hm : m.Configured) {va : U64} {access : Access} {el : ExceptionLevel}
    {read64 : TableReader} {f : TranslationFailure} (haligned : access = .execute → va &&& 3#64 = 0#64)
    (h : (m.invalidate.translateDetailed va access el read64).1 = .error f) : m.Failed va f := by
  rw [cold_translateDetailed hm.enabled] at h
  unfold inputFault at h
  rw [if_neg (by rintro ⟨hx, hne⟩; exact hne (haligned hx))] at h
  split at h
  · rename_i hfault
    split at hfault
    · cases hfault
      cases h
      exact .input
    · cases hfault
  · cases hw : m.walk va access el read64 with
    | error f' =>
      simp only [coldAnswer, hw, Except.map, Except.error.injEq] at h
      subst h
      exact walk_failed hm hw
    | ok leaf => simp [coldAnswer, hw, Except.map] at h

lemma walkLoop_leafOf {m : VfMmu} (hm : m.Configured) {el : ExceptionLevel} {read64 : TableReader}
    {va tableVa : U64} {access : Access} {remaining : ℕ} {table permissions : U64} {leaf : Leaf}
    (h : m.walkLoop va access el read64 tableVa remaining table permissions = .ok leaf) :
    ∃ level entry descriptor permissions', level ≤ maxLevel ∧
      leaf = m.leafOf level entry descriptor permissions' := by
  induction remaining generalizing table permissions with
  | zero => simp [walkLoop] at h
  | succ n ih =>
    simp only [walkLoop] at h
    have hle : maxLevel - n ≤ maxLevel := Nat.sub_le _ _
    cases hd : m.readDescriptor el read64 tableVa (maxLevel - n) table with
    | error f => simp [walkStep, hd] at h
    | ok d =>
      obtain ⟨entry, descriptor⟩ := d
      rcases descriptor_kinds (readDescriptor_admitted hd) hle with hl | ⟨hlt, htype⟩
      · rw [walkStep_leaf hm hd hl] at h
        dsimp only at h
        by_cases haf : descriptor &&& afBit = 0#64
        · rw [if_pos haf] at h
          cases h
        rw [if_neg haf] at h
        by_cases hal : allowed access el
            (m.leafOf (maxLevel - n) entry descriptor permissions).permissions = false
        · rw [if_pos hal] at h
          cases h
        · rw [if_neg hal] at h
          cases h
          exact ⟨_, _, _, _, hle, rfl⟩
      · rw [walkStep_table hd hlt htype] at h
        exact ih h

lemma walk_leafOf {m : VfMmu} (hm : m.Configured) {el : ExceptionLevel} {read64 : TableReader}
    {va : U64} {access : Access} {leaf : Leaf} (h : m.walk va access el read64 = .ok leaf) :
    ∃ level entry descriptor permissions, level ≤ maxLevel ∧
      leaf = m.leafOf level entry descriptor permissions := by
  unfold walk at h
  split at h
  · cases h
  split at h
  · cases h
  split at h
  · cases h
  dsimp only at h
  split at h
  · cases h
  exact walkLoop_leafOf hm h

lemma walk_page {m : VfMmu} (hm : m.Configured) {el : ExceptionLevel} {read64 : TableReader}
    {va : U64} {access : Access} {leaf : Leaf} (h : m.walk va access el read64 = .ok leaf) :
    12 ≤ leaf.pageShift ∧ leaf.paBase &&& 3#64 = 0#64 := by
  obtain ⟨level, entry, descriptor, permissions, hle, rfl⟩ := walk_leafOf hm h
  have hmin := m.granule.levelShift_antitone hle
  rw [Granule.levelShift_max] at hmin
  refine ⟨?_, ?_⟩
  · have hpage : 12 ≤ m.granule.pageShift := by cases m.granule <;> decide
    exact hpage.trans hmin
  · have hmask : m.granule.addressMask &&& 3#64 = 0#64 := by cases m.granule <;> decide
    simp only [leafOf]
    rw [BitVec.and_assoc, BitVec.and_comm _ 3#64, ← BitVec.and_assoc, BitVec.and_assoc descriptor, hmask,
      BitVec.and_zero, BitVec.zero_and]

lemma cold_page {m : VfMmu} (hm : m.Configured) {va va' : U64} {access : Access}
    (hdata : access ≠ .execute) {el : ExceptionLevel} {read64 : TableReader} {t : Translation}
    (h : (m.invalidate.translateDetailed va access el read64).1 = .ok t)
    (hpage : va >>> 12 = va' >>> 12) :
    ∃ t', (m.invalidate.translateDetailed va' access el read64).1 = .ok t' := by
  rw [cold_translateDetailed hm.enabled] at h ⊢
  split at h
  · cases h
  cases hw : m.walk va access el read64 with
  | error f => simp [coldAnswer, hw, Except.map] at h
  | ok leaf =>
    have hshift := shiftRight_congr hpage (walk_page hm hw).1
    obtain ⟨hcanonical, hwalk⟩ := (walk_same_leaf hm rfl va' access hw).2 hshift
    obtain ⟨-, hself⟩ := (walk_same_leaf hm rfl va access hw).2 rfl
    have hallowed : ¬allowed access el leaf.permissions = false := by
      intro hal
      rw [hw, if_pos hal] at hself
      cases hself
    rw [if_neg hallowed] at hwalk
    have hfault : m.inputFault va' access = none := by simp [inputFault, hdata, hcanonical]
    rw [hfault]
    exact ⟨_, by rw [coldAnswer, hwalk]; rfl⟩

lemma cold_output {m : VfMmu} (hm : m.Configured) {va : U64} {access : Access} {el : ExceptionLevel}
    {read64 : TableReader} {t : Translation}
    (h : (m.invalidate.translateDetailed va access el read64).1 = .ok t) :
    t.pa &&& ~~~m.physicalAddressMask = 0#64 ∧ (va &&& 3#64 = 0#64 → t.pa &&& 3#64 = 0#64) := by
  rw [cold_translateDetailed hm.enabled] at h
  split at h
  · cases h
  cases hw : m.walk va access el read64 with
  | error f => simp [coldAnswer, hw, Except.map] at h
  | ok leaf =>
    simp only [coldAnswer, hw, Except.map, Except.ok.injEq] at h
    subst h
    refine ⟨(walk_same_leaf hm rfl va access hw).1 va, fun hlow => ?_⟩
    simp only [translation, leafPa]
    rw [BitVec.and_or_distrib_right, (walk_page hm hw).2, BitVec.and_assoc, BitVec.and_comm _ 3#64,
      ← BitVec.and_assoc, hlow, BitVec.zero_and, BitVec.or_zero]

end VfMmu

end Nextcore.Mmu
