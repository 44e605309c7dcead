import Nextcore.Mmu.Checked
import Nextcore.Mmu.Failure

/-! The bounds of the walker: in every state its operations reach, the checked
translation meets no defect and answers as the plain one does. -/

namespace Nextcore.Mmu

open Bits Checked

namespace Granule

lemma startLevelChecked_ok (g : Granule) (tsz : ℕ) : g.startLevelChecked tsz = .ok (g.startLevel tsz) := by
  unfold startLevelChecked startLevel
  cases hv : g.validTsz tsz with
  | false => rfl
  | true =>
    have hle : tsz ≤ 64 := by
      have := (validTsz_pos hv).2
      omega
    simp only [Bool.not_true, Bool.false_eq_true, if_false, subNat_ok hle, ok_bind]
    split
    · rfl
    · rename_i hlevels
      rw [subNat_ok (by omega), ok_bind]

lemma addressMaskChecked_ok (g : Granule) : g.addressMaskChecked = .ok g.addressMask := by
  cases g <;> rfl

lemma levelShiftChecked_ok (g : Granule) {level : ℕ} (h : level ≤ maxLevel) :
    g.levelShiftChecked level = .ok (g.levelShift level) := by
  rw [levelShiftChecked, subNat_ok h, ok_bind, levelShift]

lemma levelShift_lt (g : Granule) (level : ℕ) : g.levelShift level < 48 := by
  have hle : maxLevel - level ≤ 3 := Nat.sub_le _ _
  cases g <;> simp only [levelShift, pageShift, indexBits] <;> omega

lemma indexBits_lt (g : Granule) : g.indexBits < 64 := by
  cases g <;> decide

lemma pageShift_lt (g : Granule) : g.pageShift < 48 := by
  cases g <;> decide

end Granule

namespace VfMmu

lemma lowerHalfChecked_ok (m : VfMmu) (va : U64) :
    m.lowerHalfChecked va =
      .ok (decide ((m.granule.startLevel m.tcrT0sz).isSome ∧ va >>> (64 - m.tcrT0sz) = 0#64)) := by
  rw [lowerHalfChecked, Granule.startLevelChecked_ok, ok_bind]
  cases hs : m.granule.startLevel m.tcrT0sz with
  | none => simp
  | some start =>
    have htsz := Granule.validTsz_pos (Granule.startLevel_eq_some hs).1
    simp only [Option.isNone_some, Bool.false_eq_true, if_false, Option.isSome_some, true_and]
    rw [subNat_ok (by omega), ok_bind, shr_ok va (by omega), ok_bind]
    rfl

lemma upperHalfChecked_ok (m : VfMmu) (va : U64) :
    m.upperHalfChecked va =
      .ok (decide (m.tcrT1sz ≠ 0 ∧ (m.granule.startLevel m.tcrT1sz).isSome ∧
        va >>> (64 - m.tcrT1sz) = (1#64 <<< m.tcrT1sz) - 1#64)) := by
  unfold upperHalfChecked
  by_cases hz : m.tcrT1sz = 0
  · simp [hz]
  rw [if_neg hz, Granule.startLevelChecked_ok, ok_bind]
  cases hs : m.granule.startLevel m.tcrT1sz with
  | none => simp
  | some start =>
    have htsz := Granule.validTsz_pos (Granule.startLevel_eq_some hs).1
    simp only [Option.isNone_some, Bool.false_eq_true, if_false, Option.isSome_some, true_and, ne_eq, hz,
      not_false_eq_true]
    rw [subNat_ok (by omega), ok_bind, shr_ok va (by omega), ok_bind, lowMask_ok (by omega), ok_bind]
    rfl

lemma selectRootChecked_ok (m : VfMmu) (va : U64) : m.selectRootChecked va = .ok (m.selectRoot va) := by
  rw [selectRootChecked, lowerHalfChecked_ok, ok_bind, selectRoot]
  by_cases hl : (m.granule.startLevel m.tcrT0sz).isSome ∧ va >>> (64 - m.tcrT0sz) = 0#64
  · rw [if_pos (decide_eq_true hl), if_pos hl]
  · rw [if_neg (by simpa using hl), if_neg hl, upperHalfChecked_ok, ok_bind]
    simp only [decide_eq_true_eq]

lemma descriptorPermissionsChecked_ok {descriptor : U64} {level : ℕ}
    (h : ¬(level = 0 ∧ descriptor &&& descriptorTypeMask = 1#64)) (tablePermissions : U64)
    (el : ExceptionLevel) (access : Access) :
    descriptorPermissionsChecked descriptor tablePermissions level el access =
      .ok (descriptorPermissions descriptor tablePermissions level el access) := by
  unfold descriptorPermissionsChecked descriptorPermissions
  dsimp only
  rw [if_neg h, if_neg h]
  repeat' split
  all_goals rfl

lemma strictAllowedChecked_ok (m : VfMmu) (el : ExceptionLevel) (level : ℕ) (table : Bool) :
    m.strictAllowedChecked el (m.granule.levelShift level) table = .ok (m.strictAllowed el level table) := by
  have hshift : m.granule.levelShift level < 64 := (m.granule.levelShift_lt level).trans (by decide)
  unfold strictAllowedChecked strictAllowed
  rw [Granule.addressMaskChecked_ok]
  cases table with
  | true => rfl
  | false =>
    simp only [ok_bind, Bool.false_eq_true, if_false]
    rw [lowMask_ok hshift, ok_bind]

lemma admitChecked_ok (m : VfMmu) {el : ExceptionLevel} {read64 : TableReader}
    {tableVa table descriptor : U64} {level : ℕ}
    (hflow : table.uaddOverflow (((tableVa >>> m.granule.levelShift level) &&&
      ((1#64 <<< m.granule.indexBits) - 1#64)) * 8#64) = false)
    (hlimit : ¬m.physicalAddressMask - 7#64 < table + ((tableVa >>> m.granule.levelShift level) &&&
      ((1#64 <<< m.granule.indexBits) - 1#64)) * 8#64)
    (hread : read64 (table + ((tableVa >>> m.granule.levelShift level) &&&
      ((1#64 <<< m.granule.indexBits) - 1#64)) * 8#64) = .ok descriptor) :
    m.admitChecked el (m.granule.levelShift level) level m.granule.addressMask
        (table + ((tableVa >>> m.granule.levelShift level) &&&
          ((1#64 <<< m.granule.indexBits) - 1#64)) * 8#64) descriptor =
      .ok (m.readDescriptor el read64 tableVa level table) := by
  have hnot : ¬table.uaddOverflow (((tableVa >>> m.granule.levelShift level) &&&
      ((1#64 <<< m.granule.indexBits) - 1#64)) * 8#64) = true := by
    rw [hflow]
    exact Bool.false_ne_true
  unfold admitChecked readDescriptor
  dsimp only
  rw [if_neg hnot, if_neg hlimit, hread]
  dsimp only
  split
  · rfl
  split
  · rfl
  split
  · rfl
  rw [strictAllowedChecked_ok]
  cases hstrict : m.strictNc with
  | false => simp
  | true => simp

lemma readDescriptorChecked_ok {m : VfMmu} (hm : m.Configured) (el : ExceptionLevel)
    (read64 : TableReader) (tableVa : U64) {level : ℕ} (hlevel : level ≤ maxLevel) {table : U64}
    (ht : m.TableBase table) :
    ∃ entry, m.EntryAddress entry ∧ m.readDescriptorChecked el read64 tableVa level table =
      .ok ([entry], m.readDescriptor el read64 tableVa level table) := by
  obtain ⟨hflow, hentry⟩ := ht.entry hm (tableVa >>> m.granule.levelShift level)
  refine ⟨_, hentry, ?_⟩
  have hshift : m.granule.levelShift level < 64 := (m.granule.levelShift_lt level).trans (by decide)
  have hmask : 7#64 ≤ m.physicalAddressMask := by
    obtain ⟨bits, h32, -, hbits⟩ := mask_toNat hm
    have hpow : 2 ^ 32 ≤ 2 ^ bits := Nat.pow_le_pow_right (by decide) h32
    rw [BitVec.le_def, hbits]
    simp only [BitVec.toNat_ofNat]
    omega
  have hindex : ((tableVa >>> m.granule.levelShift level) &&&
      ((1#64 <<< m.granule.indexBits) - 1#64)).toNat * (8#64).toNat < 2 ^ 64 := by
    cases m.granule with
    | fourKiB =>
      rw [toNat_and_mask _ 9 _ rfl]
      have := Nat.mod_lt (tableVa >>> Granule.fourKiB.levelShift level).toNat (show 0 < 2 ^ 9 by decide)
      simp only [BitVec.toNat_ofNat]
      omega
    | sixteenKiB =>
      rw [toNat_and_mask _ 11 _ rfl]
      have := Nat.mod_lt (tableVa >>> Granule.sixteenKiB.levelShift level).toNat (show 0 < 2 ^ 11 by decide)
      simp only [BitVec.toNat_ofNat]
      omega
  have hlimit := BitVec.not_lt.mpr hentry.inside
  rw [readDescriptorChecked, Granule.addressMaskChecked_ok, ok_bind, lowMask_ok m.granule.indexBits_lt,
    ok_bind, Granule.levelShiftChecked_ok _ hlevel, ok_bind, shr_ok _ hshift, ok_bind, mul_ok hindex,
    ok_bind, hflow, if_neg Bool.false_ne_true, sub_ok hmask, ok_bind, if_neg hlimit]
  cases hread : read64 (table + ((tableVa >>> m.granule.levelShift level) &&&
      ((1#64 <<< m.granule.indexBits) - 1#64)) * 8#64) with
  | error error =>
    simp only [readDescriptor, hflow, Bool.false_eq_true, if_false, if_neg hlimit, hread]
  | ok descriptor =>
    simp only [admitChecked_ok m hflow hlimit hread, ok_bind]

lemma finishChecked_ok {m : VfMmu} (hm : m.Configured) {el : ExceptionLevel} {read64 : TableReader}
    {tableVa table entry descriptor : U64} {level : ℕ} (hlevel : level ≤ maxLevel)
    (h : m.readDescriptor el read64 tableVa level table = .ok (entry, descriptor)) (va : U64)
    (access : Access) (permissions : U64) :
    m.finishChecked va access el level permissions entry descriptor =
      .ok (m.walkStep va access el read64 tableVa level table permissions) := by
  have ha := readDescriptor_admitted h
  have hshift : m.granule.levelShift level < 64 := (m.granule.levelShift_lt level).trans (by decide)
  have hshift8 : m.granule.levelShift level < 2 ^ 8 := hshift.trans (by decide)
  have hpage8 : m.granule.pageShift < 2 ^ 8 := m.granule.pageShift_lt.trans (by decide)
  have hlevel8 : level < 2 ^ 8 := lt_of_le_of_lt hlevel (by decide)
  have hblock : ¬(level = 0 ∧ descriptor &&& descriptorTypeMask = 1#64) :=
    fun hz => (ha.block hz.2).1 hz.1
  rw [finishChecked, Granule.addressMaskChecked_ok, ok_bind, Granule.levelShiftChecked_ok _ hlevel, ok_bind,
    lowMask_ok hshift, ok_bind, narrow_ok hlevel8, ok_bind]
  simp only [descriptorPermissionsChecked_ok hblock, ok_bind, walkStep, h]
  rcases descriptor_kinds ha hlevel with hl | ⟨hlt, ht⟩
  · have hpa := leafPa_bound hm ha hl permissions va
    simp only [leafPa, leafOf] at hpa
    rcases hl with ⟨hlt, ht⟩ | ⟨hmax, ht⟩
    · rw [if_pos ⟨hlt, ht⟩, if_pos ⟨hlt, ht⟩, hpa, narrow_ok hshift8]
      cases descriptorPermissions descriptor permissions level el access with
      | error fault => rfl
      | ok p => rfl
    · simp only [if_false, hmax, lt_irrefl, false_and, if_true, ht, ne_eq, not_true_eq_false, narrow_ok hpage8,
        ok_bind]
      cases descriptorPermissions descriptor permissions maxLevel el access with
      | error fault => rfl
      | ok p => rfl
  · have hne : ¬(3#64 = 1#64) := by decide
    simp only [ht, hne, and_false, if_false, ne_eq, not_true_eq_false, hlt.ne]

structure Reads (m : VfMmu) (levels : ℕ) (reads : List U64) : Prop where
  few : reads.length ≤ levels
  entries : ∀ entry ∈ reads, m.EntryAddress entry

lemma walkLoopReads_succ {m : VfMmu} (hm : m.Configured) (va : U64) (access : Access)
    (el : ExceptionLevel) (read64 : TableReader) (tableVa : U64) (n : ℕ) {table : U64}
    (ht : m.TableBase table) (permissions : U64) :
    m.walkLoopReads va access el read64 tableVa (n + 1) table permissions =
      match m.walkStep va access el read64 tableVa (maxLevel - n) table permissions with
      | .ok (.table table permissions) =>
        m.walkLoopReads va access el read64 tableVa n table permissions + 1
      | _ => 1 := by
  obtain ⟨hflow, hentry⟩ := ht.entry hm (tableVa >>> m.granule.levelShift (maxLevel - n))
  exact if_neg (not_or.mpr ⟨ne_true_of_eq_false hflow, BitVec.not_lt.mpr hentry.inside⟩)

lemma walkLoopChecked_ok {m : VfMmu} (hm : m.Configured) (va : U64) (access : Access)
    (el : ExceptionLevel) (read64 : TableReader) (tableVa : U64) (remaining : ℕ) (hpos : 0 < remaining)
    {table : U64} (permissions : U64) (ht : m.TableBase table) :
    ∃ reads, m.Reads remaining reads ∧
      reads.length = m.walkLoopReads va access el read64 tableVa remaining table permissions ∧
      m.walkLoopChecked va access el read64 tableVa remaining table permissions =
        .ok (reads, m.walkLoop va access el read64 tableVa remaining table permissions) := by
  induction remaining generalizing table permissions with
  | zero => omega
  | succ n ih =>
    have hlevel : maxLevel - n ≤ maxLevel := Nat.sub_le _ _
    obtain ⟨entry, hentry, hread⟩ := readDescriptorChecked_ok hm el read64 tableVa hlevel ht
    have hone : m.Reads (n + 1) [entry] := ⟨by simp, by simpa using hentry⟩
    rw [walkLoopChecked, walkLoop, walkStepChecked, hread, ok_bind, walkLoopReads_succ hm _ _ _ _ _ _ ht]
    cases hd : m.readDescriptor el read64 tableVa (maxLevel - n) table with
    | error failure =>
      refine ⟨[entry], hone, ?_, ?_⟩
      · simp only [walkStep, hd, List.length_singleton]
      · simp only [walkStep, hd, ok_bind]
    | ok d =>
      obtain ⟨entryAddress, descriptor⟩ := d
      simp only [finishChecked_ok hm hlevel hd, ok_bind]
      have ha := readDescriptor_admitted hd
      cases hstep : m.walkStep va access el read64 tableVa (maxLevel - n) table permissions with
      | error failure => exact ⟨[entry], hone, rfl, rfl⟩
      | ok step =>
        cases step with
        | leaf leaf => exact ⟨[entry], hone, rfl, rfl⟩
        | table table' permissions' =>
          rcases descriptor_kinds ha hlevel with hl | ⟨hlt, htype⟩
          · rw [walkStep_leaf hm hd hl] at hstep
            dsimp only at hstep
            repeat' split at hstep
            all_goals cases hstep
          · rw [walkStep_table hd hlt htype] at hstep
            cases hstep
            have hn : 0 < n := by
              simp only [maxLevel] at hlt
              omega
            obtain ⟨reads, hreads, hcount, hloop⟩ := ih hn
              (permissions ||| (descriptor &&& hierarchyMask el)) (tableBase_of_inside ha.output)
            refine ⟨entry :: reads, ⟨?_, ?_⟩, ?_, ?_⟩
            · simpa using hreads.few
            · simpa using ⟨hentry, hreads.entries⟩
            · simp only [List.length_cons, hcount]
            · simp only [hloop, ok_bind, List.singleton_append]

lemma walkChecked_ok {m : VfMmu} (hm : m.Configured) {va : U64} (hva : m.canonicalVa va = true)
    (access : Access) (el : ExceptionLevel) (read64 : TableReader) :
    ∃ reads, m.Reads 4 reads ∧ reads.length = m.walkReads va access el read64 ∧
      m.walkChecked va access el read64 = .ok (reads, m.walk va access el read64) := by
  obtain ⟨⟨root, tsz, walkDisabled⟩, hroot⟩ := Option.isSome_iff_exists.mp hva
  obtain ⟨start, hstart, h16, h47, -⟩ := selectRoot_eq_some hroot
  obtain ⟨-, hmax, -⟩ := Granule.startLevel_eq_some hstart
  have hnone : m.Reads 4 [] := ⟨by simp, by simp⟩
  rw [walkChecked, walk, walkReads, selectRootChecked_ok, hroot, ok_bind]
  simp only [Granule.startLevelChecked_ok, hstart, ok_bind, Granule.addressMaskChecked_ok]
  cases walkDisabled with
  | true => exact ⟨[], hnone, rfl, rfl⟩
  | false =>
    rw [shr_ok _ (by omega), ok_bind, subNat_ok (by omega), ok_bind]
    simp only [Bool.false_eq_true, if_false, false_or]
    split
    · exact ⟨[], hnone, rfl, rfl⟩
    · rename_i hinside
      obtain ⟨reads, hreads, hcount, hloop⟩ := walkLoopChecked_ok hm va access el read64
        (va &&& (BitVec.allOnes 64 >>> tsz)) (maxLevel + 1 - start) (by omega) 0 (tableBase_of_inside (not_not.mp hinside))
      exact ⟨reads, ⟨hreads.few.trans (Nat.sub_le _ _), hreads.entries⟩, hcount, hloop⟩

/-- The TLB invariant when the tables may change between calls: every live entry
was filled by a walk of this configuration over some table memory. -/
def Filled (m : VfMmu) : Prop :=
  ∀ e ∈ m.tlb, e.valid = true → ∃ read64 va access el leaf,
    m.walk va access el read64 = .ok leaf ∧ e = m.filledEntry va el leaf

lemma Coherent.filled {m : VfMmu} {read64 : TableReader} (h : m.Coherent read64) : m.Filled :=
  fun e he hv => ⟨read64, h e he hv⟩

lemma cache_filled {m : VfMmu} (hf : m.Filled) {read64 : TableReader} {va : U64} {access : Access}
    {el : ExceptionLevel} {leaf : Leaf} (h : m.walk va access el read64 = .ok leaf) :
    (m.cache va el leaf).Filled := by
  intro e he hv
  rcases @Vector.mem_or_eq_of_mem_set _ _ _ _ _ _ m.next.isLt he with hold | rfl
  · obtain ⟨read64', va', access', el', leaf', hw, rfl⟩ := hf e hold hv
    exact ⟨read64', va', access', el', leaf', (walk_tlb m _ _ _ _ _ _).trans hw, rfl⟩
  · exact ⟨read64, va, access, el, leaf, (walk_tlb m _ _ _ _ _ _).trans h, rfl⟩

lemma walk_shift {m : VfMmu} (hm : m.Configured) {el : ExceptionLevel} {read64 : TableReader}
    {va : U64} {access : Access} {leaf : Leaf} (h : m.walk va access el read64 = .ok leaf) :
    leaf.pageShift < 64 := by
  obtain ⟨level, entry, descriptor, permissions, -, rfl⟩ := walk_leafOf hm h
  exact (m.granule.levelShift_lt level).trans (by decide)

lemma hitChecked_ok {m : VfMmu} (hm : m.Configured) {e : TlbEntry} {read64 : TableReader} {va' : U64}
    {access' : Access} {el' : ExceptionLevel} {leaf : Leaf} (h : m.walk va' access' el' read64 = .ok leaf)
    (he : e = m.filledEntry va' el' leaf) (va : U64) (access : Access) (el : ExceptionLevel) :
    m.hitChecked va access el e = .ok (m.hit va access el e) := by
  have hpa := (walk_same_leaf hm rfl va access' h).1 va
  have hshift : e.pageShift < 64 := by
    rw [he]
    exact walk_shift hm h
  have hinside : (e.paBase ||| (va &&& ((1#64 <<< e.pageShift) - 1#64))) &&&
      ~~~m.physicalAddressMask = 0#64 := by
    rw [he]
    exact hpa
  rw [hitChecked, lowMask_ok hshift, ok_bind, if_neg (not_not.mpr hinside), hit]
  dsimp only
  rw [if_neg (not_not.mpr hinside)]

lemma lookupChecked_ok {m : VfMmu} (hm : m.Configured) (va : U64) (access : Access) (el : ExceptionLevel)
    (entries : List TlbEntry) (hf : ∀ e ∈ entries, e.valid = true → ∃ read64 va access el leaf,
      m.walk va access el read64 = .ok leaf ∧ e = m.filledEntry va el leaf) :
    m.lookupChecked va access el entries =
      .ok (match entries.find? (m.matchesEntry va el) with
        | none => .ok none
        | some e => (m.hit va access el e).map some) := by
  induction entries with
  | nil => rfl
  | cons e rest ih =>
    have hrest := ih (fun e' he' => hf e' (List.mem_cons_of_mem e he'))
    rw [lookupChecked, List.find?_cons]
    cases htag : e.valid && e.asid == m.asid && e.el10 == el.el10 with
    | false =>
      simp only [Bool.not_false, if_true, matchesEntry, htag, Bool.false_and, hrest]
    | true =>
      have hv : e.valid = true := by
        simp only [Bool.and_eq_true] at htag
        exact htag.1.1
      obtain ⟨read64, va', access', el', leaf, hw, he⟩ := hf e List.mem_cons_self hv
      have hshift : e.pageShift < 64 := by
        rw [he]
        exact walk_shift hm hw
      simp only [Bool.not_true, Bool.false_eq_true, if_false, shr_ok va hshift, ok_bind, matchesEntry, htag,
        Bool.true_and]
      by_cases hmatch : va >>> e.pageShift = e.vaTag
      · rw [if_neg (not_not.mpr hmatch), hitChecked_ok hm hw he, ok_bind, beq_iff_eq.mpr hmatch]
      · rw [if_pos hmatch, hrest, beq_eq_false_iff_ne.mpr hmatch]

/-- The states of a walker: any sequence of its operations from `disabled`, each
translation over a table memory of its own. -/
inductive Reached : VfMmu → Prop
  | disabled : Reached VfMmu.disabled
  | configureTcr {m : VfMmu} (h : Reached m) (ttbr0 ttbr1 tcr : U64) (asid : BitVec 16) :
      Reached (m.configureTcr ttbr0 ttbr1 tcr asid).1
  | configureStrictNc {m : VfMmu} (h : Reached m) (ttbr0 ttbr1 tcr : U64) :
      Reached (m.configureStrictNc ttbr0 ttbr1 tcr).1
  | disable {m : VfMmu} (h : Reached m) : Reached m.disable
  | invalidate {m : VfMmu} (h : Reached m) : Reached m.invalidate
  | translateDetailed {m : VfMmu} (h : Reached m) (va : U64) (access : Access) (el : ExceptionLevel)
      (read64 : TableReader) : Reached (m.translateDetailed va access el read64).2

lemma translateDetailed_configured {m : VfMmu} (h : m.Configured ∧ m.Filled) (va : U64) (access : Access)
    (el : ExceptionLevel) (read64 : TableReader) :
    (m.translateDetailed va access el read64).2.Configured ∧
      (m.translateDetailed va access el read64).2.Filled := by
  rw [translateDetailed_eq h.1.enabled]
  cases m.inputFault va access with
  | some f => exact h
  | none =>
    cases m.tlb.toList.find? (m.matchesEntry va el) with
    | some e => exact h
    | none =>
      cases hw : m.walk va access el read64 with
      | error f => exact h
      | ok leaf => exact ⟨configured_tlb h.1 _ _, cache_filled h.2 hw⟩

lemma Reached.configured {m : VfMmu} (h : m.Reached) (hen : m.enabled = true) :
    m.Configured ∧ m.Filled := by
  induction h with
  | disabled => cases hen
  | @configureTcr m h ttbr0 ttbr1 tcr asid ih =>
    cases hc : m.configureTcr ttbr0 ttbr1 tcr asid with
    | mk m' accepted =>
      cases accepted with
      | true =>
        have hconf := configureTcr_configured hc
        exact ⟨hconf.1, (hconf.2 (fun _ => .error .unavailable)).filled⟩
      | false =>
        have hsame := configureTcr_refused m ttbr0 ttbr1 tcr asid (by rw [hc])
        rw [hc] at hsame hen
        dsimp only at hsame hen ⊢
        rw [hsame] at hen ⊢
        exact ih hen
  | @configureStrictNc m h ttbr0 ttbr1 tcr ih =>
    cases hc : m.configureStrictNc ttbr0 ttbr1 tcr with
    | mk m' accepted =>
      cases accepted with
      | true =>
        have hconf := configureStrictNc_configured hc
        exact ⟨hconf.1, (hconf.2 (fun _ => .error .unavailable)).filled⟩
      | false =>
        have hsame := configureStrictNc_refused m ttbr0 ttbr1 tcr (by rw [hc])
        rw [hc] at hsame hen
        dsimp only at hsame hen ⊢
        rw [hsame] at hen ⊢
        exact ih hen
  | disable h ih => cases hen
  | invalidate h ih =>
    exact ⟨configured_tlb (ih hen).1 _ _, (coherent_of_empty rfl (fun _ => .error .unavailable)).filled⟩
  | @translateDetailed m h va access el read64 ih =>
    have hbefore : m.enabled = true := by
      have hsame := congrArg VfMmu.enabled (translateDetailed_invalidate m va access el read64)
      exact hsame.symm.trans hen
    exact translateDetailed_configured (ih hbefore) va access el read64

lemma translateChecked_ok {m : VfMmu} (hm : m.Configured) (hf : m.Filled) (va : U64) (access : Access)
    (el : ExceptionLevel) (read64 : TableReader) :
    ∃ reads, m.Reads 4 reads ∧ reads.length = m.translateReads va access el read64 ∧
      m.translateChecked va access el read64 = .ok (reads, m.translateDetailed va access el read64) := by
  have hnone : m.Reads 4 [] := ⟨by simp, by simp⟩
  have hlookup := lookupChecked_ok hm va access el m.tlb.toList
    (fun e he => hf e (by simpa using he))
  have hen : ¬m.enabled = false := by simp [hm.enabled]
  unfold translateChecked translateDetailed translateReads
  by_cases haligned : access = .execute ∧ va &&& 3#64 ≠ 0#64
  · rw [if_pos haligned, if_pos haligned, if_pos (.inl haligned)]
    exact ⟨[], hnone, rfl, rfl⟩
  rw [if_neg haligned, if_neg haligned, if_neg hen, if_neg hen, selectRootChecked_ok, ok_bind, hlookup]
  by_cases hva : m.canonicalVa va = false
  · have hroot : (m.selectRoot va).isNone = true := by
      simpa [canonicalVa] using hva
    simp only [hroot, hva, or_true, if_true]
    exact ⟨[], hnone, rfl, rfl⟩
  have hroot : ¬(m.selectRoot va).isNone = true := by
    simpa [canonicalVa] using hva
  rw [if_neg hroot, if_neg hva, if_neg (not_or.mpr ⟨haligned, not_or.mpr ⟨hen, hva⟩⟩), ok_bind]
  simp only [tlbLookup]
  cases m.tlb.toList.find? (m.matchesEntry va el) with
  | some e =>
    refine ⟨[], hnone, ?_⟩
    cases hhit : m.hit va access el e with
    | error failure => simp only [hhit, Except.map, List.length_nil, and_self]
    | ok t => simp only [hhit, Except.map, List.length_nil, and_self]
  | none =>
    obtain ⟨reads, hreads, hcount, hwalk⟩ := walkChecked_ok hm (Bool.not_eq_false _ ▸ hva) access el read64
    refine ⟨reads, hreads, hcount, ?_⟩
    simp only [hwalk, ok_bind]
    cases hw : m.walk va access el read64 with
    | error failure => rfl
    | ok leaf =>
      have hshift := walk_shift hm hw
      simp only [lowMask_ok hshift, ok_bind, cacheChecked, shr_ok va hshift]

lemma hit_output {m : VfMmu} {va : U64} {access : Access} {el : ExceptionLevel} {e : TlbEntry}
    {t : Translation} (h : m.hit va access el e = .ok t) : t.pa &&& ~~~m.physicalAddressMask = 0#64 := by
  unfold hit at h
  dsimp only at h
  split at h
  · cases h
  rename_i hinside
  split at h
  · cases h
  · cases h
    exact not_not.mp hinside

lemma translate_output {m : VfMmu} (hm : m.Configured) {va : U64} {access : Access} {el : ExceptionLevel}
    {read64 : TableReader} {t : Translation} (h : (m.translateDetailed va access el read64).1 = .ok t) :
    t.pa &&& ~~~m.physicalAddressMask = 0#64 := by
  rw [translateDetailed_eq hm.enabled] at h
  cases hfault : m.inputFault va access with
  | some f => simp [hfault] at h
  | none =>
    rw [hfault] at h
    cases hfind : m.tlb.toList.find? (m.matchesEntry va el) with
    | some e =>
      rw [hfind] at h
      exact hit_output h
    | none =>
      rw [hfind] at h
      cases hw : m.walk va access el read64 with
      | error f => simp [coldAnswer, hw, Except.map] at h
      | ok leaf =>
        simp only [coldAnswer, hw, Except.map, Except.ok.injEq] at h
        subst h
        exact (walk_same_leaf hm rfl va access hw).1 va

/-- The bounds of the walker, from any reached and enabled state: no defect, at most
four reads, each an aligned word inside the physical range, and outputs inside it. -/
theorem walker_bounds (m : VfMmu) (hreached : m.Reached) (henabled : m.enabled = true)
    (read64 : TableReader) (va : U64) (access : Access) (el : ExceptionLevel) :
    ∃ bits reads, 32 ≤ bits ∧ bits ≤ 48 ∧ m.physicalAddressMask.toNat = 2 ^ bits - 1 ∧
      m.translateChecked va access el read64 = .ok (reads, m.translateDetailed va access el read64) ∧
      reads.length ≤ 4 ∧ reads.length = m.translateReads va access el read64 ∧
      (∀ entry ∈ reads, entry &&& 7#64 = 0#64 ∧ entry.toNat + 7 ≤ m.physicalAddressMask.toNat) ∧
      ∀ t, (m.translateDetailed va access el read64).1 = .ok t → t.pa.toNat < 2 ^ bits := by
  obtain ⟨hm, hf⟩ := hreached.configured henabled
  obtain ⟨bits, h32, h48, hmask⟩ := mask_toNat hm
  obtain ⟨reads, hreads, hcount, hchecked⟩ := translateChecked_ok hm hf va access el read64
  refine ⟨bits, reads, h32, h48, hmask, hchecked, hreads.few, hcount, ?_, ?_⟩
  · intro entry hentry
    obtain ⟨haligned, hinside⟩ := hreads.entries entry hentry
    have hpow : 2 ^ 32 ≤ 2 ^ bits := Nat.pow_le_pow_right (by decide) h32
    have hseven : (m.physicalAddressMask - 7#64).toNat = m.physicalAddressMask.toNat - 7 := by
      rw [BitVec.toNat_sub_of_le (by rw [BitVec.le_def, hmask]; simp only [BitVec.toNat_ofNat]; omega)]
      rfl
    rw [BitVec.le_def, hseven] at hinside
    exact ⟨haligned, by omega⟩
  · intro t ht
    exact lt_of_and_not hmask (translate_output hm ht)

theorem walker_bounds_page :
    (disabled.configureTcr 0x1000#64 0#64 16#64 0#16).1.enabled = true ∧
      ∃ bits reads, 32 ≤ bits ∧ bits ≤ 48 ∧
        (disabled.configureTcr 0x1000#64 0#64 16#64 0#16).1.physicalAddressMask.toNat = 2 ^ bits - 1 ∧
        (disabled.configureTcr 0x1000#64 0#64 16#64 0#16).1.translateChecked 8#64 .read .el1 pageFixture =
          .ok (reads, (disabled.configureTcr 0x1000#64 0#64 16#64 0#16).1.translateDetailed 8#64 .read .el1
            pageFixture) ∧
        reads.length ≤ 4 ∧
        reads.length = (disabled.configureTcr 0x1000#64 0#64 16#64 0#16).1.translateReads 8#64 .read .el1
          pageFixture ∧
        (∀ entry ∈ reads, entry &&& 7#64 = 0#64 ∧ entry.toNat + 7 ≤
          (disabled.configureTcr 0x1000#64 0#64 16#64 0#16).1.physicalAddressMask.toNat) ∧
        ∀ t, ((disabled.configureTcr 0x1000#64 0#64 16#64 0#16).1.translateDetailed 8#64 .read .el1
          pageFixture).1 = .ok t → t.pa.toNat < 2 ^ bits :=
  have henabled : (disabled.configureTcr 0x1000#64 0#64 16#64 0#16).1.enabled = true := by decide
  ⟨henabled, walker_bounds _ (.configureTcr .disabled _ _ _ _) henabled pageFixture 8#64 .read .el1⟩

end VfMmu

end Nextcore.Mmu
