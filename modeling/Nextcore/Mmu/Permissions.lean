import Nextcore.Lib.Lanes
import Nextcore.Mmu.Bounds

/-! The permissions of a descriptor path: the rule of the architecture for the attributes of the leaf under the tables
above it, and that the walk grants exactly what the rule grants. -/

namespace Nextcore.Mmu

open Bits Lanes

structure Rights where
  writes : Prop
  userData : Prop
  userExecutes : Prop
  privilegedExecutes : Prop

namespace Rights

/-- AP[2] is bit 7 and AP[1] is bit 6; APTable is in bits 62 and 61, UXN and PXN in 54 and 53 of the leaf and in 60 and
59 of a table. A page that EL0 may write is never executable at EL1. -/
def ofPath (tables : List U64) (leaf : U64) : Rights where
  writes := leaf.getLsbD 7 = false ∧ ∀ t ∈ tables, t.getLsbD 62 = false
  userData := leaf.getLsbD 6 = true ∧ ∀ t ∈ tables, t.getLsbD 61 = false
  userExecutes := leaf.getLsbD uxnBit = false ∧ ∀ t ∈ tables, t.getLsbD 60 = false
  privilegedExecutes := leaf.getLsbD pxnBit = false ∧ ∀ t ∈ tables, t.getLsbD 59 = false

def Grants (r : Rights) : ExceptionLevel → Access → Prop
  | .el0, .read => r.userData
  | .el0, .write => r.writes ∧ r.userData
  | .el0, .execute => r.userExecutes
  | _, .read => True
  | _, .write => r.writes
  | _, .execute => r.privilegedExecutes ∧ ¬(r.writes ∧ r.userData)

end Rights

def Narrows (t t' : U64) : Prop := ∃ extra : U64, extra &&& ~~~(0xf#64 <<< 59) = 0#64 ∧ t' = t ||| extra

section Rule

variable {tables tables' : List U64} {leaf : U64}

lemma forall_of_narrows (h : List.Forall₂ Narrows tables tables') {b : ℕ}
    (hbit : ∀ t ∈ tables', t.getLsbD b = false) : ∀ t ∈ tables, t.getLsbD b = false := by
  induction h with
  | nil => simp
  | @cons t t' ts ts' hfirst _ ih =>
    obtain ⟨extra, -, rfl⟩ := hfirst
    rw [List.forall_mem_cons, BitVec.getLsbD_or, Bool.or_eq_false_iff] at hbit
    rw [List.forall_mem_cons]
    exact ⟨hbit.1.1, ih hbit.2⟩

lemma Rights.grants_of_narrows (h : List.Forall₂ Narrows tables tables') {el : ExceptionLevel} {access : Access}
    (hdata : access ≠ .execute ∨ el = .el0) (hgrants : (ofPath tables' leaf).Grants el access) :
    (ofPath tables leaf).Grants el access := by
  have hwrites : (ofPath tables' leaf).writes → (ofPath tables leaf).writes :=
    fun hw => ⟨hw.1, forall_of_narrows h hw.2⟩
  have huser : (ofPath tables' leaf).userData → (ofPath tables leaf).userData :=
    fun hu => ⟨hu.1, forall_of_narrows h hu.2⟩
  have hexecutes : (ofPath tables' leaf).userExecutes → (ofPath tables leaf).userExecutes :=
    fun hx => ⟨hx.1, forall_of_narrows h hx.2⟩
  cases el with
  | el0 =>
    cases access with
    | read => exact huser hgrants
    | write => exact ⟨hwrites hgrants.1, huser hgrants.2⟩
    | execute => exact hexecutes hgrants
  | el1 | el2 | el3 =>
    cases access with
    | read => exact hgrants
    | write => exact hwrites hgrants
    | execute => exact absurd hdata (by decide)

end Rule

namespace VfMmu

def gathered (el : ExceptionLevel) (permissions : U64) (tables : List U64) : U64 :=
  tables.foldl (fun permissions t => permissions ||| (t &&& hierarchyMask el)) permissions

inductive Route (m : VfMmu) (el : ExceptionLevel) (read64 : TableReader) (tableVa : U64) :
    (remaining : ℕ) → (table : U64) → List U64 → (level : ℕ) → (entry leaf : U64) → Prop
  | leaf {n : ℕ} {table entry leaf : U64} :
      m.readDescriptor el read64 tableVa (maxLevel - n) table = .ok (entry, leaf) → IsLeaf (maxLevel - n) leaf →
      Route m el read64 tableVa (n + 1) table [] (maxLevel - n) entry leaf
  | table {n : ℕ} {table address descriptor : U64} {tables : List U64} {level : ℕ} {entry leaf : U64} :
      m.readDescriptor el read64 tableVa (maxLevel - n) table = .ok (address, descriptor) → maxLevel - n < maxLevel →
      descriptor &&& descriptorTypeMask = 3#64 →
      Route m el read64 tableVa n (descriptor &&& m.granule.addressMask) tables level entry leaf →
      Route m el read64 tableVa (n + 1) table (descriptor :: tables) level entry leaf

def Path (m : VfMmu) (va : U64) (el : ExceptionLevel) (read64 : TableReader) (tables : List U64) (level : ℕ)
    (entry leaf : U64) : Prop :=
  ∃ root tsz start, m.selectRoot va = some (root, tsz, false) ∧ m.granule.startLevel tsz = some start ∧
    root &&& m.granule.addressMask &&& ~~~m.physicalAddressMask = 0#64 ∧
    m.Route el read64 (va &&& (BitVec.allOnes 64 >>> tsz)) (maxLevel + 1 - start) (root &&& m.granule.addressMask) tables
      level entry leaf

section Walk

variable {m : VfMmu} {el : ExceptionLevel} {read64 : TableReader} {tables : List U64} {level : ℕ} {entry leaf : U64}

def leafAnswer (m : VfMmu) (va : U64) (access : Access) (el : ExceptionLevel) (level : ℕ)
    (entry leaf permissions : U64) : Except TranslationFailure Leaf :=
  let found := m.leafOf level entry leaf permissions
  if leaf &&& afBit = 0#64 then
    .error (((TranslationFailure.architectural .accessFlag (some level) .leaf).atDescriptor entry).withOutput
      (leafPa found va))
  else if allowed access el found.permissions = false then .error (leafDenied found va)
  else .ok found

lemma Route.walkLoop (hm : m.Configured) {tableVa : U64} {remaining : ℕ} {table : U64}
    (h : m.Route el read64 tableVa remaining table tables level entry leaf) (va : U64) (access : Access)
    (permissions : U64) :
    m.walkLoop va access el read64 tableVa remaining table permissions =
      m.leafAnswer va access el level entry leaf (gathered el permissions tables) := by
  induction h generalizing permissions with
  | @leaf n table entry leaf hread hleaf =>
    rw [VfMmu.walkLoop, walkStep_leaf hm hread hleaf]
    unfold leafAnswer
    dsimp only [gathered, List.foldl_nil]
    by_cases haf : leaf &&& afBit = 0#64
    · simp only [if_pos haf]
    by_cases hallowed : allowed access el (leafPermissions leaf permissions) = false
    · simp only [leafOf_permissions, haf, hallowed, if_true, if_false]
    · simp only [leafOf_permissions, haf, hallowed, if_false, Bool.true_eq_false]
  | table hread hlt htype _ ih =>
    rw [VfMmu.walkLoop, walkStep_table hread hlt htype]
    exact ih _

lemma getLsbD_gathered (hel : el.el10 = true) {k : ℕ} (hlow : 59 ≤ k) (hhigh : k < 63) (permissions : U64) :
    (gathered el permissions tables).getLsbD k = false ↔
      permissions.getLsbD k = false ∧ ∀ t ∈ tables, t.getLsbD k = false := by
  have hmask : (hierarchyMask el).getLsbD k = true := by
    rw [hierarchyMask, if_pos hel]
    have hcases : k = 59 ∨ k = 60 ∨ k = 61 ∨ k = 62 := by omega
    rcases hcases with rfl | rfl | rfl | rfl <;> decide
  induction tables generalizing permissions with
  | nil => simp [gathered]
  | cons t ts ih =>
    have hrest := ih (permissions ||| (t &&& hierarchyMask el))
    rw [BitVec.getLsbD_or, BitVec.getLsbD_and, hmask, Bool.and_true, Bool.or_eq_false_iff] at hrest
    rw [List.forall_mem_cons, ← and_assoc]
    exact hrest

lemma ap_bits (x : U64) : ((x >>> 6) &&& 3#64 = 0#64 ∨ (x >>> 6) &&& 3#64 = 1#64 ↔ x.getLsbD 7 = false) ∧
    ((x >>> 6) &&& 3#64 = 1#64 ∨ (x >>> 6) &&& 3#64 = 3#64 ↔ x.getLsbD 6 = true) := by
  have hap : ((x >>> 6) &&& 3#64).toNat = x.toNat / 64 % 4 := by
    rw [toNat_and_mask _ 2 _ rfl, BitVec.toNat_ushiftRight, Nat.shiftRight_eq_div_pow]
    rfl
  have hbit (k : ℕ) : x.getLsbD k = decide (x.toNat / 2 ^ k % 2 = 1) := Nat.testBit_eq_decide_div_mod_eq
  simp only [← BitVec.toNat_inj, hap, hbit, BitVec.toNat_ofNat, decide_eq_true_eq, decide_eq_false_iff_not]
  constructor
  · omega
  · omega

lemma leafPermissions_iff (hel : el.el10 = true) :
    ((leafPermissions leaf (gathered el 0#64 tables)).writable = true ↔ (Rights.ofPath tables leaf).writes) ∧
    ((leafPermissions leaf (gathered el 0#64 tables)).userAccessible = true ↔ (Rights.ofPath tables leaf).userData) ∧
    ((leafPermissions leaf (gathered el 0#64 tables)).executableEl0 = true ↔ (Rights.ofPath tables leaf).userExecutes) ∧
    ((leafPermissions leaf (gathered el 0#64 tables)).executablePrivileged = true ↔
      (Rights.ofPath tables leaf).privilegedExecutes) := by
  have htable {k : ℕ} (hlow : 59 ≤ k) (hhigh : k < 63) :
      gathered el 0#64 tables &&& (1#64 <<< k) = 0#64 ↔ ∀ t ∈ tables, t.getLsbD k = false := by
    rw [and_bit (by omega), getLsbD_gathered hel hlow hhigh]
    simp
  obtain ⟨hreadOnly, huser⟩ := ap_bits leaf
  simp only [leafPermissions, decide_eq_true_eq, hreadOnly, huser, htable (show 59 ≤ 62 by decide) (by decide),
    htable (show 59 ≤ 61 by decide) (by decide), htable (show 59 ≤ 60 by decide) (by decide),
    htable (show 59 ≤ 59 by decide) (by decide), and_bit (show uxnBit < 64 by decide),
    and_bit (show pxnBit < 64 by decide)]
  exact ⟨Iff.rfl, Iff.rfl, Iff.rfl, Iff.rfl⟩

lemma allowed_iff (hel : el.el10 = true) (access : Access) :
    allowed access el (leafPermissions leaf (gathered el 0#64 tables)) = true ↔
      (Rights.ofPath tables leaf).Grants el access := by
  obtain ⟨hwrites, huser, huserExec, hprivileged⟩ := @leafPermissions_iff el tables leaf hel
  cases el with
  | el0 =>
    cases access with
    | read => simpa [allowed, Rights.Grants] using huser
    | write => simp [allowed, Rights.Grants, hwrites, huser]
    | execute => simpa [allowed, executable, Rights.Grants] using huserExec
  | el1 =>
    cases access with
    | read => simp [allowed, Rights.Grants]
    | write => simpa [allowed, Rights.Grants] using hwrites
    | execute =>
      simp only [allowed, executable, privilegedExecution, Rights.Grants, ← hwrites, ← huser, ← hprivileged]
      cases (leafPermissions leaf (gathered .el1 0#64 tables)).writable <;> simp
  | el2 | el3 => cases hel

lemma Path.walk (hm : m.Configured) {va : U64} (h : m.Path va el read64 tables level entry leaf) (access : Access) :
    m.walk va access el read64 = m.leafAnswer va access el level entry leaf (gathered el 0#64 tables) := by
  obtain ⟨root, tsz, start, hroot, hstart, hinside, hroute⟩ := h
  simp only [VfMmu.walk, hroot, hstart, hinside, Bool.false_eq_true, if_false, ne_eq, not_true_eq_false]
  exact hroute.walkLoop hm va access 0#64

def leafFault (m : VfMmu) (va : U64) (level : ℕ) (entry leaf : U64) (fault : Fault) : TranslationFailure :=
  ((TranslationFailure.architectural fault (some level) .leaf).atDescriptor entry).withOutput
    (leafPa (m.leafOf level entry leaf 0#64) va)

structure Granted (m : VfMmu) (va : U64) (el : ExceptionLevel) (read64 : TableReader) (tables : List U64) (level : ℕ)
    (entry leaf : U64) (access : Access) : Prop where
  accessFlag : leaf.getLsbD 10 = false →
    m.coldAnswer va access el read64 = .error (m.leafFault va level entry leaf .accessFlag)
  granted : leaf.getLsbD 10 = true → (Rights.ofPath tables leaf).Grants el access →
    ∃ t, m.coldAnswer va access el read64 = .ok t ∧ (t.writable = true ↔ (Rights.ofPath tables leaf).Grants el .write) ∧
      (t.executable = true ↔ (Rights.ofPath tables leaf).Grants el .execute)
  refused : leaf.getLsbD 10 = true → ¬(Rights.ofPath tables leaf).Grants el access →
    m.coldAnswer va access el read64 = .error (m.leafFault va level entry leaf .permission)

lemma granted (hm : m.Configured) (hel : el.el10 = true) {va : U64} (h : m.Path va el read64 tables level entry leaf)
    (access : Access) : Granted m va el read64 tables level entry leaf access := by
  have hflag : leaf &&& afBit = 0#64 ↔ leaf.getLsbD 10 = false := and_bit (by decide)
  have hset_clear (hset : leaf.getLsbD 10 = true) : ¬leaf &&& afBit = 0#64 := by
    rw [hflag, hset]
    decide
  have hanswer : m.coldAnswer va access el read64 =
      (m.leafAnswer va access el level entry leaf (gathered el 0#64 tables)).map fun found =>
        translation el (leafPa found va) found.pageShift found.permissions
          (if m.strictNc then some normalNc else none) := by
    rw [coldAnswer, h.walk hm]
  constructor
  · intro hclear
    rw [hanswer, leafAnswer, if_pos (hflag.mpr hclear)]
    rfl
  · intro hset hgrants
    have hallowed : ¬allowed access el (leafPermissions leaf (gathered el 0#64 tables)) = false :=
      Bool.not_eq_false _ ▸ (allowed_iff hel access).mpr hgrants
    rw [hanswer, leafAnswer, if_neg (hset_clear hset), leafOf_permissions, if_neg hallowed]
    exact ⟨_, rfl, allowed_iff hel .write, allowed_iff hel .execute⟩
  · intro hset hrefused
    have hallowed : allowed access el (leafPermissions leaf (gathered el 0#64 tables)) = false :=
      Bool.eq_false_iff.mpr fun hallowed => hrefused ((allowed_iff hel access).mp hallowed)
    rw [hanswer, leafAnswer, if_neg (hset_clear hset), leafOf_permissions, if_pos hallowed]
    rfl

/-- On every descriptor path the walk follows the rule, at EL0 and at EL1; a path with more table bits grants no more
reads, writes and executions at EL0. -/
theorem stage1_permissions (hreached : m.Reached) (henabled : m.enabled = true) (hel : el.el10 = true) {va : U64}
    (hpath : m.Path va el read64 tables level entry leaf) (access : Access) :
    Granted m va el read64 tables level entry leaf access ∧
    ∀ read64' tables' entry', m.Path va el read64' tables' level entry' leaf → List.Forall₂ Narrows tables tables' →
      (access ≠ .execute ∨ el = .el0) → (∃ t, m.coldAnswer va access el read64' = .ok t) →
        ∃ t, m.coldAnswer va access el read64 = .ok t := by
  obtain ⟨hm, -⟩ := hreached.configured henabled
  have hfirst := granted hm hel hpath access
  refine ⟨hfirst, ?_⟩
  rintro read64' tables' entry' hpath' hnarrows hdata ⟨t, ht⟩
  have hsecond := granted hm hel hpath' access
  cases hset : leaf.getLsbD 10 with
  | false =>
    rw [hsecond.accessFlag hset] at ht
    cases ht
  | true =>
    by_cases hgrants : (Rights.ofPath tables' leaf).Grants el access
    · obtain ⟨t', ht', -⟩ := hfirst.granted hset (Rights.grants_of_narrows hnarrows hdata hgrants)
      exact ⟨t', ht'⟩
    · rw [hsecond.refused hset hgrants] at ht
      cases ht

end Walk

theorem stage1_permissions_page :
    Granted (disabled.configureTcr 0x1000#64 0#64 16#64 0#16).1 8#64 .el1 pageFixture
        [0x2003#64, 0x3003#64, 0x4003#64] 3 0x4000#64 0x8403#64 .read ∧
      (Rights.ofPath [0x2003#64, 0x3003#64, 0x4003#64] 0x8403#64).Grants .el1 .write := by
  have hpath : Path (disabled.configureTcr 0x1000#64 0#64 16#64 0#16).1 8#64 .el1 pageFixture
      [0x2003#64, 0x3003#64, 0x4003#64] 3 0x4000#64 0x8403#64 := by
    refine ⟨0x1000#64, 16, 0, rfl, rfl, rfl, ?_⟩
    refine @Route.table _ _ _ _ 3 _ 0x1000#64 _ _ _ _ _ rfl (by decide) rfl ?_
    refine @Route.table _ _ _ _ 2 _ 0x2000#64 _ _ _ _ _ rfl (by decide) rfl ?_
    refine @Route.table _ _ _ _ 1 _ 0x3000#64 _ _ _ _ _ rfl (by decide) rfl ?_
    exact @Route.leaf _ _ _ _ 0 _ _ _ rfl (.inr ⟨rfl, by decide⟩)
  refine ⟨(stage1_permissions (.configureTcr .disabled _ _ _ _) (by decide) rfl hpath .read).1, ?_⟩
  exact ⟨by decide, by simp⟩

end VfMmu

end Nextcore.Mmu
