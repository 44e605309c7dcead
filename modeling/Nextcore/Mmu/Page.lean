import Nextcore.Mmu.Bounds

/-! After a successful translation the rest of its 4 KiB page is cached: every
other access of the same kind hits, reads no table and moves nothing. -/

namespace Nextcore.Mmu

open Bits

namespace VfMmu

def found (m : VfMmu) (va : U64) (el : ExceptionLevel) : Option TlbEntry :=
  m.tlb.toList.find? (m.matchesEntry va el)

lemma leafOf_aligned (m : VfMmu) (level : ℕ) (entry descriptor permissions : U64) :
    (m.leafOf level entry descriptor permissions).paBase &&&
      ((1#64 <<< (m.leafOf level entry descriptor permissions).pageShift) - 1#64) = 0#64 := by
  simp only [leafOf]
  rw [BitVec.and_assoc, BitVec.and_comm (~~~_), BitVec.and_not_self]
  exact BitVec.and_zero

lemma leafPa_add {leaf : Leaf} (haligned : leaf.paBase &&& ((1#64 <<< leaf.pageShift) - 1#64) = 0#64)
    (h12 : 12 ≤ leaf.pageShift) (h64 : leaf.pageShift < 64) {va : U64} {k : ℕ}
    (hpage : va.toNat % 2 ^ 12 + k < 2 ^ 12) :
    leafPa leaf (va + BitVec.ofNat 64 k) = leafPa leaf va + BitVec.ofNat 64 k := by
  have hmask : ((1#64 <<< leaf.pageShift) - 1#64).toNat = 2 ^ leaf.pageShift - 1 := by
    have hpow : 2 ^ leaf.pageShift < 2 ^ 64 := Nat.pow_lt_pow_right (by decide) h64
    have hone : (1#64 <<< leaf.pageShift).toNat = 2 ^ leaf.pageShift := by
      rw [BitVec.toNat_shiftLeft, Nat.shiftLeft_eq, BitVec.toNat_one (by decide), one_mul, Nat.mod_eq_of_lt hpow]
    have hpos : 1 ≤ 2 ^ leaf.pageShift := Nat.one_le_two_pow
    rw [BitVec.toNat_sub_of_le (by rw [BitVec.le_def, hone]; exact hpos), hone]
    rfl
  have hlow : ∀ v : U64, leafPa leaf v =
      leaf.paBase + (v &&& ((1#64 <<< leaf.pageShift) - 1#64)) := by
    intro v
    refine (BitVec.add_eq_or_of_and_eq_zero _ _ ?_).symm
    rw [BitVec.and_comm v, ← BitVec.and_assoc, haligned, BitVec.zero_and]
  have hoffset : (va + BitVec.ofNat 64 k) &&& ((1#64 <<< leaf.pageShift) - 1#64) =
      (va &&& ((1#64 <<< leaf.pageShift) - 1#64)) + BitVec.ofNat 64 k := by
    obtain ⟨d, hd⟩ := Nat.exists_eq_add_of_le h12
    have hsplit : 2 ^ leaf.pageShift = 2 ^ 12 * 2 ^ d := by rw [hd, pow_add]
    have hdvd : 2 ^ leaf.pageShift ∣ 2 ^ 64 := Nat.pow_dvd_pow 2 h64.le
    have hpow : 2 ^ leaf.pageShift ≤ 2 ^ 64 := Nat.pow_le_pow_right (by decide) h64.le
    have hmod : va.toNat % 2 ^ leaf.pageShift % 2 ^ 12 = va.toNat % 2 ^ 12 := by
      rw [hsplit, Nat.mod_mul_right_mod]
    have hroom : va.toNat % 2 ^ leaf.pageShift + k < 2 ^ leaf.pageShift := by
      have hlt : va.toNat % 2 ^ leaf.pageShift < 2 ^ 12 * 2 ^ d := by
        rw [← hsplit]
        exact Nat.mod_lt _ (by positivity)
      rw [hsplit] at hmod ⊢
      have hdiv := Nat.div_add_mod (va.toNat % (2 ^ 12 * 2 ^ d)) (2 ^ 12)
      have hq : va.toNat % (2 ^ 12 * 2 ^ d) / 2 ^ 12 < 2 ^ d := Nat.div_lt_of_lt_mul (by rw [← hsplit] at hlt ⊢; omega)
      have hq' := Nat.mul_le_mul_left (2 ^ 12) (Nat.succ_le_of_lt hq)
      rw [hmod] at hdiv
      rw [Nat.mul_succ] at hq'
      omega
    apply BitVec.eq_of_toNat_eq
    have hk : (BitVec.ofNat 64 k).toNat = k := by
      rw [BitVec.toNat_ofNat]
      exact Nat.mod_eq_of_lt (by omega)
    rw [toNat_and_mask _ _ _ hmask, BitVec.toNat_add, BitVec.toNat_add, toNat_and_mask _ _ _ hmask, hk,
      Nat.mod_mod_of_dvd _ hdvd, Nat.mod_eq_of_lt (show va.toNat % 2 ^ leaf.pageShift + k < 2 ^ 64 by omega),
      Nat.add_mod, Nat.mod_eq_of_lt (show k < 2 ^ leaf.pageShift by omega), Nat.mod_eq_of_lt hroom]
  rw [hlow, hlow, hoffset, BitVec.add_assoc]

lemma walk_aligned {m : VfMmu} (hm : m.Configured) {el : ExceptionLevel} {read64 : TableReader}
    {va : U64} {access : Access} {leaf : Leaf} (h : m.walk va access el read64 = .ok leaf) :
    leaf.paBase &&& ((1#64 <<< leaf.pageShift) - 1#64) = 0#64 ∧ 12 ≤ leaf.pageShift ∧
      leaf.pageShift < 64 := by
  have hpage := (walk_page hm h).1
  have hshift := walk_shift hm h
  obtain ⟨level, entry, descriptor, permissions, -, rfl⟩ := walk_leafOf hm h
  exact ⟨m.leafOf_aligned level entry descriptor permissions, hpage, hshift⟩

lemma found_mem {m : VfMmu} {va : U64} {el : ExceptionLevel} {e : TlbEntry} (h : m.found va el = some e) :
    e ∈ m.tlb ∧ m.matchesEntry va el e = true :=
  ⟨by simpa using List.mem_of_find?_eq_some h, List.find?_some h⟩

lemma found_page {m : VfMmu} (hm : m.Configured) {read64 : TableReader} (hc : m.Coherent read64)
    {va va' : U64} (hpage : va >>> 12 = va' >>> 12) (el : ExceptionLevel) :
    m.found va' el = m.found va el := by
  unfold found
  refine List.find?_congr (fun e he => ?_)
  unfold matchesEntry
  cases hv : e.valid with
  | false => rfl
  | true =>
    obtain ⟨first, access, regime, leaf, hw, rfl⟩ := hc e (by simpa using he) hv
    have hshift : va >>> leaf.pageShift = va' >>> leaf.pageShift :=
      shiftRight_congr hpage (walk_page hm hw).1
    simp only [filledEntry, hshift]

lemma found_cache {m : VfMmu} {va : U64} {el : ExceptionLevel} (h : m.found va el = none) (leaf : Leaf) :
    (m.cache va el leaf).found va el = some (m.filledEntry va el leaf) := by
  have hmatch : m.matchesEntry va el (m.filledEntry va el leaf) = true := by
    simp [matchesEntry, filledEntry]
  have hmem : m.filledEntry va el leaf ∈ (m.cache va el leaf).tlb := Vector.mem_set m.next.isLt
  have hsome : ((m.cache va el leaf).found va el).isSome = true := by
    rw [found, List.find?_isSome]
    exact ⟨_, by simpa using hmem, hmatch⟩
  obtain ⟨e, he⟩ := Option.isSome_iff_exists.mp hsome
  obtain ⟨hin, hmatches⟩ := found_mem he
  rcases @Vector.mem_or_eq_of_mem_set _ _ _ _ _ _ m.next.isLt hin with hold | rfl
  · have hnone := List.find?_eq_none.mp h e (by simpa using hold)
    exact (hnone hmatches).elim
  · exact he

lemma translate_found {m m' : VfMmu} (hm : m.Configured) {read64 : TableReader} (hc : m.Coherent read64)
    {va : U64} {access : Access} {el : ExceptionLevel} {t : Translation}
    (h : m.translateDetailed va access el read64 = (.ok t, m')) :
    m'.Configured ∧ m'.Coherent read64 ∧ m'.inputFault va access = none ∧
      m'.coldAnswer va access el read64 = .ok t ∧ ∃ e, m'.found va el = some e := by
  have hkeep := translate_preserves hm hc va access el
  rw [h] at hkeep
  refine ⟨hkeep.1, hkeep.2, ?_⟩
  rw [translateDetailed_eq hm.enabled] at h
  split at h
  · cases h
  rename_i hfault
  split at h
  · rename_i e he
    obtain ⟨hhit, rfl⟩ := Prod.mk.inj h
    have hsame : SameAnswer (m.hit va access el e) (m.coldAnswer va access el read64) :=
      hit_same_answer hm hc (by simpa using List.mem_of_find?_eq_some he) (List.find?_some he)
    refine ⟨hfault, ?_, e, he⟩
    rcases hsame with heq | ⟨f, -, -, -, heq⟩
    · rw [← heq, hhit]
    · rw [hhit] at heq
      cases heq
  · rename_i hnone
    cases hw : m.walk va access el read64 with
    | error f =>
      simp only [coldAnswer, hw, Except.map] at h
      cases h
    | ok leaf =>
      simp only [hw] at h
      obtain ⟨hok, rfl⟩ := Prod.mk.inj h
      refine ⟨hfault, ?_, _, found_cache hnone leaf⟩
      have hcold : (m.cache va el leaf).coldAnswer va access el read64 = m.coldAnswer va access el read64 := by
        simp only [coldAnswer, cache, walk_tlb]
        rfl
      rw [hcold]
      exact hok

lemma shiftRight_page {va : U64} {k : ℕ} (hpage : va.toNat % 2 ^ 12 + k < 2 ^ 12) :
    va >>> 12 = (va + BitVec.ofNat 64 k) >>> 12 := by
  apply BitVec.eq_of_toNat_eq
  rw [BitVec.toNat_ushiftRight, BitVec.toNat_ushiftRight, BitVec.toNat_add, BitVec.toNat_ofNat,
    Nat.shiftRight_eq_div_pow, Nat.shiftRight_eq_div_pow]
  omega

lemma translate_again {m m' : VfMmu} (hm : m.Configured) {read64 : TableReader} (hc : m.Coherent read64)
    {va : U64} {access : Access} {el : ExceptionLevel} {t : Translation}
    (h : m.translateDetailed va access el read64 = (.ok t, m')) {k : ℕ}
    (hpage : va.toNat % 2 ^ 12 + k < 2 ^ 12) (hfetch : access = .execute → k = 0) :
    m'.translateDetailed (va + BitVec.ofNat 64 k) access el read64 =
        (.ok { t with pa := t.pa + BitVec.ofNat 64 k }, m') ∧
      m'.translateReads (va + BitVec.ofNat 64 k) access el read64 = 0 := by
  obtain ⟨hm', hc', hfault, hcold, e, he⟩ := translate_found hm hc h
  have hshift := shiftRight_page hpage
  cases hw : m'.walk va access el read64 with
  | error f =>
    rw [coldAnswer, hw] at hcold
    cases hcold
  | ok leaf =>
    rw [coldAnswer, hw] at hcold
    obtain rfl := Except.ok.inj hcold
    obtain ⟨haligned, h12, h64⟩ := walk_aligned hm' hw
    have hallowed : ¬allowed access el leaf.permissions = false := by
      intro hdenied
      have hself := ((walk_same_leaf hm' rfl va access hw).2 rfl).2
      rw [hw, if_pos hdenied] at hself
      cases hself
    obtain ⟨hcanonical, hwalk⟩ :=
      (walk_same_leaf hm' rfl (va + BitVec.ofNat 64 k) access hw).2 (shiftRight_congr hshift h12)
    rw [if_neg hallowed] at hwalk
    have hfault' : m'.inputFault (va + BitVec.ofNat 64 k) access = none := by
      by_cases hx : access = .execute
      · rw [hfetch hx, BitVec.add_zero]
        exact hfault
      · simp [inputFault, hx, hcanonical]
    have hcold' : m'.coldAnswer (va + BitVec.ofNat 64 k) access el read64 =
        .ok (translation el (leafPa leaf va + BitVec.ofNat 64 k) leaf.pageShift leaf.permissions
          (if m'.strictNc then some normalNc else none)) := by
      rw [coldAnswer, hwalk, ← leafPa_add haligned h12 h64 hpage]
      rfl
    have hfound := (found_page hm' hc' hshift el).trans he
    obtain ⟨hin, hmatch⟩ := found_mem hfound
    have hhit : m'.hit (va + BitVec.ofNat 64 k) access el e =
        .ok (translation el (leafPa leaf va + BitVec.ofNat 64 k) leaf.pageShift leaf.permissions
          (if m'.strictNc then some normalNc else none)) := by
      have hsame : SameAnswer (m'.hit (va + BitVec.ofNat 64 k) access el e)
          (m'.coldAnswer (va + BitVec.ofNat 64 k) access el read64) := hit_same_answer hm' hc' hin hmatch
      rcases hsame with heq | ⟨f, hf, -⟩
      · rw [heq, hcold']
      · rw [hcold'] at hf
        cases hf
    unfold found at hfound
    constructor
    · rw [translateDetailed_eq hm'.enabled, hfault', hfound]
      simp only [hhit]
      rfl
    · rw [translateReads, tlbLookup, hfound]
      simp only [hhit, Except.map]
      split <;> rfl

end VfMmu

end Nextcore.Mmu
