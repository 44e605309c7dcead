import Nextcore.Provider.Completeness
import Nextcore.Service.Scalar

/-! A translated store: all or nothing, nothing but its own bytes, and the load
of its shape reads it back. -/

namespace Nextcore.Provider

open Mmu Mmu.VfMmu Abi Abi.V2 Bytes Service Service.MemoryServiceV2

def storeByte (r : Request) (k : ℕ) : Byte :=
  ((if k / r.width.toNat = 0 then r.value0 else r.value1) >>> ((k % r.width.toNat) * 8)).truncate 8

def reload (r : Request) : Request := { r with operation := opLoad, value0 := 0#64, value1 := 0#64 }

def bytePa (s : MemoryServiceV2) (r : Request) (k : ℕ) : Option U64 :=
  match (s.mmu.translateDetailed (r.address + BitVec.ofNat 64 k) (requestAccess r) (requestEl r)
    (tableReader s.tables s.tableBase)).1 with
  | .error _ => none
  | .ok t => some t.pa

lemma storePlaces_untouched {r : Request} {index : ℕ → ℕ} {j : ℕ} (n byte : ℕ) (ram : List Byte)
    (h : ∀ k, byte ≤ k → k < byte + n → index k ≠ j) :
    (storePlaces r ((List.range' byte n).map fun k => (false, index k)) byte ram)[j]? = ram[j]? := by
  induction n generalizing byte ram with
  | zero => rfl
  | succ n ih =>
    rw [List.range'_succ, List.map_cons, storePlaces, ih (byte + 1) _ (fun k hk hlt => h k (by omega) (by omega)),
      List.getElem?_set_ne (h byte le_rfl (by omega))]

lemma storePlaces_last {r : Request} {index : ℕ → ℕ} {k : ℕ} (n byte : ℕ) (ram : List Byte) (hlow : byte ≤ k)
    (hhigh : k < byte + n) (hlast : ∀ k', k < k' → k' < byte + n → index k' ≠ index k)
    (hroom : index k < ram.length) :
    (storePlaces r ((List.range' byte n).map fun k => (false, index k)) byte ram)[index k]? =
      some (storeByte r k) := by
  induction n generalizing byte ram with
  | zero => omega
  | succ n ih =>
    rw [List.range'_succ, List.map_cons, storePlaces]
    rcases Nat.lt_or_ge byte k with hlt | hge
    · exact ih (byte + 1) _ hlt (by omega) (fun k' h1 h2 => hlast k' h1 (by omega))
        (by rw [List.length_set]; exact hroom)
    · obtain rfl : byte = k := by omega
      rw [storePlaces_untouched n (byte + 1) _ (fun k' h1 h2 => hlast k' (by omega) (by omega)),
        List.getElem?_set_self hroom]
      rfl

lemma coldPlaces_get {s : MemoryServiceV2} {r : Request} (n byte : ℕ) {places : List (Bool × ℕ)}
    (h : s.coldPlaces r n byte = .ok places) :
    places.length = n ∧ ∀ k < n, s.coldPlace r (byte + k) = .ok (places.getD k (false, 0)) := by
  induction n generalizing byte places with
  | zero =>
    cases h
    exact ⟨rfl, fun k hk => (Nat.not_lt_zero k hk).elim⟩
  | succ n ih =>
    rw [coldPlaces] at h
    split at h
    · cases h
    rename_i place hplace
    split at h
    · cases h
    rename_i rest hrest
    cases h
    obtain ⟨hlength, hget⟩ := ih (byte + 1) hrest
    refine ⟨by rw [List.length_cons, hlength], fun k hk => ?_⟩
    cases k with
    | zero => exact hplace
    | succ k =>
      have hk' := hget k (by omega)
      rwa [Nat.add_right_comm] at hk'

lemma coldPlaces_of {s : MemoryServiceV2} {r : Request} {f : ℕ → Bool × ℕ} (n byte : ℕ)
    (h : ∀ k, byte ≤ k → k < byte + n → s.coldPlace r k = .ok (f k)) :
    s.coldPlaces r n byte = .ok ((List.range' byte n).map f) := by
  induction n generalizing byte with
  | zero => rfl
  | succ n ih =>
    rw [coldPlaces, h byte le_rfl (by omega)]
    simp only [ih (byte + 1) (fun k h1 h2 => h k (by omega) (by omega))]
    rw [List.range'_succ, List.map_cons]

structure Placed (s : MemoryServiceV2) (r : Request) (k : ℕ) (t : Translation) (i : ℕ) : Prop where
  translated : s.coldTranslate r (r.address + BitVec.ofNat 64 k) = .ok t
  attributes : t.attributes = some normalNc
  backed : offset t.pa 1 s.ramBase s.ram.length = some i

lemma query_data {r : Request} (h : r.operation ≠ opFetch) (k : ℕ) :
    query r k = r.address + BitVec.ofNat 64 k := if_neg h

lemma store_ne_fetch {r : Request} (h : r.operation = opStore) : r.operation ≠ opFetch := by
  rw [h]
  decide

lemma coldPlace_store {s : MemoryServiceV2} {r : Request} (hstore : r.operation = opStore) {k : ℕ}
    {place : Bool × ℕ} (h : s.coldPlace r k = .ok place) :
    ∃ t i, Placed s r k t i ∧ place = (false, i) := by
  have hfetch := store_ne_fetch hstore
  rw [coldPlace, query_data hfetch] at h
  split at h
  · cases h
  rename_i t ht
  unfold locate at h
  simp only [hstore, if_true] at h
  split at h
  · cases h
  rename_i hattributes
  split at h
  · rename_i i hi
    cases h
    exact ⟨t, i, ⟨ht, not_not.mp hattributes, hi⟩, rfl⟩
  split at h
  · cases h
  · cases h

lemma cold_read_of_write {m : VfMmu} (hm : m.Configured) {va : U64} {el : ExceptionLevel}
    {read64 : TableReader} {t : Translation}
    (h : (m.invalidate.translateDetailed va .write el read64).1 = .ok t) :
    (m.invalidate.translateDetailed va .read el read64).1 = .ok t := by
  rw [cold_translateDetailed hm.enabled] at h ⊢
  have hfault : m.inputFault va .read = m.inputFault va .write := rfl
  rw [hfault]
  cases hinput : m.inputFault va .write with
  | some f =>
    rw [hinput] at h
    cases h
  | none =>
    rw [hinput] at h
    dsimp only at h ⊢
    cases hw : m.walk va .write el read64 with
    | error f =>
      rw [coldAnswer, hw] at h
      cases h
    | ok leaf =>
      have hself := ((walk_same_leaf hm rfl va .write hw).2 rfl).2
      have hread := ((walk_same_leaf hm rfl va .read hw).2 rfl).2
      have hwrite : ¬allowed .write el leaf.permissions = false := by
        intro hdenied
        rw [hw, if_pos hdenied] at hself
        cases hself
      have hallowed : ¬allowed .read el leaf.permissions = false := by
        simp only [allowed, Bool.and_eq_false_iff, not_or] at hwrite ⊢
        exact hwrite.2
      rw [if_neg hallowed] at hread
      rw [coldAnswer, hw] at h
      rw [coldAnswer, hread]
      exact h

structure Storable (s : MemoryServiceV2) (r : Request) : Prop where
  shaped : Shaped r
  first : r.value0 &&& ~~~elementMask r.width = 0#64
  second : r.value1 &&& ~~~elementMask r.width = 0#64
  scalar : r.count = 1#32 → r.value1 = 0#64
  reload : s.refusal (reload r) = none

lemma refusal_store {s : MemoryServiceV2} {r : Request} (h : s.refusal r = none) : Storable s r := by
  have hvalid : s.requestValid r = true := by
    unfold refusal at h
    split at h
    · cases h
    · rename_i hvalid
      exact (Bool.not_eq_false _).mp hvalid
  have hshaped := (requestValid_shaped hvalid).1
  have hreload : s.requestValid (reload r) = true ∧ r.value0 &&& ~~~elementMask r.width = 0#64 ∧
      r.value1 &&& ~~~elementMask r.width = 0#64 ∧ (r.count = 1#32 → r.value1 = 0#64) := by
    unfold requestValid at hvalid ⊢
    dsimp only at hvalid ⊢
    split at hvalid
    · cases hvalid
    rename_i hchecks
    simp only [not_or, not_not, not_and] at hchecks
    obtain ⟨habi, hsize, hflags, hr0, hr1, hcontrols, hop, hwidth, hcount, hpair, hfetch, hvalues, hscalar,
      hpstate, hlevel⟩ := hchecks
    simp only [decide_eq_true_eq] at hvalid
    refine ⟨?_, hvalid.1, hvalid.2, hscalar⟩
    rw [if_neg]
    · simp [reload]
    · simp only [not_or, not_not, not_and, reload]
      refine ⟨habi, hsize, hflags, hr0, hr1, hcontrols, ?_, hwidth, hcount, hpair, ?_, ?_, ?_, hpstate, hlevel⟩
      · exact fun _ hload => (hload trivial).elim
      · exact fun hload => absurd hload (by decide)
      · exact fun _ => ⟨trivial, trivial⟩
      · exact fun _ => trivial
  refine ⟨hshaped, hreload.2.1, hreload.2.2.1, hreload.2.2.2, ?_⟩
  unfold refusal at h ⊢
  rw [if_neg (by rw [hvalid]; exact Bool.false_ne_true ∘ Eq.symm)] at h
  rw [if_neg (by rw [hreload.1]; exact Bool.false_ne_true ∘ Eq.symm)]
  split at h
  · cases h
  rename_i haligned
  rw [if_neg]
  · split at h
    · cases h
    · rename_i hwrap
      exact if_neg hwrap
  · rintro ⟨hlow, hload | hcheck⟩
    · exact absurd hload (show ¬(opLoad = opFetch) by decide)
    · exact haligned ⟨hlow, .inr hcheck⟩

lemma storeBytes_element (r : Request) (element byte n : ℕ) (h : byte + n ≤ r.width.toNat) :
    (List.range' (element * r.width.toNat + byte) n).map (storeByte r) =
      leBytes ((if element = 0 then r.value0 else r.value1) >>> (8 * byte)) n := by
  induction n generalizing byte with
  | zero => rfl
  | succ n ih =>
    have hdiv : (element * r.width.toNat + byte) / r.width.toNat = element := by
      rw [Nat.mul_comm, Nat.mul_add_div (by omega), Nat.div_eq_of_lt (by omega), Nat.add_zero]
    have hmod : (element * r.width.toNat + byte) % r.width.toNat = byte := by
      rw [Nat.mul_comm, Nat.mul_add_mod, Nat.mod_eq_of_lt (by omega)]
    rw [List.range'_succ, List.map_cons, Nat.add_assoc, ih (byte + 1) (by omega), leBytes, storeByte, hdiv,
      hmod, Nat.mul_comm byte 8, ← BitVec.shiftRight_add, Nat.mul_succ]

lemma loadPlaces_append {r : Request} {ram tables : List Byte} (places rest : List (Bool × ℕ)) (byte : ℕ)
    (values : U64 × U64) :
    loadPlaces r ram tables (places ++ rest) byte values =
      loadPlaces r ram tables rest (byte + places.length) (loadPlaces r ram tables places byte values) := by
  induction places generalizing byte values with
  | nil => rfl
  | cons place places ih =>
    rw [List.cons_append, loadPlaces, ih, loadPlaces, List.length_cons, Nat.add_right_comm, Nat.add_assoc]

lemma reload_element {r : Request} (hwidth : WidthValid r.width) (ram tables : List Byte) (index : ℕ → ℕ)
    (element : ℕ) (hmask : (if element = 0 then r.value0 else r.value1) &&& ~~~elementMask r.width = 0#64)
    (hbytes : ∀ k, element * r.width.toNat ≤ k → k < (element + 1) * r.width.toNat →
      ram.getD (index k) 0 = storeByte r k) (values : U64 × U64) :
    loadPlaces (reload r) ram tables
        ((List.range' (element * r.width.toNat) r.width.toNat).map fun k => (false, index k))
        (element * r.width.toNat) values =
      intoElement values element (if element = 0 then r.value0 else r.value1) := by
  have hlength : ((List.range' (element * r.width.toNat) r.width.toNat).map fun k => (false, index k)).length =
      r.width.toNat := by rw [List.length_map, List.length_range']
  have hplaced : ((List.range' (element * r.width.toNat) r.width.toNat).map fun k => (false, index k)).map
      (placed ram tables) = (List.range' (element * r.width.toNat) r.width.toNat).map (storeByte r) := by
    rw [List.map_map]
    refine List.map_congr_left (fun k hk => ?_)
    rw [List.mem_range'_1] at hk
    exact hbytes k hk.1 (by rw [Nat.succ_mul]; exact hk.2)
  have hlt := Bits.lt_of_and_not (elementMask_toNat hwidth) hmask
  have hload := loadPlaces_element (r := reload r) ram tables
    ((List.range' (element * r.width.toNat) r.width.toNat).map fun k => (false, index k))
    (element * r.width.toNat) element le_rfl (by rw [hlength, Nat.succ_mul]; exact le_rfl) values
  rw [hload, hplaced]
  have hsplit := storeBytes_element r element 0 r.width.toNat (by omega)
  rw [Nat.add_zero, Nat.mul_zero, BitVec.ushiftRight_zero] at hsplit
  rw [hsplit, leValue_leBytes_of_lt hlt]
  have hzero : element * r.width.toNat - element * (reload r).width.toNat = 0 := Nat.sub_self _
  rw [hzero, Nat.mul_zero, BitVec.shiftLeft_zero]

lemma reload_values {s : MemoryServiceV2} {r : Request} (hr : Storable s r) (ram tables : List Byte)
    (index : ℕ → ℕ) (hbytes : ∀ k < (r.width * r.count).toNat, ram.getD (index k) 0 = storeByte r k) :
    loadPlaces (reload r) ram tables
        ((List.range' 0 (r.width * r.count).toNat).map fun k => (false, index k)) 0 (0#64, 0#64) =
      (r.value0, r.value1) := by
  obtain ⟨hspan, -, -, -⟩ := hr.shaped.bytes
  rw [hspan] at hbytes ⊢
  have hfirst := reload_element hr.shaped.width ram tables index 0 hr.first
  rw [Nat.zero_mul] at hfirst
  rcases hr.shaped.count with hcount | hcount
  · have hone : r.width.toNat * r.count.toNat = r.width.toNat := by
      rw [hcount]
      exact Nat.mul_one _
    rw [hone] at hbytes ⊢
    rw [hfirst (fun k _ hk => hbytes k (by omega)), hr.scalar hcount]
    simp [intoElement]
  · have htwo : r.width.toNat * r.count.toNat = r.width.toNat + r.width.toNat := by
      rw [hcount]
      exact Nat.mul_two _
    rw [htwo] at hbytes ⊢
    have hsecond := reload_element hr.shaped.width ram tables index 1 hr.second
      (fun k _ hk => hbytes k (by omega))
    rw [Nat.one_mul] at hsecond
    rw [← List.range'_append_1, List.map_append, loadPlaces_append, List.length_map, List.length_range',
      hfirst (fun k _ hk => hbytes k (by omega)), Nat.zero_add, hsecond]
    simp [intoElement]

lemma failure_not_ok (s : MemoryServiceV2) (r : Request) (va : U64) (f : TranslationFailure) :
    (s.failure r va f).result ≠ ok := by
  obtain ⟨kind, level, context, descriptorPa, outputPa⟩ := f
  cases kind with
  | architectural fault => exact (by decide : guestFault ≠ ok)
  | tableRead error =>
    cases error with
    | unavailable => exact (by decide : unavailable ≠ ok)
    | externalAbort => exact (by decide : unsupported ≠ ok)
  | unsupported => exact (by decide : unsupported ≠ ok)

lemma coldPlace_not_ok {s : MemoryServiceV2} {r : Request} {k : ℕ} {out : Reply}
    (h : s.coldPlace r k = .error out) : out.result ≠ ok := by
  unfold coldPlace at h
  split at h
  · cases h
    exact failure_not_ok _ _ _ _
  unfold locate at h
  dsimp only at h
  split at h
  · cases h
    exact (by decide : unsupported ≠ ok)
  split at h
  · cases h
  split at h
  · split at h
    · cases h
      exact (by decide : unsupported ≠ ok)
    · cases h
  · cases h
    exact (by decide : unavailable ≠ ok)

lemma coldPlaces_not_ok {s : MemoryServiceV2} {r : Request} (n byte : ℕ) {out : Reply}
    (h : s.coldPlaces r n byte = .error out) : out.result ≠ ok := by
  induction n generalizing byte with
  | zero => cases h
  | succ n ih =>
    rw [coldPlaces] at h
    split at h
    · rename_i hplace
      cases h
      exact coldPlace_not_ok hplace
    split at h
    · rename_i hrest
      cases h
      exact ih (byte + 1) hrest
    · cases h

lemma refusal_not_ok {s : MemoryServiceV2} {r : Request} {out : Reply} (h : s.refusal r = some out) :
    out.result ≠ ok := by
  unfold refusal at h
  split at h
  · cases h
    exact (by decide : invalidRequest ≠ ok)
  split at h
  · cases h
    unfold alignmentReply
    dsimp only
    split <;> exact (by decide : guestFault ≠ ok)
  split at h
  · cases h
    exact (by decide : unsupported ≠ ok)
  · cases h

lemma sameReply_result {warm cold : Reply} (h : SameReply warm cold) : warm.result = cold.result := by
  rcases h with rfl | ⟨-, -, rfl⟩ <;> rfl

/-- What an accepted store of `bytes` bytes leaves: byte `k` of the request at the
address `pas k`, everything else as it was, and a load that reads it back. -/
structure Stored (s s' : MemoryServiceV2) (r : Request) (bytes : ℕ) (pas : ℕ → U64) : Prop where
  translated : ∀ k < bytes, bytePa s r k = some (pas k)
  inside : ∀ k < bytes, s.ramBase.toNat ≤ (pas k).toNat ∧ (pas k).toNat < s.ramBase.toNat + s.ram.length
  frame : ∀ j, (∀ k < bytes, (pas k).toNat ≠ s.ramBase.toNat + j) → s'.ram[j]? = s.ram[j]?
  -- Of two bytes that share an address the later one stays.
  written : ∀ k < bytes, (∀ k', k < k' → k' < bytes → pas k' ≠ pas k) →
    s'.ram[(pas k).toNat - s.ramBase.toNat]? = some (storeByte r k)
  reloaded : (∀ k < bytes, ∀ k' < bytes, pas k = pas k' → k = k') → ∀ reads,
    (s'.executeCounted (reload r) reads).1 = { s'.empty ok with value0 := r.value0, value1 := r.value1 }

lemma Placed.bytePa {s : MemoryServiceV2} (hs : s.Wired) {r : Request} {k i : ℕ} {t : Translation}
    (h : Placed s r k t i) : bytePa s r k = some t.pa := by
  have hsame := translate_same_answer hs.configured hs.coherent (r.address + BitVec.ofNat 64 k)
    (requestAccess r) (requestEl r)
  have hcold := h.translated
  rw [coldTranslate] at hcold
  rw [hcold] at hsame
  rcases hsame with hwarm | ⟨f, hf, -⟩
  · rw [Provider.bytePa, hwarm]
  · cases hf

lemma Placed.reload {s s' : MemoryServiceV2} (hs : s.Wired) (hf : Follows s s')
    (hcold : s'.mmu.invalidate = s.mmu.invalidate) {r : Request} (hstore : r.operation = opStore) {k i : ℕ}
    {t : Translation} (h : Placed s r k t i) : s'.coldPlace (reload r) k = .ok (false, i) := by
  have haccess : requestAccess r = .write := by
    unfold requestAccess
    rw [if_neg (store_ne_fetch hstore), if_pos hstore]
  have htranslated := h.translated
  rw [coldTranslate, haccess] at htranslated
  have hread : s'.coldTranslate (Provider.reload r) (r.address + BitVec.ofNat 64 k) = .ok t := by
    rw [coldTranslate, hcold, hf.tables, hf.tableBase]
    exact cold_read_of_write hs.configured htranslated
  have hquery : query (Provider.reload r) k = r.address + BitVec.ofNat 64 k := rfl
  have hload : ¬(Provider.reload r).operation = opFetch := (by decide : ¬opLoad = opFetch)
  have hplace : offset t.pa 1 s'.ramBase s'.ram.length = some i := by
    rw [hf.ramBase, hf.ramLength]
    exact h.backed
  rw [coldPlace, hquery, hread]
  dsimp only
  unfold locate
  simp only [h.attributes, ne_eq, not_true_eq_false, if_false, hload, hplace]

lemma stored_of_places {s s' : MemoryServiceV2} (hs : s.Wired) {r : Request} (hstore : r.operation = opStore)
    (hr : Storable s r) {places : List (Bool × ℕ)}
    (hplaces : s.coldPlaces r (r.width * r.count).toNat 0 = .ok places) (hf : Follows s s')
    (hcold : s'.mmu.invalidate = s.mmu.invalidate) (hram : s'.ram = storePlaces r places 0 s.ram) :
    ∃ pas, Stored s s' r (r.width * r.count).toNat pas := by
  generalize hbytes : (r.width * r.count).toNat = bytes at hplaces
  obtain ⟨hlength, hget⟩ := coldPlaces_get _ _ hplaces
  -- the RAM index of each byte, and with it its physical address
  set index : ℕ → ℕ := fun k => (places.getD k (false, 0)).2 with hindex
  have hplaced : ∀ k < bytes, ∃ t, Placed s r k t (index k) ∧ places.getD k (false, 0) = (false, index k) := by
    intro k hk
    have hplace := hget k hk
    rw [Nat.zero_add] at hplace
    obtain ⟨t, i, ht, heq⟩ := coldPlace_store hstore hplace
    have hi : index k = i := by simp only [hindex, heq]
    rw [hi]
    exact ⟨t, ht, heq⟩
  have hlist : places = (List.range' 0 bytes).map fun k => (false, index k) := by
    refine List.ext_getElem (by rw [hlength, List.length_map, List.length_range']) (fun k h1 h2 => ?_)
    obtain ⟨t, -, heq⟩ := hplaced k (hlength ▸ h1)
    rw [List.getD_eq_getElem?_getD, List.getElem?_eq_getElem h1, Option.getD_some] at heq
    rw [List.getElem_map, List.getElem_range', heq]
    simp only [Nat.zero_add, Nat.one_mul]
  have hin : ∀ k < bytes, index k < s.ram.length := by
    intro k hk
    obtain ⟨t, ht, -⟩ := hplaced k hk
    exact (offset_eq_some_iff.mp ht.backed).2
  have hend := hs.backed.ramEnd
  have hpa : ∀ k < bytes, (s.ramBase + BitVec.ofNat 64 (index k)).toNat = s.ramBase.toNat + index k := by
    intro k hk
    have hlt := hin k hk
    rw [BitVec.toNat_add, BitVec.toNat_ofNat]
    omega
  have hwritten : ∀ k < bytes, (∀ k', k < k' → k' < bytes → index k' ≠ index k) →
      s'.ram[index k]? = some (storeByte r k) := by
    intro k hk hlast
    rw [hram, hlist]
    exact storePlaces_last bytes 0 s.ram (Nat.zero_le k) (by omega) (fun k' h1 h2 => hlast k' h1 (by omega)) (hin k hk)
  refine ⟨fun k => s.ramBase + BitVec.ofNat 64 (index k), ?_, ?_, ?_, ?_, ?_⟩
  · intro k hk
    obtain ⟨t, ht, -⟩ := hplaced k hk
    rw [ht.bytePa hs]
    congr 1
    apply BitVec.eq_of_toNat_eq
    rw [hpa k hk, (offset_eq_some_iff.mp ht.backed).1]
  · intro k hk
    have hlt := hin k hk
    rw [hpa k hk]
    omega
  · intro j hj
    rw [hram, hlist]
    refine storePlaces_untouched bytes 0 s.ram (fun k _ hk heq => hj k (by omega) ?_)
    rw [hpa k (by omega), heq]
  · intro k hk hlast
    rw [hpa k hk, Nat.add_sub_cancel_left]
    refine hwritten k hk (fun k' h1 h2 heq => hlast k' h1 h2 ?_)
    rw [heq]
  · intro hdistinct reads
    have hvalues : ∀ k < bytes, s'.ram.getD (index k) 0 = storeByte r k := by
      intro k hk
      rw [List.getD_eq_getElem?_getD, hwritten k hk (fun k' h1 h2 heq => ?_), Option.getD_some]
      have hsame := hdistinct k' h2 k hk (by rw [heq])
      omega
    have hs' := hs.follows hf
    have hwarm : s'.Warm s'.mmu := ⟨hs'.configured, hs'.coherent, rfl⟩
    have hrefusal : s'.refusal (reload r) = none := by
      have hcontrols : s'.refusal (reload r) = s.refusal (reload r) := by
        simp only [refusal, requestValid, alignmentReply, empty, hf.controls]
      rw [hcontrols]
      exact hr.reload
    have hplaces' : s'.coldPlaces (reload r) bytes 0 = .ok ((List.range' 0 bytes).map fun k => (false, index k)) := by
      refine coldPlaces_of bytes 0 (fun k _ hk => ?_)
      obtain ⟨t, ht, -⟩ := hplaced k (by omega)
      exact ht.reload hs hf hcold hstore
    have hspan : ((reload r).width * (reload r).count).toNat = bytes := hbytes
    have hbytePath := (hwarm.bytePath (reload r) reads).1
    rw [coldBytes, hspan, hplaces'] at hbytePath
    have hload : ¬(reload r).operation = opStore := (by decide : ¬opLoad = opStore)
    have hassembled := reload_values hr s'.ram s'.tables index
      (by rw [hbytes]; exact hvalues)
    rw [hbytes] at hassembled
    dsimp only at hbytePath
    rw [transfer, if_neg hload, hassembled] at hbytePath
    rw [executeCounted_eq hs', executeBytes, hrefusal]
    rcases hbytePath with heq | ⟨hfault, -⟩
    · exact heq
    · exact absurd hfault (by decide : ¬(0#32 = permission))

/-- Translated stores: a reply other than `OK` leaves RAM alone, and an `OK` one
changes the bytes its addresses translate to, in byte order, and no others. -/
theorem store_atomic (s : MemoryServiceV2) (hs : s.Held) (r : Request) (hstore : r.operation = opStore)
    (reads : U64) :
    ((s.executeCounted r reads).1.result ≠ ok → (s.executeCounted r reads).2.1.ram = s.ram) ∧
      ((s.executeCounted r reads).1.result = ok →
        ∃ pas, Stored s (s.executeCounted r reads).2.1 r (r.width * r.count).toNat pas) := by
  have hw := hs.wired
  have hf := executeCounted_follows s r reads
  rw [executeCounted_eq hw] at hf ⊢
  unfold executeBytes at hf ⊢
  cases hrefusal : s.refusal r with
  | some out => exact ⟨fun _ => rfl, fun hok => (refusal_not_ok hrefusal hok).elim⟩
  | none =>
    rw [hrefusal] at hf
    dsimp only at hf ⊢
    have hwarm : s.Warm s.mmu := ⟨hw.configured, hw.coherent, rfl⟩
    obtain ⟨hsame, m, hm, hstate⟩ := hwarm.bytePath r reads
    have hresult := sameReply_result hsame
    change (s.bytePath r reads).2.1 = _ at hstate
    change (s.bytePath r reads).1.result = _ at hresult
    cases hplaces : s.coldPlaces r (r.width * r.count).toNat 0 with
    | error out =>
      rw [coldBytes, hplaces] at hresult hstate
      refine ⟨fun _ => by rw [hstate], fun hok => ?_⟩
      exact (coldPlaces_not_ok _ _ hplaces (hresult.symm.trans hok)).elim
    | ok places =>
      rw [coldBytes, hplaces] at hresult hstate
      dsimp only at hresult hstate
      rw [transfer, if_pos hstore] at hresult hstate
      refine ⟨fun hne => (hne hresult).elim, fun _ => ?_⟩
      refine stored_of_places hw hstore (refusal_store hrefusal) hplaces hf ?_ ?_
      · rw [hstate]
        exact hm.cold
      · rw [hstate]

open BlockFixture in
theorem store_atomic_pair :
    (service.executeCounted (request opStore 4#32 2#32 0x3002#64 0x11223344#64 0x55667788#64) 0#64).1.result = ok ∧
      ((service.executeCounted (request opStore 4#32 2#32 0x3002#64 0x11223344#64 0x55667788#64) 0#64).1.result ≠
          ok →
        (service.executeCounted (request opStore 4#32 2#32 0x3002#64 0x11223344#64 0x55667788#64) 0#64).2.1.ram =
          service.ram) ∧
      ((service.executeCounted (request opStore 4#32 2#32 0x3002#64 0x11223344#64 0x55667788#64) 0#64).1.result =
          ok →
        ∃ pas, Stored service
          (service.executeCounted (request opStore 4#32 2#32 0x3002#64 0x11223344#64 0x55667788#64) 0#64).2.1
          (request opStore 4#32 2#32 0x3002#64 0x11223344#64 0x55667788#64) 8 pas) :=
  ⟨by decide, store_atomic service held_service
    (request opStore 4#32 2#32 0x3002#64 0x11223344#64 0x55667788#64) rfl 0#64⟩

end Nextcore.Provider
