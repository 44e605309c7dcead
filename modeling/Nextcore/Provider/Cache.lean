import Nextcore.Jit.Retire
import Nextcore.Provider.Runner

/-! The native-code cache is transparent: a valid slot holds the code of its word, so
a hit runs what a fresh translation would. -/

namespace Nextcore.Provider

open Abi Cpu Jit Emit X86 Loop

lemma translateOne_provider {t t' : Target} (h : t.currentEl = t'.currentEl) (w : U32) (pc : U64) (n : U32) :
    translateOne t true w pc n = translateOne t' true w pc n := by
  unfold translateOne threadRegister
  cases hm : memoryFamily w with
  | true => simp only [h, and_self, if_true]
  | false => simp only [h, Bool.false_eq_true, and_false, if_false]

def wordBlock (el w : U32) (pc : U64) : List Byte :=
  (((translateFrom { currentEl := el } true (le32 w) 1 0#32 pc).emit []).map Prod.snd).getD []

lemma translateFrom_provider {t t' : Target} (h : t.currentEl = t'.currentEl) (guest : List Byte) (pc : U64) :
    translateFrom t true guest 1 0#32 pc = translateFrom t' true guest 1 0#32 pc := by
  simp only [translateFrom, translateOne_provider h, Bool.true_eq_false, false_and, if_false, if_true]

def wordEffect (cpu : VfCpu) (w : U32) : VfCpu → List Byte → Effect :=
  blockEffect (Target.ofCpu cpu) true (le32 w) cpu.pc 1

lemma translateWord_spec (entry : Buffer) (cpu : VfCpu) (w : U32) :
    Runs (wordBlock cpu.currentEl w cpu.pc) (wordEffect cpu w) ∧
      (translateWord entry cpu w).1 =
        (if entry.capacity < (wordBlock cpu.currentEl w cpu.pc).length then Status.codeFull else Status.next) ∧
      (translateWord entry cpu w).2.used = (wordBlock cpu.currentEl w cpu.pc).length ∧
      (translateWord entry cpu w).2.capacity = entry.capacity ∧
      ((wordBlock cpu.currentEl w cpu.pc).length ≤ entry.capacity →
        (translateWord entry cpu w).2.bytes.take (wordBlock cpu.currentEl w cpu.pc).length =
          wordBlock cpu.currentEl w cpu.pc) := by
  obtain ⟨block, hemits, hruns, hspec⟩ := translateImpl_spec entry (Target.ofCpu cpu) true (le32 w) cpu.pc
    Nat.one_ne_zero
  have hblock : wordBlock cpu.currentEl w cpu.pc = block := by
    have htarget : Emits (translateFrom { currentEl := cpu.currentEl } true (le32 w) 1 0#32 cpu.pc) () block := by
      rw [@translateFrom_provider { currentEl := cpu.currentEl } (Target.ofCpu cpu) rfl]
      exact hemits
    rw [wordBlock, htarget []]
    rfl
  rw [hblock]
  exact ⟨hruns, hspec⟩

section Slots

variable {code entry : Buffer} {size i j : ℕ}

lemma take_drop_congr {l l' : List Byte} {m k : ℕ} (h : ∀ n, m ≤ n → n < m + k → l[n]? = l'[n]?) :
    (l.drop m).take k = (l'.drop m).take k := by
  apply List.ext_getElem?
  intro n
  simp only [List.getElem?_take, List.getElem?_drop]
  split
  · exact h (m + n) (by omega) (by omega)
  · rfl

lemma capacity_slotOf (h : (i + 1) * size ≤ code.capacity) : (slotOf code size i).capacity = size := by
  have hmul : (i + 1) * size = i * size + size := Nat.succ_mul i size
  have hlength : code.capacity = code.bytes.length := rfl
  simp only [slotOf, Buffer.capacity, List.length_take, List.length_drop]
  omega

lemma length_slot (h : (i + 1) * size ≤ code.capacity) (hentry : entry.capacity = size) :
    (code.bytes.take (i * size)).length = i * size ∧ entry.bytes.length = size := by
  have hmul : (i + 1) * size = i * size + size := Nat.succ_mul i size
  have hlength : code.capacity = code.bytes.length := rfl
  refine ⟨?_, hentry⟩
  rw [List.length_take]
  omega

lemma capacity_withSlot (h : (i + 1) * size ≤ code.capacity) (hentry : entry.capacity = size) :
    (withSlot code size i entry).capacity = code.capacity := by
  obtain ⟨hfront, hmiddle⟩ := length_slot h hentry
  have hmul : (i + 1) * size = i * size + size := Nat.succ_mul i size
  have hlength : code.capacity = code.bytes.length := rfl
  simp only [withSlot, Buffer.capacity, List.length_append, hfront, hmiddle, List.length_drop]
  omega

lemma drop_withSlot (h : (i + 1) * size ≤ code.capacity) (hentry : entry.capacity = size) {k : ℕ} (hk : k ≤ size) :
    ((withSlot code size i entry).bytes.drop (i * size)).take k = entry.bytes.take k := by
  obtain ⟨hfront, hmiddle⟩ := length_slot h hentry
  have hdrop : (withSlot code size i entry).bytes.drop (i * size) =
      entry.bytes ++ code.bytes.drop ((i + 1) * size) := by
    change (code.bytes.take (i * size) ++ entry.bytes ++ code.bytes.drop ((i + 1) * size)).drop (i * size) = _
    rw [List.append_assoc]
    exact List.drop_left' hfront
  rw [hdrop, List.take_append_of_le_length (by omega)]

lemma drop_withSlot_ne (h : (i + 1) * size ≤ code.capacity) (hentry : entry.capacity = size) (hj : j ≠ i) {k : ℕ}
    (hk : k ≤ size) :
    ((withSlot code size i entry).bytes.drop (j * size)).take k = (code.bytes.drop (j * size)).take k := by
  obtain ⟨hfront, hmiddle⟩ := length_slot h hentry
  have hmul : (i + 1) * size = i * size + size := Nat.succ_mul i size
  refine take_drop_congr fun n hn hn' => ?_
  rw [withSlot]
  rcases Nat.lt_or_gt_of_ne hj with hlt | hgt
  · have hle : (j + 1) * size ≤ i * size := Nat.mul_le_mul_right _ hlt
    have hmul' : (j + 1) * size = j * size + size := Nat.succ_mul j size
    rw [List.append_assoc, List.getElem?_append_left (by omega), List.getElem?_take_of_lt (by omega)]
  · have hle : (i + 1) * size ≤ j * size := Nat.mul_le_mul_right _ hgt
    rw [List.getElem?_append_right (by rw [List.length_append]; omega), List.getElem?_drop, List.length_append, hfront,
      hmiddle]
    congr 1
    omega

end Slots

def EntryHolds (code : Buffer) (size i : ℕ) (e : NativeEntry) : Prop :=
  e.used = (wordBlock e.currentEl e.instruction e.pc).length ∧ e.used ≤ size ∧
    (code.bytes.drop (i * size)).take e.used = wordBlock e.currentEl e.instruction e.pc

variable {σ R τ : Type}

structure CacheValid (size : ℕ) (code : Buffer) (cache : Cache) : Prop where
  length : cache.entries.length = 64
  victim : slotCount code size ≠ 0 → cache.victim < slotCount code size
  holds : ∀ i < slotCount code size, (cache.entries.getD i {}).valid = true →
    EntryHolds code size i (cache.entries.getD i {})

lemma slotCount_le (code : Buffer) (size : ℕ) {i : ℕ} (h : i < slotCount code size) :
    i < 64 ∧ (i + 1) * size ≤ code.capacity := by
  unfold slotCount at h
  have hdiv : i + 1 ≤ code.capacity / size := by omega
  exact ⟨by omega, (Nat.mul_le_mul_right size hdiv).trans (Nat.div_mul_le_self _ _)⟩

lemma cacheValid_empty (size : ℕ) (code : Buffer) : CacheValid size code .empty := by
  refine ⟨rfl, fun h => Nat.pos_of_ne_zero h, fun i hi hvalid => ?_⟩
  have hentry : (Cache.empty.entries.getD i {}).valid = false := by
    simp only [Cache.empty, List.getD_eq_getElem?_getD, List.getElem?_replicate]
    split <;> rfl
  rw [hentry] at hvalid
  cases hvalid

structure Observed (s p : ProviderState σ R τ) : Prop where
  cpu : s.cpu = p.cpu
  owner : s.owner = p.owner
  result : s.result = p.result
  used : s.code.used = p.code.used
  capacity : s.code.capacity = p.code.capacity

structure Alike (size : ℕ) (s p : ProviderState σ R τ) : Prop extends Observed s p where
  cache : CacheValid size s.code s.cache

def PreparedAlike (size : ℕ) (cpu : VfCpu) (w : U32) :
    Prepared (ProviderState σ R τ) → Prepared (ProviderState σ R τ) → Prop
  | .ready s bytes, .ready p bytes' => Alike size s p ∧ s.cpu = cpu ∧
      bytes.take (wordBlock cpu.currentEl w cpu.pc).length = wordBlock cpu.currentEl w cpu.pc ∧
      bytes'.take (wordBlock cpu.currentEl w cpu.pc).length = wordBlock cpu.currentEl w cpu.pc
  | .fails status s, .fails status' p => status = status' ∧ Observed s p
  | _, _ => False

section Entries

variable {entries : List NativeEntry} {i j slots : ℕ}

lemma getD_invalidateAll (h : i < slots) : ((invalidateAll slots entries).getD i {}).valid = false := by
  rw [List.getD_eq_getElem?_getD, invalidateAll, List.getElem?_append]
  by_cases hi : i < ((entries.take slots).map fun e => { e with valid := false }).length
  · rw [if_pos hi, List.getElem?_map]
    cases (entries.take slots)[i]? <;> rfl
  · rw [if_neg hi, List.getElem?_drop, List.getElem?_eq_none]
    · rfl
    · rw [List.length_map, List.length_take] at hi ⊢
      omega

lemma getD_set_invalidateAt (e : NativeEntry) (h : i < entries.length) :
    ((invalidateAt entries i).set i e).getD j {} = if j = i then e else entries.getD j {} := by
  rw [invalidateAt, List.set_set, List.getD_eq_getElem?_getD, List.getD_eq_getElem?_getD, List.getElem?_set]
  by_cases hj : j = i
  · subst hj
    rw [if_pos rfl, if_pos h, if_pos rfl]
    rfl
  · rw [if_neg (Ne.symm hj), if_neg hj]

end Entries

lemma cacheValid_fallback (code : Buffer) (size : ℕ) (entries : List NativeEntry) (h : entries.length = 64)
    {slots : ℕ} (hslots : slotCount code size = slots) : CacheValid size code ⟨invalidateAll slots entries, 0⟩ := by
  subst hslots
  refine ⟨?_, fun h => Nat.pos_of_ne_zero h, fun i hi hvalid => ?_⟩
  · simp only [invalidateAll, List.length_append, List.length_map, List.length_take, List.length_drop]
    omega
  · rw [getD_invalidateAll hi] at hvalid
    cases hvalid

lemma cacheValid_publish {size : ℕ} {code : Buffer} {cache : Cache} (h : CacheValid size code cache)
    (hslots : slotCount code size ≠ 0) (cpu : VfCpu) (w : U32)
    (hfits : (wordBlock cpu.currentEl w cpu.pc).length ≤ size) :
    let entry := (translateWord (slotOf code size cache.victim) cpu w).2
    CacheValid size (withSlot code size cache.victim entry)
      ⟨(invalidateAt cache.entries cache.victim).set cache.victim ⟨cpu.pc, w, cpu.currentEl, entry.used, true⟩,
        (cache.victim + 1) % slotCount code size⟩ := by
  have hvictim := h.victim hslots
  obtain ⟨hlt, hslot⟩ := slotCount_le code size hvictim
  obtain ⟨-, -, hused, hcapacity, htake⟩ := translateWord_spec (slotOf code size cache.victim) cpu w
  rw [capacity_slotOf hslot] at hcapacity htake
  have hcount : slotCount (withSlot code size cache.victim (translateWord (slotOf code size cache.victim) cpu w).2) size =
      slotCount code size := by rw [slotCount, slotCount, capacity_withSlot hslot hcapacity]
  have hlength : cache.victim < cache.entries.length := by rw [h.length]; exact hlt
  refine ⟨?_, ?_, ?_⟩
  · simp only [invalidateAt, List.length_set]
    exact h.length
  · rw [hcount]
    exact fun hne => Nat.mod_lt _ (Nat.pos_of_ne_zero hne)
  · rw [hcount]
    dsimp only
    intro i hi hvalid
    rw [getD_set_invalidateAt _ hlength] at hvalid ⊢
    by_cases hself : i = cache.victim
    · subst hself
      rw [if_pos rfl]
      refine ⟨hused, hused.trans_le hfits, ?_⟩
      dsimp only
      rw [drop_withSlot hslot hcapacity (hused.trans_le hfits), hused]
      exact htake hfits
    · rw [if_neg hself] at hvalid ⊢
      obtain ⟨husedi, hle, htakei⟩ := h.holds i hi hvalid
      exact ⟨husedi, hle, by rw [drop_withSlot_ne hslot hcapacity hself hle]; exact htakei⟩

section Prepare

variable {protect : Protect τ} (hprotect : ∀ o flag, (protect o flag).2 = 0#32)

include hprotect in
lemma preparePlain_eq (p : ProviderState σ R τ) (w : U32) :
    ∃ o, preparePlain protect p w =
      (let p' := { p with opaque_ := o, code := (translateWord p.code p.cpu w).2 }
      if p.code.capacity < (wordBlock p.cpu.currentEl w p.cpu.pc).length then .fails Status.codeFull p'
      else .ready p' p'.code.bytes) := by
  obtain ⟨-, hstatus, -⟩ := translateWord_spec p.code p.cpu w
  have hfirst := hprotect p.opaque_ false
  have hsecond := hprotect (protect p.opaque_ false).1 true
  unfold preparePlain
  dsimp only
  rw [if_neg (not_not.mpr hfirst), hstatus]
  by_cases hfull : p.code.capacity < (wordBlock p.cpu.currentEl w p.cpu.pc).length
  · refine ⟨(protect p.opaque_ false).1, ?_⟩
    simp only [if_pos hfull]
    rw [if_pos (by decide)]
  · refine ⟨(protect (protect p.opaque_ false).1 true).1, ?_⟩
    simp only [if_neg hfull]
    rw [if_neg (by decide), if_neg (not_not.mpr hsecond)]

lemma CacheValid.recode {size : ℕ} {code code' : Buffer} {cache : Cache} (h : CacheValid size code cache)
    (hbytes : code'.bytes = code.bytes) : CacheValid size code' cache := by
  have hcount : slotCount code' size = slotCount code size := by
    rw [slotCount, slotCount, Buffer.capacity, Buffer.capacity, hbytes]
  refine ⟨h.length, ?_, ?_⟩
  · rw [hcount]
    exact h.victim
  · rw [hcount]
    intro i hi hvalid
    obtain ⟨hused, hle, htake⟩ := h.holds i hi hvalid
    exact ⟨hused, hle, by rw [hbytes]; exact htake⟩

lemma findHit_some {entries : List NativeEntry} {slots i : ℕ} {cpu : VfCpu} {w : U32}
    (h : findHit (entries.take slots) cpu w = some i) : i < slots ∧ (entries.getD i {}).hits cpu w = true := by
  obtain ⟨hlt, hhit, -⟩ := List.findIdx?_eq_some_iff_getElem.mp h
  rw [List.length_take] at hlt
  refine ⟨by omega, ?_⟩
  rw [List.getElem_take] at hhit
  rw [List.getD_eq_getElem?_getD, List.getElem?_eq_getElem (by omega)]
  exact hhit

include hprotect in
lemma prepared_hit {size i : ℕ} {s p : ProviderState σ R τ} (h : Alike size s p) {w : U32}
    (hi : i < slotCount s.code size) (hhit : (s.cache.entries.getD i {}).hits s.cpu w = true) :
    PreparedAlike size s.cpu w (.ready { s with code := { s.code with used := (s.cache.entries.getD i {}).used } }
      (s.code.bytes.drop (i * size))) (preparePlain protect p w) := by
  obtain ⟨hvalid, hpc, hword, hel⟩ := of_decide_eq_true hhit
  obtain ⟨hused, hle, htake⟩ := h.cache.holds i hi hvalid
  rw [hpc, hword, hel] at hused htake
  obtain ⟨hi64, hslot⟩ := slotCount_le s.code size hi
  have hmul : (i + 1) * size = i * size + size := Nat.succ_mul i size
  have hfits : (wordBlock p.cpu.currentEl w p.cpu.pc).length ≤ p.code.capacity := by
    rw [← h.cpu, ← hused, ← h.capacity]
    omega
  obtain ⟨-, -, hused', hcapacity', htake'⟩ := translateWord_spec p.code p.cpu w
  obtain ⟨o, hplain⟩ := preparePlain_eq hprotect p w
  rw [hplain, if_neg (Nat.not_lt.mpr hfits)]
  refine ⟨⟨⟨h.cpu, h.owner, h.result, ?_, ?_⟩, h.cache.recode rfl⟩, rfl, ?_, ?_⟩
  · dsimp only
    rw [hused', hused, h.cpu]
  · dsimp only
    rw [hcapacity', ← h.capacity]
    rfl
  · rw [← hused]
    exact htake
  · rw [h.cpu]
    exact htake' hfits

lemma prepared_plain {size : ℕ} {s p : ProviderState σ R τ} (h : Alike size s p) (w : U32) (o o' : τ) (cache : Cache)
    {code : Buffer} (hcapacity : code.capacity = s.code.capacity)
    (hcache : CacheValid size (translateWord code s.cpu w).2 cache) :
    PreparedAlike size s.cpu w
      (let s' := { s with opaque_ := o, code := (translateWord code s.cpu w).2, cache := cache }
      if s.code.capacity < (wordBlock s.cpu.currentEl w s.cpu.pc).length then .fails Status.codeFull s'
      else .ready s' s'.code.bytes)
      (let p' := { p with opaque_ := o', code := (translateWord p.code p.cpu w).2 }
      if p.code.capacity < (wordBlock p.cpu.currentEl w p.cpu.pc).length then .fails Status.codeFull p'
      else .ready p' p'.code.bytes) := by
  obtain ⟨-, -, hused, hcap, htake⟩ := translateWord_spec code s.cpu w
  obtain ⟨-, -, hused', hcap', htake'⟩ := translateWord_spec p.code p.cpu w
  have hobserved : Observed { s with opaque_ := o, code := (translateWord code s.cpu w).2, cache := cache }
      { p with opaque_ := o', code := (translateWord p.code p.cpu w).2 } := by
    refine ⟨h.cpu, h.owner, h.result, ?_, ?_⟩
    · rw [hused, hused', h.cpu]
    · rw [hcap, hcap', hcapacity, h.capacity]
  dsimp only
  rw [← h.cpu, ← h.capacity] at *
  by_cases hfull : s.code.capacity < (wordBlock s.cpu.currentEl w s.cpu.pc).length
  · rw [if_pos hfull, if_pos hfull]
    exact ⟨rfl, hobserved⟩
  · rw [if_neg hfull, if_neg hfull]
    exact ⟨⟨hobserved, hcache⟩, rfl, htake (by omega), htake' (by omega)⟩

lemma translateSlot_fits (slots : ℕ) {size i : ℕ} {s : ProviderState σ R τ} {w : U32} (hslot : (i + 1) * size ≤ s.code.capacity)
    (hfits : (wordBlock s.cpu.currentEl w s.cpu.pc).length ≤ size) :
    translateSlot slots size i s w =
      (Status.next, true, { s with code := withSlot s.code size i (translateWord (slotOf s.code size i) s.cpu w).2 }) := by
  obtain ⟨-, hstatus, -⟩ := translateWord_spec (slotOf s.code size i) s.cpu w
  rw [capacity_slotOf hslot, if_neg (Nat.not_lt.mpr hfits)] at hstatus
  unfold translateSlot
  simp only [hstatus]
  rw [if_neg (by decide)]

lemma translateSlot_falls (slots : ℕ) {size i : ℕ} {s : ProviderState σ R τ} {w : U32}
    (hslot : (i + 1) * size ≤ s.code.capacity) (hfull : size < (wordBlock s.cpu.currentEl w s.cpu.pc).length) :
    let code := withSlot s.code size i (translateWord (slotOf s.code size i) s.cpu w).2
    translateSlot slots size i s w =
      (if s.code.capacity < (wordBlock s.cpu.currentEl w s.cpu.pc).length then Status.codeFull else Status.next, false,
        { s with code := (translateWord code s.cpu w).2, cache := ⟨invalidateAll slots s.cache.entries, 0⟩ }) := by
  obtain ⟨-, hstatus, -, hcapacity, -⟩ := translateWord_spec (slotOf s.code size i) s.cpu w
  rw [capacity_slotOf hslot] at hstatus hcapacity
  rw [if_pos hfull] at hstatus
  obtain ⟨-, hwhole, -⟩ := translateWord_spec
    (withSlot s.code size i (translateWord (slotOf s.code size i) s.cpu w).2) s.cpu w
  rw [capacity_withSlot hslot hcapacity] at hwhole
  unfold translateSlot
  simp only [hstatus, if_true, hwhole]

include hprotect in
lemma prepareCached_miss {size : ℕ} {s : ProviderState σ R τ} {w : U32}
    (hmiss : findHit (s.cache.entries.take (slotCount s.code size)) s.cpu w = none)
    (hslots : slotCount s.code size ≠ 0) :
    ∃ o o', prepareCached size protect s w =
      (let t := translateSlot (slotCount s.code size) size s.cache.victim { s with
        opaque_ := o, cache := { s.cache with entries := invalidateAt s.cache.entries s.cache.victim } } w
      let s' := { t.2.2 with opaque_ := o' }
      if t.1 ≠ Status.next then .fails t.1 t.2.2
      else if t.2.1 then
        .ready { s' with cache := ⟨s'.cache.entries.set s.cache.victim ⟨s'.cpu.pc, w, s'.cpu.currentEl, s'.code.used, true⟩,
          (s.cache.victim + 1) % slotCount s.code size⟩ } (s'.code.bytes.drop (s.cache.victim * size))
      else .ready s' s'.code.bytes) := by
  refine ⟨(protect s.opaque_ false).1, (protect (translateSlot (slotCount s.code size) size s.cache.victim { s with
    opaque_ := (protect s.opaque_ false).1,
    cache := { s.cache with entries := invalidateAt s.cache.entries s.cache.victim } } w).2.2.opaque_ true).1, ?_⟩
  unfold prepareCached
  simp only [hmiss, if_neg hslots, hprotect, ne_eq, not_true_eq_false, if_false]

include hprotect in
lemma prepared_cached {size : ℕ} {s p : ProviderState σ R τ} (h : Alike size s p) (w : U32) :
    PreparedAlike size s.cpu w (prepareCached size protect s w) (preparePlain protect p w) := by
  rcases hhit : findHit (s.cache.entries.take (slotCount s.code size)) s.cpu w with - | i
  swap
  · obtain ⟨hi, hhits⟩ := findHit_some hhit
    have hcached : prepareCached size protect s w =
        .ready { s with code := { s.code with used := (s.cache.entries.getD i {}).used } }
          (s.code.bytes.drop (i * size)) := by
      unfold prepareCached
      simp only [hhit]
    rw [hcached]
    exact prepared_hit hprotect h hi hhits
  obtain ⟨o', hplain⟩ := preparePlain_eq hprotect p w
  by_cases hslots : slotCount s.code size = 0
  · have hcached : prepareCached size protect s w = preparePlain protect s w := by
      unfold prepareCached
      simp only [hhit, if_pos hslots]
    obtain ⟨o, hown⟩ := preparePlain_eq hprotect s w
    obtain ⟨-, -, -, hcapacity, -⟩ := translateWord_spec s.code s.cpu w
    rw [hcached, hplain, hown]
    refine prepared_plain h w o o' s.cache rfl ⟨h.cache.length, ?_, ?_⟩
    · rw [slotCount, hcapacity]
      exact fun hne => absurd hslots hne
    · rw [slotCount, hcapacity]
      change ∀ i < slotCount s.code size, _
      rw [hslots]
      exact fun i hi => absurd hi (Nat.not_lt_zero i)
  obtain ⟨first, second, hcached⟩ := prepareCached_miss hprotect hhit hslots
  have hvictim := h.cache.victim hslots
  obtain ⟨-, hslot⟩ := slotCount_le s.code size hvictim
  obtain ⟨-, -, hused, hcapacity, htake⟩ := translateWord_spec (slotOf s.code size s.cache.victim) s.cpu w
  rw [capacity_slotOf hslot] at hcapacity htake
  have hwith := capacity_withSlot hslot hcapacity
  rw [hcached, hplain]
  by_cases hfits : size < (wordBlock s.cpu.currentEl w s.cpu.pc).length
  · -- the slot is too small: the whole buffer is translated into, and no slot stays valid
    obtain ⟨-, -, -, hcapacity', -⟩ := translateWord_spec
      (withSlot s.code size s.cache.victim (translateWord (slotOf s.code size s.cache.victim) s.cpu w).2) s.cpu w
    have hcount : slotCount (translateWord (withSlot s.code size s.cache.victim
        (translateWord (slotOf s.code size s.cache.victim) s.cpu w).2) s.cpu w).2 size = slotCount s.code size := by
      rw [slotCount, slotCount, hcapacity', hwith]
    have hvalid := cacheValid_fallback _ size (invalidateAt s.cache.entries s.cache.victim)
      (by rw [invalidateAt, List.length_set]; exact h.cache.length) hcount
    have hboth := fun o => prepared_plain h w o o' _ hwith hvalid
    have hfalls := translateSlot_falls (slotCount s.code size) (s := { s with
      opaque_ := first, cache := { s.cache with entries := invalidateAt s.cache.entries s.cache.victim } }) hslot hfits
    rw [hfalls]
    by_cases hfull : s.code.capacity < (wordBlock s.cpu.currentEl w s.cpu.pc).length
    · have hend := hboth first
      rw [if_pos hfull] at hend
      simp only [if_pos hfull]
      rw [if_pos (by decide)]
      exact hend
    · have hend := hboth second
      rw [if_neg hfull] at hend
      simp only [if_neg hfull]
      rw [if_neg (by decide), if_neg (by decide)]
      exact hend
  · -- the slot holds the code, which is published
    have hle : (wordBlock s.cpu.currentEl w s.cpu.pc).length ≤ size := Nat.not_lt.mp hfits
    have hmul : (s.cache.victim + 1) * size = s.cache.victim * size + size := Nat.succ_mul _ size
    have hroom : (wordBlock p.cpu.currentEl w p.cpu.pc).length ≤ p.code.capacity := by
      rw [← h.cpu, ← h.capacity]
      omega
    obtain ⟨-, -, hused', hcapacity', htake'⟩ := translateWord_spec p.code p.cpu w
    have hslotted := translateSlot_fits (slotCount s.code size) (s := { s with
      opaque_ := first, cache := { s.cache with entries := invalidateAt s.cache.entries s.cache.victim } }) hslot hle
    rw [hslotted]
    dsimp only
    rw [if_neg (by decide), if_pos rfl, if_neg (Nat.not_lt.mpr hroom)]
    refine ⟨⟨⟨h.cpu, h.owner, h.result, ?_, ?_⟩, cacheValid_publish h.cache hslots s.cpu w hle⟩, rfl, ?_, ?_⟩
    · dsimp only
      rw [hused', ← h.cpu]
      exact hused
    · dsimp only
      rw [hcapacity', ← h.capacity]
      exact hwith
    · rw [drop_withSlot hslot hcapacity hle]
      exact htake hle
    · rw [h.cpu]
      exact htake' hroom

end Prepare

section Turns

variable {size : ℕ} {s p : ProviderState σ R τ}

lemma Observed.put (h : Observed s p) (cpu : VfCpu) : Observed (s.put cpu) (p.put cpu) :=
  ⟨rfl, h.owner, h.result, h.used, h.capacity⟩

lemma Alike.put (h : Alike size s p) (cpu : VfCpu) : Alike size (s.put cpu) (p.put cpu) :=
  ⟨h.toObserved.put cpu, h.cache⟩

lemma Alike.exchanged (h : Alike size s p) (cpu : VfCpu) (owner : σ) (result : R) :
    Alike size { s with cpu := cpu, owner := owner, result := result }
      { p with cpu := cpu, owner := owner, result := result } :=
  ⟨⟨rfl, rfl, rfl, h.used, h.capacity⟩, h.cache⟩

variable {caller : Caller} {protocol : Protocol σ R}

lemma afterBlock_alike (h : Alike size s p) (status : U32) (cpu : VfCpu) :
    TurnsAlike (Alike size) Observed (some (afterBlock protocol s status cpu))
      (some (afterBlock protocol p status cpu)) := by
  unfold afterBlock
  by_cases hdata : status = Status.memoryDispatch
  · rw [if_pos hdata, if_pos hdata, ← h.owner, ← h.result]
    dsimp only
    by_cases hserved : (protocol.data cpu s.owner s.result).status ≠ Status.next
    · rw [if_pos hserved, if_pos hserved]
      exact ⟨rfl, (h.exchanged _ _ _).toObserved⟩
    · rw [if_neg hserved, if_neg hserved]
      exact h.exchanged _ _ _
  · rw [if_neg hdata, if_neg hdata]
    cases dispatch protocol.slow status cpu with
    | again cpu' => exact h.put cpu'
    | done status' cpu' => exact ⟨rfl, h.toObserved.put cpu'⟩

lemma runTurn_word {w : U32} {bytes : List Byte}
    (hbytes : bytes.take (wordBlock s.cpu.currentEl w s.cpu.pc).length = wordBlock s.cpu.currentEl w s.cpu.pc)
    {status : U32} {g : VfCpu} {ram : List Byte} (heffect : wordEffect s.cpu w s.cpu [] = .stops status g ram) :
    runTurn caller protocol bytes s = some (afterBlock protocol s status (settle s.cpu.retired g)) := by
  obtain ⟨hruns, -⟩ := translateWord_spec s.code s.cpu w
  unfold runTurn
  rw [executeNativeBlock_block hruns _ hbytes heffect]
  rfl

lemma prepared_alike {w : U32} {cached plain : Prepared (ProviderState σ R τ)} {cpu : VfCpu}
    (h : PreparedAlike size cpu w cached plain) :
    TurnsAlike (Alike size) Observed (preparedTurn caller protocol cached) (preparedTurn caller protocol plain) := by
  cases cached with
  | fails status s =>
    cases plain with
    | fails status' p =>
      obtain ⟨rfl, hobserved⟩ := h
      refine ⟨rfl, ?_⟩
      rw [hobserved.cpu]
      exact hobserved.put _
    | ready p bytes' => exact h.elim
  | ready s bytes =>
    cases plain with
    | fails status' p => exact h.elim
    | ready p bytes' =>
      obtain ⟨halike, rfl, hbytes, hbytes'⟩ := h
      obtain ⟨status, g, ram, heffect, -⟩ := effectFrom_one (Target.ofCpu s.cpu) true (le32 w) s.cpu.pc s.cpu []
      rw [preparedTurn, preparedTurn, runTurn_word hbytes heffect]
      rw [halike.cpu] at hbytes' heffect ⊢
      rw [runTurn_word hbytes' heffect]
      exact afterBlock_alike halike status _

variable (caller protocol) in
lemma providerTurn_alike {protect : Protect τ} (hprotect : ∀ o flag, (protect o flag).2 = 0#32) (budget start : U64)
    (h : Alike size s p) :
    TurnsAlike (Alike size) Observed (providerTurn caller protocol (prepareCached size protect) budget start s)
      (providerTurn caller protocol (preparePlain protect) budget start p) := by
  unfold providerTurn
  rw [← h.cpu, ← h.result, ← h.owner]
  by_cases hbudget : s.cpu.retired - start < budget
  swap
  · rw [if_pos hbudget, if_pos hbudget]
    exact ⟨rfl, h.toObserved.put _⟩
  rw [if_neg (not_not.mpr hbudget), if_neg (not_not.mpr hbudget)]
  cases protocol.gate s.cpu s.result with
  | some out => exact ⟨rfl, (h.exchanged _ _ _).toObserved⟩
  | none =>
    dsimp only
    by_cases hpoll : s.cpu.pollInterrupt.1 ≠ Status.next
    · rw [if_pos hpoll, if_pos hpoll]
      exact ⟨rfl, h.toObserved.put _⟩
    rw [if_neg hpoll, if_neg hpoll]
    have hfetched := h.exchanged (protocol.fetch s.cpu.pollInterrupt.2 s.owner s.result).cpu
      (protocol.fetch s.cpu.pollInterrupt.2 s.owner s.result).owner
      (protocol.fetch s.cpu.pollInterrupt.2 s.owner s.result).result
    by_cases hfetch : (protocol.fetch s.cpu.pollInterrupt.2 s.owner s.result).status ≠ Status.next
    · rw [if_pos hfetch, if_pos hfetch]
      exact ⟨rfl, hfetched.toObserved.put _⟩
    rw [if_neg hfetch, if_neg hfetch]
    exact prepared_alike (prepared_cached hprotect hfetched _)

end Turns

end Nextcore.Provider
