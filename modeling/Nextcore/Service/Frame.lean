import Nextcore.Mmu.Coherence
import Nextcore.Service.Dynamic

/-! What serving one data request leaves alone: everything but the RAM contents
and the TLB, which moves only through `translate_detailed` calls. -/

namespace Nextcore.Service

open Mmu Mmu.VfMmu Abi Abi.V2 Bytes

lemma length_storePlaces (r : Request) (places : List (Bool × ℕ)) (byte : ℕ) (ram : List Byte) :
    (storePlaces r places byte ram).length = ram.length := by
  induction places generalizing byte ram with
  | nil => rfl
  | cons place places ih => simp only [storePlaces, ih, List.length_set]

lemma offset_bound {address base : U64} {width length i : ℕ}
    (h : offset address width base length = some i) : i + width ≤ length := by
  unfold offset at h
  split at h
  · cases h
    omega
  · cases h

lemma afterCalls_append (read64 : TableReader) (m : VfMmu)
    (calls calls' : List (U64 × Access × ExceptionLevel)) :
    afterCalls read64 m (calls ++ calls') = afterCalls read64 (afterCalls read64 m calls) calls' :=
  List.foldl_append

namespace MemoryServiceV2

structure Follows (s s' : MemoryServiceV2) : Prop where
  controls : s'.controls = s.controls
  ramBase : s'.ramBase = s.ramBase
  ramLength : s'.ram.length = s.ram.length
  tables : s'.tables = s.tables
  tableBase : s'.tableBase = s.tableBase
  mmu : ∃ calls, s'.mmu = afterCalls (tableReader s.tables s.tableBase) s.mmu calls

lemma Follows.refl (s : MemoryServiceV2) : Follows s s := ⟨rfl, rfl, rfl, rfl, rfl, [], rfl⟩

lemma Follows.trans {s s' s'' : MemoryServiceV2} (h : Follows s s') (h' : Follows s' s'') :
    Follows s s'' := by
  obtain ⟨calls, hcalls⟩ := h.mmu
  obtain ⟨calls', hcalls'⟩ := h'.mmu
  refine ⟨h'.controls.trans h.controls, h'.ramBase.trans h.ramBase, h'.ramLength.trans h.ramLength,
    h'.tables.trans h.tables, h'.tableBase.trans h.tableBase, calls ++ calls', ?_⟩
  rw [afterCalls_append, ← hcalls, hcalls', h.tables, h.tableBase]

lemma Follows.stored (s : MemoryServiceV2) {ram : List Byte} (h : ram.length = s.ram.length) :
    Follows s { s with ram := ram } := ⟨rfl, rfl, h, rfl, rfl, [], rfl⟩

lemma translate_follows (s : MemoryServiceV2) (va : U64) (r : Request) (reads : U64) :
    Follows s (s.translate va r reads).2.1 :=
  ⟨rfl, rfl, rfl, rfl, rfl, [(va, requestAccess r, requestEl r)], rfl⟩

lemma length_fastAnswer {s : MemoryServiceV2} {r : Request} {translated : Translation} {out : Reply}
    {ram : List Byte} (h : s.fastAnswer r translated = some (out, ram)) :
    ram.length = s.ram.length := by
  unfold fastAnswer at h
  dsimp only at h
  split at h
  · cases h
    rfl
  split at h
  · rename_i i hi
    split at h
    · cases h
      exact length_storeLe (offset_bound hi) _
    · cases h
      rfl
  split at h
  · split at h
    · cases h
    · cases h
      rfl
  · cases h

lemma fastPath_follows (s : MemoryServiceV2) (r : Request) (reads : U64) :
    Follows s (s.fastPath r reads).2.1 := by
  have ht := translate_follows s r.address r reads
  unfold fastPath
  split
  · rename_i error t treads heq
    rw [heq] at ht
    exact ht
  rename_i translated t treads heq
  rw [heq] at ht
  split
  · rename_i out ram hfast
    exact ht.trans (Follows.stored t (length_fastAnswer hfast))
  · exact ht

lemma placeByte_follows (s : MemoryServiceV2) (r : Request) (byte : ℕ) (reads : U64) :
    Follows s (s.placeByte r byte reads).2.1 := by
  have ht := translate_follows s (query r byte) r reads
  unfold placeByte
  split <;> · rename_i heq; rw [heq] at ht; exact ht

lemma placeBytes_follows (r : Request) (remaining : ℕ) (byte : ℕ) (s : MemoryServiceV2)
    (reads : U64) : Follows s (placeBytes r remaining byte s reads).2.1 := by
  induction remaining generalizing byte s reads with
  | zero => exact Follows.refl s
  | succ remaining ih =>
    have hbyte := placeByte_follows s r byte reads
    unfold placeBytes
    split
    · rename_i out t treads heq
      rw [heq] at hbyte
      exact hbyte
    rename_i place t treads heq
    rw [heq] at hbyte
    have hrest := ih (byte + 1) t treads
    split <;> · rename_i heq'; rw [heq'] at hrest; exact hbyte.trans hrest

lemma length_transfer (s : MemoryServiceV2) (r : Request) (places : List (Bool × ℕ)) :
    (s.transfer r places).2.length = s.ram.length := by
  unfold transfer
  split
  · exact length_storePlaces r places 0 s.ram
  · rfl

lemma bytePath_follows (s : MemoryServiceV2) (r : Request) (reads : U64) :
    Follows s (s.bytePath r reads).2.1 := by
  have hplaces := placeBytes_follows r (r.width * r.count).toNat 0 s reads
  unfold bytePath
  split
  · rename_i out t treads heq
    rw [heq] at hplaces
    exact hplaces
  rename_i places t treads heq
  rw [heq] at hplaces
  exact hplaces.trans (Follows.stored t (length_transfer t r places))

lemma executeCounted_follows (s : MemoryServiceV2) (r : Request) (reads : U64) :
    Follows s (s.executeCounted r reads).2.1 := by
  unfold executeCounted
  split
  · exact Follows.refl s
  split
  · have hfast := fastPath_follows s r reads
    split
    · rename_i out t treads heq
      rw [heq] at hfast
      exact hfast
    · rename_i t treads heq
      rw [heq] at hfast
      exact hfast.trans (bytePath_follows t r treads)
  · exact bytePath_follows s r reads

end MemoryServiceV2

namespace MemoryServiceDynamic

structure Follows (s s' : MemoryServiceDynamic) : Prop where
  architectural : s'.architectural = s.architectural
  effective : s'.effective = s.effective
  revision : s'.revision = s.revision
  epoch : s'.epoch = s.epoch
  invalidations : s'.invalidations = s.invalidations
  prepared : s'.prepared = s.prepared
  enablePc : s'.enablePc = s.enablePc
  inner : s.inner.Follows s'.inner

lemma Follows.refl (s : MemoryServiceDynamic) : Follows s s :=
  ⟨rfl, rfl, rfl, rfl, rfl, rfl, rfl, .refl _⟩

lemma length_executePhysical (s : MemoryServiceDynamic) (q : Request) :
    (s.executePhysical q).2.length = s.inner.ram.length := by
  unfold executePhysical
  dsimp only
  split
  · rfl
  split
  · rfl
  split
  · rfl
  rename_i places _
  by_cases hstore : q.operation = opStore
  · simp only [if_pos hstore]
    split <;> exact length_storePlaces q places 0 s.inner.ram
  · simp only [if_neg hstore]
    split <;> rfl

lemma execute_follows (s : MemoryServiceDynamic) (q : Request) : Follows s (s.execute q).2 := by
  unfold execute
  split
  · exact .refl s
  split
  · exact ⟨rfl, rfl, rfl, rfl, rfl, rfl, rfl, MemoryServiceV2.executeCounted_follows _ _ _⟩
  · exact ⟨rfl, rfl, rfl, rfl, rfl, rfl, rfl, .stored _ (length_executePhysical s q)⟩

lemma execute_prepared {s : MemoryServiceDynamic} {p : Prepared} (h : s.prepared = some p)
    (q : Request) : s.execute q = (s.dataError invalidRequest 0#64, s) := by
  simp [execute, refusal, h]

lemma execute_pending {s : MemoryServiceDynamic} {pc : U64} (h : s.enablePc = some pc) (q : Request)
    (hresult : (s.execute q).1.result ≠ invalidRequest)
    (hresult' : (s.execute q).1.result ≠ unsupported) : q.operation = opFetch ∧ q.pc = pc := by
  by_contra hq
  have hpend : s.enablePc.isSome = true ∧ (q.operation ≠ opFetch ∨ s.enablePc ≠ some q.pc) := by
    refine ⟨by rw [h]; rfl, ?_⟩
    by_cases hop : q.operation = opFetch
    · exact .inr fun hpc => hq ⟨hop, (Option.some.inj (h.symm.trans hpc)).symm⟩
    · exact .inl hop
  have hrefusal : ∃ out, s.refusal q = some out ∧
      (out.result = invalidRequest ∨ out.result = unsupported) := by
    unfold refusal
    split
    · exact ⟨_, rfl, .inl rfl⟩
    split
    · exact ⟨_, rfl, .inl rfl⟩
    split
    · exact ⟨_, rfl, .inr rfl⟩
    exact ⟨_, rfl, .inr rfl⟩
  obtain ⟨out, hout, hcase⟩ := hrefusal
  simp only [execute, hout] at hresult hresult'
  exact hcase.elim hresult hresult'

end MemoryServiceDynamic

end Nextcore.Service
