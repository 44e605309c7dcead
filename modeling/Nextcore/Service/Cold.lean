import Nextcore.Service.Frame

/-! A stateless specification of the version 2 service: every byte is translated
by a walk that ignores the TLB. A coherent service refines it. -/

namespace Nextcore.Service

open Mmu Mmu.VfMmu Abi Abi.V2 Bytes

namespace MemoryServiceV2

def coldTranslate (s : MemoryServiceV2) (r : Request) (va : U64) :
    Except TranslationFailure Translation :=
  (s.mmu.invalidate.translateDetailed va (requestAccess r) (requestEl r)
    (tableReader s.tables s.tableBase)).1

def coldPlace (s : MemoryServiceV2) (r : Request) (byte : ℕ) : Except Reply (Bool × ℕ) :=
  match s.coldTranslate r (query r byte) with
  | .error error => .error (s.failure r (query r byte) error)
  | .ok translated => s.locate r byte translated

def coldPlaces (s : MemoryServiceV2) (r : Request) :
    (remaining byte : ℕ) → Except Reply (List (Bool × ℕ))
  | 0, _ => .ok []
  | remaining + 1, byte =>
    match s.coldPlace r byte with
    | .error out => .error out
    | .ok place =>
      match s.coldPlaces r remaining (byte + 1) with
      | .error out => .error out
      | .ok places => .ok (place :: places)

def coldBytes (s : MemoryServiceV2) (r : Request) : Reply × List Byte :=
  match s.coldPlaces r (r.width * r.count).toNat 0 with
  | .error out => (out, s.ram)
  | .ok places => s.transfer r places

def coldFast (s : MemoryServiceV2) (r : Request) : Option (Reply × List Byte) :=
  match s.coldTranslate r r.address with
  | .error error => some (s.failure r r.address error, s.ram)
  | .ok translated => s.fastAnswer r translated

def coldExecute (s : MemoryServiceV2) (r : Request) : Reply × List Byte :=
  match s.refusal r with
  | some out => (out, s.ram)
  | none => if fastScalar r = true then (s.coldFast r).getD (s.coldBytes r) else s.coldBytes r

structure Warm (s : MemoryServiceV2) (m : VfMmu) : Prop where
  configured : m.Configured
  coherent : m.Coherent (tableReader s.tables s.tableBase)
  cold : m.invalidate = s.mmu.invalidate

def SameReply (warm cold : Reply) : Prop :=
  warm = cold ∨ cold.fault = permission ∧ cold.context = leaf ∧
    warm = { cold with context := cachedLeaf }

lemma Warm.translate {s : MemoryServiceV2} {m : VfMmu} (hm : s.Warm m) (r : Request) (va reads : U64) :
    ∃ m' reads', s.Warm m' ∧ ∃ answer, SameAnswer answer (s.coldTranslate r va) ∧
      { s with mmu := m }.translate va r reads = (answer, { s with mmu := m' }, reads') := by
  obtain ⟨hconf, hcoh⟩ := translate_preserves hm.configured hm.coherent va (requestAccess r)
    (requestEl r)
  have hanswer := translate_same_answer hm.configured hm.coherent va (requestAccess r) (requestEl r)
  rw [hm.cold] at hanswer
  exact ⟨_, _, ⟨hconf, hcoh, (translateDetailed_invalidate _ _ _ _ _).trans hm.cold⟩, _, hanswer, rfl⟩

lemma failure_same {s : MemoryServiceV2} {r : Request} {va : U64} {f : TranslationFailure}
    (hkind : f.kind = .architectural .permission) (hcontext : f.context = .leaf) :
    SameReply (s.failure r va { f with context := .cachedLeaf }) (s.failure r va f) := by
  refine .inr ⟨?_, ?_, ?_⟩
  · simp [failure, hkind, faultCode]
  · simp [failure, hkind, hcontext, contextOf]
  · simp [failure, hkind, contextOf]

def SamePlace {α : Type} (warm cold : Except Reply α) : Prop :=
  warm = cold ∨ ∃ out out', warm = .error out ∧ cold = .error out' ∧ SameReply out out'

lemma Warm.placeByte {s : MemoryServiceV2} {m : VfMmu} (hm : s.Warm m) (r : Request) (byte : ℕ)
    (reads : U64) :
    ∃ m' reads' place, s.Warm m' ∧ SamePlace place (s.coldPlace r byte) ∧
      { s with mmu := m }.placeByte r byte reads = (place, { s with mmu := m' }, reads') := by
  obtain ⟨m', reads', hm', answer, hanswer, htranslate⟩ := hm.translate r (query r byte) reads
  unfold MemoryServiceV2.placeByte coldPlace
  rw [htranslate]
  rcases hanswer with rfl | ⟨f, hcold, hkind, hcontext, rfl⟩
  · refine ⟨m', reads', _, hm', .inl rfl, ?_⟩
    cases s.coldTranslate r (query r byte) <;> rfl
  · rw [hcold]
    exact ⟨m', reads', _, hm', .inr ⟨_, _, rfl, rfl, failure_same hkind hcontext⟩, rfl⟩

lemma Warm.placeBytes {s : MemoryServiceV2} (r : Request) (remaining byte : ℕ) {m : VfMmu}
    (hm : s.Warm m) (reads : U64) :
    ∃ m' reads' places, s.Warm m' ∧ SamePlace places (s.coldPlaces r remaining byte) ∧
      MemoryServiceV2.placeBytes r remaining byte { s with mmu := m } reads =
        (places, { s with mmu := m' }, reads') := by
  induction remaining generalizing byte m reads with
  | zero => exact ⟨m, reads, _, hm, .inl rfl, rfl⟩
  | succ remaining ih =>
    obtain ⟨m1, reads1, place, hm1, hplace, heq⟩ := hm.placeByte r byte reads
    unfold MemoryServiceV2.placeBytes coldPlaces
    rw [heq]
    rcases hplace with rfl | ⟨out, out', rfl, hcold, hsame⟩
    · cases hp : s.coldPlace r byte with
      | error out => exact ⟨m1, reads1, _, hm1, .inl rfl, rfl⟩
      | ok place =>
        obtain ⟨m2, reads2, places, hm2, hplaces, heq2⟩ := ih (byte + 1) hm1 reads1
        dsimp only
        rw [heq2]
        rcases hplaces with rfl | ⟨out, out', rfl, hcold, hsame⟩
        · refine ⟨m2, reads2, _, hm2, .inl rfl, ?_⟩
          cases s.coldPlaces r remaining (byte + 1) <;> rfl
        · rw [hcold]
          exact ⟨m2, reads2, _, hm2, .inr ⟨out, out', rfl, rfl, hsame⟩, rfl⟩
    · rw [hcold]
      exact ⟨m1, reads1, _, hm1, .inr ⟨out, out', rfl, rfl, hsame⟩, rfl⟩

def Refines (s : MemoryServiceV2) (warm : Reply × MemoryServiceV2 × U64) (cold : Reply × List Byte) :
    Prop :=
  SameReply warm.1 cold.1 ∧ ∃ m, s.Warm m ∧ warm.2.1 = { s with mmu := m, ram := cold.2 }

lemma Warm.bytePath {s : MemoryServiceV2} {m : VfMmu} (hm : s.Warm m) (r : Request) (reads : U64) :
    s.Refines ({ s with mmu := m }.bytePath r reads) (s.coldBytes r) := by
  obtain ⟨m', reads', places, hm', hplaces, heq⟩ :=
    hm.placeBytes r (r.width * r.count).toNat 0 reads
  unfold MemoryServiceV2.bytePath coldBytes
  rw [heq]
  rcases hplaces with rfl | ⟨out, out', rfl, hcold, hsame⟩
  · cases s.coldPlaces r (r.width * r.count).toNat 0 with
    | error out => exact ⟨.inl rfl, m', hm', rfl⟩
    | ok places => exact ⟨.inl rfl, m', hm', rfl⟩
  · rw [hcold]
    exact ⟨hsame, m', hm', rfl⟩

lemma Warm.executeCounted {s : MemoryServiceV2} {m : VfMmu} (hm : s.Warm m) (r : Request)
    (reads : U64) :
    s.Refines ({ s with mmu := m }.executeCounted r reads) (s.coldExecute r) := by
  have hrefusal : { s with mmu := m }.refusal r = s.refusal r := rfl
  unfold MemoryServiceV2.executeCounted coldExecute
  rw [hrefusal]
  cases s.refusal r with
  | some out => exact ⟨.inl rfl, m, hm, rfl⟩
  | none =>
    dsimp only
    split
    · obtain ⟨m', reads', hm', answer, hanswer, htranslate⟩ := hm.translate r r.address reads
      unfold MemoryServiceV2.fastPath coldFast
      rw [htranslate]
      rcases hanswer with rfl | ⟨f, hcold, hkind, hcontext, rfl⟩
      · cases s.coldTranslate r r.address with
        | error f => exact ⟨.inl rfl, m', hm', rfl⟩
        | ok translated =>
          have hfast : { s with mmu := m' }.fastAnswer r translated = s.fastAnswer r translated := rfl
          dsimp only
          rw [hfast]
          cases s.fastAnswer r translated with
          | some answer => exact ⟨.inl rfl, m', hm', rfl⟩
          | none => exact hm'.bytePath r reads'
      · rw [hcold]
        exact ⟨failure_same hkind hcontext, m', hm', rfl⟩
    · exact hm.bytePath r reads

end MemoryServiceV2

end Nextcore.Service
