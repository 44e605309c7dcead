import Nextcore.Lib.Run
import Nextcore.Service.Frame

/-! What one request can do to a `MemoryServiceDynamic`, and the two-phase safety
of every run of control and execute requests. -/

namespace Nextcore.Service

open Mmu Abi Bytes
open Abi.Dynamic (Snapshot)

namespace MemoryServiceDynamic

def propose (s : MemoryServiceDynamic) (q : Dynamic.Request) : Except (U32 × U32) Proposal :=
  if q.operation = Dynamic.write then s.proposeWrite q else s.proposeBarrier q

lemma guard_ok {s : MemoryServiceDynamic} {pc next : U64} {candidate : Snapshot}
    (h : s.guard pc candidate = .ok next) : next = pc + 4#64 := by
  unfold guard at h
  split at h
  · cases h
  dsimp only at h
  split at h
  · cases h
  split at h
  · cases h
  split at h
  · cases h
  split at h
  · cases h
  · exact (Except.ok.inj h).symm

inductive Proposes (s : MemoryServiceDynamic) (q : Dynamic.Request) : Proposal → Prop
  | write (hop : q.operation = Dynamic.write) (hsel : q.selector ≠ Dynamic.selSctlr)
      (hoff : s.architectural.sctlr &&& 1#64 = 0#64)
      (hcandidate : q.candidate = written s.architectural q.selector q.operand)
      (hvalid : controlsValid (mapped (written s.architectural q.selector q.operand)) = true)
      (hips : ((written s.architectural q.selector q.operand).tcr ^^^ s.effective.tcr) &&&
        granuleIps = 0#64)
      (hrevision : s.revision ≠ BitVec.allOnes 64) :
      Proposes s q ⟨{ s.proposalBase q with
        architectural := written s.architectural q.selector q.operand,
        revision := s.revision + 1#64 }, s.inner.mmu, s.enablePc⟩
  | enable (hop : q.operation = Dynamic.write) (hsel : q.selector = Dynamic.selSctlr)
      (hoff : s.architectural.sctlr &&& 1#64 = 0#64)
      (hcandidate : q.candidate = written s.architectural q.selector q.operand)
      (hvalid : controlsValid (mapped (written s.architectural q.selector q.operand)) = true)
      (hoperand : q.operand = s.architectural.sctlr ||| 1#64)
      (hquiet : s.architectural = s.effective)
      (hguard : s.guard q.pc (written s.architectural q.selector q.operand) = .ok (q.pc + 4#64))
      (hrevision : s.revision ≠ BitVec.allOnes 64) :
      Proposes s q ⟨{ s.proposalBase q with
        architectural := written s.architectural q.selector q.operand,
        revision := s.revision + 1#64 }, s.inner.mmu, some (q.pc + 4#64)⟩
  | publish (walker : VfMmu) (hop : q.operation = Dynamic.isb)
      (hpending : s.architectural ≠ s.effective) (hepoch : s.epoch ≠ BitVec.allOnes 64)
      (hconf : s.inner.mmu.configureStrictNc s.architectural.ttbr0 s.architectural.ttbr1
        s.architectural.tcr = (walker, true)) :
      Proposes s q ⟨{ s.proposalBase q with
        effective := s.architectural, epoch := s.epoch + 1#64 }, walker, none⟩
  | invalidate (hop : q.operation = Dynamic.tlbi) (hcount : s.invalidations ≠ BitVec.allOnes 64) :
      Proposes s q ⟨{ s.proposalBase q with invalidations := s.invalidations + 1#64 },
        s.inner.mmu.invalidate, s.enablePc⟩
  | nothing (hop : q.operation ≠ Dynamic.write)
      (hquiet : q.operation = Dynamic.isb → s.architectural = s.effective) :
      Proposes s q ⟨s.proposalBase q, s.inner.mmu, s.enablePc⟩

lemma proposeWrite_proposes {s : MemoryServiceDynamic} {q : Dynamic.Request} {p : Proposal}
    (hop : q.operation = Dynamic.write) (h : s.proposeWrite q = .ok p) : Proposes s q p := by
  unfold proposeWrite at h
  split at h
  · cases h
  rename_i hoff
  dsimp only at h
  split at h
  · cases h
  rename_i hcandidate
  split at h
  · cases h
  rename_i hvalid
  rw [not_or, Bool.not_eq_false] at hvalid
  split at h
  · cases h
  rename_i enablePc henable
  split at h
  · cases h
  rename_i hrevision
  cases h
  split at henable
  · rename_i hsel
    split at henable
    · cases henable
    rename_i hpend
    rw [not_or, not_not, not_not] at hpend
    cases hg : s.guard q.pc (written s.architectural q.selector q.operand) with
    | error f => simp [hg, Except.map] at henable
    | ok next =>
      rw [hg] at henable
      obtain rfl := guard_ok hg
      cases henable
      exact .enable hop hsel (not_not.mp hoff) (not_not.mp hcandidate) hvalid.1 hpend.1 hpend.2 hg
        hrevision
  · rename_i hsel
    cases henable
    exact .write hop hsel (not_not.mp hoff) (not_not.mp hcandidate) hvalid.1 (not_not.mp hvalid.2)
      hrevision

lemma proposeBarrier_proposes {s : MemoryServiceDynamic} {q : Dynamic.Request} {p : Proposal}
    (hop : q.operation ≠ Dynamic.write) (h : s.proposeBarrier q = .ok p) : Proposes s q p := by
  unfold proposeBarrier at h
  split at h
  · cases h
  split at h
  · rename_i hisb
    split at h
    · cases h
    rename_i hepoch
    split at h
    · cases h
    rename_i walker hconf
    cases h
    exact .publish walker hisb.1 hisb.2 hepoch hconf
  rename_i hisb
  split at h
  · rename_i htlbi
    split at h
    · cases h
    rename_i hcount
    cases h
    exact .invalidate htlbi hcount
  · cases h
    exact .nothing hop (fun hi => by_contra fun hne => hisb ⟨hi, hne⟩)

lemma propose_proposes {s : MemoryServiceDynamic} {q : Dynamic.Request} {p : Proposal}
    (h : s.propose q = .ok p) : Proposes s q p := by
  unfold propose at h
  split at h
  · rename_i hop
    exact proposeWrite_proposes hop h
  · rename_i hop
    exact proposeBarrier_proposes hop h

lemma Proposes.result {s : MemoryServiceDynamic} {q : Dynamic.Request} {p : Proposal}
    (h : Proposes s q p) : p.reply.result = Dynamic.ok := by
  cases h <;> rfl

lemma propose_prepared (s : MemoryServiceDynamic) (slot : Option Prepared) (q : Dynamic.Request) :
    { s with prepared := slot }.propose q = s.propose q := rfl

def Admits (s : MemoryServiceDynamic) (q : Dynamic.Request) : Prop :=
  ∀ pc, s.enablePc = some pc → q.operation = Dynamic.isb ∧ q.pc = pc

def Names (q : Dynamic.Request) (p : Prepared) : Prop :=
  q.operand = p.reply.token ∧
    p.request = { q with phase := Dynamic.prepare, operand := p.request.operand }

lemma Names.fields {q : Dynamic.Request} {p : Prepared} (h : Names q p) :
    p.request.operation = q.operation ∧ p.request.selector = q.selector ∧ p.request.pc = q.pc := by
  obtain ⟨-, h⟩ := h
  generalize p.request.operand = operand at h
  rw [h]
  exact ⟨rfl, rfl, rfl⟩

inductive ControlStep (s : MemoryServiceDynamic) (q : Dynamic.Request) (n : U64) :
    Dynamic.Reply → MemoryServiceDynamic → U64 → Prop
  | rejected (result detail : U32) (hresult : result ≠ Dynamic.ok) :
      ControlStep s q n (error q result detail) s n
  | prepare (p : Proposal) (hphase : q.phase = Dynamic.prepare) (hempty : s.prepared = none)
      (hadmits : s.Admits q) (hpropose : s.propose q = .ok p) (hn : n ≠ BitVec.allOnes 64) :
      ControlStep s q n { p.reply with token := n }
        { s with prepared := some ⟨q, { p.reply with token := n }, p.mmu, p.enablePc⟩ } (n + 1#64)
  | cancel (p : Prepared) (hphase : q.phase = Dynamic.cancel) (hslot : s.prepared = some p)
      (hnames : Names q p) :
      ControlStep s q n { s.finalState with
        phase := Dynamic.cancel, operation := q.operation, selector := q.selector }
        { s with prepared := none } n
  | commit (p : Prepared) (hphase : q.phase = Dynamic.commit) (hslot : s.prepared = some p)
      (hnames : Names q p) :
      ControlStep s q n { p.reply with
        phase := Dynamic.commit, stateTag := Dynamic.known, token := 0#64 } (s.install p) n

def Refusal (e : U32 × U32) : Prop := (1#32 ≤ e.1 ∧ e.1 ≤ 3#32) ∧ 1#32 ≤ e.2 ∧ e.2 ≤ 10#32

instance decidableRefusal : DecidablePred Refusal :=
  fun e => inferInstanceAs (Decidable ((1#32 ≤ e.1 ∧ e.1 ≤ 3#32) ∧ 1#32 ≤ e.2 ∧ e.2 ≤ 10#32))

lemma Refusal.result {e : U32 × U32} (h : Refusal e) : e.1 ≠ Dynamic.ok := by
  intro hok
  have hle := h.1.1
  rw [hok] at hle
  exact absurd hle (by decide)

lemma guardByte_error {s : MemoryServiceDynamic} {next : U64} {index byte : ℕ} {walker : VfMmu}
    {e : U32 × U32} (h : s.guardByte next index byte walker = .error e) : Refusal e := by
  unfold guardByte at h
  split at h
  · split at h <;> · cases h; decide
  · dsimp only at h
    split at h
    · cases h; decide
    split at h
    · cases h; decide
    · cases h

lemma guardBytes_error {s : MemoryServiceDynamic} {next : U64} {index : ℕ} {e : U32 × U32}
    (remaining : ℕ) {byte : ℕ} {walker : VfMmu}
    (h : s.guardBytes next index remaining byte walker = .error e) : Refusal e := by
  induction remaining generalizing byte walker with
  | zero => cases h
  | succ remaining ih =>
    unfold guardBytes at h
    split at h
    · rename_i f hf
      cases h
      exact guardByte_error hf
    · exact ih h

lemma guard_error {s : MemoryServiceDynamic} {pc : U64} {candidate : Snapshot} {e : U32 × U32}
    (h : s.guard pc candidate = .error e) : Refusal e := by
  unfold guard at h
  split at h
  · cases h; decide
  dsimp only at h
  split at h
  · cases h; decide
  split at h
  · cases h; decide
  split at h
  · cases h; decide
  split at h
  · rename_i f hf
    cases h
    exact guardBytes_error 4 hf
  · cases h

lemma propose_error {s : MemoryServiceDynamic} {q : Dynamic.Request} {e : U32 × U32}
    (h : s.propose q = .error e) : Refusal e := by
  unfold propose at h
  split at h
  · unfold proposeWrite at h
    split at h
    · cases h; decide
    dsimp only at h
    split at h
    · cases h; decide
    split at h
    · cases h; decide
    split at h
    · rename_i f hf
      cases h
      split at hf
      · split at hf
        · cases hf; decide
        · cases hg : s.guard q.pc (written s.architectural q.selector q.operand) with
          | error g =>
            rw [hg] at hf
            cases hf
            exact guard_error hg
          | ok next => rw [hg] at hf; cases hf
      · cases hf
    split at h
    · cases h; decide
    · cases h
  · unfold proposeBarrier at h
    split at h
    · cases h; decide
    split at h
    · split at h
      · cases h; decide
      split at h
      · cases h; decide
      · cases h
    split at h
    · split at h
      · cases h; decide
      · cases h
    · cases h

lemma phase_of_wellFormed {q : Dynamic.Request} (h : ¬malformed q = true) :
    q.phase = Dynamic.prepare ∨ q.phase = Dynamic.commit ∨ q.phase = Dynamic.cancel := by
  simp only [malformed, decide_eq_true_eq, not_or, not_not] at h
  obtain ⟨-, -, ⟨h1, h3⟩, -⟩ := h
  simp only [Dynamic.prepare, Dynamic.commit, Dynamic.cancel]
  bv_omega

lemma finish_step {s : MemoryServiceDynamic} {q : Dynamic.Request} (n : U64)
    (hphase : q.phase = Dynamic.commit ∨ q.phase = Dynamic.cancel) :
    ControlStep s q n (s.finish q).1 (s.finish q).2 n := by
  unfold finish
  split
  · exact .rejected _ _ (by decide)
  rename_i p hslot
  dsimp only
  split
  · exact .rejected _ _ (by decide)
  rename_i hnames
  rw [not_or, not_not, not_not] at hnames
  split
  · rename_i hcancel
    exact .cancel p hcancel hslot ⟨hnames.1, hnames.2.symm⟩
  · rename_i hcancel
    exact .commit p (hphase.resolve_right hcancel) hslot ⟨hnames.1, hnames.2.symm⟩

lemma control_step (s : MemoryServiceDynamic) (q : Dynamic.Request) (n : U64) :
    ControlStep s q n (s.control q n).1 (s.control q n).2.1 (s.control q n).2.2 := by
  unfold control
  split
  · exact .rejected _ _ (by decide)
  rename_i hformed
  split
  · exact .rejected _ _ (by decide)
  split
  · rename_i hphase
    exact finish_step n ((phase_of_wellFormed hformed).resolve_left hphase)
  rename_i hphase
  split
  · exact .rejected _ _ (by decide)
  rename_i hempty
  split
  · exact .rejected _ _ (by decide)
  rename_i hpending
  have hadmits : s.Admits q := by
    intro pc hpc
    simp only [hpc, Option.isSome_some, true_and, not_or, not_not, Option.some.injEq] at hpending
    exact ⟨hpending.1, hpending.2.symm⟩
  have hpropose : (if q.operation = Dynamic.write then s.proposeWrite q else s.proposeBarrier q) =
      s.propose q := rfl
  rw [hpropose]
  cases hp : s.propose q with
  | error e => exact .rejected _ _ (propose_error hp).result
  | ok p =>
    dsimp only
    split
    · exact .rejected _ _ (by decide)
    · rename_i hn
      exact .prepare p (not_not.mp hphase) (by simpa using hempty) hadmits hp hn

lemma prepare_outcome (s : MemoryServiceDynamic) {q : Dynamic.Request} (n : U64) (hphase : q.phase = Dynamic.prepare) :
    (∃ e, Refusal e ∧ s.control q n = (error q e.1 e.2, s, n)) ∨
      (malformed q = false ∧ (q.before = s.architectural ∧ q.revision = s.revision ∧ q.epoch = s.epoch) ∧
        ∃ p, s.propose q = .ok p ∧ s.control q n = ({ p.reply with token := n },
          { s with prepared := some ⟨q, { p.reply with token := n }, p.mmu, p.enablePc⟩ }, n + 1#64)) := by
  have hpropose : (if q.operation = Dynamic.write then s.proposeWrite q else s.proposeBarrier q) =
      s.propose q := rfl
  unfold control
  rw [hpropose]
  by_cases hformed : malformed q = true
  · rw [if_pos hformed]
    exact .inl ⟨(Dynamic.invalid, Dynamic.malformed), by decide, rfl⟩
  rw [if_neg hformed]
  by_cases hstale : q.before ≠ s.architectural ∨ q.revision ≠ s.revision ∨ q.epoch ≠ s.epoch
  · rw [if_pos hstale]
    exact .inl ⟨(Dynamic.invalid, Dynamic.stale), by decide, rfl⟩
  rw [if_neg hstale, if_neg (not_not.mpr hphase)]
  by_cases hbusy : s.prepared.isSome = true
  · rw [if_pos hbusy]
    exact .inl ⟨(Dynamic.invalid, Dynamic.token), by decide, rfl⟩
  rw [if_neg hbusy]
  by_cases hpending : s.enablePc.isSome = true ∧ (q.operation ≠ Dynamic.isb ∨ s.enablePc ≠ some q.pc)
  · rw [if_pos hpending]
    exact .inl ⟨(Dynamic.unsupported, Dynamic.pending), by decide, rfl⟩
  rw [if_neg hpending]
  cases hp : s.propose q with
  | error e => exact .inl ⟨e, propose_error hp, rfl⟩
  | ok p =>
    dsimp only
    by_cases hn : n = BitVec.allOnes 64
    · rw [if_pos hn]
      exact .inl ⟨(Dynamic.unsupported, Dynamic.overflow), by decide, rfl⟩
    · rw [if_neg hn]
      rw [not_or, not_or, not_not, not_not, not_not] at hstale
      exact .inr ⟨Bool.eq_false_iff.mpr hformed, hstale, p, rfl, rfl⟩

lemma commit_taken {s : MemoryServiceDynamic} {q : Dynamic.Request} (hphase : q.phase = Dynamic.prepare)
    (hformed : malformed q = false)
    (hfresh : q.before = s.architectural ∧ q.revision = s.revision ∧ q.epoch = s.epoch) {reply : Dynamic.Reply}
    {mmu : VfMmu} {enablePc : Option U64} (hslot : s.prepared = some ⟨q, reply, mmu, enablePc⟩) (n : U64) :
    s.control { q with phase := Dynamic.commit, operand := reply.token } n =
      ({ reply with phase := Dynamic.commit, stateTag := Dynamic.known, token := 0#64 },
        s.install ⟨q, reply, mmu, enablePc⟩, n) := by
  have hstill : malformed { q with phase := Dynamic.commit, operand := reply.token } = false := by
    simp only [malformed, decide_eq_false_iff_not, not_or] at hformed ⊢
    exact ⟨hformed.1, hformed.2.1, by decide, hformed.2.2.2⟩
  have hnames : ¬(reply.token ≠ reply.token ∨ { q with phase := Dynamic.prepare } ≠ q) := by
    rw [not_or, not_not, not_not]
    refine ⟨rfl, ?_⟩
    rw [← hphase]
  unfold control
  rw [if_neg (by simp [hstill]), if_neg (by simp [hfresh]), if_pos (show Dynamic.commit ≠ Dynamic.prepare by decide)]
  unfold finish
  rw [hslot]
  dsimp only
  rw [if_neg hnames, if_neg (show Dynamic.commit ≠ Dynamic.cancel by decide)]

lemma control_cases {s s' : MemoryServiceDynamic} {q : Dynamic.Request} {n n' : U64}
    {out : Dynamic.Reply} (h : s.control q n = (out, s', n')) : ControlStep s q n out s' n' := by
  have hstep := control_step s q n
  rwa [h] at hstep

end MemoryServiceDynamic

end Nextcore.Service
