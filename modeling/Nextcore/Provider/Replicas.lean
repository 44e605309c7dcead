import Nextcore.Provider.Controls
import Nextcore.Provider.DynamicReply
import Nextcore.Provider.Honesty
import Nextcore.Provider.Steady

/-! The dynamic run against one service: the control record of the run, the state of the service and the control
registers of the CPU stay in step. -/

namespace Nextcore.Provider.DynamicRun

open Abi Abi.Dynamic Cpu Jit Loop Recorder Service
open Service.MemoryServiceDynamic (Banked Admitted Proposes propose_proposes)

section Foretold

variable {s : MemoryServiceDynamic} {q : Request} {p : MemoryServiceDynamic.Proposal}

lemma propose_foretold (h : s.propose q = .ok p) :
    p.reply = { advance s.finalState q with
      phase := prepare, operation := q.operation, selector := q.selector, stateTag := proposed } := by
  unfold MemoryServiceDynamic.propose at h
  unfold advance
  split at h
  next hwrite =>
    rw [if_pos hwrite]
    cases MemoryServiceDynamic.proposeWrite_proposes hwrite h with
    | write _ _ _ hcandidate =>
      rw [hcandidate]
      rfl
    | enable _ _ _ hcandidate =>
      rw [hcandidate]
      rfl
    | publish _ hisb => exact absurd (hwrite.symm.trans hisb) (by decide)
    | invalidate htlbi => exact absurd (hwrite.symm.trans htlbi) (by decide)
    | nothing hother => exact absurd hwrite hother
  next hwrite =>
    rw [if_neg hwrite]
    unfold MemoryServiceDynamic.proposeBarrier at h
    split at h
    · cases h
    split at h
    next hisb =>
      rw [if_pos (show q.operation = isb ∧ s.finalState.architectural ≠ s.finalState.effective from hisb)]
      split at h
      · cases h
      split at h
      · cases h
      · cases h
        rfl
    next hisb =>
      rw [if_neg (show ¬(q.operation = isb ∧ s.finalState.architectural ≠ s.finalState.effective) from hisb)]
      split at h
      next htlbi =>
        rw [if_pos htlbi]
        split at h
        · cases h
        · cases h
          rfl
      next htlbi =>
        rw [if_neg htlbi]
        cases h
        rfl

lemma installed_final (hp : Proposes s q p) : (s.enact p).finalState =
    { p.reply with phase := 0#32, operation := 0#32, selector := 0#32, stateTag := Dynamic.known, token := 0#64 } := by
  cases hp <;> rfl

end Foretold

section Log

def Refused (x : ControlExchange) : Prop := dynamicErrorValid x.request x.reply = true

def Predicted (held : Reply) (x : ControlExchange) : Prop :=
  if x.request.phase = commit then x.reply = acknowledgement held x.request
  else ∃ expected, expectedReply x.request held = some expected ∧ x.reply = { expected with token := x.reply.token }

def Foretold (initial : V2.Controls) (log : List ControlExchange) : Prop :=
  ∀ earlier x, earlier ++ [x] <+: log → x.code = 0#32 ∧ (Refused x ∨ Predicted (lastAcknowledged initial earlier) x)

lemma foretold_nil (initial : V2.Controls) : Foretold initial [] := by
  intro earlier x h
  exact absurd (List.prefix_nil.mp h) (List.append_ne_nil_of_right_ne_nil earlier (List.cons_ne_nil x []))

lemma Foretold.concat {initial : V2.Controls} {log : List ControlExchange} {x : ControlExchange}
    (h : Foretold initial log) (hcode : x.code = 0#32) (hx : Refused x ∨ Predicted (lastAcknowledged initial log) x) :
    Foretold initial (log ++ [x]) := by
  intro earlier y hprefix
  rcases List.prefix_concat_iff.mp hprefix with heq | hbefore
  · obtain ⟨rfl, hxy⟩ := List.append_inj' heq rfl
    cases hxy
    exact ⟨hcode, hx⟩
  · exact h earlier y hbefore

end Log

variable {σ τ : Type}

/-- Callbacks that deliver every message unchanged to one service. Its tokens come from a counter of the process, which
starts behind zero and does not wrap. -/
structure Delivers (service : σ → MemoryServiceDynamic) (memory : Callback σ) (control : ControlCallback σ) : Prop where
  memory : ∀ owner q, service (memory owner q).1 = ((service owner).execute q).2 ∧
    (memory owner q).2 = (0#32, ((service owner).execute q).1)
  control : ∀ owner q, ∃ token, token ≠ 0#64 ∧ service (control owner q).1 = ((service owner).control q token).2.1 ∧
    (control owner q).2 = (0#32, ((service owner).control q token).1)

structure InStep (s : MemoryServiceDynamic) (final : Reply) (cpu : VfCpu) : Prop where
  banked : s.Banked
  admitted : s.Admitted
  idle : s.prepared = none
  final : final = s.finalState
  steady : Steady s.architectural cpu

section Together

variable (service : σ → MemoryServiceDynamic) (initial : V2.Controls) (before : U32)

/-- What holds wherever a run ends; `before` is the provider status that the run has started with. -/
structure Agreed (owner : σ × List ControlExchange) (out : RunResultDynamic) (cpu : VfCpu) : Prop where
  final : out.finalControl = (service owner.1).finalState
  bank : bankOf cpu = (service owner.1).architectural
  log : Foretold initial owner.2
  status : before ≠ ProviderStatus.invalidReply → out.memory.base.providerStatus ≠ ProviderStatus.invalidReply

structure Together (owner : σ × List ControlExchange) (out : RunResultDynamic) (cpu : VfCpu) : Prop where
  inStep : InStep (service owner.1) out.finalControl cpu
  log : Foretold initial owner.2
  status : before ≠ ProviderStatus.invalidReply → out.memory.base.providerStatus ≠ ProviderStatus.invalidReply

variable {service initial before} {owner : σ × List ControlExchange} {out : RunResultDynamic} {cpu : VfCpu}

lemma Together.agreed (h : Together service initial before owner out cpu) : Agreed service initial before owner out cpu :=
  ⟨h.inStep.final, h.inStep.steady.bank, h.log, h.status⟩

lemma Together.withCpu (h : Together service initial before owner out cpu) {next : VfCpu}
    (hnext : Steady (service owner.1).architectural next) : Together service initial before owner out next :=
  ⟨⟨h.inStep.banked, h.inStep.admitted, h.inStep.idle, h.inStep.final, hnext⟩, h.log, h.status⟩

lemma Agreed.withCpu (h : Agreed service initial before owner out cpu) {next : VfCpu} (hnext : bankOf next = bankOf cpu) :
    Agreed service initial before owner out next :=
  ⟨h.final, hnext.trans h.bank, h.log, h.status⟩

lemma Agreed.fails (h : Agreed service initial before owner out cpu) {reason : U32}
    (hreason : reason ≠ ProviderStatus.invalidReply) :
    Agreed service initial before owner (dynamicFailure out reason false).2 cpu :=
  ⟨h.final, h.bank, h.log, fun _ => hreason⟩

section Memory

variable {memory : Callback σ} {control : ControlCallback σ} {q : V2.Request}

lemma InStep.execute {s : MemoryServiceDynamic} {final : Reply} (h : InStep s final cpu) (q : V2.Request) :
    InStep (s.execute q).2 final cpu := by
  have hfollows := MemoryServiceDynamic.execute_follows s q
  refine ⟨h.banked.execute q, h.admitted.execute q, hfollows.prepared.trans h.idle, ?_, ?_⟩
  · rw [h.final]
    unfold MemoryServiceDynamic.finalState
    rw [hfollows.revision, hfollows.epoch, hfollows.invalidations, hfollows.architectural, hfollows.effective]
  · rw [hfollows.architectural]
    exact h.steady

lemma exchange_together (hdelivers : Delivers service memory control) (h : Together service initial before owner out cpu)
    (hmask : cpu.pstate &&& ~~~0xf00003cf#64 = 0#64) (hq : Sends cpu (service owner.1).effectiveControls 3#32 q) :
    let e := memoryExchangeVersion cpu (silent memory) owner q out.memory 3#32
    Agreed service initial before e.owner { out with memory := e.result } e.cpu ∧
      (e.status = Status.next →
        e.cpu = cpu ∧ Together service initial before e.owner { out with memory := e.result } cpu) := by
  obtain ⟨hservice, hreply⟩ := hdelivers.memory owner.1 q
  obtain ⟨hheader, hcanonical⟩ := dynamic_taken h.inStep.banked h.inStep.admitted h.inStep.idle h.inStep.steady.valid
    h.inStep.steady.level hmask hq
  have hel : q.currentEl ≤ 3#32 := by
    rw [hq.fields.2.2, h.inStep.steady.level]
    decide
  have haccepted := judgeReply_accepted h.inStep.steady.valid h.inStep.steady.quiet hel hheader hcanonical
    (exchangeStart out.memory q 3#32)
  have hbank := judgeReply_apart bankOf_apart cpu q 0#32 ((service owner.1).execute q).1
    (exchangeStart out.memory q 3#32) 3#32
  have hin : InStep (service (memory owner.1 q).1) out.finalControl cpu := by
    rw [hservice]
    exact h.inStep.execute q
  unfold memoryExchangeVersion
  dsimp only [silent]
  rw [show (memory owner.1 q).2.1 = 0#32 from congrArg Prod.fst hreply,
    show (memory owner.1 q).2.2 = ((service owner.1).execute q).1 from congrArg Prod.snd hreply]
  have hstatus := fun hbefore => haccepted.status (h.status hbefore)
  generalize judgeReply cpu q 0#32 ((service owner.1).execute q).1 (exchangeStart out.memory q 3#32) 3#32 = judged
    at haccepted hbank hstatus ⊢
  refine ⟨⟨hin.final, hbank.trans hin.steady.bank, h.log, hstatus⟩, fun hnext => ?_⟩
  cases haccepted with
  | ok => exact ⟨rfl, hin, h.log, hstatus⟩
  | fault raised =>
    exfalso
    revert hnext
    dsimp only
    unfold faultStatusCode
    split
    · decide
    · split
      · decide
      · decide
  | refused => exact absurd (show Status.dataFault = Status.next from hnext) (by decide)

lemma InStep.effectiveControls {s : MemoryServiceDynamic} {final : Reply} (h : InStep s final cpu) :
    final.effective.controls final.epoch = s.effectiveControls := by
  rw [h.final]
  rfl

lemma dataStep_together (hdelivers : Delivers service memory control) (h : Together service initial before owner out cpu)
    (hmask : cpu.pstate &&& ~~~0xf00003cf#64 = 0#64) {effective : V2.Controls}
    (heffective : effective = (service owner.1).effectiveControls) :
    let served := memoryDataStepVersion cpu effective (silent memory) owner out.memory 3#32
    (served.status = Status.next →
        Together service initial before served.owner { out with memory := served.result } served.cpu) ∧
      (served.status ≠ Status.next →
        Agreed service initial before served.owner { out with memory := served.result } served.cpu) := by
  have hfails : (memoryDataStepVersion cpu effective (silent memory) owner out.memory 3#32).status ≠ Status.next →
      bankOf (memoryDataStepVersion cpu effective (silent memory) owner out.memory 3#32).cpu = bankOf cpu :=
    memoryDataStepVersion_fails bankOf_apart
  subst heffective
  dsimp only
  unfold memoryDataStepVersion at hfails ⊢
  cases hshape : decodeMemory cpu.instruction with
  | none =>
    rw [hshape] at hfails
    refine ⟨fun hnext => absurd (show Status.undefinedInstruction = Status.next from hnext) (by decide), fun hother => ?_⟩
    exact h.agreed.withCpu (hfails hother)
  | some shape =>
    rw [hshape] at hfails
    dsimp only at hfails ⊢
    by_cases hsp : spMisaligned cpu shape = true
    · rw [if_pos hsp] at hfails ⊢
      refine ⟨fun hnext => absurd (show Status.spAlignmentFault = Status.next from hnext) (by decide), fun hother => ?_⟩
      exact h.agreed.withCpu (hfails hother)
    rw [if_neg hsp]
    obtain ⟨hagreed, hexchange⟩ := exchange_together hdelivers h hmask (.data shape hshape (Bool.eq_false_iff.mpr hsp))
    split
    next hother => exact ⟨fun hnext => absurd hnext hother, fun _ => hagreed⟩
    next hdone =>
      obtain ⟨hcpu, htogether⟩ := hexchange (not_not.mp hdone)
      rw [hcpu]
      refine ⟨fun _ => ?_, fun hother => absurd rfl hother⟩
      have hsteady := htogether.inStep.steady.commitData shape
        (memoryExchangeVersion cpu (silent memory) owner
          (dataRequest cpu (service owner.1).effectiveControls 3#32 shape) out.memory 3#32).reply
      exact ⟨(htogether.withCpu hsteady).inStep, htogether.log, htogether.status⟩

end Memory

section Control

variable {memory : Callback σ} {control : ControlCallback σ} {q : Request} {s : MemoryServiceDynamic}
  {p : MemoryServiceDynamic.Proposal}

lemma refused_error (hphase : q.phase = prepare) (hop : q.operation ≤ 4#32) (hselector : q.selector ≤ 5#32)
    {e : U32 × U32} (he : MemoryServiceDynamic.Refusal e) :
    dynamicErrorValid q (MemoryServiceDynamic.error q e.1 e.2) = true := by
  have hphase' : q.phase ≤ 3#32 := by
    rw [hphase]
    decide
  obtain ⟨⟨hlow, hhigh⟩, hlow', hhigh'⟩ := he
  simp only [dynamicErrorValid, MemoryServiceDynamic.error, decide_eq_true_eq, if_pos hphase', if_pos hop, if_pos hselector]
  exact ⟨trivial, trivial, trivial, trivial, trivial, hlow, hhigh, hlow', hhigh', rfl, rfl, rfl, rfl, rfl, trivial, trivial⟩

lemma dynamicOperation_bounds {w op selector : U32} (h : dynamicOperation w = some (op, selector)) :
    op ≤ 4#32 ∧ selector ≤ 5#32 := by
  have hselector : ∀ key selector, selectorOf key = some selector → selector ≤ 5#32 := by
    intro key selector h
    unfold selectorOf at h
    split at h
    · cases h; decide
    split at h
    · cases h; decide
    split at h
    · cases h; decide
    split at h
    · cases h; decide
    split at h
    · cases h; decide
    · cases h
  unfold dynamicOperation at h
  split at h
  · cases h; decide
  split at h
  · cases h; decide
  split at h
  · cases h; decide
  split at h
  · cases h
  · obtain ⟨selector', hkey, heq⟩ := Option.map_eq_some_iff.mp h
    cases heq
    exact ⟨by decide, hselector _ _ hkey⟩

lemma expected_clean {cpu : VfCpu} {op selector : U32} {held expected : Reply}
    (h : expectedReply (prepareRequest cpu op selector held) held = some expected) :
    ¬(Event.control (prepareRequest cpu op selector held)).CarriesAsid := by
  rintro ⟨-, hwrite, hasid⟩
  have hwrite : op = write := hwrite
  subst hwrite
  unfold expectedReply at h
  dsimp only at h
  rw [if_pos (show (prepareRequest cpu write selector held).operation = write from rfl)] at h
  split at h
  · cases h
  next hallowed =>
    have hvalid : dynamicControlsValid ((prepareRequest cpu write selector held).candidate.controls held.epoch) = true := by
      by_contra hrefused
      exact hallowed (decide_eq_true (.inr (.inl (Bool.eq_false_iff.mpr hrefused))))
    rw [← controlsValidDynamic_eq] at hvalid
    simp only [controlsValidDynamic, decide_eq_true_eq] at hvalid
    obtain ⟨-, -, -, -, -, hbases, htcr, -⟩ := hvalid
    rw [or_shiftRight_eq_zero, Bits.shiftRight_eq_zero_iff, Bits.shiftRight_eq_zero_iff] at hbases
    have hcandidate : (prepareRequest cpu write selector held).candidate =
        written held.architectural selector (prepareRequest cpu write selector held).operand := rfl
    have hselector : (prepareRequest cpu write selector held).selector = selector := rfl
    rw [hcandidate] at hbases htcr
    rw [hselector] at hasid
    rcases hasid with ⟨rfl | rfl, hset⟩ | ⟨rfl, hset⟩
    · exact hset (Bits.and_eq_zero_of_subset hbases.1 (by decide))
    · exact hset (Bits.and_eq_zero_of_subset hbases.2 (by decide))
    · exact hset (Bits.and_eq_zero_of_subset htcr (by decide))

lemma proposes_above (hp : Proposes s q p) : p.reply.architectural.hcr = s.architectural.hcr ∧
    p.reply.architectural.scr = s.architectural.scr ∧ p.reply.architectural.reserved = s.architectural.reserved := by
  have hwritten : (MemoryServiceDynamic.written s.architectural q.selector q.operand).hcr = s.architectural.hcr ∧
      (MemoryServiceDynamic.written s.architectural q.selector q.operand).scr = s.architectural.scr ∧
      (MemoryServiceDynamic.written s.architectural q.selector q.operand).reserved = s.architectural.reserved := by
    unfold MemoryServiceDynamic.written
    split
    · exact ⟨rfl, rfl, rfl⟩
    split
    · exact ⟨rfl, rfl, rfl⟩
    split
    · exact ⟨rfl, rfl, rfl⟩
    split
    · exact ⟨rfl, rfl, rfl⟩
    · exact ⟨rfl, rfl, rfl⟩
  cases hp with
  | write => exact hwritten
  | enable => exact hwritten
  | publish => exact ⟨rfl, rfl, rfl⟩
  | invalidate => exact ⟨rfl, rfl, rfl⟩
  | nothing => exact ⟨rfl, rfl, rfl⟩

lemma Steady.commitControls {bank a : Snapshot} (h : Steady bank cpu)
    (habove : a.hcr = bank.hcr ∧ a.scr = bank.scr ∧ a.reserved = bank.reserved) : Steady a (commitControls cpu a) := by
  obtain ⟨hhcr, hscr, hreserved⟩ := habove
  refine ⟨h.valid, h.quiet, h.level, ?_⟩
  rw [← h.bank] at hhcr hscr hreserved
  change (⟨a.sctlr, a.ttbr0, a.ttbr1, a.tcr, a.mair, cpu.hcrEl2, cpu.scrEl3, 0#64⟩ : Snapshot) = a
  rw [show cpu.hcrEl2 = a.hcr from hhcr.symm, show cpu.scrEl3 = a.scr from hscr.symm,
    show (0#64 : U64) = a.reserved from hreserved.symm]

structure Offered (s : MemoryServiceDynamic) (q : Request) (p : MemoryServiceDynamic.Proposal) : Prop where
  phase : q.phase = prepare
  formed : MemoryServiceDynamic.malformed q = false
  fresh : q.before = s.architectural ∧ q.revision = s.revision ∧ q.epoch = s.epoch
  proposed : s.propose q = .ok p

lemma commitStep_together (hdelivers : Delivers service memory control) {n : U64} (hoffered : Offered s q p)
    (hstep : InStep s out.finalControl cpu)
    (hslot : service owner.1 = { s with prepared := some ⟨q, { p.reply with token := n }, p.mmu, p.enablePc⟩ })
    (hbanked : (service owner.1).Banked) (hadmitted : (service owner.1).Admitted)
    (hknown : Known initial owner.2 out.finalControl) (hlog : Foretold initial owner.2)
    (hstatus : before ≠ ProviderStatus.invalidReply → out.memory.base.providerStatus ≠ ProviderStatus.invalidReply) :
    let step := commitStep cpu (record control) owner { q with phase := commit, operand := n }
      { p.reply with phase := commit, stateTag := Dynamic.known, token := 0#64 } out
    step.status = Status.next ∧ Together service initial before step.owner step.out step.cpu := by
  have hproposes := propose_proposes hoffered.proposed
  obtain ⟨token, -, hservice, hreply⟩ := hdelivers.control owner.1 { q with phase := commit, operand := n }
  have htaken := MemoryServiceDynamic.commit_taken (s := service owner.1) hoffered.phase hoffered.formed
    (by rw [hslot]; exact hoffered.fresh) (by rw [hslot]) token
  have hcode : (control owner.1 { q with phase := commit, operand := n }).2.1 = 0#32 := congrArg Prod.fst hreply
  have hanswer : (control owner.1 { q with phase := commit, operand := n }).2.2 =
      { p.reply with phase := commit, stateTag := Dynamic.known, token := 0#64 } :=
    (congrArg Prod.snd hreply).trans (congrArg Prod.fst htaken)
  have hinstalled : service (control owner.1 { q with phase := commit, operand := n }).1 =
      (service owner.1).install ⟨q, { p.reply with token := n }, p.mmu, p.enablePc⟩ :=
    hservice.trans (congrArg (fun out => out.2.1) htaken)
  have hacknowledged : ({ p.reply with phase := commit, stateTag := Dynamic.known, token := 0#64 } : Reply) =
      acknowledgement out.finalControl { q with phase := commit, operand := n } := by
    have hsettled : Settled out.finalControl := by
      rw [hknown.1]
      exact settled_lastAcknowledged initial owner.2
    rw [propose_foretold hoffered.proposed, ← hstep.final]
    exact congrArg (fun held : Reply => { held with phase := commit, operation := q.operation, selector := q.selector })
      (hsettled.advance q).tagged
  unfold commitStep
  dsimp only [record]
  rw [if_neg (not_not.mpr hcode), if_neg (not_not.mpr hanswer)]
  refine ⟨rfl, ⟨?_, ?_, ?_, ?_, ?_⟩, ?_, hstatus⟩
  · rw [show service _ = _ from hservice]
    exact hbanked.control _ token
  · rw [show service _ = _ from hservice]
    exact hadmitted.control token fun h => absurd (show commit = prepare from h.1) (by decide)
  · rw [show service _ = _ from hinstalled]
    rfl
  · rw [show service _ = _ from hinstalled]
    exact (installed_final hproposes).symm
  · rw [show service _ = _ from hinstalled]
    exact Steady.commitControls hstep.steady (proposes_above hproposes)
  · refine hlog.concat hcode (.inr ?_)
    rw [Predicted, if_pos rfl, ← hknown.1]
    exact hanswer.trans hacknowledged

lemma dynamicControlStep_together (hdelivers : Delivers service memory control)
    (hknown : Known initial owner.2 out.finalControl) (h : Together service initial before owner out cpu) {op selector : U32}
    (hbounds : op ≤ 4#32 ∧ selector ≤ 5#32) :
    let step := dynamicControlStep cpu op selector (record control) owner out
    (step.status = Status.next → Together service initial before step.owner step.out step.cpu) ∧
      (step.status ≠ Status.next → Agreed service initial before step.owner step.out step.cpu) := by
  have hfails : ∀ {owner : σ × List ControlExchange} {reason : U32}, Agreed service initial before owner out cpu →
      reason ≠ ProviderStatus.invalidReply →
      let step : Controlled (σ × List ControlExchange) := .fails cpu owner out reason false
      (step.status = Status.next → Together service initial before step.owner step.out step.cpu) ∧
        (step.status ≠ Status.next → Agreed service initial before step.owner step.out step.cpu) := by
    intro owner reason hagreed hreason
    exact ⟨fun hnext => absurd (show Status.dataFault = Status.next from hnext) (by decide), fun _ => hagreed.fails hreason⟩
  unfold dynamicControlStep
  dsimp only [record]
  generalize hq : prepareRequest cpu op selector out.finalControl = q
  have hphase : q.phase = prepare := by rw [← hq]; rfl
  have hop : q.operation ≤ 4#32 := by rw [← hq]; exact hbounds.1
  have hselector : q.selector ≤ 5#32 := by rw [← hq]; exact hbounds.2
  cases hexpected : expectedReply q out.finalControl with
  | none => exact hfails h.agreed (by decide)
  | some expected =>
    have hclean : ¬(Event.control q).CarriesAsid := by
      rw [← hq] at hexpected ⊢
      exact expected_clean hexpected
    obtain ⟨token, htoken, hservice, hreply⟩ := hdelivers.control owner.1 q
    have hcode : (control owner.1 q).2.1 = 0#32 := congrArg Prod.fst hreply
    have hknown' : Known initial (owner.2 ++ [⟨q, (control owner.1 q).2.1, (control owner.1 q).2.2⟩]) out.finalControl :=
      hknown.prepared (show q.phase ≠ commit by rw [hphase]; decide)
    dsimp only
    rw [if_neg (not_not.mpr hcode)]
    rcases MemoryServiceDynamic.prepare_outcome (service owner.1) token hphase with
      ⟨e, he, hrefused⟩ | ⟨hformed, hfresh, p, hpropose, hprepared⟩
    · -- a refusal leaves the service as it is
      have hanswer : (control owner.1 q).2.2 = MemoryServiceDynamic.error q e.1 e.2 :=
        (congrArg Prod.snd hreply).trans (congrArg Prod.fst hrefused)
      have hkept : service (control owner.1 q).1 = service owner.1 := hservice.trans (congrArg (fun out => out.2.1) hrefused)
      have hvalid := refused_error hphase hop hselector he
      have hagreed : Agreed service initial before ((control owner.1 q).1,
          owner.2 ++ [⟨q, (control owner.1 q).2.1, (control owner.1 q).2.2⟩]) out cpu := by
        refine ⟨?_, ?_, h.log.concat hcode (.inl ?_), h.status⟩
        · exact h.agreed.final.trans (congrArg MemoryServiceDynamic.finalState hkept.symm)
        · exact h.agreed.bank.trans (congrArg MemoryServiceDynamic.architectural hkept.symm)
        · rw [Refused, hanswer]
          exact hvalid
      rw [hanswer, if_pos (show (MemoryServiceDynamic.error q e.1 e.2).result ≠ 0#32 from he.result),
        if_neg (by rw [hvalid]; decide)]
      refine hfails (by rw [← hanswer]; exact hagreed) ?_
      unfold refusalReason
      split
      · decide
      split
      · decide
      · decide
    · have hoffered : Offered (service owner.1) q p := ⟨hphase, hformed, hfresh, hpropose⟩
      have hforetold : expected = { p.reply with token := 0#64 } := by
        rw [expectedReply_advance hexpected, propose_foretold hpropose, ← h.inStep.final]
      subst hforetold
      have hanswer : (control owner.1 q).2.2 = { p.reply with token := token } :=
        (congrArg Prod.snd hreply).trans (congrArg Prod.fst hprepared)
      have hslot : service (control owner.1 q).1 = { service owner.1 with
          prepared := some ⟨q, { p.reply with token := token }, p.mmu, p.enablePc⟩ } :=
        hservice.trans (congrArg (fun out => out.2.1) hprepared)
      have hresult : (control owner.1 q).2.2.result = 0#32 := by
        rw [hanswer]
        exact (propose_proposes hpropose).result
      have hlog : Foretold initial (owner.2 ++ [⟨q, (control owner.1 q).2.1, (control owner.1 q).2.2⟩]) := by
        refine h.log.concat hcode (.inr ?_)
        rw [Predicted, if_neg (show q.phase ≠ commit by rw [hphase]; decide), ← hknown.1]
        exact ⟨_, hexpected, by rw [hanswer]⟩
      rw [if_neg (not_not.mpr hresult), hanswer, if_neg (by rw [not_or, not_not]; exact ⟨htoken, rfl⟩)]
      obtain ⟨after, hafter⟩ : ∃ after : σ × List ControlExchange, after = ((control owner.1 q).1,
        owner.2 ++ [⟨q, (control owner.1 q).2.1, (control owner.1 q).2.2⟩]) := ⟨_, rfl⟩
      have hbanked : (service after.1).Banked := by
        rw [hafter, hservice]
        exact h.inStep.banked.control q token
      have hadmitted : (service after.1).Admitted := by
        rw [hafter, hservice]
        exact h.inStep.admitted.control token hclean
      have hcommit := commitStep_together hdelivers hoffered h.inStep (by rw [hafter]; exact hslot) hbanked hadmitted
        (by rw [hafter]; exact hknown') (by rw [hafter]; exact hlog) h.status
      subst hafter
      rw [hanswer] at hcommit
      exact ⟨fun _ => hcommit.2, fun hother => absurd hcommit.1 hother⟩

end Control

section Turns

variable (caller : Caller) (pauth : Option PauthStep) (protect : Protect τ) {memory : Callback σ}
  {control : ControlCallback σ} (hdelivers : Delivers service memory control)
  {s : ProviderState (σ × List ControlExchange) Progress τ}

variable (service initial before) in
def TogetherAt (s : ProviderState (σ × List ControlExchange) Progress τ) : Prop :=
  Together service initial before s.owner s.result.out s.cpu

variable (service initial before) in
def TogetherTurn : Turn (ProviderState (σ × List ControlExchange) Progress τ) U32 → Prop
  | .again s => TogetherAt service initial before s
  | .done _ s => Agreed service initial before s.owner s.result.out s.cpu

lemma returns_together (status : U32) {c : VfCpu} (h : Agreed service initial before s.owner s.result.out c) :
    TogetherTurn service initial before (returns status c s.put) :=
  h.withCpu rfl

lemma refuses_together (h : Agreed service initial before s.owner s.result.out s.cpu) {reason : U32}
    (hreason : reason ≠ ProviderStatus.invalidReply) : TogetherTurn service initial before (refuses s reason) :=
  (h.fails hreason).withCpu rfl

lemma dispatch_together {c : VfCpu} (h : Together service initial before s.owner s.result.out c) {status : U32}
    (hplain : status = Status.undefinedInstruction ∨ status = Status.systemRegisterTrap →
      dynamicOperation c.instruction = none) :
    TogetherTurn service initial before (mapTurn s.put (dispatch (slowStepDynamic pauth) status c)) := by
  rcases h.inStep.steady.dispatch hplain with ⟨next, hdispatch, hsteady⟩ | ⟨status', next, hdispatch, hbank⟩
  · rw [hdispatch]
    exact h.withCpu hsteady
  · rw [hdispatch]
    exact h.agreed.withCpu (hbank.trans h.inStep.steady.bank.symm)

include hdelivers

lemma dataTurn_together {c : VfCpu} (h : Together service initial before s.owner s.result.out c)
    (hmask : c.pstate &&& ~~~0xf00003cf#64 = 0#64) {effective : V2.Controls}
    (heffective : effective = (service s.owner.1).effectiveControls) :
    TogetherTurn service initial before (dataTurn (silent memory) s effective c) := by
  obtain ⟨hnext, hother⟩ := dataStep_together hdelivers h hmask heffective
  unfold dataTurn
  dsimp only
  split
  next hstatus => exact (hother hstatus).withCpu rfl
  next hstatus => exact hnext (not_not.mp hstatus)

lemma controlTurn_together {c : VfCpu} (h : Together service initial before s.owner s.result.out c)
    (hknown : KnownAt initial s) {op selector : U32} (hbounds : op ≤ 4#32 ∧ selector ≤ 5#32) :
    TogetherTurn service initial before (controlTurn (record control) s c op selector) := by
  obtain ⟨hnext, hother⟩ := dynamicControlStep_together hdelivers hknown h hbounds
  unfold controlTurn
  dsimp only
  split
  next hstatus => exact (hother hstatus).withCpu rfl
  next hstatus =>
    have htogether := hnext (not_not.mp hstatus)
    dsimp only [TogetherTurn, TogetherAt]
    split
    · split
      · exact htogether
      · exact htogether
    · split
      · exact htogether
      · exact htogether

lemma afterWord_together {c : VfCpu} (h : Together service initial before s.owner s.result.out c)
    (hknown : KnownAt initial s) (hmask : c.pstate &&& ~~~0xf00003cf#64 = 0#64) {effective : V2.Controls}
    (heffective : effective = (service s.owner.1).effectiveControls) {instruction status : U32}
    (hnames : status = Status.next ∨ status = Status.halt ∨ c.instruction = instruction) :
    TogetherTurn service initial before
      (afterWord pauth (silent memory) (record control) s effective instruction status c) := by
  unfold afterWord
  split
  · exact dataTurn_together hdelivers h hmask heffective
  split
  next hstopped =>
    have hinstruction : c.instruction = instruction := by
      rcases hnames with rfl | rfl | hnames
      · exact absurd hstopped (by decide)
      · exact absurd hstopped (by decide)
      · exact hnames
    cases hoperation : dynamicOperation instruction with
    | none => exact dispatch_together pauth h fun _ => by rw [hinstruction, hoperation]
    | some out => exact controlTurn_together hdelivers h hknown (dynamicOperation_bounds hoperation)
  next hstopped => exact dispatch_together pauth h fun hstops => absurd hstops hstopped

lemma wordTurn_together (h : TogetherAt service initial before s) (hknown : KnownAt initial s)
    (hmask : s.cpu.pstate &&& ~~~0xf00003cf#64 = 0#64) {effective : V2.Controls}
    (heffective : effective = (service s.owner.1).effectiveControls) (instruction : U32)
    {turn : Turn (ProviderState (σ × List ControlExchange) Progress τ) U32}
    (hturn : wordTurn caller pauth (silent memory) (record control) effective instruction
      (preparePlain protect s instruction) = some turn) :
    TogetherTurn service initial before turn := by
  have hkept := preparePlain_kept protect s instruction
  have hword := preparePlain_word protect s instruction
  cases hprepared : preparePlain protect s instruction with
  | fails status s' =>
    rw [hprepared] at hkept hturn
    obtain ⟨hcpu, howner, hresult⟩ := hkept
    cases hturn
    refine returns_together status ?_
    rw [show s'.cpu = s.cpu from hcpu, show s'.owner = s.owner from howner, show s'.result = s.result from hresult]
    exact h.agreed
  | ready s' bytes =>
    rw [hprepared] at hkept hword hturn
    obtain ⟨hcpu, howner, hresult⟩ := hkept
    obtain ⟨-, -, hbytes⟩ := hword
    obtain ⟨out, hcall, rfl⟩ := Option.map_eq_some_iff.mp hturn
    obtain ⟨status, c, ram⟩ := out
    rw [show s'.cpu = s.cpu from hcpu] at hcall
    obtain ⟨hsteady, hpstate, hnames⟩ := callWord_steady _ h.inStep.steady hbytes hcall
    have htogether : Together service initial before s'.owner s'.result.out c := by
      rw [show s'.owner = s.owner from howner, show s'.result = s.result from hresult]
      exact h.withCpu hsteady
    refine afterWord_together pauth hdelivers htogether ?_ (hpstate.trans hmask) ?_ hnames
    · rw [KnownAt, show s'.owner = s.owner from howner, show s'.result = s.result from hresult]
      exact hknown
    · rw [show s'.owner = s.owner from howner]
      exact heffective

lemma dynamicTurn_together (h : TogetherAt service initial before s) (hknown : KnownAt initial s) {budget start : U64}
    {turn : Turn (ProviderState (σ × List ControlExchange) Progress τ) U32}
    (hturn : dynamicTurn caller pauth protect (silent memory) (record control) budget start s = some turn) :
    TogetherTurn service initial before turn := by
  unfold dynamicTurn at hturn
  dsimp only at hturn
  split at hturn
  · cases hturn
    exact returns_together _ h.agreed
  split at hturn
  · cases hturn
    exact refuses_together h.agreed (by decide)
  next hmatch =>
    have hmask : s.cpu.pstate &&& ~~~0xf00003cf#64 = 0#64 := by
      simp only [dynamicCpuMatch, Bool.not_eq_false, decide_eq_true_eq] at hmatch
      exact hmatch.2.2.2.2.2.2.2.2
    split at hturn
    · cases hturn
      exact refuses_together h.agreed (by decide)
    split at hturn
    · cases hturn
      exact returns_together _ (h.agreed.withCpu (bankOf_apart.pollInterrupt s.cpu))
    next hpolled =>
      rw [VfCpu.pollInterrupt_next (not_not.mp hpolled), h.inStep.effectiveControls] at hturn
      have hexchange := exchange_together hdelivers h hmask .fetch
      have hlog : (memoryExchangeVersion s.cpu (silent memory) s.owner
          (fetchRequest s.cpu (service s.owner.1).effectiveControls 3#32) s.result.out.memory 3#32).owner.2 = s.owner.2 :=
        rfl
      dsimp only at hexchange
      generalize memoryExchangeVersion s.cpu (silent memory) s.owner _ s.result.out.memory 3#32 = e
        at hturn hexchange hlog
      obtain ⟨hagreed, hexchange⟩ := hexchange
      split at hturn
      · cases hturn
        exact hagreed.withCpu rfl
      next hfetched =>
        obtain ⟨hcpu, htogether⟩ := hexchange (not_not.mp hfetched)
        split at hturn
        · cases hturn
          exact (hagreed.fails (by decide)).withCpu rfl
        · refine wordTurn_together (s := { s with
            cpu := e.cpu, owner := e.owner
            result := { s.result with out := { s.result.out with memory := e.result } } })
            caller pauth protect hdelivers ?_ ?_ ?_ ?_ _ hturn
          · dsimp only [TogetherAt]
            rw [hcpu]
            exact htogether
          · dsimp only [KnownAt]
            rw [hlog]
            exact hknown
          · dsimp only
            rw [hcpu]
            exact hmask
          · exact h.inStep.effectiveControls.symm.trans htogether.inStep.effectiveControls

lemma visits_together {budget start : U64} {s' : ProviderState (σ × List ControlExchange) Progress τ}
    (hvisits : Visits (dynamicTurn caller pauth protect (silent memory) (record control) budget start) s s')
    (h : TogetherAt service initial before s) (hknown : KnownAt initial s) : TogetherAt service initial before s' := by
  induction hvisits with
  | refl => exact h
  | tail hvisits hturn ih =>
    exact dynamicTurn_together caller pauth protect hdelivers ih
      (visits_known control caller pauth protect memory hvisits hknown) hturn

end Turns

end Together

structure AgreedRun (service : σ → MemoryServiceDynamic) (caller : Caller) (pauth : Option PauthStep) (protect : Protect τ)
    (memory : Callback σ) (control : ControlCallback σ) (initial : V2.Controls) (budget : U64)
    (s : ProviderState σ RunResultDynamic τ) : Prop where
  -- A call whose arguments are refused starts no run: it sends nothing and changes nothing but its status.
  refused : refusesRun budget initial s.cpu = true →
    vfRunMemoryProviderDynamic caller pauth protect memory control initial budget s =
      some (Status.dataFault, { s with result := (dynamicFailure s.result ProviderStatus.invalidRequest false).2 })
  -- A run ends with the state of the service, and every control exchange went as predicted or was refused.
  final : refusesRun budget initial s.cpu = false → ∃ status t log,
    vfRunMemoryProviderDynamic caller pauth protect memory control initial budget s = some (status, t) ∧
    vfRunMemoryProviderDynamic caller pauth protect (silent memory) (record control) initial budget (unrecorded s) =
      some (status, t.mapOwner fun owner => (owner, log)) ∧
    Foretold initial log ∧
    (s.result.memory.base.providerStatus ≠ ProviderStatus.invalidReply →
      t.result.memory.base.providerStatus ≠ ProviderStatus.invalidReply) ∧
    t.result.finalControl.stateTag ≠ uncertain ∧
    t.result.finalControl = (service t.owner).finalState ∧
    t.result.finalControl.architectural = bankOf t.cpu
  -- Every turn starts with the three of them in step.
  running : refusesRun budget initial s.cpu = false → ∀ s',
    Visits (dynamicTurn caller pauth protect (silent memory) (record control) budget s.cpu.retired)
        (admitted initial (unrecorded s)) s' →
      InStep (service s'.owner.1) s'.result.out.finalControl s'.cpu

/-- A run of a fresh service keeps the service, its own control record and the CPU in agreement. -/
theorem dynamic_controls_agree {service : σ → MemoryServiceDynamic} (caller : Caller) (pauth : Option PauthStep)
    (protect : Protect τ) {memory : Callback σ} {control : ControlCallback σ}
    (hdelivers : Delivers service memory control) {initial : V2.Controls} {budget : U64}
    {s : ProviderState σ RunResultDynamic τ} {ram : List Byte} {ramBase : U64} {tables : List Byte} {tableBase : U64}
    (hnew : MemoryServiceDynamic.new ram ramBase tables tableBase initial = .ok (service s.owner))
    (hcpu : bankOf s.cpu = Snapshot.fromControls initial) :
    AgreedRun service caller pauth protect memory control initial budget s := by
  have hstart : refusesRun budget initial s.cpu = false →
      TogetherAt service initial s.result.memory.base.providerStatus (admitted initial (unrecorded s)) := by
    intro hadmitted
    obtain ⟨inner, -, -, -, hservice⟩ := MemoryServiceDynamic.new_eq hnew
    simp only [refusesRun, decide_eq_false_iff_not, not_or, not_not, Bool.not_eq_false] at hadmitted
    obtain ⟨-, -, -, -, hvalid, hquiet, hlevel, -⟩ := hadmitted
    have hin : InStep (service s.owner) (initialControl initial) s.cpu := by
      refine ⟨MemoryServiceDynamic.new_banked hnew, MemoryServiceDynamic.new_admitted hnew, ?_, ?_, ?_⟩
      · rw [hservice]
      · rw [hservice]
        rfl
      · rw [hservice]
        exact ⟨hvalid, hquiet, hlevel, hcpu⟩
    exact ⟨hin, foretold_nil initial, id⟩
  have hknown : KnownAt initial (admitted initial (unrecorded s)) := known_initial initial
  refine ⟨fun hrefused => ?_, fun hadmitted => ?_, fun hadmitted s' hvisits =>
    (visits_together caller pauth protect hdelivers hvisits (hstart hadmitted) hknown).inStep⟩
  · unfold vfRunMemoryProviderDynamic
    rw [if_pos hrefused]
    rfl
  obtain ⟨out, hout, -⟩ := (dynamic_bounded caller pauth protect (silent memory) (record control) initial budget
    (unrecorded s)).ends
  obtain ⟨⟨status, u⟩, hrun, -⟩ := Option.map_eq_some_iff.mp hout
  have hview := vfRunMemoryProviderDynamic_view caller pauth protect (silent_shows memory) (record_shows control)
    initial budget (unrecorded s)
  rw [hrun] at hview
  refine ⟨status, u.mapOwner Prod.fst, u.owner.2, hview.symm, hrun, ?_⟩
  rw [vfRunMemoryProviderDynamic, show (unrecorded s).cpu = s.cpu from rfl, hadmitted, if_neg Bool.false_ne_true] at hrun
  obtain ⟨⟨status', last⟩, hloop, hlast⟩ := Option.map_eq_some_iff.mp hrun
  cases hlast
  obtain ⟨s', hvisits, hdone⟩ := last_turn hloop
  have hagreed : Agreed service initial s.result.memory.base.providerStatus last.owner last.result.out last.cpu :=
    dynamicTurn_together caller pauth protect hdelivers
      (visits_together caller pauth protect hdelivers hvisits (hstart hadmitted) hknown)
      (visits_known control caller pauth protect memory hvisits hknown) hdone
  refine ⟨hagreed.log, hagreed.status, ?_, hagreed.final, ?_⟩
  · rw [show (handBack last).mapOwner Prod.fst = _ from rfl]
    dsimp only [handBack, ProviderState.mapOwner]
    rw [hagreed.final]
    exact show Dynamic.known ≠ uncertain by decide
  · exact (congrArg Reply.architectural hagreed.final).trans hagreed.bank.symm

namespace Hosted

abbrev Counter := { n : U64 // n ≠ 0#64 }

lemma control_token {n : U64} (h : n ≠ 0#64) (s : MemoryServiceDynamic) (q : Request) : (s.control q n).2.2 ≠ 0#64 := by
  cases hres : s.control q n with
  | mk out rest =>
    obtain ⟨s', n'⟩ := rest
    cases MemoryServiceDynamic.control_cases hres with
    | rejected => exact h
    | prepare _ _ _ _ _ hwrap => exact MemoryServiceDynamic.succ_ne_zero hwrap
    | cancel => exact h
    | commit => exact h

def memory : Callback (MemoryServiceDynamic × Counter) :=
  fun owner q => (((owner.1.execute q).2, owner.2), 0#32, (owner.1.execute q).1)

def control : ControlCallback (MemoryServiceDynamic × Counter) := fun owner q =>
  (((owner.1.control q owner.2).2.1, ⟨(owner.1.control q owner.2).2.2, control_token owner.2.2 owner.1 q⟩), 0#32,
    (owner.1.control q owner.2).1)

lemma delivers : Delivers Prod.fst memory control :=
  ⟨fun _ _ => ⟨rfl, rfl⟩, fun owner _ => ⟨owner.2, owner.2.2, rfl, rfl⟩⟩

-- msr ttbr0_el1, x0, and the barrier that publishes the write
def program : List Byte := Emit.le32 0xd5182000#32 ++ Emit.le32 isbWord ++ List.replicate 8 0#8

def cpu : VfCpu := { Silent.cpu with pc := 0x1000#64, x := fun i => if i = 0 then 0x3000#64 else 0#64 }

def service : MemoryServiceDynamic :=
  { Service.Fixture.service with inner := { Service.Fixture.service.inner with ram := program } }

lemma new_service : MemoryServiceDynamic.new program 0x1000#64 Service.Fixture.tables 0x2000#64
    Service.Fixture.controls = .ok service := by
  decide

def start : ProviderState (MemoryServiceDynamic × Counter) RunResultDynamic Unit :=
  ⟨cpu, Silent.start.code, (), (service, ⟨1#64, by decide⟩), Silent.start.result, .empty⟩

end Hosted

open Hosted in
theorem dynamic_controls_agree_switch : refusesRun 2#64 Service.Fixture.controls cpu = false ∧
    MemoryServiceDynamic.new program 0x1000#64 Service.Fixture.tables 0x2000#64 Service.Fixture.controls = .ok service ∧
    bankOf cpu = Snapshot.fromControls Service.Fixture.controls ∧
    AgreedRun Prod.fst ⟨⟨0x10000#64, 0#64⟩, fun _ => ⟨.word 0#64, .word 0#64, .word 0#64, .word 0#64, .undefined⟩⟩ none
      (fun owner _ => (owner, 0#32)) memory control Service.Fixture.controls 2#64 start :=
  have hadmitted : refusesRun 2#64 Service.Fixture.controls start.cpu = false := by decide
  have hcpu : bankOf start.cpu = Snapshot.fromControls Service.Fixture.controls := by decide
  ⟨hadmitted, new_service, hcpu, dynamic_controls_agree _ none _ delivers new_service hcpu⟩

end Nextcore.Provider.DynamicRun
