import Nextcore.Lib.Run
import Nextcore.Service.Transaction

/-! Runs of a `MemoryServiceDynamic` against arbitrary callers, and the safety of
its two-phase control protocol over every run. -/

namespace Nextcore.Service

open Mmu Abi
open Abi.Dynamic (Snapshot)

structure Host where
  service : MemoryServiceDynamic
  nextToken : U64
  deriving DecidableEq, Repr

inductive Event
  | control (q : Dynamic.Request)
  | execute (q : V2.Request)
  | draw
  deriving DecidableEq, Repr

inductive Answer
  | control (out : Dynamic.Reply)
  | execute (out : V2.Reply)
  | draw
  deriving DecidableEq, Repr

abbrev Exchange := Run.Entry Host Event Answer

namespace Host

def step (h : Host) : Event → Answer × Host
  | .control q =>
    let (out, service, nextToken) := h.service.control q h.nextToken
    (.control out, ⟨service, nextToken⟩)
  | .execute q =>
    let (out, service) := h.service.execute q
    (.execute out, { h with service := service })
  | .draw => (.draw, if h.nextToken = BitVec.allOnes 64 then h
      else { h with nextToken := h.nextToken + 1#64 })

end Host

namespace MemoryServiceDynamic

structure Current (s : MemoryServiceDynamic) (p : Prepared) : Prop where
  phase : p.request.phase = Dynamic.prepare
  admits : s.Admits p.request
  proposes : s.propose p.request = .ok ⟨{ p.reply with token := 0#64 }, p.mmu, p.enablePc⟩

structure Sound (s : MemoryServiceDynamic) : Prop where
  current : ∀ p, s.prepared = some p → s.Current p
  pending : ∀ pc, s.enablePc = some pc →
    s.architectural.sctlr &&& 1#64 ≠ 0#64 ∧ s.effective.sctlr &&& 1#64 = 0#64
  ordered : s.effective.sctlr &&& 1#64 ≠ 0#64 → s.architectural.sctlr &&& 1#64 ≠ 0#64

lemma new_eq {ram : List Byte} {ramBase : U64} {tables : List Byte} {tableBase : U64}
    {controls : V2.Controls} {s : MemoryServiceDynamic}
    (h : new ram ramBase tables tableBase controls = .ok s) :
    ∃ inner, controlsValidDynamic controls = true ∧ controls.sctlr &&& 1#64 = 0#64 ∧
      MemoryServiceV2.new ram ramBase tables tableBase (mapped (Snapshot.fromControls controls)) =
        .ok inner ∧
      s = ⟨inner, Snapshot.fromControls controls, Snapshot.fromControls controls, 1#64, 1#64, 0#64,
        none, none, 0#64⟩ := by
  unfold new at h
  split at h
  · cases h
  rename_i hvalid
  rw [not_or, not_or, Bool.not_eq_false, not_not, not_not] at hvalid
  split at h
  · cases h
  dsimp only at h
  split at h
  · cases h
  rename_i inner hinner
  cases h
  exact ⟨inner, hvalid.1, hvalid.2.2, hinner, rfl⟩

lemma new_sound {ram : List Byte} {ramBase : U64} {tables : List Byte} {tableBase : U64}
    {controls : V2.Controls} {s : MemoryServiceDynamic}
    (h : new ram ramBase tables tableBase controls = .ok s) : s.Sound := by
  obtain ⟨inner, -, -, -, rfl⟩ := new_eq h
  exact ⟨fun p hp => (Option.some_ne_none p hp.symm).elim,
    fun pc hpc => (Option.some_ne_none pc hpc.symm).elim, id⟩

def enact (s : MemoryServiceDynamic) (p : Proposal) : MemoryServiceDynamic :=
  { s with
    prepared := none
    architectural := p.reply.architectural
    effective := p.reply.effective
    revision := p.reply.revision
    epoch := p.reply.epoch
    invalidations := p.reply.invalidations
    inner := { s.inner with controls := mapped p.reply.effective, mmu := p.mmu }
    enablePc := p.enablePc }

lemma Proposes.token {s : MemoryServiceDynamic} {q : Dynamic.Request} {p : Proposal}
    (h : Proposes s q p) : p.reply.token = 0#64 := by
  cases h <;> rfl

lemma written_sctlr {s : Snapshot} {selector : U32} {operand : U64}
    (h : selector ≠ Dynamic.selSctlr) : (written s selector operand).sctlr = s.sctlr := by
  unfold written
  rw [if_neg h]
  repeat' split
  all_goals rfl

lemma sctlr_enable (sctlr : U64) : (sctlr ||| 1#64) &&& 1#64 ≠ 0#64 := by
  intro h
  have := congrArg (fun v : U64 => v.getLsbD 0) h
  simp at this

lemma Sound.enact {s : MemoryServiceDynamic} (hs : s.Sound) {q : Dynamic.Request} {p : Proposal}
    (hp : Proposes s q p) : (s.enact p).Sound := by
  refine ⟨fun _ hslot => (Option.some_ne_none _ hslot.symm).elim, ?_, ?_⟩
  · intro pc hpc
    cases hp with
    | write hop hsel =>
      simp only [MemoryServiceDynamic.enact, written_sctlr hsel]
      exact hs.pending pc hpc
    | enable hop hsel hoff _ _ hoperand hquiet =>
      simp only [MemoryServiceDynamic.enact, written, if_pos hsel, hoperand]
      exact ⟨sctlr_enable _, by rw [← hoff, hquiet]; rfl⟩
    | publish => cases hpc
    | invalidate => exact hs.pending pc hpc
    | nothing => exact hs.pending pc hpc
  · cases hp with
    | write hop hsel =>
      simp only [MemoryServiceDynamic.enact, written_sctlr hsel]
      exact hs.ordered
    | enable hop hsel hoff _ _ hoperand hquiet =>
      simp only [MemoryServiceDynamic.enact, written, if_pos hsel, hoperand]
      exact fun _ => sctlr_enable _
    | publish => exact id
    | invalidate => exact hs.ordered
    | nothing => exact hs.ordered

lemma Sound.control {s : MemoryServiceDynamic} (hs : s.Sound) (q : Dynamic.Request) (n : U64) :
    (s.control q n).2.1.Sound := by
  rcases hres : s.control q n with ⟨out, s', n'⟩
  cases control_cases hres with
  | rejected => exact hs
  | prepare p hphase _ hadmits hpropose =>
    refine ⟨?_, hs.pending, hs.ordered⟩
    rintro _ ⟨rfl⟩
    refine ⟨hphase, hadmits, ?_⟩
    rw [propose_prepared, hpropose, ← (propose_proposes hpropose).token]
  | cancel => exact ⟨fun _ hslot => (Option.some_ne_none _ hslot.symm).elim, hs.pending, hs.ordered⟩
  | commit p _ hslot => exact hs.enact (propose_proposes (hs.current p hslot).proposes)

lemma Sound.execute {s : MemoryServiceDynamic} (hs : s.Sound) (q : V2.Request) :
    (s.execute q).2.Sound := by
  cases hslot : s.prepared with
  | some p => rw [execute_prepared hslot]; exact hs
  | none =>
    have hf := execute_follows s q
    refine ⟨fun p hp => ?_, ?_, ?_⟩
    · rw [hf.prepared, hslot] at hp
      cases hp
    · rw [hf.enablePc, hf.architectural, hf.effective]
      exact hs.pending
    · rw [hf.architectural, hf.effective]
      exact hs.ordered

end MemoryServiceDynamic

namespace Host

def Sound (h : Host) : Prop := h.service.Sound

lemma step_sound (h : Host) (e : Event) (hs : h.Sound) : (h.step e).2.Sound := by
  cases e with
  | control q => exact MemoryServiceDynamic.Sound.control hs q h.nextToken
  | execute q => exact MemoryServiceDynamic.Sound.execute hs q
  | draw =>
    unfold step
    dsimp only
    split <;> exact hs

end Host

namespace Exchange

def committed (x : Exchange) : Option Dynamic.Request :=
  match x.event, x.answer with
  | .control q, .control out =>
    if q.phase = Dynamic.commit ∧ out.result = Dynamic.ok then some q else none
  | _, _ => none

def Accepted (x : Exchange) : Prop :=
  match x.answer with
  | .control out => out.result = Dynamic.ok
  | .execute out => out.result ≠ V2.invalidRequest ∧ out.result ≠ V2.unsupported
  | .draw => False

def OnlySlot (x : Exchange) : Prop :=
  ∀ q out, x.event = .control q → x.answer = .control out →
    (out.result ≠ Dynamic.ok → x.after.service = x.before.service) ∧
    (q.phase = Dynamic.prepare ∨ q.phase = Dynamic.cancel →
      x.after.service = { x.before.service with prepared := x.after.service.prepared })

def OneTransaction (x : Exchange) : Prop :=
  ∀ q out p, x.event = .control q → x.answer = .control out → q.phase = Dynamic.prepare →
    x.before.service.prepared = some p →
      out.result ≠ Dynamic.ok ∧ x.after.service.prepared = some p

def Counts (a b : U64) : Prop := b = a ∨ b.toNat = a.toNat + 1

def CountersMonotone (x : Exchange) : Prop :=
  Counts x.before.service.revision x.after.service.revision ∧
    Counts x.before.service.epoch x.after.service.epoch ∧
    Counts x.before.service.invalidations x.after.service.invalidations

def EffectiveAtIsb (x : Exchange) : Prop :=
  (x.after.service.effective ≠ x.before.service.effective →
    ∃ q, x.committed = some q ∧ q.operation = Dynamic.isb) ∧
  (∀ q, x.committed = some q → q.operation = Dynamic.isb →
    x.after.service.effective = x.before.service.architectural ∧
    x.after.service.architectural = x.before.service.architectural)

def EnableKept (x : Exchange) : Prop :=
  (x.before.service.architectural.sctlr &&& 1#64 ≠ 0#64 →
    x.after.service.architectural.sctlr &&& 1#64 ≠ 0#64) ∧
  (x.before.service.effective.sctlr &&& 1#64 ≠ 0#64 →
    x.after.service.effective.sctlr &&& 1#64 ≠ 0#64)

def AtPc (pc : U64) (x : Exchange) : Prop :=
  match x.event with
  | .control q => q.operation = Dynamic.isb ∧ q.pc = pc
  | .execute q => q.operation = opFetch ∧ q.pc = pc
  | .draw => False

end Exchange

namespace Host

open Exchange MemoryServiceDynamic

lemma control_entry (h : Host) (q : Dynamic.Request) :
    ∃ out s n, ControlStep h.service q h.nextToken out s n ∧
      Run.entry step h (.control q) = ⟨h, .control q, .control out, ⟨s, n⟩⟩ :=
  ⟨_, _, _, control_step h.service q h.nextToken, rfl⟩

lemma Sound.proposes {h : Host} (hs : h.Sound) {p : Prepared} (hslot : h.service.prepared = some p) :
    Proposes h.service p.request ⟨{ p.reply with token := 0#64 }, p.mmu, p.enablePc⟩ :=
  propose_proposes (hs.current p hslot).proposes

lemma onlySlot {h : Host} (hs : h.Sound) (e : Event) : OnlySlot (Run.entry step h e) := by
  rintro q out rfl hout
  obtain ⟨out', s, n, hstep, hx⟩ := control_entry h q
  rw [hx] at hout ⊢
  cases hout
  cases hstep with
  | rejected result detail hresult => exact ⟨fun _ => rfl, fun _ => rfl⟩
  | prepare p _ _ _ hpropose =>
    exact ⟨fun hne => (hne (propose_proposes hpropose).result).elim, fun _ => rfl⟩
  | cancel => exact ⟨fun hne => (hne rfl).elim, fun _ => rfl⟩
  | commit p hphase hslot =>
    refine ⟨fun hne => (hne (hs.proposes hslot).result).elim, fun hother => ?_⟩
    rw [hphase] at hother
    exact absurd hother (by decide)

lemma oneTransaction (h : Host) (e : Event) : OneTransaction (Run.entry step h e) := by
  rintro q out p rfl hout hphase hslot
  obtain ⟨out', s, n, hstep, hx⟩ := control_entry h q
  rw [hx] at hout ⊢
  cases hout
  replace hslot : h.service.prepared = some p := hslot
  cases hstep with
  | rejected result detail hresult => exact ⟨hresult, hslot⟩
  | prepare _ _ hempty => rw [hslot] at hempty; cases hempty
  | cancel _ hcancel => rw [hphase] at hcancel; exact absurd hcancel (by decide)
  | commit _ hcommit => rw [hphase] at hcommit; exact absurd hcommit (by decide)

lemma committed_none_of_phase {h h' : Host} {q : Dynamic.Request} {out : Dynamic.Reply}
    (hq : q.phase ≠ Dynamic.commit) : committed ⟨h, .control q, .control out, h'⟩ = none :=
  if_neg fun hc => hq hc.1

lemma committed_eq_some {h h' : Host} {q q' : Dynamic.Request} {out : Dynamic.Reply}
    (hc : committed ⟨h, .control q, .control out, h'⟩ = some q') :
    q' = q ∧ q.phase = Dynamic.commit ∧ out.result = Dynamic.ok := by
  by_cases hq : q.phase = Dynamic.commit ∧ out.result = Dynamic.ok
  · exact ⟨(Option.some.inj ((if_pos hq).symm.trans hc)).symm, hq⟩
  · exact absurd ((if_neg hq).symm.trans hc) (by simp)

lemma draw_service (h : Host) : (h.step .draw).2.service = h.service := by
  unfold step
  dsimp only
  split <;> rfl

structure Idle (s s' : MemoryServiceDynamic) : Prop where
  architectural : s'.architectural = s.architectural
  effective : s'.effective = s.effective
  revision : s'.revision = s.revision
  epoch : s'.epoch = s.epoch
  invalidations : s'.invalidations = s.invalidations
  enablePc : s'.enablePc = s.enablePc

lemma Idle.refl (s : MemoryServiceDynamic) : Idle s s := ⟨rfl, rfl, rfl, rfl, rfl, rfl⟩

/-- An acknowledged commit enacts the prepared proposal; every other exchange is idle. -/
inductive Effect (h : Host) : Event → Prop
  | commit (q : Dynamic.Request) (p : Prepared) (pr : Proposal)
      (hcommitted : committed (Run.entry step h (.control q)) = some q)
      (hslot : h.service.prepared = some p) (hnames : Names q p)
      (hadmits : h.service.Admits p.request) (hproposes : Proposes h.service p.request pr)
      (hafter : (h.step (.control q)).2 = ⟨h.service.enact pr, h.nextToken⟩) :
      Effect h (.control q)
  | idle (e : Event) (hcommitted : committed (Run.entry step h e) = none)
      (hidle : Idle h.service (h.step e).2.service) : Effect h e

lemma effect {h : Host} (hs : h.Sound) (e : Event) : h.Effect e := by
  cases e with
  | control q =>
    obtain ⟨out, s, n, hstep, hx⟩ := control_entry h q
    have hafter : (h.step (.control q)).2 = ⟨s, n⟩ := congrArg Run.Entry.after hx
    cases hstep with
    | rejected result detail hresult =>
      refine .idle _ (by rw [hx]; exact if_neg fun hc => hresult hc.2) ?_
      rw [hafter]
      exact .refl _
    | prepare p hphase =>
      refine .idle _ (by rw [hx]; exact committed_none_of_phase (by rw [hphase]; decide)) ?_
      rw [hafter]
      exact ⟨rfl, rfl, rfl, rfl, rfl, rfl⟩
    | cancel p hphase =>
      refine .idle _ (by rw [hx]; exact committed_none_of_phase (by rw [hphase]; decide)) ?_
      rw [hafter]
      exact ⟨rfl, rfl, rfl, rfl, rfl, rfl⟩
    | commit p hphase hslot hnames =>
      refine .commit q p _ ?_ hslot hnames (hs.current p hslot).admits (hs.proposes hslot) hafter
      rw [hx]
      exact if_pos ⟨hphase, (hs.proposes hslot).result⟩
  | execute q =>
    have hf := execute_follows h.service q
    exact .idle _ rfl ⟨hf.architectural, hf.effective, hf.revision, hf.epoch, hf.invalidations,
      hf.enablePc⟩
  | draw =>
    refine .idle _ rfl ?_
    rw [draw_service]
    exact .refl _

lemma counts_succ {a : U64} (h : a ≠ BitVec.allOnes 64) : Counts a (a + 1#64) := by
  refine .inr ?_
  have : a.toNat ≠ 2 ^ 64 - 1 := fun hn => h (BitVec.eq_of_toNat_eq (by rw [hn]; rfl))
  bv_omega

lemma counters_enact {s : MemoryServiceDynamic} {q : Dynamic.Request} {p : Proposal}
    (hp : Proposes s q p) :
    Counts s.revision (s.enact p).revision ∧ Counts s.epoch (s.enact p).epoch ∧
      Counts s.invalidations (s.enact p).invalidations := by
  cases hp with
  | write _ _ _ _ _ _ hrevision => exact ⟨counts_succ hrevision, .inl rfl, .inl rfl⟩
  | enable _ _ _ _ _ _ _ _ hrevision => exact ⟨counts_succ hrevision, .inl rfl, .inl rfl⟩
  | publish _ _ _ hepoch => exact ⟨.inl rfl, counts_succ hepoch, .inl rfl⟩
  | invalidate _ hcount => exact ⟨.inl rfl, .inl rfl, counts_succ hcount⟩
  | nothing => exact ⟨.inl rfl, .inl rfl, .inl rfl⟩

lemma countersMonotone {h : Host} (hs : h.Sound) (e : Event) :
    CountersMonotone (Run.entry step h e) := by
  cases effect hs e with
  | commit q p pr _ _ _ _ hproposes hafter =>
    simp only [CountersMonotone, Run.entry, hafter]
    exact counters_enact hproposes
  | idle _ _ hidle => exact ⟨.inl hidle.revision, .inl hidle.epoch, .inl hidle.invalidations⟩

lemma effectiveAtIsb {h : Host} (hs : h.Sound) (e : Event) :
    EffectiveAtIsb (Run.entry step h e) := by
  cases effect hs e with
  | commit q p pr hcommitted _ hnames _ hproposes hafter =>
    have hop := hnames.fields.1
    have hboth : ((h.service.enact pr).effective ≠ h.service.effective →
          q.operation = Dynamic.isb) ∧
        (q.operation = Dynamic.isb → (h.service.enact pr).effective = h.service.architectural ∧
          (h.service.enact pr).architectural = h.service.architectural) := by
      rw [← hop]
      cases hproposes with
      | write hw => exact ⟨fun hne => (hne rfl).elim, fun hi => absurd (hw.symm.trans hi) (by decide)⟩
      | enable hw => exact ⟨fun hne => (hne rfl).elim, fun hi => absurd (hw.symm.trans hi) (by decide)⟩
      | publish _ hi => exact ⟨fun _ => hi, fun _ => ⟨rfl, rfl⟩⟩
      | invalidate ht =>
        exact ⟨fun hne => (hne rfl).elim, fun hi => absurd (ht.symm.trans hi) (by decide)⟩
      | nothing _ hquiet => exact ⟨fun hne => (hne rfl).elim, fun hi => ⟨(hquiet hi).symm, rfl⟩⟩
    simp only [EffectiveAtIsb, hcommitted, Option.some.injEq, exists_eq_left', forall_eq']
    simp only [Run.entry, hafter]
    exact hboth
  | idle _ hcommitted hidle =>
    refine ⟨fun hne => (hne hidle.effective).elim, fun q hq => ?_⟩
    rw [hcommitted] at hq
    cases hq

lemma enableKept {h : Host} (hs : h.Sound) (e : Event) : EnableKept (Run.entry step h e) := by
  cases effect hs e with
  | commit q p pr _ _ _ _ hproposes hafter =>
    simp only [EnableKept, Run.entry, hafter]
    cases hproposes with
    | write _ _ hoff => exact ⟨fun hon => (hon hoff).elim, id⟩
    | enable _ _ hoff => exact ⟨fun hon => (hon hoff).elim, id⟩
    | publish => exact ⟨id, hs.ordered⟩
    | invalidate => exact ⟨id, id⟩
    | nothing => exact ⟨id, id⟩
  | idle _ _ hidle =>
    simp only [EnableKept, Run.entry, hidle.architectural, hidle.effective]
    exact ⟨id, id⟩

lemma enable_records {h : Host} (hs : h.Sound) {e : Event} {q : Dynamic.Request}
    (hq : committed (Run.entry step h e) = some q) (hop : q.operation = Dynamic.write)
    (hsel : q.selector = Dynamic.selSctlr) :
    (h.step e).2.service.enablePc = some (q.pc + 4#64) := by
  cases effect hs e with
  | commit q' p pr hcommitted _ hnames _ hproposes hafter =>
    obtain rfl := Option.some.inj (hcommitted.symm.trans hq)
    obtain ⟨hop', hsel', hpc⟩ := hnames.fields
    rw [hop] at hop'
    rw [hafter]
    cases hproposes with
    | write _ hne => exact (hne (hsel'.trans hsel)).elim
    | enable => simp only [MemoryServiceDynamic.enact, hpc]
    | publish _ hi => exact absurd (hop'.symm.trans hi) (by decide)
    | invalidate ht => exact absurd (hop'.symm.trans ht) (by decide)
    | nothing hne => exact (hne hop').elim
  | idle _ hcommitted => rw [hcommitted] at hq; cases hq

lemma enable_stays {h : Host} (hs : h.Sound) {e : Event} {pc : U64}
    (hpc : h.service.enablePc = some pc)
    (hno : ∀ q, committed (Run.entry step h e) = some q → q.operation ≠ Dynamic.isb) :
    (h.step e).2.service.enablePc = some pc := by
  cases effect hs e with
  | commit q p pr hcommitted _ hnames hadmits =>
    exact (hno q hcommitted (hnames.fields.1 ▸ (hadmits pc hpc).1)).elim
  | idle _ _ hidle => rw [hidle.enablePc, hpc]

lemma accepted_atPc {h : Host} (hs : h.Sound) {e : Event} {pc : U64}
    (hpc : h.service.enablePc = some pc) (hx : Accepted (Run.entry step h e)) :
    AtPc pc (Run.entry step h e) := by
  cases e with
  | control q =>
    obtain ⟨out, s, n, hstep, heq⟩ := control_entry h q
    rw [heq] at hx ⊢
    have hnamed : ∀ p, h.service.prepared = some p → Names q p →
        q.operation = Dynamic.isb ∧ q.pc = pc := by
      intro p hslot hnames
      obtain ⟨hop, -, hpc'⟩ := hnames.fields
      rw [← hop, ← hpc']
      exact (hs.current p hslot).admits pc hpc
    cases hstep with
    | rejected result detail hresult => exact (hresult hx).elim
    | prepare p _ _ hadmits => exact hadmits pc hpc
    | cancel p _ hslot hnames => exact hnamed p hslot hnames
    | commit p _ hslot hnames => exact hnamed p hslot hnames
  | execute q => exact execute_pending hpc q hx.1 hx.2
  | draw => exact hx.elim

end Host

namespace Exchange

def commitTokens (log : List Exchange) : List U64 :=
  log.filterMap fun x => (committed x).map Dynamic.Request.operand

end Exchange

namespace Host

open Exchange MemoryServiceDynamic

def Drawn (h : Host) : Prop :=
  ∀ p, h.service.prepared = some p → p.reply.token.toNat < h.nextToken.toNat

lemma toNat_succ {a : U64} (h : a ≠ BitVec.allOnes 64) : (a + 1#64).toNat = a.toNat + 1 := by
  rcases counts_succ h with h | h
  · bv_omega
  · exact h

lemma token_step (h : Host) (hd : h.Drawn) (e : Event) :
    (h.step e).2.Drawn ∧ h.nextToken.toNat ≤ (h.step e).2.nextToken.toNat ∧
      (∀ p, (h.step e).2.service.prepared = some p →
        h.service.prepared = some p ∨ h.nextToken.toNat ≤ p.reply.token.toNat) ∧
      (∀ q, committed (Run.entry step h e) = some q →
        (h.step e).2.service.prepared = none ∧
          ∃ p, h.service.prepared = some p ∧ p.reply.token = q.operand) := by
  cases e with
  | control q =>
    obtain ⟨out, s, n, hstep, hx⟩ := control_entry h q
    have hafter : (h.step (.control q)).2 = ⟨s, n⟩ := congrArg Run.Entry.after hx
    rw [hafter, hx]
    cases hstep with
    | rejected result detail hresult =>
      refine ⟨hd, le_rfl, fun p hp => .inl hp, fun q' hq' => ?_⟩
      exact (hresult (committed_eq_some hq').2.2).elim
    | prepare p hphase _ _ _ hn =>
      refine ⟨?_, by rw [toNat_succ hn]; omega, ?_, fun q' hq' => ?_⟩
      · rintro _ ⟨rfl⟩
        exact lt_of_lt_of_eq (Nat.lt_succ_self _) (toNat_succ hn).symm
      · rintro _ ⟨rfl⟩
        exact .inr le_rfl
      · exact absurd (hphase.symm.trans (committed_eq_some hq').2.1) (by decide)
    | cancel p hphase =>
      refine ⟨fun _ hp => (Option.some_ne_none _ hp.symm).elim, le_rfl,
        fun _ hp => (Option.some_ne_none _ hp.symm).elim, fun q' hq' => ?_⟩
      exact absurd (hphase.symm.trans (committed_eq_some hq').2.1) (by decide)
    | commit p _ hslot hnames =>
      refine ⟨fun _ hp => (Option.some_ne_none _ hp.symm).elim, le_rfl,
        fun _ hp => (Option.some_ne_none _ hp.symm).elim, fun q' hq' => ⟨rfl, p, hslot, ?_⟩⟩
      rw [(committed_eq_some hq').1]
      exact hnames.1.symm
  | execute q =>
    have hslot := (execute_follows h.service q).prepared
    have hafter : (h.step (.execute q)).2 = ⟨(h.service.execute q).2, h.nextToken⟩ := rfl
    rw [hafter]
    refine ⟨fun p hp => hd p (hslot ▸ hp), le_rfl, fun p hp => .inl (hslot ▸ hp), fun q' hq' => ?_⟩
    cases hq'
  | draw =>
    have hnext : h.nextToken.toNat ≤ (h.step .draw).2.nextToken.toNat := by
      unfold step
      dsimp only
      split
      · exact le_rfl
      · rename_i hn
        exact (Nat.le_succ _).trans (toNat_succ hn).ge
    refine ⟨fun p hp => ?_, hnext, fun p hp => .inl (draw_service h ▸ hp), fun q' hq' => by cases hq'⟩
    exact lt_of_lt_of_le (hd p (draw_service h ▸ hp)) hnext

lemma commitTokens_nodup (events : List Event) (h : Host) (hd : h.Drawn) :
    (commitTokens (Run.log step h events)).Nodup ∧
      ∀ t ∈ commitTokens (Run.log step h events),
        (∃ p, h.service.prepared = some p ∧ p.reply.token = t) ∨ h.nextToken.toNat ≤ t.toNat := by
  induction events generalizing h with
  | nil => exact ⟨List.nodup_nil, fun t ht => by cases ht⟩
  | cons e events ih =>
    obtain ⟨hd', hnext, hslot, hcommit⟩ := token_step h hd e
    obtain ⟨hnodup, htokens⟩ := ih _ hd'
    have hlater : ∀ t ∈ commitTokens (Run.log step (h.step e).2 events),
        (∃ p, h.service.prepared = some p ∧ p.reply.token = t) ∨ h.nextToken.toNat ≤ t.toNat := by
      intro t ht
      rcases htokens t ht with ⟨p, hp, rfl⟩ | hle
      · exact (hslot p hp).imp (fun hp => ⟨p, hp, rfl⟩) id
      · exact .inr (hnext.trans hle)
    cases hc : committed (Run.entry step h e) with
    | none =>
      have hlog : commitTokens (Run.log step h (e :: events)) =
          commitTokens (Run.log step (h.step e).2 events) := by
        simp only [commitTokens, Run.log, List.filterMap_cons, hc, Option.map_none]
      rw [hlog]
      exact ⟨hnodup, hlater⟩
    | some q =>
      obtain ⟨hempty, p, hp, htoken⟩ := hcommit q hc
      have hlog : commitTokens (Run.log step h (e :: events)) =
          q.operand :: commitTokens (Run.log step (h.step e).2 events) := by
        simp only [commitTokens, Run.log, List.filterMap_cons, hc, Option.map_some]
      rw [hlog, List.nodup_cons]
      refine ⟨⟨fun hmem => ?_, hnodup⟩, ?_⟩
      · -- the slot is empty now, so a second commit of the token would need a fresh draw of it
        rcases htokens _ hmem with ⟨p', hp', -⟩ | hle
        · rw [hempty] at hp'
          cases hp'
        · have := hd p hp
          rw [htoken] at this
          omega
      · intro t ht
        rcases List.mem_cons.mp ht with rfl | ht
        · exact .inl ⟨p, hp, htoken⟩
        · exact hlater t ht

end Host

open Exchange in
structure TwoPhase (log : List Exchange) : Prop where
  onlySlot : ∀ x ∈ log, OnlySlot x
  oneTransaction : ∀ x ∈ log, OneTransaction x
  committedOnce : (commitTokens log).Nodup
  counters : ∀ x ∈ log, CountersMonotone x
  effective : ∀ x ∈ log, EffectiveAtIsb x
  enableKept : ∀ x ∈ log, EnableKept x
  -- Between a committed MMU enable and the next committed `ISB`, only a fetch or an `ISB` transaction at the recorded
  -- pc is accepted.
  pending : ∀ pre enable mid x post q, log = pre ++ enable :: (mid ++ x :: post) →
    committed enable = some q → q.operation = Dynamic.write → q.selector = Dynamic.selSctlr →
    (∀ y ∈ mid, ∀ q', committed y = some q' → q'.operation ≠ Dynamic.isb) →
    x.before.service.enablePc = some (q.pc + 4#64) ∧ (Accepted x → AtPc (q.pc + 4#64) x)

/-- Two-phase control safety over every run of a fresh service. -/
theorem two_phase_safety {ram : List Byte} {ramBase : U64} {tables : List Byte} {tableBase : U64}
    {controls : V2.Controls} {s : MemoryServiceDynamic}
    (hnew : MemoryServiceDynamic.new ram ramBase tables tableBase controls = .ok s)
    (nextToken : U64) (events : List Event) :
    TwoPhase (Run.log Host.step ⟨s, nextToken⟩ events) := by
  have hs : Host.Sound ⟨s, nextToken⟩ := MemoryServiceDynamic.new_sound hnew
  have hd : Host.Drawn ⟨s, nextToken⟩ := by
    obtain ⟨inner, -, -, -, rfl⟩ := MemoryServiceDynamic.new_eq hnew
    exact fun p hp => (Option.some_ne_none p hp.symm).elim
  have hmem := fun x => Run.mem_log (x := x) Host.step_sound events hs
  refine ⟨fun x hx => ?_, fun x hx => ?_, (Host.commitTokens_nodup events _ hd).1, fun x hx => ?_,
    fun x hx => ?_, fun x hx => ?_, ?_⟩
  · rw [(hmem x hx).2]
    exact Host.onlySlot (hmem x hx).1 x.event
  · rw [(hmem x hx).2]
    exact Host.oneTransaction x.before x.event
  · rw [(hmem x hx).2]
    exact Host.countersMonotone (hmem x hx).1 x.event
  · rw [(hmem x hx).2]
    exact Host.effectiveAtIsb (hmem x hx).1 x.event
  · rw [(hmem x hx).2]
    exact Host.enableKept (hmem x hx).1 x.event
  intro pre enable mid x post q hlog hq hop hsel hmid
  obtain ⟨hx, hxe⟩ := hmem x (by rw [hlog]; simp)
  obtain ⟨he, hee⟩ := hmem enable (by rw [hlog]; simp)
  rw [hee] at hq
  have hrecorded := Host.enable_records he hq hop hsel
  obtain ⟨events', h', hs', hsuffix⟩ := Run.log_suffix Host.step_sound events hs hlog
  have hpc : x.before.service.enablePc = some (q.pc + 4#64) := by
    cases events' with
    | nil => cases hsuffix
    | cons e events' =>
      obtain ⟨rfl, htail⟩ := List.cons.inj hsuffix
      exact Run.log_keeps Host.step_sound (fun h e hs hp hno => Host.enable_stays hs hp hno) events'
        (Host.step_sound _ _ hs') hrecorded htail.symm hmid
  refine ⟨hpc, fun hacc => ?_⟩
  rw [hxe] at hacc ⊢
  exact Host.accepted_atPc hx hpc hacc

namespace Fixture

def controls : V2.Controls :=
  ⟨3#32, 80#32, 2#32, 0#32, 0x30d00802#64, 0#64, 0#64, 0x80100010#64, 0x44#64, 0#64, 0#64, 1#64⟩

def snapshot : Snapshot := Snapshot.fromControls controls

def ram : List Byte := List.replicate 16 0#8

def tables : List Byte := List.replicate 8 0#8

def service : MemoryServiceDynamic :=
  ⟨⟨ram, 0x1000#64, tables, 0x2000#64, mapped snapshot,
    (VfMmu.disabled.configureStrictNc 0#64 0#64 0x80100010#64).1⟩,
    snapshot, snapshot, 1#64, 1#64, 0#64, none, none, 0#64⟩

lemma new_service : MemoryServiceDynamic.new ram 0x1000#64 tables 0x2000#64 controls = .ok service := by
  decide

def writeTtbr0 (phase : U32) (value operand : U64) : Dynamic.Request :=
  ⟨1#32, 192#32, phase, Dynamic.write, Dynamic.selTtbr0, 1#32, 0#32, 0#32, 0x1000#64, operand, 1#64,
    1#64, snapshot, { snapshot with ttbr0 := value }⟩

end Fixture

theorem two_phase_safety_ttbr0 :
    MemoryServiceDynamic.new Fixture.ram 0x1000#64 Fixture.tables 0x2000#64 Fixture.controls =
        .ok Fixture.service ∧
      Exchange.commitTokens (Run.log Host.step ⟨Fixture.service, 1#64⟩
        [.control (Fixture.writeTtbr0 Dynamic.prepare 0x3000#64 0x3000#64),
          .control (Fixture.writeTtbr0 Dynamic.commit 0x3000#64 1#64),
          .control (Fixture.writeTtbr0 Dynamic.commit 0x3000#64 1#64)]) = [1#64] ∧
      TwoPhase (Run.log Host.step ⟨Fixture.service, 1#64⟩
        [.control (Fixture.writeTtbr0 Dynamic.prepare 0x3000#64 0x3000#64),
          .control (Fixture.writeTtbr0 Dynamic.commit 0x3000#64 1#64),
          .control (Fixture.writeTtbr0 Dynamic.commit 0x3000#64 1#64)]) :=
  ⟨Fixture.new_service, by decide, two_phase_safety Fixture.new_service 1#64 _⟩

end Nextcore.Service
