import Nextcore.Service.Cold
import Nextcore.Service.Protocol

/-! The four copies of the translation registers: the architectural bank, the
effective bank, the inner controls and the walker's own configuration. In every
reachable state the last two are the effective bank. -/

namespace Nextcore.Service

open Mmu Mmu.VfMmu Abi
open Abi.Dynamic (Snapshot)

namespace MemoryServiceDynamic

def coldWalker (s : MemoryServiceDynamic) : VfMmu :=
  (VfMmu.disabled.configureStrictNc s.effective.ttbr0 s.effective.ttbr1 s.effective.tcr).1

def coldInner (s : MemoryServiceDynamic) : MemoryServiceV2 :=
  { s.inner with controls := mapped s.effective, mmu := s.coldWalker }

def coldExecute (s : MemoryServiceDynamic) (q : V2.Request) : V2.Reply × List Byte :=
  match s.refusal q with
  | some out => (out, s.inner.ram)
  | none =>
    if s.effective.sctlr &&& 1#64 ≠ 0#64 then
      let (out, ram) := s.coldInner.coldExecute (s.normalized q)
      ({ out with abiVersion := 3#32, epoch := s.epoch }, ram)
    else s.executePhysical q

structure Banked (s : MemoryServiceDynamic) : Prop where
  sound : s.Sound
  controls : s.inner.controls = mapped s.effective
  configured : VfMmu.disabled.configureStrictNc s.effective.ttbr0 s.effective.ttbr1
    s.effective.tcr = (s.inner.mmu.invalidate, true)
  coherent : s.inner.mmu.Coherent (MemoryServiceV2.tableReader s.inner.tables s.inner.tableBase)

lemma Banked.walker {s : MemoryServiceDynamic} (hs : s.Banked) :
    s.coldWalker = s.inner.mmu.invalidate := by
  rw [coldWalker, hs.configured]

lemma Banked.mmuConfigured {s : MemoryServiceDynamic} (hs : s.Banked) : s.inner.mmu.Configured :=
  configured_tlb (configureStrictNc_configured hs.configured).1 s.inner.mmu.tlb s.inner.mmu.next

lemma Banked.warm {s : MemoryServiceDynamic} (hs : s.Banked) : s.coldInner.Warm s.inner.mmu :=
  ⟨hs.mmuConfigured, hs.coherent, by
    have hcold : s.coldInner.mmu = s.inner.mmu.invalidate := hs.walker
    rw [hcold]
    rfl⟩

lemma new_banked {ram : List Byte} {ramBase : U64} {tables : List Byte} {tableBase : U64}
    {controls : V2.Controls} {s : MemoryServiceDynamic}
    (h : new ram ramBase tables tableBase controls = .ok s) : s.Banked := by
  have hsound := new_sound h
  obtain ⟨inner, -, -, hinner, rfl⟩ := new_eq h
  unfold MemoryServiceV2.new at hinner
  split at hinner
  · cases hinner
  split at hinner
  · cases hinner
  split at hinner
  · cases hinner
  rename_i mmu hmmu
  cases hinner
  refine ⟨hsound, rfl, ?_, (configureStrictNc_configured hmmu).2 _⟩
  dsimp only
  rw [configureStrictNc_empty hmmu]
  exact hmmu

lemma Banked.enact {s : MemoryServiceDynamic} (hs : s.Banked) {q : Dynamic.Request} {p : Proposal}
    (hp : Proposes s q p) : (s.enact p).Banked := by
  have hsound := hs.sound.enact hp
  cases hp with
  | write => exact ⟨hsound, rfl, hs.configured, hs.coherent⟩
  | enable => exact ⟨hsound, rfl, hs.configured, hs.coherent⟩
  | publish walker _ _ _ hconf =>
    refine ⟨hsound, rfl, ?_, (configureStrictNc_configured hconf).2 _⟩
    dsimp only [MemoryServiceDynamic.enact]
    rw [configureStrictNc_empty hconf]
    exact configureStrictNc_any hconf _
  | invalidate => exact ⟨hsound, rfl, hs.configured, coherent_of_empty rfl _⟩
  | nothing => exact ⟨hsound, rfl, hs.configured, hs.coherent⟩

lemma Banked.control {s : MemoryServiceDynamic} (hs : s.Banked) (q : Dynamic.Request) (n : U64) :
    (s.control q n).2.1.Banked := by
  have hsound := hs.sound.control q n
  rcases hres : s.control q n with ⟨out, s', n'⟩
  rw [hres] at hsound
  cases control_cases hres with
  | rejected => exact hs
  | prepare => exact ⟨hsound, hs.controls, hs.configured, hs.coherent⟩
  | cancel => exact ⟨hsound, hs.controls, hs.configured, hs.coherent⟩
  | commit p _ hslot => exact hs.enact (propose_proposes (hs.sound.current p hslot).proposes)

lemma Banked.execute {s : MemoryServiceDynamic} (hs : s.Banked) (q : V2.Request) :
    (s.execute q).2.Banked := by
  have hf := execute_follows s q
  obtain ⟨calls, hcalls⟩ := hf.inner.mmu
  refine ⟨hs.sound.execute q, ?_, ?_, ?_⟩
  · rw [hf.inner.controls, hf.effective]
    exact hs.controls
  · rw [hf.effective, hcalls, afterCalls_invalidate]
    exact hs.configured
  · rw [hcalls, hf.inner.tables, hf.inner.tableBase]
    exact (afterCalls_preserves calls hs.mmuConfigured hs.coherent).2

lemma sameReply_relabel {warm cold : V2.Reply} (h : MemoryServiceV2.SameReply warm cold)
    (version : U32) (epoch : U64) :
    MemoryServiceV2.SameReply { warm with abiVersion := version, epoch := epoch }
      { cold with abiVersion := version, epoch := epoch } := by
  rcases h with rfl | ⟨hfault, hcontext, rfl⟩
  · exact .inl rfl
  · exact .inr ⟨hfault, hcontext, rfl⟩

lemma Banked.refines {s : MemoryServiceDynamic} (hs : s.Banked) (q : V2.Request) :
    MemoryServiceV2.SameReply (s.execute q).1 (s.coldExecute q).1 ∧
      (s.execute q).2.inner.ram = (s.coldExecute q).2 := by
  have hinner : s.inner = { s.coldInner with mmu := s.inner.mmu } := by
    unfold coldInner
    rw [← hs.controls]
  obtain ⟨hreply, m, -, hstate⟩ := hs.warm.executeCounted (s.normalized q) s.tableReads
  rw [← hinner] at hreply hstate
  unfold MemoryServiceDynamic.execute coldExecute
  cases s.refusal q with
  | some out => exact ⟨.inl rfl, rfl⟩
  | none =>
    dsimp only
    split
    · refine ⟨sameReply_relabel hreply _ _, ?_⟩
      dsimp only
      rw [hstate]
    · exact ⟨.inl rfl, rfl⟩

def withMmu (s : MemoryServiceDynamic) (m : VfMmu) : MemoryServiceDynamic :=
  { s with inner := { s.inner with mmu := m } }

lemma physicalBytes_withMmu (s : MemoryServiceDynamic) (m : VfMmu) (q : V2.Request)
    (remaining byte : ℕ) :
    (s.withMmu m).physicalBytes q remaining byte = s.physicalBytes q remaining byte := by
  induction remaining generalizing byte with
  | zero => rfl
  | succ remaining ih =>
    have hbyte : (s.withMmu m).physicalByte q byte = s.physicalByte q byte := rfl
    simp only [physicalBytes, ih, hbyte]

lemma executePhysical_withMmu (s : MemoryServiceDynamic) (m : VfMmu) (q : V2.Request) :
    (s.withMmu m).executePhysical q = s.executePhysical q := by
  unfold executePhysical
  rw [physicalBytes_withMmu]
  rfl

lemma execute_withMmu {s : MemoryServiceDynamic} (hoff : s.effective.sctlr &&& 1#64 = 0#64)
    (m : VfMmu) (q : V2.Request) :
    (s.withMmu m).execute q = ((s.execute q).1, (s.execute q).2.withMmu m) := by
  have hrefusal : (s.withMmu m).refusal q = s.refusal q := rfl
  have hoff' : ¬(s.withMmu m).effective.sctlr &&& 1#64 ≠ 0#64 := not_not.mpr hoff
  unfold MemoryServiceDynamic.execute
  rw [hrefusal]
  cases s.refusal q with
  | some out => rfl
  | none =>
    dsimp only
    rw [if_neg hoff', if_neg (not_not.mpr hoff), executePhysical_withMmu]
    rfl

structure BankCoherent (s : MemoryServiceDynamic) : Prop where
  controls : s.inner.controls = mapped s.effective
  -- Up to its TLB, the walker is the one configured for the effective registers.
  configured : VfMmu.disabled.configureStrictNc s.effective.ttbr0 s.effective.ttbr1
    s.effective.tcr = (s.inner.mmu.invalidate, true)
  -- A clear `SCTLR.M` keeps the walker out of every data request.
  bypassed : s.effective.sctlr &&& 1#64 = 0#64 → ∀ m q,
    (s.withMmu m).execute q = ((s.execute q).1, (s.execute q).2.withMmu m)
  refused : s.prepared.isSome = true → ∀ q, s.execute q = (s.dataError V2.invalidRequest 0#64, s)
  translations : ∀ va access el,
    SameAnswer
      (s.inner.mmu.translateDetailed va access el
        (MemoryServiceV2.tableReader s.inner.tables s.inner.tableBase)).1
      (s.coldWalker.translateDetailed va access el
        (MemoryServiceV2.tableReader s.inner.tables s.inner.tableBase)).1
  replies : ∀ q, MemoryServiceV2.SameReply (s.execute q).1 (s.coldExecute q).1 ∧
    (s.execute q).2.inner.ram = (s.coldExecute q).2

lemma Banked.bankCoherent {s : MemoryServiceDynamic} (hs : s.Banked) : s.BankCoherent where
  controls := hs.controls
  configured := hs.configured
  bypassed := fun hoff m q => execute_withMmu hoff m q
  refused := by
    intro hslot q
    obtain ⟨p, hp⟩ := Option.isSome_iff_exists.mp hslot
    exact execute_prepared hp q
  translations := by
    intro va access el
    rw [hs.walker]
    exact translate_same_answer hs.mmuConfigured hs.coherent va access el
  replies := hs.refines

end MemoryServiceDynamic

namespace Exchange

def WalkerMoves (x : Exchange) : Prop :=
  ∀ q, x.event = .control q →
    x.after.service.inner.mmu = x.before.service.inner.mmu ∨
    (committed x = some q ∧ q.operation = Dynamic.tlbi ∧
      x.after.service.inner.mmu = x.before.service.inner.mmu.invalidate) ∨
    (committed x = some q ∧ q.operation = Dynamic.isb ∧
      x.before.service.architectural ≠ x.before.service.effective ∧
      x.after.service.inner.mmu.tlb = Vector.replicate 16 tlbEntry)

def FlushesOnPublish (x : Exchange) : Prop :=
  x.after.service.effective ≠ x.before.service.effective →
    ∀ e ∈ x.after.service.inner.mmu.tlb, e.valid = false

end Exchange

namespace Host

open Exchange MemoryServiceDynamic

def Banked (h : Host) : Prop := h.service.Banked

lemma step_banked (h : Host) (e : Event) (hs : h.Banked) : (h.step e).2.Banked := by
  cases e with
  | control q => exact MemoryServiceDynamic.Banked.control hs q h.nextToken
  | execute q => exact MemoryServiceDynamic.Banked.execute hs q
  | draw => rw [Banked, draw_service]; exact hs

lemma publish_empty {m walker : VfMmu} {ttbr0 ttbr1 tcr : U64}
    (h : m.configureStrictNc ttbr0 ttbr1 tcr = (walker, true)) :
    walker.tlb = Vector.replicate 16 tlbEntry := by
  rw [← configureStrictNc_empty h]
  rfl

lemma flushesOnPublish {h : Host} (hs : h.Banked) (e : Event) :
    FlushesOnPublish (Run.entry step h e) := by
  cases effect hs.sound e with
  | commit q p pr _ _ _ _ hproposes hafter =>
    simp only [FlushesOnPublish, Run.entry, hafter]
    cases hproposes with
    | publish walker _ _ _ hconf =>
      intro _ entry hentry
      simp only [MemoryServiceDynamic.enact, publish_empty hconf] at hentry
      rw [(Vector.mem_replicate.mp hentry).2]
      rfl
    | write => exact fun hne => (hne rfl).elim
    | enable => exact fun hne => (hne rfl).elim
    | invalidate => exact fun hne => (hne rfl).elim
    | nothing => exact fun hne => (hne rfl).elim
  | idle _ _ hidle => exact fun hne => (hne hidle.effective).elim

lemma walkerMoves {h : Host} (hs : h.Banked) (e : Event) : WalkerMoves (Run.entry step h e) := by
  rintro q rfl
  obtain ⟨out, s, n, hstep, hx⟩ := control_entry h q
  rw [hx]
  cases hstep with
  | rejected => exact .inl rfl
  | prepare => exact .inl rfl
  | cancel => exact .inl rfl
  | commit p hphase hslot hnames =>
    have hproposes := Sound.proposes hs.sound hslot
    have hcommitted : committed ⟨h, .control q, .control { p.reply with
        phase := Dynamic.commit, stateTag := Dynamic.known, token := 0#64 },
        ⟨h.service.install p, h.nextToken⟩⟩ = some q := if_pos ⟨hphase, hproposes.result⟩
    rw [hcommitted, ← hnames.fields.1]
    generalize hpr : (⟨{ p.reply with token := 0#64 }, p.mmu, p.enablePc⟩ : Proposal) = pr
      at hproposes
    have hmmu : (h.service.install p).inner.mmu = pr.mmu := by rw [← hpr]; rfl
    rw [hmmu]
    cases hproposes with
    | write => exact .inl rfl
    | enable => exact .inl rfl
    | publish walker hop hpending _ hconf =>
      exact .inr (.inr ⟨rfl, hop, hpending, publish_empty hconf⟩)
    | invalidate hop => exact .inr (.inl ⟨rfl, hop, rfl⟩)
    | nothing => exact .inl rfl

end Host

/-- Effective-bank coherence over every run of a fresh service. -/
theorem effective_bank_coherent {ram : List Byte} {ramBase : U64} {tables : List Byte}
    {tableBase : U64} {controls : V2.Controls} {s : MemoryServiceDynamic}
    (hnew : MemoryServiceDynamic.new ram ramBase tables tableBase controls = .ok s)
    (nextToken : U64) (events : List Event) :
    (Run.final Host.step ⟨s, nextToken⟩ events).service.BankCoherent ∧
      ∀ x ∈ Run.log Host.step ⟨s, nextToken⟩ events,
        Exchange.FlushesOnPublish x ∧ Exchange.WalkerMoves x := by
  have hs : Host.Banked ⟨s, nextToken⟩ := MemoryServiceDynamic.new_banked hnew
  refine ⟨?_, fun x hx => ?_⟩
  · exact (Run.final_invariant (C := fun _ => True) (fun h e hs _ => Host.step_banked h e hs) events
      (fun _ _ => trivial) hs).bankCoherent
  · obtain ⟨hbefore, hentry⟩ := Run.mem_log Host.step_banked events hs hx
    rw [hentry]
    exact ⟨Host.flushesOnPublish hbefore x.event, Host.walkerMoves hbefore x.event⟩

namespace Enabling

def controls : V2.Controls := { Fixture.controls with ttbr0 := 0x2000#64 }

def switchedOff : Snapshot := Snapshot.fromControls controls

def switchedOn : Snapshot := { switchedOff with sctlr := switchedOff.sctlr ||| 1#64 }

-- an ISB at 0x1008 and a word behind it
def ram : List Byte := List.replicate 8 0#8 ++ [0xdf#8, 0x3f#8, 0x03#8, 0xd5#8, 1#8, 2#8, 3#8, 4#8]

-- a table that is its own first entry, down to the page at 0x1000 in the second
def tables : List Byte := [0x03#8, 0x20#8, 0#8, 0#8, 0#8, 0#8, 0#8, 0#8, 0x03#8, 0x14#8, 0#8, 0#8, 0#8, 0#8, 0#8, 0#8]

def service : MemoryServiceDynamic :=
  ⟨⟨ram, 0x1000#64, tables, 0x2000#64, mapped switchedOff,
    (VfMmu.disabled.configureStrictNc 0x2000#64 0#64 0x80100010#64).1⟩,
    switchedOff, switchedOff, 1#64, 1#64, 0#64, none, none, 0#64⟩

def request (phase operation selector : U32) (pc operand revision : U64) (before : Snapshot) : Dynamic.Request :=
  ⟨1#32, 192#32, phase, operation, selector, 1#32, 0#32, 0#32, pc, operand, revision, 1#64, before, switchedOn⟩

def load (controls : V2.Controls) : V2.Request :=
  ⟨3#32, 160#32, opLoad, 0#32, 4#32, 1#32, 1#32, 0#32, 0x1008#64, 0x100c#64, 0#64, 0#64, 0x3c5#64, controls, 0#64⟩

def events : List Event :=
  [.execute (load controls),
    .control (request Dynamic.prepare Dynamic.write Dynamic.selSctlr 0x1004#64 switchedOn.sctlr 1#64 switchedOff),
    .execute (load controls),
    .control (request Dynamic.commit Dynamic.write Dynamic.selSctlr 0x1004#64 1#64 1#64 switchedOff),
    .control (request Dynamic.prepare Dynamic.isb 0#32 0x1008#64 0#64 2#64 switchedOn),
    .control (request Dynamic.commit Dynamic.isb 0#32 0x1008#64 2#64 2#64 switchedOn),
    .execute (load { controls with sctlr := switchedOn.sctlr, epoch := 2#64 })]

def served (x : Exchange) : Option (U32 × U64) :=
  match x.answer with
  | .execute out => some (out.result, out.value0)
  | _ => none

end Enabling

open Enabling in
theorem effective_bank_coherent_enable :
    MemoryServiceDynamic.new ram 0x1000#64 tables 0x2000#64 controls = .ok service ∧
      (Run.final Host.step ⟨service, 1#64⟩ events).service.BankCoherent ∧
      (∀ x ∈ Run.log Host.step ⟨service, 1#64⟩ events, Exchange.FlushesOnPublish x ∧ Exchange.WalkerMoves x) ∧
      (Run.log Host.step ⟨service, 1#64⟩ events).filterMap served =
        [(V2.ok, 0x04030201#64), (V2.invalidRequest, 0#64), (V2.ok, 0x04030201#64)] ∧
      (Run.final Host.step ⟨service, 1#64⟩ events).service.effective = switchedOn := by
  have hnew : MemoryServiceDynamic.new ram 0x1000#64 tables 0x2000#64 controls = .ok service := by decide +kernel
  obtain ⟨hcoherent, hexchanges⟩ := effective_bank_coherent hnew 1#64 events
  refine ⟨hnew, hcoherent, hexchanges, ?_, ?_⟩
  · decide +kernel
  · decide +kernel

end Nextcore.Service
