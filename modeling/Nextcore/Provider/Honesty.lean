import Nextcore.Provider.Progress
import Nextcore.Provider.Recorded

/-! What the dynamic run says about the service at its end: the state that was acknowledged last, and whether a commit was
left without an answer. -/

namespace Nextcore.Provider.DynamicRun

open Abi Abi.Dynamic Cpu Jit Loop Recorder

abbrev ControlExchange := Exchange Request U32 Reply

def advance (held : Reply) (q : Request) : Reply :=
  if q.operation = write then { held with architectural := q.candidate, revision := held.revision + 1#64 }
  else if q.operation = isb ∧ held.architectural ≠ held.effective then
    { held with effective := held.architectural, epoch := held.epoch + 1#64 }
  else if q.operation = tlbi then { held with invalidations := held.invalidations + 1#64 }
  else held

def acknowledgement (held : Reply) (q : Request) : Reply :=
  { advance held q with phase := commit, operation := q.operation, selector := q.selector }

def acknowledges (held : Reply) (x : ControlExchange) : Bool :=
  x.request.phase = commit ∧ x.code = 0#32 ∧ x.reply = acknowledgement held x.request

def note (held : Reply) (x : ControlExchange) : Reply :=
  if acknowledges held x = true then advance held x.request else held

def lastAcknowledged (initial : V2.Controls) (log : List ControlExchange) : Reply :=
  log.foldl note (initialControl initial)

def Unanswered (initial : V2.Controls) (log : List ControlExchange) : Prop :=
  ∃ earlier x, log = earlier ++ [x] ∧ x.request.phase = commit ∧
    acknowledges (lastAcknowledged initial earlier) x = false

variable {initial : V2.Controls} {log : List ControlExchange} {x : ControlExchange}

lemma lastAcknowledged_concat (initial : V2.Controls) (log : List ControlExchange) (x : ControlExchange) :
    lastAcknowledged initial (log ++ [x]) = note (lastAcknowledged initial log) x := by
  unfold lastAcknowledged
  rw [List.foldl_append]
  rfl

lemma unanswered_concat : Unanswered initial (log ++ [x]) ↔ x.request.phase = commit ∧
    acknowledges (lastAcknowledged initial log) x = false := by
  constructor
  · rintro ⟨earlier, y, hlog, hy⟩
    obtain ⟨rfl, hxy⟩ := List.append_inj' hlog rfl
    cases hxy
    exact hy
  · exact fun h => ⟨log, x, rfl, h⟩

section Settled

structure Settled (held : Reply) : Prop where
  phase : held.phase = 0#32
  operation : held.operation = 0#32
  selector : held.selector = 0#32
  stateTag : held.stateTag = Dynamic.known
  token : held.token = 0#64

lemma settled_initial (initial : V2.Controls) : Settled (initialControl initial) := ⟨rfl, rfl, rfl, rfl, rfl⟩

lemma Settled.advance {held : Reply} (h : Settled held) (q : Request) : Settled (advance held q) := by
  unfold DynamicRun.advance
  split
  · exact ⟨h.phase, h.operation, h.selector, h.stateTag, h.token⟩
  split
  · exact ⟨h.phase, h.operation, h.selector, h.stateTag, h.token⟩
  split
  · exact ⟨h.phase, h.operation, h.selector, h.stateTag, h.token⟩
  · exact h

lemma settled_lastAcknowledged (initial : V2.Controls) (log : List ControlExchange) :
    Settled (lastAcknowledged initial log) := by
  induction log using List.reverseRecOn with
  | nil => exact settled_initial initial
  | append_singleton log x ih =>
    rw [lastAcknowledged_concat]
    unfold note
    split
    · exact ih.advance x.request
    · exact ih

lemma Settled.unnamed {held : Reply} (h : Settled held) :
    { held with phase := 0#32, operation := 0#32, selector := 0#32 } = held := by
  obtain ⟨hphase, hoperation, hselector, -, -⟩ := h
  cases held
  cases hphase
  cases hoperation
  cases hselector
  rfl

lemma Settled.tagged {held : Reply} (h : Settled held) : { held with stateTag := Dynamic.known, token := 0#64 } = held := by
  obtain ⟨-, -, -, htag, htoken⟩ := h
  cases held
  cases htag
  cases htoken
  rfl

end Settled

lemma expectedReply_advance {q : Request} {held expected : Reply} (h : expectedReply q held = some expected) :
    expected = { advance held q with
      phase := prepare, operation := q.operation, selector := q.selector, stateTag := proposed, token := 0#64 } := by
  unfold expectedReply at h
  dsimp only at h
  unfold advance
  by_cases hwrite : q.operation = write
  · rw [if_pos hwrite] at h ⊢
    split at h
    · cases h
    · cases h
      rfl
  rw [if_neg hwrite] at h ⊢
  by_cases hisb : q.operation = isb ∧ held.architectural ≠ held.effective
  · rw [if_pos hisb] at h ⊢
    split at h
    · cases h
    · cases h
      rfl
  rw [if_neg hisb] at h ⊢
  by_cases htlbi : q.operation = tlbi
  · rw [if_pos htlbi] at h ⊢
    split at h
    · cases h
    · cases h
      rfl
  rw [if_neg htlbi] at h ⊢
  cases h
  rfl

section Records

variable {σ τ : Type}

def Known (initial : V2.Controls) (log : List ControlExchange) (final : Reply) : Prop :=
  final = lastAcknowledged initial log ∧ ¬Unanswered initial log

def Lost (initial : V2.Controls) (log : List ControlExchange) (final : Reply) : Prop :=
  final = { lastAcknowledged initial log with stateTag := uncertain } ∧ Unanswered initial log

lemma known_initial (initial : V2.Controls) : Known initial [] (initialControl initial) := by
  refine ⟨rfl, ?_⟩
  rintro ⟨earlier, x, hlog, -⟩
  exact List.append_ne_nil_of_right_ne_nil earlier (List.cons_ne_nil x []) hlog.symm

lemma Known.prepared {final : Reply} (h : Known initial log final) (hx : x.request.phase ≠ commit) :
    Known initial (log ++ [x]) final := by
  obtain ⟨hfinal, -⟩ := h
  have hacknowledges : acknowledges (lastAcknowledged initial log) x = false :=
    decide_eq_false fun h => hx h.1
  refine ⟨?_, fun h => hx (unanswered_concat.mp h).1⟩
  rw [lastAcknowledged_concat, note, hacknowledges]
  exact hfinal

lemma Known.acknowledged {final : Reply} (h : Known initial log final) (hx : acknowledges final x = true) :
    Known initial (log ++ [x]) (advance final x.request) := by
  obtain ⟨rfl, -⟩ := h
  refine ⟨?_, fun h => ?_⟩
  · rw [lastAcknowledged_concat, note, if_pos hx]
  · have hfails := (unanswered_concat.mp h).2
    rw [hx] at hfails
    cases hfails

lemma Known.lost {final : Reply} (h : Known initial log final) (hphase : x.request.phase = commit)
    (hx : acknowledges final x = false) : Lost initial (log ++ [x]) { final with stateTag := uncertain } := by
  obtain ⟨rfl, -⟩ := h
  refine ⟨?_, unanswered_concat.mpr ⟨hphase, hx⟩⟩
  rw [lastAcknowledged_concat, note, hx]
  rfl

variable (control : ControlCallback σ)

def Honest (initial : V2.Controls) (step : Controlled (σ × List ControlExchange)) : Prop :=
  Known initial step.owner.2 step.out.finalControl ∨
    step.status = Status.dataFault ∧ Lost initial step.owner.2 step.out.finalControl

lemma commitStep_honest (cpu : VfCpu) {owner : σ × List ControlExchange} {out : RunResultDynamic} {q : Request}
    (h : Known initial owner.2 out.finalControl) (hphase : q.phase = commit) :
    Honest initial (commitStep cpu (record control) owner q (acknowledgement out.finalControl q) out) := by
  have hsettled : Settled out.finalControl := by
    rw [h.1]
    exact settled_lastAcknowledged initial owner.2
  unfold commitStep
  dsimp only [record]
  split
  next hcode =>
    exact .inr ⟨rfl, h.lost hphase (decide_eq_false fun h => hcode h.2.1)⟩
  split
  next hreply =>
    exact .inr ⟨rfl, h.lost hphase (decide_eq_false fun h => hreply h.2.2)⟩
  next hcode hreply =>
    have hknown := h.acknowledged (x := ⟨q, (control owner.1 q).2.1, (control owner.1 q).2.2⟩)
      (decide_eq_true ⟨hphase, not_not.mp hcode, not_not.mp hreply⟩)
    rw [← (hsettled.advance q).unnamed] at hknown
    exact .inl hknown

lemma dynamicControlStep_honest (cpu : VfCpu) (op selector : U32) {owner : σ × List ControlExchange} {out : RunResultDynamic}
    (h : Known initial owner.2 out.finalControl) :
    Honest initial (dynamicControlStep cpu op selector (record control) owner out) := by
  unfold dynamicControlStep
  dsimp only
  split
  · exact .inl h
  next expected hexpected =>
    have hprepared := h.prepared (x := ⟨prepareRequest cpu op selector out.finalControl,
      (control owner.1 (prepareRequest cpu op selector out.finalControl)).2.1,
      (control owner.1 (prepareRequest cpu op selector out.finalControl)).2.2⟩)
      (show prepare ≠ commit by decide)
    split
    · exact .inl hprepared
    split
    · split
      · exact .inl hprepared
      · exact .inl hprepared
    split
    · exact .inl hprepared
    have hsettled : Settled out.finalControl := by
      rw [h.1]
      exact settled_lastAcknowledged initial owner.2
    have hsent : ∀ token, ({ expected with phase := commit, stateTag := Dynamic.known, token := 0#64 } : Reply) =
        acknowledgement out.finalControl
          { prepareRequest cpu op selector out.finalControl with phase := commit, operand := token } := by
      intro token
      rw [expectedReply_advance hexpected]
      exact congrArg (fun held : Reply => { held with phase := commit, operation := op, selector := selector })
        (hsettled.advance (prepareRequest cpu op selector out.finalControl)).tagged
    rw [hsent]
    exact commitStep_honest control cpu hprepared rfl

section Turns

variable (caller : Caller) (pauth : Option PauthStep) (protect : Protect τ) (memory : Callback σ)

def KnownAt (initial : V2.Controls) (s : ProviderState (σ × List ControlExchange) Progress τ) : Prop :=
  Known initial s.owner.2 s.result.out.finalControl

def HonestTurn (initial : V2.Controls) : Turn (ProviderState (σ × List ControlExchange) Progress τ) U32 → Prop
  | .again s => KnownAt initial s
  | .done status s => KnownAt initial s ∨ status = Status.dataFault ∧ Lost initial s.owner.2 s.result.out.finalControl

variable {s : ProviderState (σ × List ControlExchange) Progress τ}

lemma dispatch_honest (h : KnownAt initial s) (turn : Turn VfCpu U32) : HonestTurn initial (mapTurn s.put turn) := by
  cases turn with
  | again cpu => exact h
  | done status cpu => exact .inl h

lemma memoryDataStepVersion_log (cpu : VfCpu) (controls : V2.Controls) (owner : σ × List ControlExchange)
    (result : RunResultV2) (version : U32) :
    (memoryDataStepVersion cpu controls (silent memory) owner result version).owner.2 = owner.2 := by
  unfold memoryDataStepVersion
  cases decodeMemory cpu.instruction with
  | none => rfl
  | some shape =>
    dsimp only
    split
    · rfl
    split
    · rfl
    · rfl

lemma dataTurn_honest (h : KnownAt initial s) (effective : V2.Controls) (cpu : VfCpu) :
    HonestTurn initial (dataTurn (silent memory) s effective cpu) := by
  have hknown : Known initial
      (memoryDataStepVersion cpu effective (silent memory) s.owner s.result.out.memory 3#32).owner.2
      s.result.out.finalControl := by
    rw [memoryDataStepVersion_log]
    exact h
  unfold dataTurn
  dsimp only
  split
  · exact .inl hknown
  · exact hknown

lemma controlTurn_honest (h : KnownAt initial s) (cpu : VfCpu) (op selector : U32) :
    HonestTurn initial (controlTurn (record control) s cpu op selector) := by
  have hstep := dynamicControlStep_honest control cpu op selector h
  unfold controlTurn
  dsimp only
  split
  · exact hstep
  next hnext =>
    rcases hstep with hknown | ⟨hstatus, -⟩
    · dsimp only [HonestTurn, KnownAt]
      split
      · split
        · exact hknown
        · exact hknown
      · split
        · exact hknown
        · exact hknown
    · rw [hstatus] at hnext
      exact absurd (show Status.dataFault ≠ Status.next by decide) hnext

lemma afterWord_honest (h : KnownAt initial s) (effective : V2.Controls) (instruction status : U32) (cpu : VfCpu) :
    HonestTurn initial (afterWord pauth (silent memory) (record control) s effective instruction status cpu) := by
  unfold afterWord
  split
  · exact dataTurn_honest memory h effective cpu
  split
  · cases dynamicOperation instruction with
    | none => exact dispatch_honest h _
    | some out => exact controlTurn_honest control h cpu out.1 out.2
  · exact dispatch_honest h _

def preparedState {S : Type} : Prepared S → S
  | .ready s _ => s
  | .fails _ s => s

lemma preparePlain_kept {σ R : Type} (protect : Protect τ) (s : ProviderState σ R τ) (instruction : U32) :
    (preparedState (preparePlain protect s instruction)).cpu = s.cpu ∧
      (preparedState (preparePlain protect s instruction)).owner = s.owner ∧
      (preparedState (preparePlain protect s instruction)).result = s.result := by
  unfold preparePlain
  dsimp only
  split
  · exact ⟨rfl, rfl, rfl⟩
  split
  · exact ⟨rfl, rfl, rfl⟩
  split
  · exact ⟨rfl, rfl, rfl⟩
  · exact ⟨rfl, rfl, rfl⟩

lemma preparePlain_known (h : KnownAt initial s) (instruction : U32) :
    KnownAt initial (preparedState (preparePlain protect s instruction)) := by
  obtain ⟨-, howner, hresult⟩ := preparePlain_kept protect s instruction
  rw [KnownAt, howner, hresult]
  exact h

lemma wordTurn_honest (effective : V2.Controls) (instruction : U32)
    {prepared : Prepared (ProviderState (σ × List ControlExchange) Progress τ)}
    (h : KnownAt initial (preparedState prepared)) {turn : Turn (ProviderState (σ × List ControlExchange) Progress τ) U32}
    (hturn : wordTurn caller pauth (silent memory) (record control) effective instruction prepared = some turn) :
    HonestTurn initial turn := by
  cases prepared with
  | fails status s =>
    cases hturn
    exact .inl h
  | ready s bytes =>
    obtain ⟨out, -, rfl⟩ := Option.map_eq_some_iff.mp hturn
    exact afterWord_honest control pauth memory h effective instruction _ _

lemma dynamicTurn_honest (h : KnownAt initial s) {budget start : U64}
    {turn : Turn (ProviderState (σ × List ControlExchange) Progress τ) U32}
    (hturn : dynamicTurn caller pauth protect (silent memory) (record control) budget start s = some turn) :
    HonestTurn initial turn := by
  unfold dynamicTurn at hturn
  dsimp only at hturn
  split at hturn
  · cases hturn
    exact .inl h
  split at hturn
  · cases hturn
    exact .inl h
  split at hturn
  · cases hturn
    exact .inl h
  split at hturn
  · cases hturn
    exact .inl h
  split at hturn
  · cases hturn
    exact .inl h
  split at hturn
  · cases hturn
    exact .inl h
  · exact wordTurn_honest control caller pauth memory _ _ (preparePlain_known protect (by exact h) _) hturn

lemma visits_known {budget start : U64} {s' : ProviderState (σ × List ControlExchange) Progress τ}
    (hvisits : Visits (dynamicTurn caller pauth protect (silent memory) (record control) budget start) s s')
    (h : KnownAt initial s) : KnownAt initial s' := by
  induction hvisits with
  | refl => exact h
  | tail _ hturn ih => exact dynamicTurn_honest control caller pauth protect memory ih hturn

end Turns

abbrev unrecorded {R : Type} (s : ProviderState σ R τ) : ProviderState (σ × List ControlExchange) R τ :=
  s.mapOwner fun owner => (owner, [])

structure HonestRun (caller : Caller) (pauth : Option PauthStep) (protect : Protect τ) (memory : Callback σ)
    (control : ControlCallback σ) (initial : V2.Controls) (budget : U64) (s : ProviderState σ RunResultDynamic τ) :
    Prop where
  -- The run ends with the state acknowledged last, uncertain where it failed between a commit and its
  -- acknowledgement.
  final : ∃ status t log,
    vfRunMemoryProviderDynamic caller pauth protect memory control initial budget s = some (status, t) ∧
    vfRunMemoryProviderDynamic caller pauth protect (silent memory) (record control) initial budget (unrecorded s) =
      some (status, t.mapOwner fun owner => (owner, log)) ∧
    (t.result.finalControl = lastAcknowledged initial log ∨
      t.result.finalControl = { lastAcknowledged initial log with stateTag := uncertain }) ∧
    (t.result.finalControl.stateTag = uncertain ↔ status = Status.dataFault ∧ Unanswered initial log)
  -- Every turn starts with the state acknowledged last.
  running : ∀ s', Visits (dynamicTurn caller pauth protect (silent memory) (record control) budget s.cpu.retired)
      (admitted initial (unrecorded s)) s' →
    s'.result.out.finalControl = lastAcknowledged initial s'.owner.2 ∧ ¬Unanswered initial s'.owner.2
  -- A control step that fails leaves the CPU as it is.
  failed : ∀ (cpu : VfCpu) (op selector : U32) (owner : σ) (out : RunResultDynamic),
    (dynamicControlStep cpu op selector control owner out).status ≠ Status.next →
    (dynamicControlStep cpu op selector control owner out).cpu = cpu

/-- Whatever its callbacks answer, a run that has admitted its arguments is honest about the service. -/
theorem dynamic_controls_honest (caller : Caller) (pauth : Option PauthStep) (protect : Protect τ) (memory : Callback σ)
    (control : ControlCallback σ) {initial : V2.Controls} {budget : U64} {s : ProviderState σ RunResultDynamic τ}
    (hadmitted : refusesRun budget initial s.cpu = false) :
    HonestRun caller pauth protect memory control initial budget s := by
  have hstart : KnownAt initial (admitted initial (unrecorded s)) :=
    known_initial initial
  refine ⟨?_, fun s' hvisits => visits_known control caller pauth protect memory hvisits hstart, ?_⟩
  · obtain ⟨out, hout, -⟩ := (dynamic_bounded caller pauth protect (silent memory) (record control) initial budget
      (unrecorded s)).ends
    obtain ⟨⟨status, u⟩, hrun, -⟩ := Option.map_eq_some_iff.mp hout
    have hview := vfRunMemoryProviderDynamic_view caller pauth protect (silent_shows memory) (record_shows control)
      initial budget (unrecorded s)
    rw [hrun] at hview
    refine ⟨status, u.mapOwner Prod.fst, u.owner.2, hview.symm, hrun, ?_⟩
    rw [vfRunMemoryProviderDynamic, show (unrecorded s).cpu = s.cpu from rfl, hadmitted, if_neg Bool.false_ne_true] at hrun
    obtain ⟨⟨status', last⟩, hloop, hlast⟩ := Option.map_eq_some_iff.mp hrun
    cases hlast
    obtain ⟨s', hvisits, hdone⟩ := last_turn hloop
    have hknown := visits_known control caller pauth protect memory hvisits hstart
    have htag := (settled_lastAcknowledged initial last.owner.2).stateTag
    rcases dynamicTurn_honest control caller pauth protect memory hknown hdone with hend | ⟨hstatus, hfinal, hsent⟩
    · refine ⟨.inl hend.1, fun huncertain => ?_, fun h => absurd h.2 hend.2⟩
      have hfinal : last.result.out.finalControl.stateTag = Dynamic.known := by
        rw [hend.1]
        exact htag
      exact absurd (hfinal.symm.trans huncertain) (by decide)
    · refine ⟨.inr hfinal, fun _ => ⟨hstatus, hsent⟩, fun _ => ?_⟩
      exact congrArg Reply.stateTag hfinal
  · intro cpu op selector owner out hfails
    rcases dynamicControlStep_cpu control cpu op selector owner out with ⟨hnext, -⟩ | ⟨-, hcpu⟩
    · exact absurd hnext hfails
    · exact hcpu

end Records

namespace Silent

def controls : V2.Controls :=
  ⟨3#32, 80#32, 2#32, 0#32, 0x30d00802#64, 0#64, 0#64, 0x80100010#64, 0x44#64, 0#64, 0#64, 1#64⟩

def cpu : VfCpu :=
  { VfCpu.reset 1#32 with
    pstate := 0x3c5#64, sctlr := controls.sctlr, ttbr0 := controls.ttbr0, ttbr1 := controls.ttbr1, tcr := controls.tcr
    mair := controls.mair }

def start : ProviderState Unit RunResultDynamic Unit :=
  ⟨cpu, ⟨List.replicate 128 0#8, 0⟩, (), (), ⟨⟨⟨0#32, 0#64, 0#64, 0#64, 0#64⟩, {}⟩, {}⟩, .empty⟩

end Silent

namespace Switching

def start : ProviderState Unit RunResultDynamic Unit :=
  { Silent.start with
    cpu := { Silent.cpu with pc := 0x1000#64, x := fun i => if i = 0 then 0x3000#64 else 0#64 } }

def caller : Caller := ⟨⟨0x10000#64, 0#64⟩, fun _ => ⟨.word 0#64, .word 0#64, .word 0#64, .word 0#64, .undefined⟩⟩

-- msr ttbr0_el1, x0 in every word
def memory : Callback Unit := fun owner q =>
  (owner, 0#32,
    { abiVersion := q.abiVersion, structSize := 128#32, level := V2.noLevel, value0 := 0xd5182000#64
      epoch := q.controls.epoch })

def control (commits : Bool) : ControlCallback Unit := fun owner q =>
  let reply := acknowledgement (initialControl Silent.controls) q
  (owner, 0#32,
    if q.phase = prepare then { reply with phase := prepare, stateTag := proposed, token := 1#64 }
    else if commits then reply
    else {})

def run (commits : Bool) : Option (U32 × ProviderState Unit RunResultDynamic Unit) :=
  vfRunMemoryProviderDynamic caller none (fun owner _ => (owner, 0#32)) memory (control commits) Silent.controls 1#64 start

end Switching

open Switching in
theorem dynamic_controls_honest_switch : refusesRun 1#64 Silent.controls start.cpu = false ∧
    (HonestRun caller none (fun owner _ => (owner, 0#32)) memory (control true) Silent.controls 1#64 start ∧
      (run true).map (fun r => (r.1, r.2.result.finalControl.stateTag, r.2.result.finalControl.architectural.ttbr0)) =
        some (Status.budget, Dynamic.known, 0x3000#64)) ∧
    HonestRun caller none (fun owner _ => (owner, 0#32)) memory (control false) Silent.controls 1#64 start ∧
      (run false).map (fun r => (r.1, r.2.result.finalControl.stateTag, r.2.result.finalControl.architectural.ttbr0)) =
        some (Status.dataFault, uncertain, 0#64) := by
  have hadmitted : refusesRun 1#64 Silent.controls start.cpu = false := by decide +kernel
  refine ⟨hadmitted, ⟨dynamic_controls_honest _ none _ memory (control true) hadmitted, ?_⟩,
    dynamic_controls_honest _ none _ memory (control false) hadmitted, ?_⟩
  · decide +kernel
  · decide +kernel

end Nextcore.Provider.DynamicRun
