import Nextcore.Jit.Progress
import Nextcore.Provider.DynamicRun
import Nextcore.Provider.Transparency

/-! The progress of the provider runs: every turn ends the run or retires one instruction of its budget. -/

namespace Nextcore.Provider

open Abi Cpu Jit Emit X86 Loop

variable {σ R τ : Type}

section Exchanges

variable {α : Type} {f : VfCpu → α} (hf : VfCpu.Apart f)

include hf

lemma V1.judgeReply_apart (cpu : VfCpu) (q : V1.Request) (code : U32) (r : V1.Reply) (result : RunResultV1) :
    f (V1.judgeReply cpu q code r result).2.1 = f cpu := by
  unfold V1.judgeReply
  dsimp only
  split
  · rfl
  split
  · rfl
  split
  · split <;> rfl
  split
  · rfl
  split
  · split <;> rfl
  split
  · split <;> rfl
  split
  · rfl
  split
  · rfl
  next raised hraise => exact hf.raise hraise

lemma judgeReply_apart (cpu : VfCpu) (q : V2.Request) (code : U32) (r : V2.Reply) (result : RunResultV2) (version : U32) :
    f (judgeReply cpu q code r result version).2.1 = f cpu := by
  cases hjudged : judgeReply cpu q code r result version with
  | mk status out =>
    have hverdict := judgeReply_verdict cpu q code r result version
    rw [hjudged] at hverdict
    cases hverdict with
    | success => rfl
    | error => rfl
    | fault result raised hheard hvalid hesr hlow hhigh hraise => exact hf.raise hraise

lemma V1.memoryDataStep_fails {cpu : VfCpu} {callback : V1.Callback σ} {owner : σ} {result : RunResultV1}
    (h : (V1.memoryDataStep cpu callback owner result).status ≠ Status.next) :
    f (V1.memoryDataStep cpu callback owner result).cpu = f cpu := by
  unfold V1.memoryDataStep at h ⊢
  cases hdecode : decodeMemory cpu.instruction with
  | none => exact hf.commitStatus cpu Status.undefinedInstruction
  | some shape =>
    rw [hdecode] at h
    dsimp only at h ⊢
    by_cases hsp : spMisaligned cpu shape = true
    · rw [if_pos hsp]
      exact (hf.commitStatus { cpu with far := cpu.sp } Status.spAlignmentFault).trans (hf.far cpu cpu.sp)
    rw [if_neg hsp] at h ⊢
    split at h
    next hstatus =>
      rw [if_pos hstatus]
      exact V1.judgeReply_apart hf _ _ _ _ _
    · exact absurd rfl h

lemma memoryDataStepVersion_fails {cpu : VfCpu} {controls : V2.Controls} {callback : Callback σ} {owner : σ}
    {result : RunResultV2} {version : U32}
    (h : (memoryDataStepVersion cpu controls callback owner result version).status ≠ Status.next) :
    f (memoryDataStepVersion cpu controls callback owner result version).cpu = f cpu := by
  unfold memoryDataStepVersion at h ⊢
  cases hdecode : decodeMemory cpu.instruction with
  | none => exact hf.commitStatus cpu Status.undefinedInstruction
  | some shape =>
    rw [hdecode] at h
    dsimp only at h ⊢
    by_cases hsp : spMisaligned cpu shape = true
    · rw [if_pos hsp]
      exact (hf.commitStatus { cpu with far := cpu.sp } Status.spAlignmentFault).trans (hf.far cpu cpu.sp)
    rw [if_neg hsp] at h ⊢
    split at h
    next hstatus =>
      rw [if_pos hstatus]
      exact judgeReply_apart hf _ _ _ _ _ _
    · exact absurd rfl h

omit hf

structure Protocol.Keeps (protocol : Protocol σ R) : Prop extends protocol.Counts where
  gate : ∀ cpu result out, protocol.gate cpu result = some out → out.2.1.retired = cpu.retired
  fetched : ∀ cpu owner result, (protocol.fetch cpu owner result).cpu.retired = cpu.retired
  served : ∀ cpu owner result, (protocol.data cpu owner result).status ≠ Status.next →
    (protocol.data cpu owner result).cpu.retired = cpu.retired

lemma V1.keeps (callback : V1.Callback σ) (pauth : Option PauthStep) : (V1.protocol callback pauth).Keeps := by
  refine ⟨V1.counts callback pauth, fun cpu result out h => ?_,
    fun cpu owner result => V1.judgeReply_apart VfCpu.retired_apart _ _ _ _ _,
    fun cpu owner result h => V1.memoryDataStep_fails VfCpu.retired_apart h⟩
  unfold V1.protocol at h
  dsimp only at h
  split at h
  · cases h
    rfl
  · cases h

lemma V2.keeps (callback : Callback σ) (pauth : Option PauthStep) (controls : V2.Controls) :
    (V2.protocol callback pauth controls).Keeps := by
  refine ⟨V2.counts callback pauth controls, fun cpu result out h => ?_,
    fun cpu owner result => judgeReply_apart VfCpu.retired_apart _ _ _ _ _ _,
    fun cpu owner result h => memoryDataStepVersion_fails VfCpu.retired_apart h⟩
  unfold V2.protocol at h
  dsimp only at h
  split at h
  · cases h
    rfl
  · cases h

end Exchanges

section Prepare

def PreparesWord (I : Buffer → Cache → Prop) (cpu : VfCpu) (w : U32) : Prepared (ProviderState σ R τ) → Prop
  | .ready s bytes => I s.code s.cache ∧ s.cpu = cpu ∧
      bytes.take (wordBlock cpu.currentEl w cpu.pc).length = wordBlock cpu.currentEl w cpu.pc
  | .fails _ s => s.cpu = cpu

def granted (protect : Protect τ) : Protect τ := fun o flag => ((protect o flag).1, 0#32)

variable (protect : Protect τ)

lemma granted_grants (o : τ) (flag : Bool) : (granted protect o flag).2 = 0#32 := rfl

lemma preparePlain_granted (s : ProviderState σ R τ) (w : U32) :
    (∃ status s', preparePlain protect s w = .fails status s' ∧ s'.cpu = s.cpu) ∨
      preparePlain protect s w = preparePlain (granted protect) s w := by
  unfold preparePlain granted
  dsimp only
  by_cases hwritable : (protect s.opaque_ false).2 ≠ 0#32
  · rw [if_pos hwritable]
    exact .inl ⟨_, _, rfl, rfl⟩
  rw [if_neg hwritable]
  by_cases htranslated : (translateWord s.code s.cpu w).1 ≠ Status.next
  · rw [if_pos htranslated]
    exact .inl ⟨_, _, rfl, rfl⟩
  rw [if_neg htranslated, if_neg htranslated]
  by_cases hexecutable : (protect (protect s.opaque_ false).1 true).2 ≠ 0#32
  · rw [if_pos hexecutable]
    exact .inl ⟨_, _, rfl, rfl⟩
  · rw [if_neg hexecutable]
    exact .inr rfl

lemma translateSlot_cpu (slots size selected : ℕ) (s : ProviderState σ R τ) (w : U32) :
    (translateSlot slots size selected s w).2.2.cpu = s.cpu := by
  unfold translateSlot
  dsimp only
  split <;> rfl

lemma prepareCached_granted (size : ℕ) (s : ProviderState σ R τ) (w : U32) :
    (∃ status s', prepareCached size protect s w = .fails status s' ∧ s'.cpu = s.cpu) ∨
      prepareCached size protect s w = prepareCached size (granted protect) s w := by
  rcases hhit : findHit (s.cache.entries.take (slotCount s.code size)) s.cpu w with - | i
  swap
  · refine .inr ?_
    unfold prepareCached
    simp only [hhit]
  by_cases hslots : slotCount s.code size = 0
  · have hplain : ∀ protect : Protect τ, prepareCached size protect s w = preparePlain protect s w := by
      intro protect
      unfold prepareCached
      simp only [hhit, if_pos hslots]
    rw [hplain, hplain]
    exact preparePlain_granted protect s w
  unfold prepareCached
  simp only [hhit, if_neg hslots]
  have hgranted := fun o flag => not_not.mpr (granted_grants protect o flag)
  have hopaque : ∀ o flag, (granted protect o flag).1 = (protect o flag).1 := fun _ _ => rfl
  by_cases hwritable : (protect s.opaque_ false).2 ≠ 0#32
  · rw [if_pos hwritable]
    exact .inl ⟨_, _, rfl, rfl⟩
  rw [if_neg hwritable, if_neg (hgranted _ _), hopaque]
  have hcpu := translateSlot_cpu (slotCount s.code size) size s.cache.victim { s with
    opaque_ := (protect s.opaque_ false).1
    cache := { s.cache with entries := invalidateAt s.cache.entries s.cache.victim } } w
  generalize translateSlot (slotCount s.code size) size s.cache.victim _ w = out at hcpu ⊢
  by_cases htranslated : out.1 ≠ Status.next
  · rw [if_pos htranslated]
    exact .inl ⟨_, _, rfl, hcpu⟩
  rw [if_neg htranslated, if_neg htranslated, if_neg (hgranted _ _), hopaque]
  by_cases hexecutable : (protect out.2.2.opaque_ true).2 ≠ 0#32
  · rw [if_pos hexecutable]
    exact .inl ⟨_, _, rfl, hcpu⟩
  · rw [if_neg hexecutable]
    exact .inr rfl

inductive Build where
  | plain
  | cached (size : ℕ)

def Build.prepare : Build → Prepare σ R τ
  | .plain => preparePlain protect
  | .cached size => prepareCached size protect

def Build.Slots : Build → Buffer → Cache → Prop
  | .plain => fun _ _ => True
  | .cached size => CacheValid size

lemma preparePlain_word (s : ProviderState σ R τ) (w : U32) :
    PreparesWord (fun _ _ => True) s.cpu w (preparePlain protect s w) := by
  rcases preparePlain_granted protect s w with ⟨status, s', h, hcpu⟩ | h
  · rw [h]
    exact hcpu
  obtain ⟨o, hplain⟩ := preparePlain_eq (granted_grants protect) s w
  obtain ⟨-, -, -, -, htake⟩ := translateWord_spec s.code s.cpu w
  rw [h, hplain]
  dsimp only
  split
  · rfl
  next hfull => exact ⟨trivial, rfl, htake (Nat.not_lt.mp hfull)⟩

lemma prepareCached_word {size : ℕ} {s : ProviderState σ R τ} (hvalid : CacheValid size s.code s.cache) (w : U32) :
    PreparesWord (CacheValid size) s.cpu w (prepareCached size protect s w) := by
  rcases prepareCached_granted protect size s w with ⟨status, s', h, hcpu⟩ | h
  · rw [h]
    exact hcpu
  have halike := prepared_cached (granted_grants protect)
    (⟨⟨rfl, rfl, rfl, rfl, rfl⟩, hvalid⟩ : Alike size s s) w
  have hplain := preparePlain_word (granted protect) s w
  rw [h]
  cases hcached : prepareCached size (granted protect) s w with
  | ready s' bytes =>
    cases hboth : preparePlain (granted protect) s w with
    | ready p bytes' =>
      rw [hcached, hboth] at halike
      exact ⟨halike.1.cache, halike.2.1, halike.2.2.1⟩
    | fails status p =>
      rw [hcached, hboth] at halike
      exact halike.elim
  | fails status s' =>
    cases hboth : preparePlain (granted protect) s w with
    | ready p bytes' =>
      rw [hcached, hboth] at halike
      exact halike.elim
    | fails status' p =>
      rw [hcached, hboth] at halike
      rw [hboth] at hplain
      exact halike.2.cpu.trans hplain

lemma Build.prepares (build : Build) {s : ProviderState σ R τ} (h : build.Slots s.code s.cache) (w : U32) :
    PreparesWord build.Slots s.cpu w (build.prepare protect s w) := by
  cases build with
  | plain => exact preparePlain_word protect s w
  | cached size => exact prepareCached_word protect h w

lemma Build.slots_empty (build : Build) (code : Buffer) : build.Slots code .empty := by
  cases build with
  | plain => trivial
  | cached size => exact cacheValid_empty size code

end Prepare

section Turns

lemma callWord (caller : Caller) {cpu : VfCpu} {w : U32} {bytes : List Byte}
    (hbytes : bytes.take (wordBlock cpu.currentEl w cpu.pc).length = wordBlock cpu.currentEl w cpu.pc) :
    ∃ status c ram m, executeNativeBlock caller bytes cpu [] = some (status, c, ram) ∧ m ≤ 1 ∧
      c.retired = cpu.retired + BitVec.ofNat 64 m ∧ (status = Status.next → 0 < m) ∧
      (status ≠ Status.next → status ≠ Status.halt → m < 1) := by
  obtain ⟨hruns, -⟩ := translateWord_spec ⟨[], 0⟩ cpu w
  obtain ⟨status, g, ram, m, heffect, hm, hretired, hnext, hfault⟩ := effectFrom_counts (Target.ofCpu cpu) true (le32 w)
    one_ne_zero (n := 0) (by decide) cpu.pc cpu []
  rw [Nat.zero_add] at hretired
  exact ⟨status, settle cpu.retired g, ram, m, executeNativeBlock_block hruns caller hbytes heffect, hm, hretired, hnext,
    hfault⟩

variable (caller : Caller) {protocol : Protocol σ R} (hkeeps : protocol.Keeps)

include hkeeps in
lemma afterBlock_retires (s : ProviderState σ R τ) {status : U32} {c : VfCpu} {before : U64} {m : ℕ} (hm : m ≤ 1)
    (hc : c.retired = before + BitVec.ofNat 64 m) (hnext : status = Status.next → 0 < m)
    (hfault : status ≠ Status.next → status ≠ Status.halt → m < 1) :
    Retires ProviderState.cpu before 1 (afterBlock protocol s status c) := by
  unfold afterBlock
  by_cases hdata : status = Status.memoryDispatch
  · subst hdata
    have hzero : m = 0 := by
      have := hfault (by decide) (by decide)
      omega
    have hbefore : c.retired = before := by
      rw [hc, hzero]
      exact BitVec.add_zero before
    rw [if_pos rfl]
    exact retires_step (fun _ => rfl) rfl (fun h => (hkeeps.data c s.owner s.result h).trans (congrArg (· + 1#64) hbefore))
      fun h => (hkeeps.served c s.owner s.result h).trans hbefore
  · rw [if_neg hdata]
    exact Retires.mapTurn (fun _ => rfl) (dispatch_retires hkeeps.slow hm hc hnext hfault)

lemma afterBlock_keeps {s s' : ProviderState σ R τ} {status : U32} {c : VfCpu}
    (h : afterBlock protocol s status c = .again s') : s'.code = s.code ∧ s'.cache = s.cache := by
  unfold afterBlock at h
  split at h
  · dsimp only at h
    split at h
    · cases h
    · cases h
      exact ⟨rfl, rfl⟩
  · cases hdispatch : dispatch protocol.slow status c with
    | done status' c' =>
      rw [hdispatch] at h
      cases h
    | again c' =>
      rw [hdispatch] at h
      cases h
      exact ⟨rfl, rfl⟩

include hkeeps in
lemma preparedTurn_retires {I : Buffer → Cache → Prop} {cpu : VfCpu} {w : U32} {prepared : Prepared (ProviderState σ R τ)}
    (h : PreparesWord I cpu w prepared) :
    ∃ turn, preparedTurn caller protocol prepared = some turn ∧ Retires ProviderState.cpu cpu.retired 1 turn ∧
      ∀ s', turn = .again s' → I s'.code s'.cache := by
  cases prepared with
  | fails status s =>
    refine ⟨_, rfl, retires_returns _ (fun _ => rfl) (congrArg VfCpu.retired h), fun s' hagain => ?_⟩
    cases hagain
  | ready s bytes =>
    obtain ⟨hslots, rfl, hbytes⟩ := h
    obtain ⟨status, c, ram, m, hcall, hm, hretired, hnext, hfault⟩ :=
      callWord { caller with host := { caller.host with ramAt := 0#64 } } hbytes
    rw [preparedTurn, runTurn, hcall]
    refine ⟨_, rfl, afterBlock_retires hkeeps s hm hretired hnext hfault, fun s' hagain => ?_⟩
    obtain ⟨hcode, hcache⟩ := afterBlock_keeps hagain
    rw [hcode, hcache]
    exact hslots

include hkeeps in
lemma providerTurn_retires (protect : Protect τ) (build : Build) {budget start : U64} {s : ProviderState σ R τ}
    (hslots : build.Slots s.code s.cache) (hleft : s.cpu.retired - start < budget) :
    ∃ turn, providerTurn caller protocol (build.prepare protect) budget start s = some turn ∧
      Retires ProviderState.cpu s.cpu.retired 1 turn ∧ ∀ s', turn = .again s' → build.Slots s'.code s'.cache := by
  unfold providerTurn
  rw [if_neg (not_not.mpr hleft)]
  cases hgate : protocol.gate s.cpu s.result with
  | some out =>
    obtain ⟨status, c, result⟩ := out
    refine ⟨_, rfl, retires_returns _ (fun _ => rfl) (hkeeps.gate _ _ _ hgate), fun s' hagain => ?_⟩
    cases hagain
  | none =>
    dsimp only
    have hpolled := VfCpu.retired_apart.pollInterrupt s.cpu
    by_cases hquiet : s.cpu.pollInterrupt.1 ≠ Status.next
    · rw [if_pos hquiet]
      refine ⟨_, rfl, retires_returns _ (fun _ => rfl) hpolled, fun s' hagain => ?_⟩
      cases hagain
    rw [if_neg hquiet]
    have hfetched := (hkeeps.fetched s.cpu.pollInterrupt.2 s.owner s.result).trans hpolled
    generalize protocol.fetch s.cpu.pollInterrupt.2 s.owner s.result = fetched at hfetched ⊢
    by_cases hfetch : fetched.status ≠ Status.next
    · rw [if_pos hfetch]
      refine ⟨_, rfl, retires_returns _ (fun _ => rfl) hfetched, fun s' hagain => ?_⟩
      cases hagain
    rw [if_neg hfetch, ← hfetched]
    exact preparedTurn_retires caller hkeeps (build.prepares protect
      (s := { s with cpu := fetched.cpu, owner := fetched.owner, result := fetched.result }) hslots fetched.instruction)

lemma left_pos {budget used : U64} (hleft : used < budget) : 1 ≤ (budget - used).toNat := by
  rw [BitVec.toNat_sub_of_le (BitVec.le_of_lt hleft)]
  rw [BitVec.lt_def] at hleft
  omega

include hkeeps in
lemma provider_bounded (protect : Protect τ) (build : Build) (budget : U64) (s : ProviderState σ R τ) {run : Option VfCpu}
    (hrun : run = (providerLoop caller protocol (build.prepare protect) budget { s with cache := .empty }).map
        (fun out => out.2.cpu) ∨ ∃ out, run = some out ∧ out.retired = s.cpu.retired) :
    Bounded (providerTurn caller protocol (build.prepare protect) budget s.cpu.retired) ProviderState.cpu budget
      { s with cache := .empty } run := by
  refine Bounded.of_metered (I := fun s => build.Slots s.code s.cache)
    (metered_of_retires (fun t hspent => ?_) fun t hslots hleft => ?_) (build.slots_empty s.code) hrun
  · unfold providerTurn
    rw [if_pos hspent]
    exact ⟨_, _, rfl, rfl⟩
  · obtain ⟨turn, hturn, hretires, hagain⟩ := providerTurn_retires caller hkeeps protect build hslots hleft
    exact ⟨turn, hturn, hretires.mono (left_pos hleft), hagain⟩

end Turns

namespace DynamicRun

variable (caller : Caller) (pauth : Option PauthStep) (protect : Protect τ) (memory : Callback σ)
  (control : ControlCallback σ)

lemma dynamicControlStep_cpu (cpu : VfCpu) (op selector : U32) (owner : σ) (out : RunResultDynamic) :
    ((dynamicControlStep cpu op selector control owner out).status = Status.next ∧
      ∃ a, (dynamicControlStep cpu op selector control owner out).cpu = commitControls cpu a) ∨
    ((dynamicControlStep cpu op selector control owner out).status ≠ Status.next ∧
      (dynamicControlStep cpu op selector control owner out).cpu = cpu) := by
  have hfails : ∀ (owner : σ) reason uncertain, (Controlled.fails cpu owner out reason uncertain).status ≠ Status.next ∧
      (Controlled.fails cpu owner out reason uncertain).cpu = cpu :=
    fun _ _ _ => ⟨show Status.dataFault ≠ Status.next by decide, rfl⟩
  unfold dynamicControlStep
  dsimp only
  split
  · exact .inr (hfails _ _ _)
  split
  · exact .inr (hfails _ _ _)
  split
  · split
    · exact .inr (hfails _ _ _)
    · exact .inr (hfails _ _ _)
  split
  · exact .inr (hfails _ _ _)
  unfold commitStep
  dsimp only
  split
  · exact .inr (hfails _ _ _)
  split
  · exact .inr (hfails _ _ _)
  · exact .inl ⟨rfl, _, rfl⟩

lemma slowStepDynamic_retired {cpu next : VfCpu} (h : slowStepDynamic pauth cpu = some next) :
    next.retired = cpu.retired + 1#64 := by
  simp only [slowStepDynamic, Option.orElse_eq_orElse, Option.orElse_eq_or, Option.or_eq_some_iff] at h
  rcases h with h | ⟨-, h | ⟨-, h⟩⟩
  · exact systemRegisterSlowStep_retired h
  · exact memoryControlRead_retired h
  · exact pauthImmutableStep_retired h

lemma retires_refuses {s : ProviderState σ Progress τ} {before : U64} (h : s.cpu.retired = before) (reason : U32) :
    Retires ProviderState.cpu before 1 (refuses s reason) :=
  ⟨0, Nat.zero_le _, h.trans (BitVec.add_zero before).symm⟩

lemma controlTurn_retires (s : ProviderState σ Progress τ) {cpu : VfCpu} {before : U64} (h : cpu.retired = before)
    (op selector : U32) : Retires ProviderState.cpu before 1 (controlTurn control s cpu op selector) := by
  refine retires_step (fun _ => rfl) rfl (fun hnext => ?_) fun hfails => ?_
  · rcases dynamicControlStep_cpu control cpu op selector s.owner s.result.out with ⟨-, a, hcpu⟩ | ⟨hstatus, -⟩
    · rw [hcpu]
      exact congrArg (· + 1#64) h
    · exact absurd hnext hstatus
  · rcases dynamicControlStep_cpu control cpu op selector s.owner s.result.out with ⟨hstatus, -⟩ | ⟨-, hcpu⟩
    · exact absurd hstatus hfails
    · rw [hcpu]
      exact h

lemma afterWord_retires (s : ProviderState σ Progress τ) (effective : V2.Controls) (instruction : U32) {status : U32}
    {c : VfCpu} {before : U64} {m : ℕ} (hm : m ≤ 1) (hc : c.retired = before + BitVec.ofNat 64 m)
    (hnext : status = Status.next → 0 < m) (hfault : status ≠ Status.next → status ≠ Status.halt → m < 1) :
    Retires ProviderState.cpu before 1 (afterWord pauth memory control s effective instruction status c) := by
  have hdispatch : Retires ProviderState.cpu before 1 (mapTurn s.put (dispatch (slowStepDynamic pauth) status c)) :=
    Retires.mapTurn (fun _ => rfl) (dispatch_retires (fun _ _ h => slowStepDynamic_retired pauth h) hm hc hnext hfault)
  have hbefore : status ≠ Status.next → status ≠ Status.halt → c.retired = before := by
    intro h h'
    have hzero : m = 0 := Nat.lt_one_iff.mp (hfault h h')
    rw [hc, hzero]
    exact BitVec.add_zero before
  unfold afterWord
  by_cases hdata : status = Status.memoryDispatch
  · subst hdata
    have hbefore := hbefore (by decide) (by decide)
    rw [if_pos rfl]
    exact retires_step (fun _ => rfl) rfl
      (fun h => (memoryDataStepVersion_next h).trans (congrArg (· + 1#64) hbefore))
      fun h => (memoryDataStepVersion_fails VfCpu.retired_apart h).trans hbefore
  rw [if_neg hdata]
  by_cases hstopped : status = Status.undefinedInstruction ∨ status = Status.systemRegisterTrap
  · rw [if_pos hstopped]
    cases dynamicOperation instruction with
    | none => exact hdispatch
    | some out =>
      refine controlTurn_retires control s (hbefore ?_ ?_) out.1 out.2
      · rcases hstopped with rfl | rfl <;> decide
      · rcases hstopped with rfl | rfl <;> decide
  · rw [if_neg hstopped]
    exact hdispatch

lemma dynamicTurn_retires {budget start : U64} {s : ProviderState σ Progress τ} (hleft : s.cpu.retired - start < budget) :
    ∃ turn, dynamicTurn caller pauth protect memory control budget start s = some turn ∧
      Retires ProviderState.cpu s.cpu.retired 1 turn := by
  unfold dynamicTurn
  dsimp only
  rw [if_neg (not_not.mpr hleft)]
  split
  · exact ⟨_, rfl, retires_refuses rfl _⟩
  split
  · exact ⟨_, rfl, retires_refuses rfl _⟩
  have hpolled := VfCpu.retired_apart.pollInterrupt s.cpu
  split
  · exact ⟨_, rfl, retires_returns _ (fun _ => rfl) hpolled⟩
  have hfetched : ∀ effective, (memoryExchangeVersion s.cpu.pollInterrupt.2 memory s.owner
      (fetchRequest s.cpu.pollInterrupt.2 effective 3#32) s.result.out.memory 3#32).cpu.retired = s.cpu.retired :=
    fun effective => (judgeReply_apart VfCpu.retired_apart _ _ _ _ _ _).trans hpolled
  split
  · exact ⟨_, rfl, retires_returns _ (fun _ => rfl) (hfetched _)⟩
  split
  · exact ⟨_, rfl, retires_refuses (hfetched _) _⟩
  rw [← hfetched (s.result.out.finalControl.effective.controls s.result.out.finalControl.epoch)]
  generalize memoryExchangeVersion s.cpu.pollInterrupt.2 memory s.owner _ s.result.out.memory 3#32 = e
  have hword := preparePlain_word protect { s with
    cpu := e.cpu, owner := e.owner
    result := { s.result with out := { s.result.out with memory := e.result } } } (e.reply.value0.truncate 32)
  cases hprepared : preparePlain protect { s with
      cpu := e.cpu, owner := e.owner
      result := { s.result with out := { s.result.out with memory := e.result } } } (e.reply.value0.truncate 32) with
  | fails status s' =>
    rw [hprepared] at hword
    exact ⟨_, rfl, retires_returns _ (fun _ => rfl) (congrArg VfCpu.retired hword)⟩
  | ready s' bytes =>
    rw [hprepared] at hword
    obtain ⟨-, hcpu, hbytes⟩ := hword
    rw [← hcpu] at hbytes
    obtain ⟨status, c, ram, m, hcall, hm, hretired, hnext, hfault⟩ :=
      callWord { caller with host := { caller.host with ramAt := 0#64 } } hbytes
    rw [wordTurn, hcall]
    rw [hcpu] at hretired
    exact ⟨_, rfl, afterWord_retires pauth memory control s' _ _ hm hretired hnext hfault⟩

lemma dynamic_bounded (initial : V2.Controls) (budget : U64) (s : ProviderState σ RunResultDynamic τ) :
    Bounded (dynamicTurn caller pauth protect memory control budget s.cpu.retired) ProviderState.cpu budget
      (admitted initial s)
      ((vfRunMemoryProviderDynamic caller pauth protect memory control initial budget s).map fun out => out.2.cpu) := by
  refine Bounded.of_metered (I := fun _ => True) (metered_of_retires (fun t hspent => ?_) fun t _ hleft => ?_) trivial ?_
  · unfold dynamicTurn
    rw [if_pos (show ¬(t.cpu.retired - s.cpu.retired < budget) from hspent)]
    exact ⟨_, _, rfl, rfl⟩
  · obtain ⟨turn, hturn, hretires⟩ := dynamicTurn_retires caller pauth protect memory control hleft
    exact ⟨turn, hturn, hretires.mono (left_pos hleft), fun _ _ => trivial⟩
  · unfold vfRunMemoryProviderDynamic
    split
    · exact .inr ⟨_, rfl, rfl⟩
    · refine .inl ?_
      rw [Option.map_map]
      rfl

end DynamicRun

/-- Every run makes progress, keeps to its budget and ends: the run of a guest by itself, the two provider runs in
either build, and the run whose controls are held by a service. -/
theorem run_loops_bounded (caller : Caller) (pauth : Option PauthStep) (protect : Protect τ) (budget : U64) :
    (∀ (image : Image) (s : RunState τ),
      Bounded (vfRunTurn caller pauth protect image 32 budget s.cpu.retired) RunState.cpu budget s
        ((vfRun caller pauth protect image budget s).map fun out => out.2.cpu)) ∧
    (∀ (build : Build) (callback : V1.Callback σ) (s : ProviderState σ RunResultV1 τ),
      Bounded (providerTurn caller (V1.protocol callback pauth) (build.prepare protect) budget s.cpu.retired)
        ProviderState.cpu budget { s with cache := .empty }
        ((V1.vfRunMemoryProvider callback pauth caller (build.prepare protect) budget s).map fun out => out.2.cpu)) ∧
    (∀ (build : Build) (callback : Callback σ) (controls : V2.Controls) (s : ProviderState σ RunResultV2 τ),
      Bounded (providerTurn caller (V2.protocol callback pauth controls) (build.prepare protect) budget s.cpu.retired)
        ProviderState.cpu budget { s with cache := .empty }
        ((V2.runMemoryProviderV2 callback pauth controls caller (build.prepare protect) budget s).map
          fun out => out.2.cpu)) ∧
    (∀ (memory : Callback σ) (control : DynamicRun.ControlCallback σ) (initial : V2.Controls)
      (s : ProviderState σ DynamicRun.RunResultDynamic τ),
      Bounded (DynamicRun.dynamicTurn caller pauth protect memory control budget s.cpu.retired) ProviderState.cpu budget
        (DynamicRun.admitted initial s)
        ((DynamicRun.vfRunMemoryProviderDynamic caller pauth protect memory control initial budget s).map
          fun out => out.2.cpu)) := by
  refine ⟨fun image s => vfRun_bounded caller pauth protect image budget s, fun build callback s => ?_,
    fun build callback controls s => ?_, fun memory control initial s =>
      DynamicRun.dynamic_bounded caller pauth protect memory control initial budget s⟩
  · refine provider_bounded caller (V1.keeps callback pauth) protect build budget s ?_
    unfold V1.vfRunMemoryProvider
    split
    · exact .inr ⟨_, rfl, rfl⟩
    · exact .inl rfl
  · refine provider_bounded caller (V2.keeps callback pauth controls) protect build budget s ?_
    unfold V2.runMemoryProviderV2
    split
    · exact .inr ⟨_, rfl, rfl⟩
    · exact .inl rfl

end Nextcore.Provider
