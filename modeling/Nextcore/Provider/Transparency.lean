import Nextcore.Provider.Cache
import Nextcore.Provider.Soundness

/-! Runs of the two builds: both end, with the same status, CPU and requests. -/

namespace Nextcore.Provider

open Abi Cpu Jit Emit X86 Loop

variable {σ R τ : Type}

structure Protocol.Counts (protocol : Protocol σ R) : Prop where
  fetch : ∀ cpu owner result, (protocol.fetch cpu owner result).status = Status.next →
    (protocol.fetch cpu owner result).cpu.retired = cpu.retired
  data : ∀ cpu owner result, (protocol.data cpu owner result).status = Status.next →
    (protocol.data cpu owner result).cpu.retired = cpu.retired + 1#64
  slow : ∀ cpu next, protocol.slow cpu = some next → next.retired = cpu.retired + 1#64

section Total

variable (caller : Caller) {protocol : Protocol σ R} (hcounts : protocol.Counts)

include hcounts in
lemma afterBlock_again {s s' : ProviderState σ R τ} {status : U32} {cpu : VfCpu}
    (h : afterBlock protocol s status cpu = .again s') :
    (status = Status.next ∧ s'.cpu.retired = cpu.retired) ∨
      (status ≠ Status.next ∧ status ≠ Status.halt ∧ s'.cpu.retired = cpu.retired + 1#64) := by
  unfold afterBlock at h
  by_cases hdata : status = Status.memoryDispatch
  · rw [if_pos hdata] at h
    dsimp only at h
    split at h
    · cases h
    next hserved =>
      cases h
      subst hdata
      exact .inr ⟨by decide, by decide, hcounts.data _ _ _ (not_not.mp hserved)⟩
  · rw [if_neg hdata] at h
    cases hdispatch : dispatch protocol.slow status cpu with
    | done status' cpu' =>
      rw [hdispatch] at h
      cases h
    | again cpu' =>
      rw [hdispatch] at h
      cases h
      rcases dispatch_again hcounts.slow hdispatch with ⟨hstatus, rfl⟩ | h
      · exact .inl ⟨hstatus, rfl⟩
      · exact .inr h

include hcounts in
lemma runTurn_total {s : ProviderState σ R τ} {w : U32} {bytes : List Byte}
    (hbytes : bytes.take (wordBlock s.cpu.currentEl w s.cpu.pc).length = wordBlock s.cpu.currentEl w s.cpu.pc) :
    ∃ turn, runTurn caller protocol bytes s = some turn ∧
      ∀ s', turn = .again s' → s'.cpu.retired = s.cpu.retired + 1#64 := by
  obtain ⟨status, g, ram, heffect, hretired⟩ := effectFrom_one (Target.ofCpu s.cpu) true (le32 w) s.cpu.pc s.cpu []
  refine ⟨_, runTurn_word hbytes heffect, fun s' hagain => ?_⟩
  rcases afterBlock_again hcounts hagain with ⟨rfl, heq⟩ | ⟨hnext, hhalt, heq⟩
  · rcases hretired with ⟨-, hg⟩ | hstatus | ⟨hfault, -⟩
    · exact heq.trans hg
    · cases hstatus
    · exact absurd rfl hfault.1
  · rcases hretired with ⟨hstatus, -⟩ | hstatus | ⟨-, hg⟩
    · exact absurd hstatus hnext
    · exact absurd hstatus hhalt
    · exact heq.trans (congrArg (· + 1#64) hg)

variable {protect : Protect τ} (hprotect : ∀ o flag, (protect o flag).2 = 0#32)

include hcounts hprotect in
lemma providerTurn_total (budget start : U64) (s : ProviderState σ R τ) :
    ∃ turn, providerTurn caller protocol (preparePlain protect) budget start s = some turn ∧
      ∀ s', turn = .again s' → s.cpu.retired - start < budget ∧ s'.cpu.retired = s.cpu.retired + 1#64 := by
  unfold providerTurn
  by_cases hbudget : s.cpu.retired - start < budget
  swap
  · rw [if_pos hbudget]
    exact ⟨_, rfl, fun s' h => nomatch h⟩
  rw [if_neg (not_not.mpr hbudget)]
  cases protocol.gate s.cpu s.result with
  | some out => exact ⟨_, rfl, fun s' h => nomatch h⟩
  | none =>
    dsimp only
    by_cases hpoll : s.cpu.pollInterrupt.1 = Status.next
    swap
    · rw [if_pos hpoll]
      exact ⟨_, rfl, fun s' h => nomatch h⟩
    rw [if_neg (not_not.mpr hpoll), VfCpu.pollInterrupt_next hpoll]
    by_cases hfetch : (protocol.fetch s.cpu s.owner s.result).status = Status.next
    swap
    · rw [if_pos hfetch]
      exact ⟨_, rfl, fun s' h => nomatch h⟩
    rw [if_neg (not_not.mpr hfetch)]
    have hfetched := hcounts.fetch s.cpu s.owner s.result hfetch
    generalize protocol.fetch s.cpu s.owner s.result = fetched at *
    obtain ⟨o, hplain⟩ := preparePlain_eq hprotect
      { s with cpu := fetched.cpu, owner := fetched.owner, result := fetched.result } fetched.instruction
    obtain ⟨-, -, -, -, htake⟩ := translateWord_spec s.code fetched.cpu fetched.instruction
    rw [hplain]
    dsimp only
    by_cases hfull : s.code.capacity < (wordBlock fetched.cpu.currentEl fetched.instruction fetched.cpu.pc).length
    · rw [if_pos hfull]
      exact ⟨_, rfl, fun s' h => nomatch h⟩
    · rw [if_neg hfull]
      obtain ⟨turn, hturn, hnext⟩ := runTurn_total caller hcounts
        (s := { s with
          cpu := fetched.cpu, owner := fetched.owner, result := fetched.result, opaque_ := o,
          code := (translateWord s.code fetched.cpu fetched.instruction).2 }) (htake (Nat.not_lt.mp hfull))
      exact ⟨turn, hturn, fun s' h => ⟨hbudget, (hnext s' h).trans (congrArg (· + 1#64) hfetched)⟩⟩

lemma budget_decreases {budget start retired retired' : U64} (h : retired - start < budget)
    (hretired : retired' = retired + 1#64) :
    budget.toNat - (retired' - start).toNat < budget.toNat - (retired - start).toNat := by
  have hstep := budget_step h
  rw [BitVec.lt_def] at h
  rw [hretired, hstep]
  omega

include hcounts hprotect in
lemma providerLoop_alike (budget : U64) (size : ℕ) (s : ProviderState σ R τ) :
    ∃ status cached plain,
      providerLoop caller protocol (prepareCached size protect) budget { s with cache := .empty } =
        some (status, cached) ∧
      providerLoop caller protocol (preparePlain protect) budget { s with cache := .empty } = some (status, plain) ∧
      Observed cached plain := by
  have halike : Alike size { s with cache := .empty } { s with cache := .empty } :=
    ⟨⟨rfl, rfl, rfl, rfl, rfl⟩, cacheValid_empty size s.code⟩
  have hsame := iterate_alike (fun a b h => providerTurn_alike caller protocol hprotect budget
    s.cpu.retired h) (budget.toNat + 1) halike
  obtain ⟨status, plain, hplain⟩ := @iterate_ends _ _
    (providerTurn caller protocol (preparePlain protect) budget s.cpu.retired) { s with cache := .empty } (fun _ => True) (fun p => budget.toNat - (p.cpu.retired - s.cpu.retired).toNat)
    (fun p _ => by
      obtain ⟨turn, hturn, hnext⟩ := providerTurn_total caller hcounts hprotect budget s.cpu.retired p
      exact ⟨turn, hturn, fun p' h => ⟨trivial, budget_decreases (hnext p' h).1 (hnext p' h).2⟩⟩)
    (budget.toNat + 1) (by dsimp only; omega) trivial
  unfold providerLoop
  dsimp only at hsame hplain ⊢
  rw [hplain] at hsame
  cases hcached : iterate (providerTurn caller protocol (prepareCached size protect) budget s.cpu.retired)
      (budget.toNat + 1) { s with cache := .empty } with
  | none =>
    rw [hcached] at hsame
    exact hsame.elim
  | some out =>
    obtain ⟨status', cached⟩ := out
    rw [hcached] at hsame
    obtain ⟨rfl, hobserved⟩ := hsame
    exact ⟨status', cached, plain, rfl, hplain, hobserved⟩

end Total

section Protocols

lemma loadData_retired (cpu : VfCpu) (shape : MemoryShape) (value0 value1 : U64) :
    (loadData cpu shape value0 value1).retired = cpu.retired := by
  unfold loadData
  dsimp only
  split
  · split <;> simp only [memorySave_eq]
  · rfl

lemma writeBase_retired (cpu : VfCpu) (shape : MemoryShape) (updated : U64) :
    (writeBase cpu shape updated).retired = cpu.retired := by
  rw [writeBase_eq]

lemma V1.judgeReply_next {cpu : VfCpu} {q : V1.Request} {code : U32} {r : V1.Reply} {result : RunResultV1}
    (h : (V1.judgeReply cpu q code r result).1 = Status.next) : (V1.judgeReply cpu q code r result).2.1 = cpu := by
  unfold V1.judgeReply at h ⊢
  dsimp only at h ⊢
  split
  · rfl
  split
  · rfl
  split
  · split <;> rfl
  split
  · rfl
  split
  · split <;> rfl
  split
  · split <;> rfl
  split
  · rfl
  next hcode hheader hok hvalues hinvalid hunsupported hfault =>
    rw [if_neg hcode, if_neg hheader, if_neg hok, if_neg hvalues, if_neg hinvalid, if_neg hunsupported,
      if_neg hfault] at h
    split
    · rfl
    next raised hraise =>
      rw [hraise] at h
      dsimp only at h
      split at h <;> cases h

lemma judgeReply_next {cpu : VfCpu} {q : V2.Request} {code : U32} {r : V2.Reply} {result : RunResultV2} {version : U32}
    (h : (judgeReply cpu q code r result version).1 = Status.next) :
    (judgeReply cpu q code r result version).2.1 = cpu := by
  cases hjudged : judgeReply cpu q code r result version with
  | mk status out =>
    have hverdict := judgeReply_verdict cpu q code r result version
    rw [hjudged] at h hverdict
    cases hverdict with
    | success => rfl
    | error => cases h
    | fault result raised hheard hvalid hesr hlow hhigh hraise =>
      exact absurd h (faultStatusCode_cases q r).1

lemma V1.memoryDataStep_next {cpu : VfCpu} {callback : V1.Callback σ} {owner : σ} {result : RunResultV1}
    (h : (V1.memoryDataStep cpu callback owner result).status = Status.next) :
    (V1.memoryDataStep cpu callback owner result).cpu.retired = cpu.retired + 1#64 := by
  unfold V1.memoryDataStep at h ⊢
  cases hdecode : decodeMemory cpu.instruction with
  | none =>
    rw [hdecode] at h
    cases h
  | some shape =>
    rw [hdecode] at h
    dsimp only at h ⊢
    split at h
    · cases h
    next hsp =>
      rw [if_neg hsp]
      split at h
      next hstatus => exact absurd h hstatus
      next hstatus =>
        rw [if_neg hstatus]
        have hcpu := V1.judgeReply_next (not_not.mp hstatus)
        change (loadData _ _ _ _ |> (writeBase · _ _)).retired + 1#64 = _
        rw [writeBase_retired, loadData_retired]
        exact congrArg (fun cpu : VfCpu => cpu.retired + 1#64) hcpu

lemma memoryDataStepVersion_next {cpu : VfCpu} {controls : V2.Controls} {callback : Callback σ} {owner : σ}
    {result : RunResultV2} {version : U32}
    (h : (memoryDataStepVersion cpu controls callback owner result version).status = Status.next) :
    (memoryDataStepVersion cpu controls callback owner result version).cpu.retired = cpu.retired + 1#64 := by
  unfold memoryDataStepVersion at h ⊢
  cases hdecode : decodeMemory cpu.instruction with
  | none =>
    rw [hdecode] at h
    cases h
  | some shape =>
    rw [hdecode] at h
    dsimp only at h ⊢
    split at h
    · cases h
    next hsp =>
      rw [if_neg hsp]
      split at h
      next hstatus => exact absurd h hstatus
      next hstatus =>
        rw [if_neg hstatus]
        have hcpu := judgeReply_next (not_not.mp hstatus)
        change (loadData _ _ _ _ |> (writeBase · _ _)).retired + 1#64 = _
        rw [writeBase_retired, loadData_retired]
        exact congrArg (fun cpu : VfCpu => cpu.retired + 1#64) hcpu

lemma V1.counts (callback : V1.Callback σ) (pauth : Option PauthStep) : (V1.protocol callback pauth).Counts := by
  refine ⟨fun cpu owner result h => ?_, fun cpu owner result h => ?_, fun _ _ => slowStep_retired⟩
  · exact congrArg VfCpu.retired (V1.judgeReply_next h)
  · exact V1.memoryDataStep_next h

lemma V2.counts (callback : Callback σ) (pauth : Option PauthStep) (controls : V2.Controls) :
    (V2.protocol callback pauth controls).Counts := by
  refine ⟨fun cpu owner result h => ?_, fun cpu owner result h => ?_, fun _ _ => slowStepV2_retired⟩
  · exact congrArg VfCpu.retired (judgeReply_next h)
  · exact memoryDataStepVersion_next h

end Protocols

def recording {Q P : Type} (callback : σ → Q → σ × U32 × P) : σ × List Q → Q → (σ × List Q) × U32 × P :=
  fun (owner, requests) q =>
    let (owner, code, reply) := callback owner q
    ((owner, requests ++ [q]), code, reply)

/-- The runs of the build with the cache and of the build without it end with the same status, CPU, owner (whose
second part is the sequence of requests) and result. -/
theorem provider_cache_transparent (protect : Protect τ) (hprotect : ∀ o flag, (protect o flag).2 = 0#32)
    (caller : Caller) (size : ℕ) (budget : U64) :
    (∀ (callback : V1.Callback σ) (pauth : Option PauthStep) (s : ProviderState (σ × List V1.Request) RunResultV1 τ),
      ∃ status cached plain,
        V1.vfRunMemoryProvider (recording callback) pauth caller (prepareCached size protect) budget s =
          some (status, cached) ∧
        V1.vfRunMemoryProvider (recording callback) pauth caller (preparePlain protect) budget s =
          some (status, plain) ∧
        Observed cached plain) ∧
    (∀ (callback : Callback σ) (controls : V2.Controls) (s : ProviderState (σ × List V2.Request) RunResultV2 τ),
      ∃ status cached plain,
        V2.vfRunMemoryProviderV2 (recording callback) controls caller (prepareCached size protect) budget s =
          some (status, cached) ∧
        V2.vfRunMemoryProviderV2 (recording callback) controls caller (preparePlain protect) budget s =
          some (status, plain) ∧
        Observed cached plain) := by
  constructor
  · intro callback pauth s
    unfold V1.vfRunMemoryProvider
    split
    · exact ⟨_, _, _, rfl, rfl, ⟨rfl, rfl, rfl, rfl, rfl⟩⟩
    · exact providerLoop_alike caller (V1.counts (recording callback) pauth) hprotect budget size s
  · intro callback controls s
    unfold V2.vfRunMemoryProviderV2 V2.runMemoryProviderV2
    split
    · exact ⟨_, _, _, rfl, rfl, ⟨rfl, rfl, rfl, rfl, rfl⟩⟩
    · exact providerLoop_alike caller (V2.counts (recording callback) none controls) hprotect budget size s

def branchThenHalt : V1.Callback ℕ := fun fetches _ =>
  (fetches + 1, 0#32,
    { abiVersion := 1#32, structSize := 80#32, value0 := if fetches = 0 then 0x14000000#64 else 0xd4400000#64 })

theorem provider_cache_transparent_halt : (∀ (o : Unit) (_ : Bool), (o, 0#32).2 = 0#32) ∧
    ∃ status cached plain,
      V1.vfRunMemoryProvider (recording branchThenHalt) none
          ⟨⟨0x10000#64, 0#64⟩, fun _ => ⟨.word 0#64, .word 0#64, .word 0#64, .word 0#64, .undefined⟩⟩
          (prepareCached 64 fun o _ => (o, 0#32)) 4#64
          ⟨VfCpu.reset 1#32, ⟨List.replicate 128 0#8, 0⟩, (), (0, []), ⟨0#32, 0#64, 0#64, 0#64, 0#64⟩, .empty⟩ =
        some (status, cached) ∧
      V1.vfRunMemoryProvider (recording branchThenHalt) none
          ⟨⟨0x10000#64, 0#64⟩, fun _ => ⟨.word 0#64, .word 0#64, .word 0#64, .word 0#64, .undefined⟩⟩
          (preparePlain fun o _ => (o, 0#32)) 4#64
          ⟨VfCpu.reset 1#32, ⟨List.replicate 128 0#8, 0⟩, (), (0, []), ⟨0#32, 0#64, 0#64, 0#64, 0#64⟩, .empty⟩ =
        some (status, plain) ∧
      Observed cached plain :=
  ⟨fun _ _ => rfl, (provider_cache_transparent _ (fun _ _ => rfl) _ 64 4#64).1 branchThenHalt none _⟩

end Nextcore.Provider
