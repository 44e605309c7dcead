import Nextcore.Lib.Recorder
import Nextcore.Provider.DynamicRun

/-! The dynamic run does not look into its owner: a run whose owner keeps a record goes as the run without it. -/

namespace Nextcore.Provider

open Abi Cpu Jit Loop Recorder

variable {σ σ' R τ : Type}

def ProviderState.mapOwner (view : σ' → σ) (s : ProviderState σ' R τ) : ProviderState σ R τ :=
  ⟨s.cpu, s.code, s.opaque_, view s.owner, s.result, s.cache⟩

def Prepared.map {S T : Type} (view : S → T) : Prepared S → Prepared T
  | .ready s bytes => .ready (view s) bytes
  | .fails status s => .fails status (view s)

variable {view : σ' → σ}

lemma preparePlain_view (protect : Protect τ) (s : ProviderState σ' R τ) (instruction : U32) :
    preparePlain protect (s.mapOwner view) instruction =
      (preparePlain protect s instruction).map (ProviderState.mapOwner view) := by
  unfold preparePlain ProviderState.mapOwner
  dsimp only
  split
  · rfl
  split
  · rfl
  split
  · rfl
  · rfl

lemma memoryExchangeVersion_view {memory' : Callback σ'} {memory : Callback σ} (h : Shows view memory' memory)
    (cpu : VfCpu) (owner : σ') (q : V2.Request) (result : RunResultV2) (version : U32) :
    let e := memoryExchangeVersion cpu memory' owner q result version
    memoryExchangeVersion cpu memory (view owner) q result version = ⟨e.status, e.cpu, view e.owner, e.reply, e.result⟩ := by
  unfold memoryExchangeVersion
  rw [h owner q]

lemma memoryDataStepVersion_view {memory' : Callback σ'} {memory : Callback σ} (h : Shows view memory' memory)
    (cpu : VfCpu) (controls : V2.Controls) (owner : σ') (result : RunResultV2) (version : U32) :
    let served := memoryDataStepVersion cpu controls memory' owner result version
    memoryDataStepVersion cpu controls memory (view owner) result version =
      ⟨served.status, served.cpu, view served.owner, served.result⟩ := by
  unfold memoryDataStepVersion
  cases decodeMemory cpu.instruction with
  | none => rfl
  | some shape =>
    dsimp only
    split
    · rfl
    rw [memoryExchangeVersion_view h]
    dsimp only
    split
    · rfl
    · rfl

namespace DynamicRun

variable {memory' : Callback σ'} {memory : Callback σ} {control' : ControlCallback σ'} {control : ControlCallback σ}

lemma dynamicControlStep_view (h : Shows view control' control) (cpu : VfCpu) (op selector : U32) (owner : σ')
    (out : RunResultDynamic) :
    let step := dynamicControlStep cpu op selector control' owner out
    dynamicControlStep cpu op selector control (view owner) out = ⟨step.status, step.cpu, view step.owner, step.out⟩ := by
  unfold dynamicControlStep
  dsimp only
  split
  · rfl
  rw [h owner]
  dsimp only
  split
  · rfl
  split
  · split
    · rfl
    · rfl
  split
  · rfl
  unfold commitStep
  rw [h]
  dsimp only
  split
  · rfl
  split
  · rfl
  · rfl

variable (caller : Caller) (pauth : Option PauthStep) (protect : Protect τ)

abbrev mapTurns (view : σ' → σ) :
    Option (Turn (ProviderState σ' Progress τ) U32) → Option (Turn (ProviderState σ Progress τ) U32) :=
  Option.map (Turn.map (ProviderState.mapOwner view))

lemma dispatch_view (s : ProviderState σ' Progress τ) (turn : Turn VfCpu U32) :
    Turn.map (ProviderState.mapOwner view) (mapTurn s.put turn) = mapTurn (s.mapOwner view).put turn := by
  cases turn <;> rfl

lemma controlTurn_view (h : Shows view control' control) (s : ProviderState σ' Progress τ) (cpu : VfCpu) (op selector : U32) :
    Turn.map (ProviderState.mapOwner view) (controlTurn control' s cpu op selector) =
      controlTurn control (s.mapOwner view) cpu op selector := by
  unfold controlTurn
  rw [show (s.mapOwner view).owner = view s.owner from rfl, show (s.mapOwner view).result = s.result from rfl,
    dynamicControlStep_view h]
  dsimp only
  split
  · rfl
  · rfl

lemma afterWord_view (hm : Shows view memory' memory) (hc : Shows view control' control) (s : ProviderState σ' Progress τ)
    (effective : V2.Controls) (instruction status : U32) (cpu : VfCpu) :
    Turn.map (ProviderState.mapOwner view) (afterWord pauth memory' control' s effective instruction status cpu) =
      afterWord pauth memory control (s.mapOwner view) effective instruction status cpu := by
  unfold afterWord
  split
  · unfold dataTurn
    rw [show (s.mapOwner view).owner = view s.owner from rfl, show (s.mapOwner view).result = s.result from rfl,
      memoryDataStepVersion_view hm]
    dsimp only
    split
    · rfl
    · rfl
  split
  · cases dynamicOperation instruction with
    | none => exact dispatch_view s _
    | some out => exact controlTurn_view hc s cpu out.1 out.2
  · exact dispatch_view s _

lemma wordTurn_view (hm : Shows view memory' memory) (hc : Shows view control' control) (effective : V2.Controls)
    (instruction : U32) (prepared : Prepared (ProviderState σ' Progress τ)) :
    mapTurns view (wordTurn caller pauth memory' control' effective instruction prepared) =
      wordTurn caller pauth memory control effective instruction (prepared.map (ProviderState.mapOwner view)) := by
  cases prepared with
  | fails status s => rfl
  | ready s bytes =>
    refine (Option.map_map _ _ _).trans (congrArg (fun f => Option.map f _) ?_)
    funext out
    exact afterWord_view pauth hm hc s effective instruction _ _

lemma dynamicTurn_view (hm : Shows view memory' memory) (hc : Shows view control' control) (budget start : U64)
    (s : ProviderState σ' Progress τ) :
    mapTurns view (dynamicTurn caller pauth protect memory' control' budget start s) =
      dynamicTurn caller pauth protect memory control budget start (s.mapOwner view) := by
  unfold dynamicTurn
  dsimp only
  rw [show (s.mapOwner view).cpu = s.cpu from rfl, show (s.mapOwner view).result = s.result from rfl,
    show (s.mapOwner view).owner = view s.owner from rfl]
  split
  · rfl
  split
  · rfl
  split
  · rfl
  split
  · rfl
  rw [memoryExchangeVersion_view hm]
  dsimp only
  split
  · rfl
  split
  · rfl
  rw [wordTurn_view caller pauth hm hc, ← preparePlain_view]
  rfl

lemma vfRunMemoryProviderDynamic_view (hm : Shows view memory' memory) (hc : Shows view control' control)
    (initial : V2.Controls) (budget : U64) (s : ProviderState σ' RunResultDynamic τ) :
    (vfRunMemoryProviderDynamic caller pauth protect memory' control' initial budget s).map
        (Prod.map id (ProviderState.mapOwner view)) =
      vfRunMemoryProviderDynamic caller pauth protect memory control initial budget (s.mapOwner view) := by
  unfold vfRunMemoryProviderDynamic
  rw [show (s.mapOwner view).cpu = s.cpu from rfl]
  split
  · rfl
  · rw [show admitted initial (s.mapOwner view) = (admitted initial s).mapOwner view from rfl,
      ← iterate_map (dynamicTurn_view caller pauth protect hm hc budget s.cpu.retired), Option.map_map, Option.map_map]
    rfl

end DynamicRun

end Nextcore.Provider
