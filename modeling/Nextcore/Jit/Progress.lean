import Nextcore.Jit.BlockSize
import Nextcore.Lib.Budget

/-! The progress of a run loop: a turn that goes on has retired instructions, and no turn retires more of them than the
budget has left. -/

namespace Nextcore.Cpu.VfCpu

structure Apart {α : Type} (f : VfCpu → α) : Prop where
  status : ∀ cpu status, f { cpu with status := status } = f cpu
  instruction : ∀ cpu instruction, f { cpu with instruction := instruction } = f cpu
  far : ∀ cpu far, f { cpu with far := far } = f cpu
  record : ∀ cpu kind pc far syndrome instruction, f (recordException cpu kind pc far syndrome instruction) = f cpu
  take : ∀ cpu next, takeException cpu = some next → f next = f cpu

namespace Apart

variable {α : Type} {f : VfCpu → α} (hf : Apart f)

include hf

lemma raise {cpu next : VfCpu} {kind instruction syndrome : U32} {pc far : U64}
    (h : cpu.raiseException kind pc far syndrome instruction = some next) : f next = f cpu := by
  unfold raiseException at h
  split at h
  · cases h
  · cases h
    exact hf.record _ _ _ _ _ _

lemma raised (cpu : VfCpu) (kind : U32) (pc far : U64) (syndrome instruction : U32) :
    f ((cpu.raiseException kind pc far syndrome instruction).getD cpu) = f cpu := by
  cases hraise : cpu.raiseException kind pc far syndrome instruction with
  | none => rfl
  | some raised => exact hf.raise hraise

lemma commitStatus (cpu : VfCpu) (status : U32) : f (cpu.commitStatus status) = f cpu := by
  cases hexception : ({ cpu with status := status } : VfCpu).statusException status with
  | none =>
    rw [commitStatus_none hexception]
    exact hf.status cpu status
  | some out =>
    obtain ⟨kind, far, instruction⟩ := out
    rw [commitStatus_some hexception]
    exact (hf.raised { cpu with status := status } kind cpu.pc far 0#32 instruction).trans (hf.status cpu status)

lemma enterInterrupt (cpu : VfCpu) (status kind : U32) : f (cpu.enterInterrupt status kind).2 = f cpu := by
  unfold VfCpu.enterInterrupt
  cases hraise : cpu.raiseException kind cpu.pc 0#64 0#32 0#32 with
  | none => rfl
  | some raised =>
    dsimp only
    have hraised := hf.raise hraise
    cases htake : raised.takeException with
    | none => exact hraised
    | some taken => exact (hf.status taken status).trans ((hf.take raised taken htake).trans hraised)

lemma pollInterrupt (cpu : VfCpu) : f cpu.pollInterrupt.2 = f cpu := by
  rw [pollInterrupt_eq]
  split
  · rfl
  split
  · exact (hf.status _ _).trans
      ((hf.raised { cpu with instruction := 0#32 } Exception.systemRegisterTrap cpu.pc 0#64 0#32 0#32).trans
        (hf.instruction cpu 0#32))
  · cases cpu.pendingInterrupt with
    | none => rfl
    | some out => exact hf.enterInterrupt cpu out.1 out.2

end Apart

lemma retired_apart : Apart retired := by
  refine ⟨fun _ _ => rfl, fun _ _ => rfl, fun _ _ => rfl, fun cpu kind pc far syndrome instruction => ?_,
    fun cpu next h => ?_⟩
  · obtain ⟨spEl, hsave⟩ := cpu.saveActiveSp_eq
    simp only [recordException, hsave]
  · simp only [takeException, Option.ite_none_left_eq_some, Option.some.injEq] at h
    obtain ⟨-, -, rfl⟩ := h
    rfl

end Nextcore.Cpu.VfCpu

namespace Nextcore.Jit

open Cpu Emit X86 Loop

section Turns

variable {S : Type} {cpu : S → VfCpu} {before : U64} {left : ℕ}

def Retires (cpu : S → VfCpu) (before : U64) (left : ℕ) : Turn S U32 → Prop
  | .again s => ∃ i, 0 < i ∧ i ≤ left ∧ (cpu s).retired = before + BitVec.ofNat 64 i
  | .done _ s => ∃ i ≤ left, (cpu s).retired = before + BitVec.ofNat 64 i

lemma retires_returns (status : U32) {c : VfCpu} {put : VfCpu → S} (hput : ∀ c, cpu (put c) = c)
    (hc : c.retired = before) : Retires cpu before left (returns status c put) := by
  refine ⟨0, Nat.zero_le _, ?_⟩
  rw [hput]
  exact hc.trans (BitVec.add_zero before).symm

lemma Retires.mapTurn {put : VfCpu → S} (hput : ∀ c, cpu (put c) = c) {turn : Turn VfCpu U32}
    (h : Retires id before left turn) : Retires cpu before left (mapTurn put turn) := by
  cases turn with
  | again c =>
    obtain ⟨i, hpos, hi, hc⟩ := h
    exact ⟨i, hpos, hi, by rw [hput]; exact hc⟩
  | done status c =>
    obtain ⟨i, hi, hc⟩ := h
    exact ⟨i, hi, by rw [hput]; exact hc⟩

lemma Retires.mono {turn : Turn S U32} (h : Retires cpu before left turn) {left' : ℕ} (hle : left ≤ left') :
    Retires cpu before left' turn := by
  cases turn with
  | again s =>
    obtain ⟨i, hpos, hi, hs⟩ := h
    exact ⟨i, hpos, hi.trans hle, hs⟩
  | done status s =>
    obtain ⟨i, hi, hs⟩ := h
    exact ⟨i, hi.trans hle, hs⟩

lemma retires_step {status : U32} {c : VfCpu} {put : VfCpu → S} {s : S} (hput : ∀ c, cpu (put c) = c) (hs : cpu s = c)
    (hnext : status = Status.next → c.retired = before + 1#64) (hfails : status ≠ Status.next → c.retired = before) :
    Retires cpu before 1 (if status ≠ Status.next then returns status c put else .again s) := by
  by_cases h : status ≠ Status.next
  · rw [if_pos h]
    exact retires_returns status hput (hfails h)
  · rw [if_neg h]
    exact ⟨1, Nat.one_pos, le_refl 1, (congrArg VfCpu.retired hs).trans (hnext (not_not.mp h))⟩

variable {slow : VfCpu → Option VfCpu}

lemma dispatch_done {status status' : U32} {c c' : VfCpu} (h : dispatch slow status c = .done status' c') :
    c'.retired = c.retired := by
  have hfails : ∀ {status : U32}, (if status ≠ Status.next then returns status (c.commitStatus status) id
      else .again c) = .done status' c' → c'.retired = c.retired := by
    intro status h
    split at h
    · cases h
      exact VfCpu.retired_apart.commitStatus c _
    · cases h
  unfold dispatch at h
  dsimp only at h
  split at h
  · cases hslow : slow c with
    | some next =>
      rw [hslow] at h
      cases h
    | none =>
      rw [hslow] at h
      exact hfails h
  · exact hfails h

lemma dispatch_retires (hslow : ∀ cpu next, slow cpu = some next → next.retired = cpu.retired + 1#64) {status : U32}
    {c : VfCpu} {m : ℕ} (hm : m ≤ left) (hc : c.retired = before + BitVec.ofNat 64 m) (hnext : status = Status.next → 0 < m)
    (hfault : status ≠ Status.next → status ≠ Status.halt → m < left) :
    Retires id before left (dispatch slow status c) := by
  cases hdispatch : dispatch slow status c with
  | done status' c' => exact ⟨m, hm, (dispatch_done hdispatch).trans hc⟩
  | again c' =>
    rcases dispatch_again hslow hdispatch with ⟨hstatus, rfl⟩ | ⟨hstatus, hhalt, hstep⟩
    · exact ⟨m, hnext hstatus, hm, hc⟩
    · refine ⟨m + 1, Nat.succ_pos m, hfault hstatus hhalt, ?_⟩
      change c'.retired = _
      rw [hstep, hc, BitVec.add_assoc, BitVec.ofNat_add]

end Turns

section Budget

def retiredSince (start : U64) (cpu : VfCpu) : ℕ := (cpu.retired - start).toNat

lemma retiredSince_add {start budget : U64} {c c' : VfCpu} (hleft : c.retired - start < budget) {i : ℕ}
    (hi : i ≤ (budget - (c.retired - start)).toNat) (hc' : c'.retired = c.retired + BitVec.ofNat 64 i) :
    retiredSince start c' = retiredSince start c + i ∧ retiredSince start c' ≤ budget.toNat := by
  unfold retiredSince
  rw [hc', Bits.add_sub_swap]
  generalize c.retired - start = used at *
  have hbudget := budget.isLt
  rw [BitVec.toNat_sub_of_le (BitVec.le_of_lt hleft)] at hi
  rw [BitVec.lt_def] at hleft
  rw [BitVec.toNat_add, BitVec.toNat_ofNat, Nat.mod_eq_of_lt (show i < 2 ^ 64 by omega), Nat.mod_eq_of_lt (by omega)]
  omega

variable {S : Type} {body : S → Option (Turn S U32)} {I : S → Prop} {cpu : S → VfCpu} {start budget : U64}

lemma metered_of_retires
    (hspent : ∀ s, ¬((cpu s).retired - start < budget) → ∃ status t, body s = some (.done status t) ∧
      (cpu t).retired = (cpu s).retired)
    (hturn : ∀ s, I s → (cpu s).retired - start < budget → ∃ turn, body s = some turn ∧
      Retires cpu (cpu s).retired (budget - ((cpu s).retired - start)).toNat turn ∧ ∀ s', turn = .again s' → I s') :
    Metered body I (fun s => retiredSince start (cpu s)) budget.toNat := by
  refine ⟨fun s hs _ => ?_, fun s s' hs _ hagain => ?_, fun s status t hs hused hdone => ?_⟩
  · by_cases hleft : (cpu s).retired - start < budget
    · obtain ⟨turn, h, -⟩ := hturn s hs hleft
      exact ⟨turn, h⟩
    · obtain ⟨status, t, h, -⟩ := hspent s hleft
      exact ⟨_, h⟩
  · by_cases hleft : (cpu s).retired - start < budget
    · obtain ⟨turn, h, hretires, hI⟩ := hturn s hs hleft
      rw [hagain] at h
      cases h
      obtain ⟨i, hpos, hi, hc⟩ := hretires
      obtain ⟨hsum, hle⟩ := retiredSince_add hleft hi hc
      exact ⟨hI s' rfl, by omega, hle⟩
    · obtain ⟨status, t, h, -⟩ := hspent s hleft
      rw [hagain] at h
      cases h
  · by_cases hleft : (cpu s).retired - start < budget
    · obtain ⟨turn, h, hretires, -⟩ := hturn s hs hleft
      rw [hdone] at h
      cases h
      obtain ⟨i, hi, hc⟩ := hretires
      exact (retiredSince_add hleft hi hc).2
    · obtain ⟨status', t', h, hc⟩ := hspent s hleft
      rw [hdone] at h
      cases h
      unfold retiredSince at hused ⊢
      rw [hc]
      exact hused

/-- A run of a loop that starts in `s`: each turn ends the run or retires an instruction, no state that the loop visits
has retired more than the budget, and the run ends. -/
structure Bounded (body : S → Option (Turn S U32)) (cpu : S → VfCpu) (budget : U64) (s : S) (run : Option VfCpu) :
    Prop where
  progress : ∀ s', Visits body s s' → ∃ turn, body s' = some turn ∧ ∀ s'', turn = .again s'' →
    retiredSince (cpu s).retired (cpu s') + 1 ≤ retiredSince (cpu s).retired (cpu s'')
  within : ∀ s', Visits body s s' → retiredSince (cpu s).retired (cpu s') ≤ budget.toNat
  ends : ∃ out, run = some out ∧ retiredSince (cpu s).retired out ≤ budget.toNat

lemma retiredSince_self (c : VfCpu) : retiredSince c.retired c = 0 := by
  unfold retiredSince
  rw [BitVec.sub_self]
  rfl

lemma Bounded.of_metered {s : S} (hmetered : Metered body I (fun t => retiredSince (cpu s).retired (cpu t)) budget.toNat)
    (hs : I s) {run : Option VfCpu} (hrun : run = (iterate body (budget.toNat + 1) s).map (fun out => cpu out.2) ∨
      ∃ out, run = some out ∧ out.retired = (cpu s).retired) : Bounded body cpu budget s run := by
  have hself := retiredSince_self (cpu s)
  have hstart : retiredSince (cpu s).retired (cpu s) ≤ budget.toNat := by omega
  refine ⟨fun s' hvisits => ?_, fun s' hvisits => (hmetered.visits hs hstart hvisits).2, ?_⟩
  · obtain ⟨hs', hused⟩ := hmetered.visits hs hstart hvisits
    obtain ⟨turn, hturn⟩ := hmetered.defined s' hs' hused
    exact ⟨turn, hturn, fun s'' h => (hmetered.again s' s'' hs' hused (hturn.trans (congrArg some h))).2.1⟩
  · rcases hrun with hloop | ⟨out, hout, hretired⟩
    · have hfuel : budget.toNat - retiredSince (cpu s).retired (cpu s) < budget.toNat + 1 := by omega
      obtain ⟨status, t, hends, hused⟩ := hmetered.ends hs hstart hfuel
      exact ⟨cpu t, by rw [hloop, hends]; rfl, hused⟩
    · refine ⟨out, hout, ?_⟩
      unfold retiredSince at hstart ⊢
      rw [hretired]
      exact hstart

end Budget

section Run

variable {τ : Type} (caller : Caller) (pauth : Option PauthStep) (protect : Protect τ) (image : Image)

lemma executeTurn_retires {count left : ℕ} (hcount : count ≠ 0) (hcount32 : count ≤ 32) (hleft : count ≤ left)
    {s : RunState τ} {guest : List Byte} {code : Buffer}
    (hcode : s.code = (translateImpl code (Target.ofCpu s.cpu) false guest s.cpu.pc count).2)
    (hfits : (translateImpl code (Target.ofCpu s.cpu) false guest s.cpu.pc count).1 = Status.next) :
    ∃ turn, executeTurn caller pauth s = some turn ∧ Retires RunState.cpu s.cpu.retired left turn := by
  obtain ⟨block, -, hruns, hstatus, -, -, htake⟩ := translateImpl_spec code (Target.ofCpu s.cpu) false guest s.cpu.pc hcount
  have hroom : block.length ≤ code.capacity := by
    rw [hfits] at hstatus
    by_contra hfull
    rw [if_pos (Nat.not_le.mp hfull)] at hstatus
    cases hstatus
  obtain ⟨status, g, ram, m, heffect, hm, hretired, hnext, hfault⟩ := effectFrom_counts (Target.ofCpu s.cpu) false guest
    hcount (n := 0) (by omega) s.cpu.pc s.cpu s.ram
  rw [Nat.zero_add] at hretired
  have hblock : s.code.bytes.take block.length = block := by
    rw [hcode]
    exact htake hroom
  unfold executeTurn
  rw [executeNativeBlock_block hruns caller hblock heffect]
  refine ⟨_, rfl, ?_⟩
  dsimp only
  refine Retires.mapTurn (fun _ => rfl) (dispatch_retires (fun _ _ h => slowStep_retired h) (hm.trans hleft) ?_ hnext
    fun h h' => (hfault h h').trans_le hleft)
  exact hretired

lemma blockTurn_retires {count left : ℕ} (hcount : count ≠ 0) (hcount32 : count ≤ 32) (hleft : count ≤ left)
    (s : RunState τ) :
    ∃ turn, blockTurn caller pauth protect image count s = some turn ∧ Retires RunState.cpu s.cpu.retired left turn := by
  unfold blockTurn
  dsimp only
  by_cases hwritable : (protect s.opaque_ false).2 ≠ 0#32
  · rw [if_pos hwritable]
    exact ⟨_, rfl, retires_returns _ (fun _ => rfl) rfl⟩
  rw [if_neg hwritable]
  unfold vfTranslateCpu
  by_cases hvalid : s.cpu.stateValid = false
  · rw [if_pos hvalid]
    dsimp only
    rw [if_pos (by decide), if_pos (by decide)]
    exact ⟨_, rfl, retires_returns _ (fun _ => rfl) (VfCpu.retired_apart.commitStatus s.cpu _)⟩
  rw [if_neg hvalid]
  by_cases hmmu : s.cpu.sctlr &&& 1#64 ≠ 0#64
  · rw [if_pos hmmu]
    dsimp only
    rw [if_pos (by decide), if_pos (by decide)]
    exact ⟨_, rfl, retires_returns _ (fun _ => rfl) (VfCpu.retired_apart.commitStatus { s.cpu with instruction := 0#32 } _)⟩
  rw [if_neg hmmu]
  dsimp only
  by_cases hfits : (translateImpl s.code (Target.ofCpu s.cpu) false (image.bytes s.ram) s.cpu.pc count).1 ≠ Status.next
  · rw [if_pos hfits]
    refine ⟨_, rfl, retires_returns _ (fun _ => rfl) ?_⟩
    split
    · exact VfCpu.retired_apart.commitStatus s.cpu _
    · rfl
  rw [if_neg hfits]
  by_cases hexecutable : (protect (protect s.opaque_ false).1 true).2 ≠ 0#32
  · rw [if_pos hexecutable]
    exact ⟨_, rfl, retires_returns _ (fun _ => rfl) rfl⟩
  rw [if_neg hexecutable]
  exact executeTurn_retires caller pauth hcount hcount32 hleft rfl (not_not.mp hfits)

lemma vfRunTurn_retires {most : ℕ} (hmost : most ≠ 0) (hmost32 : most ≤ 32) {budget start : U64} {s : RunState τ}
    (hleft : s.cpu.retired - start < budget) :
    ∃ turn, vfRunTurn caller pauth protect image most budget start s = some turn ∧
      Retires RunState.cpu s.cpu.retired (budget - (s.cpu.retired - start)).toNat turn := by
  unfold vfRunTurn
  dsimp only
  rw [if_neg (not_not.mpr hleft)]
  by_cases hmmu : s.cpu.sctlr &&& 1#64 ≠ 0#64
  · rw [if_pos hmmu]
    exact ⟨_, rfl, retires_returns _ (fun _ => rfl) rfl⟩
  rw [if_neg hmmu]
  have hpolled := VfCpu.retired_apart.pollInterrupt s.cpu
  by_cases hquiet : s.cpu.pollInterrupt.1 ≠ Status.next
  · rw [if_pos hquiet]
    exact ⟨_, rfl, retires_returns _ (fun _ => rfl) hpolled⟩
  rw [if_neg hquiet, VfCpu.pollInterrupt_next (not_not.mp hquiet)]
  exact blockTurn_retires caller pauth protect image (blockCount_pos hmost hleft)
    ((blockCount_le hmost).trans hmost32) (blockCount_left most hleft) s

lemma vfRun_bounded (budget : U64) (s : RunState τ) :
    Bounded (vfRunTurn caller pauth protect image 32 budget s.cpu.retired) RunState.cpu budget s
      ((vfRun caller pauth protect image budget s).map fun out => out.2.cpu) := by
  refine Bounded.of_metered (I := fun _ => True) (metered_of_retires (fun t hspent => ?_) fun t _ hleft => ?_) trivial ?_
  · unfold vfRunTurn
    rw [if_pos hspent]
    exact ⟨_, _, rfl, rfl⟩
  · obtain ⟨turn, hturn, hretires⟩ := vfRunTurn_retires caller pauth protect image (by decide) (le_refl 32) hleft
    exact ⟨turn, hturn, hretires, fun _ _ => trivial⟩
  · unfold vfRun vfRunBlocks
    split
    · exact .inr ⟨_, rfl, rfl⟩
    · exact .inl rfl

end Run

end Nextcore.Jit
