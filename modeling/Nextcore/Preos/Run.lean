import Nextcore.Lib.Loop
import Nextcore.Preos.Moves

/-! The run loop of `arch.rs`: poll, execute and retire until the budget is used up. -/

namespace Nextcore.Preos

open Mmu Loop

variable {β : Type}

inductive ArchRunStatus
  | halt | budget | exception | wait | input
  deriving DecidableEq, Repr

structure ArchRunResult where
  status : ArchRunStatus
  exception : Option GuestException
  retired : U64
  pc : U64
  deriving DecidableEq, Repr

def RamBus.loadCode (s : RamBus) (code : List Byte) : Option RamBus :=
  if s.ram.length < code.length then none else some { s with ram := code ++ s.ram.drop code.length }

namespace GuestCpuState

def result (cpu : GuestCpuState) (status : ArchRunStatus) (exception : Option GuestException) : ArchRunResult :=
  ⟨status, exception, cpu.retired, cpu.pc⟩

def retire (cpu : GuestCpuState) (bus : GuestBus β) (s : β) : GuestCpuState × β :=
  bus.afterInstruction s ({ cpu with retired := saturatingAdd cpu.retired 1#64 }.advanceCounter 1#64)

def runTurn (bus : GuestBus β) (budget : U64) (m : GuestCpuState × β) : Turn (GuestCpuState × β) ArchRunResult :=
  if ¬m.1.retired < budget then .done (m.1.result .budget none) m
  else
    let (interrupted, cpu) := m.1.pollInterrupt
    if interrupted then
      let (taken, committed) := cpu.commitPendingInterrupt
      .done (committed.result .exception (taken.or cpu.pendingException)) (committed, m.2)
    else
      let (step, cpu, s) := cpu.executeOne bus m.2
      match step with
      | .resume => .again (cpu.retire bus s)
      | .halt => .done ((cpu.retire bus s).1.result .halt none) (cpu.retire bus s)
      | .wait => .done ((cpu.retire bus s).1.result .wait none) (cpu.retire bus s)
      | .exception kind =>
        .done (cpu.result .exception (cpu.pendingException.or (some ⟨kind, 0#32, 0#64, cpu.pc, cpu.pc⟩))) (cpu, s)

def body (bus : GuestBus β) (budget : U64) (m : GuestCpuState × β) : Option (Turn (GuestCpuState × β) ArchRunResult) :=
  some (runTurn bus budget m)

/-- `run_loaded_with_bus`; the hook only observes. -/
def runLoadedWithBus (bus : GuestBus β) (budget : U64) (m : GuestCpuState × β) : Option (ArchRunResult × GuestCpuState × β) :=
  iterate (body bus budget) (budget.toNat + 1) m

def started (cpu : GuestCpuState) : GuestCpuState :=
  { cpu with
    retired := 0#64, pc := 0#64, pendingException := none, exceptionTarget := none, exceptionFromLowerEl := false,
    exceptionVector := 0#64, waiting := false }

def runBoundedWithBus (bus : GuestBus β) (load : β → List Byte → Option β) (code : List Byte) (budget : U64)
    (m : GuestCpuState × β) : Option (ArchRunResult × GuestCpuState × β) :=
  if m.1.stateValid = false ∨ code.length < 4 ∨ code.length % 4 ≠ 0 ∨ budget = 0#64 then some (m.1.result .input none, m)
  else
    match load m.2 code with
    | none => some (m.1.result .input none, m)
    | some s => runLoadedWithBus bus budget (m.1.started, s)

def runBounded (cpu : GuestCpuState) (code ram : List Byte) (budget : U64) : Option (ArchRunResult × GuestCpuState × RamBus) :=
  runBoundedWithBus RamBus.bus RamBus.loadCode code budget (cpu, ⟨ram, 0#64⟩)

def bootRefused (ram : List Byte) (ramBase entry args stack budget : U64) : Bool :=
  budget = 0#64 ∨ ramBase &&& 0x3fff#64 ≠ 0#64 ∨ entry &&& 3#64 ≠ 0#64 ∨ args &&& 7#64 ≠ 0#64 ∨ stack &&& 15#64 ≠ 0#64 ∨
    2 ^ 64 ≤ ramBase.toNat + ram.length ∨ entry < ramBase ∨ ramBase.toNat + ram.length < entry.toNat + 4 ∨
    args < ramBase ∨ ramBase.toNat + ram.length ≤ args.toNat ∨ stack ≤ ramBase ∨ ramBase.toNat + ram.length < stack.toNat

def booted (affinity : U32) (entry args stack : U64) : GuestCpuState :=
  let cpu := reset affinity
  { cpu with
    pc := entry
    x := Function.update cpu.x 0 args
    sp := stack
    spEl := Function.update cpu.spEl .el1 stack
    pstate := cpu.pstate ||| Pstate.d ||| Pstate.a ||| Pstate.i ||| Pstate.f }

def runBootBounded (cpu : GuestCpuState) (ram : List Byte) (ramBase entry args stack budget : U64) :
    Option (ArchRunResult × GuestCpuState × RamBus) :=
  if bootRefused ram ramBase entry args stack budget then some (⟨.input, none, 0#64, cpu.pc⟩, cpu, ⟨ram, ramBase⟩)
  else runLoadedWithBus RamBus.bus budget (booted cpu.affinity entry args stack, ⟨ram, ramBase⟩)

section Turns

variable {bus : GuestBus β} {budget : U64} {m : GuestCpuState × β} {turn : Turn (GuestCpuState × β) ArchRunResult}

lemma pollInterrupt_false {cpu : GuestCpuState} (h : cpu.pollInterrupt.1 = false) : cpu.pollInterrupt.2 = cpu := by
  unfold pollInterrupt at h ⊢
  dsimp only at h ⊢
  split
  · rfl
  next hidle =>
  rw [if_neg hidle] at h
  split
  next htrap =>
    rw [if_pos htrap] at h
    cases h
  next htrap =>
  rw [if_neg htrap] at h
  split
  next hfiq =>
    rw [if_pos hfiq] at h
    cases h
  next hfiq =>
  rw [if_neg hfiq] at h
  split
  · rfl
  next hmasked =>
  rw [if_neg hmasked] at h
  split
  next htimer =>
    rw [if_pos htimer] at h
    cases h
  next htimer =>
  rw [if_neg htimer] at h
  split
  next hirq =>
    rw [if_pos hirq] at h
    cases h
  · rfl

inductive TurnOf (bus : GuestBus β) (budget : U64) (m : GuestCpuState × β) :
    Turn (GuestCpuState × β) ArchRunResult → Prop
  | spent (h : ¬m.1.retired < budget) : TurnOf bus budget m (.done (m.1.result .budget none) m)
  | interrupted {taken : Option GuestException} {cpu committed : GuestCpuState} (hleft : m.1.retired < budget)
      (hpoll : m.1.pollInterrupt = (true, cpu)) (hcommit : cpu.commitPendingInterrupt = (taken, committed)) :
      TurnOf bus budget m (.done (committed.result .exception (taken.or cpu.pendingException)) (committed, m.2))
  | resumed {cpu : GuestCpuState} {s : β} (hleft : m.1.retired < budget) (hpoll : m.1.pollInterrupt = (false, m.1))
      (hstep : m.1.executeOne bus m.2 = (.resume, cpu, s)) : TurnOf bus budget m (.again (cpu.retire bus s))
  | stopped {cpu : GuestCpuState} {s : β} {step : StepResult} {status : ArchRunStatus} (hleft : m.1.retired < budget)
      (hpoll : m.1.pollInterrupt = (false, m.1)) (hstep : m.1.executeOne bus m.2 = (step, cpu, s))
      (hstatus : step = .halt ∧ status = .halt ∨ step = .wait ∧ status = .wait) :
      TurnOf bus budget m (.done ((cpu.retire bus s).1.result status none) (cpu.retire bus s))
  | faulted {cpu : GuestCpuState} {s : β} {kind : ExceptionKind} (hleft : m.1.retired < budget)
      (hpoll : m.1.pollInterrupt = (false, m.1)) (hstep : m.1.executeOne bus m.2 = (.exception kind, cpu, s)) :
      TurnOf bus budget m (.done (cpu.result .exception
        (cpu.pendingException.or (some ⟨kind, 0#32, 0#64, cpu.pc, cpu.pc⟩))) (cpu, s))

lemma turnOf (bus : GuestBus β) (budget : U64) (m : GuestCpuState × β) : TurnOf bus budget m (runTurn bus budget m) := by
  unfold runTurn
  by_cases hleft : m.1.retired < budget
  swap
  · rw [if_pos hleft]
    exact .spent hleft
  rw [if_neg (not_not.mpr hleft)]
  rcases hpoll : m.1.pollInterrupt with ⟨interrupted, cpu⟩
  cases interrupted with
  | true =>
    rcases hcommit : cpu.commitPendingInterrupt with ⟨taken, committed⟩
    dsimp only
    rw [if_pos rfl, hcommit]
    exact .interrupted hleft hpoll hcommit
  | false =>
    have hquiet := pollInterrupt_false (congrArg Prod.fst hpoll)
    rw [hpoll] at hquiet
    obtain rfl : cpu = m.1 := hquiet
    dsimp only
    rw [if_neg Bool.false_ne_true]
    rcases hstep : m.1.executeOne bus m.2 with ⟨step, cpu, s⟩
    cases step with
    | resume => exact .resumed hleft hpoll hstep
    | halt => exact .stopped hleft hpoll hstep (Or.inl ⟨rfl, rfl⟩)
    | wait => exact .stopped hleft hpoll hstep (Or.inr ⟨rfl, rfl⟩)
    | exception kind => exact .faulted hleft hpoll hstep

lemma TurnOf.body_eq (h : TurnOf bus budget m turn) : body bus budget m = some turn := by
  unfold body runTurn
  cases h with
  | spent h => rw [if_pos h]
  | interrupted hleft hpoll hcommit =>
    rw [if_neg (not_not.mpr hleft), hpoll]
    dsimp only
    rw [if_pos rfl, hcommit]
  | resumed hleft hpoll hstep =>
    rw [if_neg (not_not.mpr hleft), hpoll]
    dsimp only
    rw [if_neg Bool.false_ne_true, hstep]
  | stopped hleft hpoll hstep hstatus =>
    rw [if_neg (not_not.mpr hleft), hpoll]
    dsimp only
    rw [if_neg Bool.false_ne_true, hstep]
    rcases hstatus with ⟨rfl, rfl⟩ | ⟨rfl, rfl⟩ <;> rfl
  | faulted hleft hpoll hstep =>
    rw [if_neg (not_not.mpr hleft), hpoll]
    dsimp only
    rw [if_neg Bool.false_ne_true, hstep]

end Turns

end GuestCpuState

end Nextcore.Preos
