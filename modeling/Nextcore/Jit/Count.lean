import Nextcore.Jit.Runner

/-! The block counter is a statistic: nothing outside of generated code reads it. -/

namespace Nextcore.Cpu.VfCpu

def counted (cpu : VfCpu) (n : U64) : VfCpu := { cpu with compiledBlocks := n }

variable (cpu : VfCpu) (n : U64)

lemma eq_counted {a b : VfCpu} (h : a.counted 0#64 = b.counted 0#64) : b = a.counted b.compiledBlocks := by
  have hcount := congrArg (counted · b.compiledBlocks) h
  exact hcount.symm

lemma saveActiveSp_counted : (cpu.counted n).saveActiveSp = cpu.saveActiveSp.counted n := by
  unfold saveActiveSp
  change (if cpu.currentEl ≤ 3#32 then _ else _) = _
  by_cases h : cpu.currentEl ≤ 3#32
  · rw [if_pos h, if_pos h]
    rfl
  · rw [if_neg h, if_neg h]

lemma recordException_counted (kind : U32) (pc far : U64) (syndrome instruction : U32) :
    (cpu.counted n).recordException kind pc far syndrome instruction =
      (cpu.recordException kind pc far syndrome instruction).counted n := by
  unfold recordException
  rw [saveActiveSp_counted]
  rfl

lemma raiseException_counted (kind : U32) (pc far : U64) (syndrome instruction : U32) :
    (cpu.counted n).raiseException kind pc far syndrome instruction =
      (cpu.raiseException kind pc far syndrome instruction).map (counted · n) := by
  unfold raiseException
  simp only [recordException_counted, apply_ite (Option.map (counted · n)), Option.map_none, Option.map_some]
  rfl

lemma getD_counted (next : Option VfCpu) : (next.map (counted · n)).getD (cpu.counted n) = (next.getD cpu).counted n := by
  cases next <;> rfl

lemma takeException_counted : (cpu.counted n).takeException = cpu.takeException.map (counted · n) := by
  unfold takeException
  simp only [apply_ite (Option.map (counted · n)), Option.map_none, Option.map_some]
  rfl

lemma commitStatus_none {cpu : VfCpu} {status : U32}
    (h : ({ cpu with status := status } : VfCpu).statusException status = none) :
    cpu.commitStatus status = { cpu with status := status } := by
  unfold commitStatus
  dsimp only
  rw [h]

lemma commitStatus_some {cpu : VfCpu} {status kind : U32} {far : U64} {instruction : U32}
    (h : ({ cpu with status := status } : VfCpu).statusException status = some (kind, far, instruction)) :
    cpu.commitStatus status = (({ cpu with status := status } : VfCpu).raiseException kind cpu.pc far 0#32
      instruction).getD { cpu with status := status } := by
  unfold commitStatus
  dsimp only
  rw [h]

lemma commitStatus_counted (status : U32) : (cpu.counted n).commitStatus status = (cpu.commitStatus status).counted n := by
  rcases h : ({ cpu with status := status } : VfCpu).statusException status with - | ⟨kind, far, instruction⟩
  · have hcounted : ({ cpu.counted n with status := status } : VfCpu).statusException status = none := h
    rw [commitStatus_none h, commitStatus_none hcounted]
    rfl
  · have hcounted : ({ cpu.counted n with status := status } : VfCpu).statusException status =
        some (kind, far, instruction) := h
    have hraise := raiseException_counted { cpu with status := status } n kind cpu.pc far 0#32 instruction
    rw [commitStatus_some h, commitStatus_some hcounted, ← getD_counted, ← hraise]
    rfl

def ignoresInputs (cpu : VfCpu) : Bool := cpu.stateValid = false ∨ cpu.exceptionPending ≠ 0#32

def routesInputs (cpu : VfCpu) : Bool :=
  (cpu.irqLevel ≠ 0#32 ∨ cpu.fiqLevel ≠ 0#32 ∨ cpu.timerPending = true) ∧
    (1#32 < cpu.currentEl ∨ cpu.hcrEl2 &&& 0x18#64 ≠ 0#64 ∨ cpu.scrEl3 &&& 6#64 ≠ 0#64)

def trapInput (cpu : VfCpu) : VfCpu :=
  let cpu := { cpu with instruction := 0#32 }
  { (cpu.raiseException Exception.systemRegisterTrap cpu.pc 0#64 0#32 0#32).getD cpu with
    status := Status.systemRegisterTrap }

def enterInterrupt (cpu : VfCpu) (status kind : U32) : U32 × VfCpu :=
  match cpu.raiseException kind cpu.pc 0#64 0#32 0#32 with
  | none => (Status.dataFault, cpu)
  | some raised =>
    match raised.takeException with
    | none => (Status.dataFault, raised)
    | some taken => (status, { taken with status := status })

lemma pollInterrupt_eq : cpu.pollInterrupt =
    if cpu.ignoresInputs then (Status.next, cpu)
    else if cpu.routesInputs then (Status.systemRegisterTrap, cpu.trapInput)
    else (cpu.pendingInterrupt.map fun out => cpu.enterInterrupt out.1 out.2).getD (Status.next, cpu) := by
  unfold pollInterrupt ignoresInputs routesInputs
  simp only [decide_eq_true_eq]
  congr 2
  cases cpu.pendingInterrupt <;> rfl

lemma pollInterrupt_quiet (hirq : cpu.irqLevel = 0#32) (hfiq : cpu.fiqLevel = 0#32) (htimer : cpu.timerPending = false) :
    cpu.pollInterrupt.1 = Status.next := by
  have hroutes : cpu.routesInputs = false := by
    unfold routesInputs
    rw [hirq, hfiq, htimer]
    simp
  have hpending : cpu.pendingInterrupt = none := by
    unfold pendingInterrupt
    rw [hirq, hfiq, htimer]
    simp
  rw [pollInterrupt_eq, hroutes, hpending]
  cases cpu.ignoresInputs <;> rfl

lemma trapInput_counted : (cpu.counted n).trapInput = cpu.trapInput.counted n := by
  have hraise := raiseException_counted { cpu with instruction := 0#32 } n Exception.systemRegisterTrap cpu.pc 0#64 0#32
    0#32
  have hgetD := getD_counted { cpu with instruction := 0#32 } n
    (raiseException { cpu with instruction := 0#32 } Exception.systemRegisterTrap cpu.pc 0#64 0#32 0#32)
  rw [← hraise] at hgetD
  exact congrArg (fun next : VfCpu => { next with status := Status.systemRegisterTrap }) hgetD

lemma enterInterrupt_counted (status kind : U32) : (cpu.counted n).enterInterrupt status kind =
    ((cpu.enterInterrupt status kind).1, (cpu.enterInterrupt status kind).2.counted n) := by
  have hraise := raiseException_counted cpu n kind cpu.pc 0#64 0#32 0#32
  unfold enterInterrupt
  rw [show (cpu.counted n).pc = cpu.pc from rfl, hraise]
  cases cpu.raiseException kind cpu.pc 0#64 0#32 0#32 with
  | none => rfl
  | some raised =>
    dsimp only [Option.map_some]
    rw [takeException_counted]
    cases raised.takeException <;> rfl

lemma pollInterrupt_counted :
    (cpu.counted n).pollInterrupt = (cpu.pollInterrupt.1, cpu.pollInterrupt.2.counted n) := by
  have hignores : (cpu.counted n).ignoresInputs = cpu.ignoresInputs := rfl
  have hroutes : (cpu.counted n).routesInputs = cpu.routesInputs := rfl
  have hpending : (cpu.counted n).pendingInterrupt = cpu.pendingInterrupt := rfl
  rw [pollInterrupt_eq, pollInterrupt_eq, hignores, hroutes, hpending, trapInput_counted]
  cases cpu.ignoresInputs with
  | true => rfl
  | false =>
    cases cpu.routesInputs with
    | true => rfl
    | false =>
      cases cpu.pendingInterrupt with
      | none => rfl
      | some out => exact cpu.enterInterrupt_counted n out.1 out.2

lemma ite_counted {p : Prop} [Decidable p] {a a' b b' : SysregResult × VfCpu} (h : a' = (a.1, a.2.counted n))
    (h' : b' = (b.1, b.2.counted n)) :
    (if p then a' else b') = ((if p then a else b).1, (if p then a else b).2.counted n) := by
  split
  · exact h
  · exact h'

lemma storeSysreg_counted (r : Sysreg) (value : U64) :
    (cpu.counted n).storeSysreg r value = ((cpu.storeSysreg r value).1, (cpu.storeSysreg r value).2.counted n) := by
  cases r <;> first | rfl | exact ite_counted n rfl rfl

lemma writeSysreg_counted (key : U32) (value : U64) : (cpu.counted n).writeSysreg key value =
    ((cpu.writeSysreg key value).1, (cpu.writeSysreg key value).2.counted n) := by
  refine ite_counted n rfl ?_
  cases Sysreg.ofKey key with
  | none => rfl
  | some r =>
    refine ite_counted n rfl (ite_counted n ?_ (ite_counted n (ite_counted n rfl (ite_counted n rfl rfl)) ?_))
    · exact ite_counted n rfl (ite_counted n rfl (ite_counted n rfl (ite_counted n rfl rfl)))
    · have hlevel : (cpu.counted n).levelCheck r = cpu.levelCheck r := rfl
      rw [hlevel]
      cases cpu.levelCheck r with
      | some err => rfl
      | none =>
        dsimp only
        rw [storeSysreg_counted]
        rcases cpu.storeSysreg r value with ⟨out, next⟩
        cases out <;> rfl

end Nextcore.Cpu.VfCpu

namespace Nextcore.Jit

open Cpu Loop

variable (pauth : Option PauthStep) (cpu : VfCpu) (n : U64)

lemma setTarget_counted (w : U32) (value : U64) : setTarget (cpu.counted n) w value = (setTarget cpu w value).counted n := by
  unfold setTarget
  split <;> rfl

lemma ite_map_counted {p : Prop} [Decidable p] {a a' b b' : Option VfCpu} (h : a' = a.map (·.counted n))
    (h' : b' = b.map (·.counted n)) : (if p then a' else b') = (if p then a else b).map (·.counted n) := by
  split
  · exact h
  · exact h'

lemma systemRegisterSlowStep_counted :
    systemRegisterSlowStep (cpu.counted n) = (systemRegisterSlowStep cpu).map (·.counted n) := by
  refine ite_map_counted n rfl (ite_map_counted n ?_ ?_)
  · have hread : (cpu.counted n).readSysreg (sysregKey (cpu.counted n).instruction) =
        cpu.readSysreg (sysregKey cpu.instruction) := rfl
    rw [hread]
    cases cpu.readSysreg (sysregKey cpu.instruction) with
    | error err => rfl
    | ok value =>
      dsimp only
      rw [setTarget_counted]
      rfl
  · have hwrite := cpu.writeSysreg_counted n (sysregKey cpu.instruction) (sourceOf cpu cpu.instruction)
    have hsource : (cpu.counted n).writeSysreg (sysregKey (cpu.counted n).instruction)
        (sourceOf (cpu.counted n) (cpu.counted n).instruction) =
          (cpu.counted n).writeSysreg (sysregKey cpu.instruction) (sourceOf cpu cpu.instruction) := rfl
    rw [hsource, hwrite]
    rcases cpu.writeSysreg (sysregKey cpu.instruction) (sourceOf cpu cpu.instruction) with ⟨out, next⟩
    cases out <;> rfl

lemma pstateSlowStep_counted : pstateSlowStep (cpu.counted n) = (pstateSlowStep cpu).map (·.counted n) :=
  ite_map_counted n rfl (ite_map_counted n rfl (ite_map_counted n rfl rfl))

lemma pauthSlowStep_counted : pauthSlowStep pauth (cpu.counted n) = (pauthSlowStep pauth cpu).map (·.counted n) := by
  cases pauth with
  | none => rfl
  | some step =>
    refine ite_map_counted n rfl ?_
    have hstep : step (pauthContext (cpu.counted n)) (cpu.counted n).instruction =
        step (pauthContext cpu) cpu.instruction := rfl
    rw [hstep]
    cases step (pauthContext cpu) cpu.instruction <;> rfl

lemma slowStep_counted : slowStep pauth (cpu.counted n) = (slowStep pauth cpu).map (·.counted n) := by
  unfold slowStep
  rw [systemRegisterSlowStep_counted, pstateSlowStep_counted, pauthSlowStep_counted]
  cases systemRegisterSlowStep cpu with
  | some next => rfl
  | none =>
    cases pstateSlowStep cpu with
    | some next => rfl
    | none => cases pauthSlowStep pauth cpu <;> rfl

lemma returns_counted (status : U32) :
    (if status ≠ Status.next then returns status ((cpu.counted n).commitStatus status) id else .again (cpu.counted n)) =
      mapTurn (·.counted n) (if status ≠ Status.next then returns status (cpu.commitStatus status) id else .again cpu) := by
  split
  · rw [VfCpu.commitStatus_counted]
    rfl
  · rfl

lemma dispatch_counted (status : U32) :
    dispatch (slowStep pauth) status (cpu.counted n) = mapTurn (·.counted n) (dispatch (slowStep pauth) status cpu) := by
  have hfailure : researchSystemRegisterFailure (cpu.counted n) status = researchSystemRegisterFailure cpu status := rfl
  unfold dispatch
  rw [slowStep_counted, hfailure]
  dsimp only
  by_cases hstatus : status = Status.undefinedInstruction ∨ status = Status.systemRegisterTrap
  · rw [if_pos hstatus, if_pos hstatus]
    cases slowStep pauth cpu with
    | some next => rfl
    | none => exact returns_counted cpu n _
  · rw [if_neg hstatus, if_neg hstatus]
    exact returns_counted cpu n _

end Nextcore.Jit
