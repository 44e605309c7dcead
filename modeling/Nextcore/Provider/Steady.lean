import Nextcore.Provider.Progress

/-! The CPU of a dynamic run between two control operations: it stays at EL1 in a valid state, with no exception pending
and the same control registers. -/

namespace Nextcore.Provider

open Abi.Dynamic (Snapshot)
open Cpu Jit Emit X86 Loop

def bankOf (cpu : VfCpu) : Snapshot :=
  ⟨cpu.sctlr, cpu.ttbr0, cpu.ttbr1, cpu.tcr, cpu.mair, cpu.hcrEl2, cpu.scrEl3, 0#64⟩

lemma bankOf_apart : VfCpu.Apart bankOf := by
  refine ⟨fun _ _ => rfl, fun _ _ => rfl, fun _ _ => rfl, fun cpu kind pc far syndrome instruction => ?_,
    fun cpu next h => ?_⟩
  · obtain ⟨spEl, hsave⟩ := cpu.saveActiveSp_eq
    simp only [VfCpu.recordException, hsave]
    rfl
  · simp only [VfCpu.takeException, Option.ite_none_left_eq_some, Option.some.injEq] at h
    obtain ⟨-, -, rfl⟩ := h
    rfl

structure Steady (bank : Snapshot) (cpu : VfCpu) : Prop where
  valid : cpu.stateValid = true
  quiet : cpu.exceptionPending = Exception.none
  level : cpu.currentEl = 1#32
  bank : bankOf cpu = bank

variable {bank : Snapshot} {cpu : VfCpu}

lemma Steady.frame {next : VfCpu} (h : Steady bank cpu) (hvalid : next.stateValid = cpu.stateValid)
    (hquiet : next.exceptionPending = cpu.exceptionPending) (hlevel : next.currentEl = cpu.currentEl)
    (hbank : bankOf next = bankOf cpu) : Steady bank next :=
  ⟨hvalid.trans h.valid, hquiet.trans h.quiet, hlevel.trans h.level, hbank.trans h.bank⟩

section Native

lemma wordEffect_eq (cpu : VfCpu) (w : U32) (g : VfCpu) (ram : List Byte) :
    wordEffect cpu w g ram = (effectOne (Target.ofCpu cpu) true w cpu.pc 0#32 g ram).andThen
      fun g ram => .stops Status.next (finished g (cpu.pc + 4#64) 1#32) ram := by
  have hword : blockWord (Target.ofCpu cpu) true (le32 w) cpu.pc = w := by
    rw [blockWord, if_pos rfl]
    exact le32_word w
  unfold wordEffect blockEffect
  rw [effectFrom]
  dsimp only
  rw [if_neg (by simp), hword]
  rfl

lemma wordEffect_finished {w status : U32} {g : VfCpu} {ram : List Byte}
    (heffect : wordEffect cpu w cpu [] = .stops status g ram) :
    ∃ d pc n, KeepsMode (working cpu) d ∧ g = finished (put cpu d) pc n := by
  obtain ⟨out, hlocal⟩ := localized_one (Target.ofCpu cpu) true w cpu.pc
  obtain ⟨heq, hkeeps⟩ := hlocal 0#32 cpu []
  beta_reduce at heq
  rw [wordEffect_eq, heq] at heffect
  cases hout : out cpu.currentEl cpu.hcrEl2 cpu.scrEl3 (working cpu) [] with
  | next d ram' =>
    rw [hout] at heffect hkeeps
    cases heffect
    exact ⟨d, _, _, hkeeps.1, rfl⟩
  | branches d target ram' =>
    rw [hout] at heffect hkeeps
    cases heffect
    exact ⟨d, _, _, hkeeps.1, rfl⟩
  | halts d ram' =>
    rw [hout] at heffect hkeeps
    cases heffect
    exact ⟨d, _, _, hkeeps.1, rfl⟩
  | faults status' d ram' =>
    rw [hout] at heffect hkeeps
    cases heffect
    exact ⟨d, _, _, show d.pstate &&& ~~~0xf0000000#64 = _ by rw [hkeeps.2.1], rfl⟩

lemma Steady.finished {d : Working} (h : Steady bank cpu) (hmode : KeepsMode (working cpu) d) (pc : U64) (n : U32) :
    Steady bank (finished (put cpu d) pc n) := by
  have hvalid : (put cpu d).stateValid = cpu.stateValid := @Inside.stateValid cpu (put cpu d) [] [] ⟨rfl, hmode, rfl⟩
  exact h.frame hvalid rfl rfl rfl

lemma Steady.settle (h : Steady bank cpu) (before : U64) : Steady bank (settle before cpu) :=
  h.frame rfl rfl rfl rfl

lemma finished_masked {d : Working} (hmode : KeepsMode (working cpu) d) (pc : U64) (n : U32) :
    (finished (put cpu d) pc n).pstate &&& ~~~0xf00003cf#64 = cpu.pstate &&& ~~~0xf00003cf#64 := by
  have hsplit : ∀ v : U64, v &&& ~~~0xf00003cf#64 = v &&& ~~~0xf0000000#64 &&& ~~~0x3cf#64 := fun v => by
    rw [BitVec.and_assoc]
    rfl
  have hmode : d.pstate &&& ~~~0xf0000000#64 = cpu.pstate &&& ~~~0xf0000000#64 := hmode
  change d.pstate &&& _ = _
  rw [hsplit, hsplit, hmode]

def Names (w : U32) (e : VfCpu → List Byte → Effect) : Prop :=
  ∀ g ram status g' ram', e g ram = .stops status g' ram' →
    status = Status.next ∨ status = Status.halt ∨ g'.instruction = w

variable {w : U32} {pc : U64} {n : U32} {e e' : VfCpu → List Byte → Effect}

lemma names_ite {p : Prop} [Decidable p] (h : Names w e) (h' : Names w e') : Names w (if p then e else e') := by
  split
  · exact h
  · exact h'

lemma names_next (f : VfCpu → VfCpu) : Names w fun g ram => .next (f g) ram := by
  intro g ram status g' ram' heq
  cases heq

lemma names_stop (status : U32) : Names w (stopEffect w pc n status) := by
  intro g ram status' g' ram' heq
  cases heq
  exact .inr (.inr rfl)

lemma names_straight (result : Option (VfCpu → VfCpu)) : Names w (straightEffect w pc n result) := by
  cases result with
  | none => exact names_stop _
  | some f => exact names_next f

lemma names_branch (taken : U64) (takes : VfCpu → Bool) : Names w (branchEffect taken pc n takes) := by
  intro g ram status g' ram' heq
  cases heq
  exact .inl rfl

lemma names_branchResult : Names w (branchResult w pc n) := by
  intro g ram status g' ram' heq
  cases heq
  exact .inl rfl

lemma names_branchRegister : Names w (branchRegisterResult w pc n) := by
  intro g ram status g' ram' heq
  unfold branchRegisterResult at heq
  split at heq
  · exact names_stop _ g ram status g' ram' heq
  · cases heq
    exact .inl rfl

lemma names_idRead : Names w (idReadEffect w pc n) := by
  intro g ram status g' ram' heq
  unfold idReadEffect at heq
  split at heq
  · cases heq
  · cases heq
    exact .inr (.inr rfl)

lemma names_inline (t : Target) : Names w (inlineEffect t w pc n) := by
  intro g ram status g' ram' heq
  unfold inlineEffect at heq
  dsimp only at heq
  split at heq
  · cases heq
    exact .inr (.inr rfl)
  split at heq
  · cases heq
    exact .inr (.inr rfl)
  unfold accessEffect at heq
  split at heq
  · cases heq
    exact .inr (.inr rfl)
  · cases heq

lemma names_halt : Names w fun g ram => .stops Status.halt (finished g (pc + 4#64) (n + 1#32)) ram := by
  intro g ram status g' ram' heq
  cases heq
  exact .inr (.inl rfl)

lemma names_one (t : Target) (provider : Bool) (w : U32) (pc : U64) (n : U32) :
    Names w (effectOne t provider w pc n) := by
  unfold effectOne
  refine names_ite (names_stop _) ?_
  refine names_ite (names_stop _) ?_
  refine names_ite (names_stop _) ?_
  refine names_ite (names_next _) ?_
  refine names_ite (names_straight _) ?_
  refine names_ite (names_straight _) ?_
  refine names_ite (names_next _) ?_
  refine names_ite (names_straight _) ?_
  refine names_ite (names_straight _) ?_
  refine names_ite (names_straight _) ?_
  refine names_ite names_idRead ?_
  refine names_ite (names_straight _) ?_
  refine names_ite (names_straight _) ?_
  refine names_ite (names_straight _) ?_
  refine names_ite (names_straight _) ?_
  refine names_ite (names_straight _) ?_
  refine names_ite (names_straight _) ?_
  refine names_ite (names_straight _) ?_
  refine names_ite (names_inline t) ?_
  refine names_ite (names_branch _ _) ?_
  refine names_ite (names_branch _ _) ?_
  refine names_ite (names_branch _ _) ?_
  refine names_ite names_branchResult ?_
  refine names_ite names_branchRegister ?_
  refine names_ite (names_next id) ?_
  refine names_ite names_halt ?_
  exact names_stop _

lemma wordEffect_names {status : U32} {g : VfCpu} {ram : List Byte}
    (heffect : wordEffect cpu w cpu [] = .stops status g ram) :
    status = Status.next ∨ status = Status.halt ∨ g.instruction = w := by
  rw [wordEffect_eq] at heffect
  cases hone : effectOne (Target.ofCpu cpu) true w cpu.pc 0#32 cpu [] with
  | next g' ram' =>
    rw [hone] at heffect
    cases heffect
    exact .inl rfl
  | stops status' g' ram' =>
    rw [hone] at heffect
    cases heffect
    exact names_one _ _ _ _ _ _ _ _ _ _ hone

lemma callWord_steady (caller : Caller) {w : U32} {bytes : List Byte} (h : Steady bank cpu)
    (hbytes : bytes.take (wordBlock cpu.currentEl w cpu.pc).length = wordBlock cpu.currentEl w cpu.pc)
    {status : U32} {c : VfCpu} {ram : List Byte} (hcall : executeNativeBlock caller bytes cpu [] = some (status, c, ram)) :
    Steady bank c ∧ c.pstate &&& ~~~0xf00003cf#64 = cpu.pstate &&& ~~~0xf00003cf#64 ∧
      (status = Status.next ∨ status = Status.halt ∨ c.instruction = w) := by
  obtain ⟨hruns, -⟩ := translateWord_spec ⟨[], 0⟩ cpu w
  obtain ⟨status', g, ram', heffect⟩ := effectFrom_stops (Target.ofCpu cpu) true (le32 w) Nat.one_ne_zero 0#32 cpu.pc cpu []
  rw [executeNativeBlock_block hruns caller hbytes heffect] at hcall
  cases hcall
  have hnames : status = Status.next ∨ status = Status.halt ∨ g.instruction = w := wordEffect_names heffect
  obtain ⟨d, pc, n, hmode, rfl⟩ := wordEffect_finished heffect
  exact ⟨(h.finished hmode pc n).settle cpu.retired, finished_masked hmode pc n, hnames⟩

end Native

section Slow

variable {pauth : Option PauthStep} {next : VfCpu}

lemma Steady.retireNext (h : Steady bank cpu) : Steady bank (retireNext cpu) := h.frame rfl rfl rfl rfl

lemma Steady.setX (h : Steady bank cpu) (reg : U32) (value : U64) : Steady bank (cpu.setX reg value) :=
  h.frame rfl rfl rfl rfl

lemma Steady.setTarget (h : Steady bank cpu) (w : U32) (value : U64) : Steady bank (setTarget cpu w value) := by
  unfold Jit.setTarget
  split
  · exact h.setX _ _
  · exact h

def held : List Sysreg := [.sctlrEl1, .ttbr0El1, .ttbr1El1, .tcrEl1, .mairEl1, .hcrEl2, .scrEl3]

lemma Steady.storeSysreg (h : Steady bank cpu) {r : Sysreg} (hr : r ∉ held) (value : U64) :
    Steady bank (cpu.storeSysreg r value).2 := by
  refine h.frame (cpu.storeSysreg_stateValid r value) ?_ ?_ ?_
  all_goals
    cases r <;> first | rfl | exact absurd (by decide) hr | (simp only [VfCpu.storeSysreg]; split <;> rfl)

lemma Steady.configurePlatform (h : Steady bank cpu) (profile : U32) (value : U64) :
    Steady bank (cpu.configurePlatform profile value).2 := by
  unfold VfCpu.configurePlatform
  split
  · exact h
  · exact h.frame rfl rfl rfl rfl

lemma Steady.cpacr (h : Steady bank cpu) (hprofile : cpu.fpExecutionProfile = 1#32) {value : U64}
    (hvalue : value &&& ~~~0x00300000#64 = 0#64) : Steady bank { cpu with cpacrEl1 := value } := by
  refine ⟨?_, h.quiet, h.level, h.bank⟩
  obtain ⟨hp, hreserved, -, -, hpending, htarget, hlower, hmode⟩ := (cpu.stateValid_iff).mp h.valid
  refine (VfCpu.stateValid_iff _).mpr ⟨hp, hreserved, hvalue, fun habsent => ?_, hpending, htarget, hlower, hmode⟩
  rw [show ({ cpu with cpacrEl1 := value } : VfCpu).fpExecutionProfile = 1#32 from hprofile] at habsent
  cases habsent

lemma Steady.writeSysreg (h : Steady bank cpu) {key : U32} (hkey : selectorOf key = none) (value : U64) :
    Steady bank (cpu.writeSysreg key value).2 := by
  rcases cpu.writeSysreg_cases key value with
    ⟨-, hfails⟩ | ⟨-, hprofile, -, hvalue, -, hcpacr⟩ | ⟨-, -, hplatform⟩ | ⟨r, -, hr, hlevel, -, hstore⟩
  · rw [hfails]
    exact h
  · rw [hcpacr]
    exact h.cpacr hprofile hvalue
  · rw [hplatform]
    exact h.configurePlatform _ _
  · rw [hstore]
    obtain ⟨minimum, hminimum, hle⟩ := VfCpu.levelCheck_none hlevel
    rw [h.level] at hle
    have houtside : r ∉ held := by
      obtain rfl := Sysreg.key_of_ofKey hr
      intro hmem
      simp only [held, List.mem_cons, List.not_mem_nil, or_false] at hmem
      rcases hmem with rfl | rfl | rfl | rfl | rfl | rfl | rfl
      · exact absurd hkey (by decide)
      · exact absurd hkey (by decide)
      · exact absurd hkey (by decide)
      · exact absurd hkey (by decide)
      · exact absurd hkey (by decide)
      · cases hminimum
        exact absurd hle (by decide)
      · cases hminimum
        exact absurd hle (by decide)
    exact (h.storeSysreg houtside value).frame rfl rfl rfl rfl

lemma selectorOf_none {w : U32} (h : dynamicOperation w = none) (hsystem : isMrsMsr w = true) (hwrite : isRead w = false) :
    selectorOf (sysregKey w) = none := by
  unfold dynamicOperation at h
  split at h
  · cases h
  split at h
  · cases h
  split at h
  · cases h
  rw [if_neg (by simp [hsystem, hwrite])] at h
  exact Option.map_eq_none_iff.mp h

lemma Steady.systemRegisterSlowStep (h : Steady bank cpu) (hplain : dynamicOperation cpu.instruction = none)
    (hstep : systemRegisterSlowStep cpu = some next) : Steady bank next := by
  unfold Jit.systemRegisterSlowStep at hstep
  dsimp only at hstep
  split at hstep
  · cases hstep
  next hsystem =>
    split at hstep
    · split at hstep
      · cases hstep
      · cases hstep
        exact (h.setTarget _ _).retireNext
    next hwrite =>
      have hkey := selectorOf_none hplain (by simpa using hsystem) (by simpa using hwrite)
      have hwritten := h.writeSysreg hkey (sourceOf cpu cpu.instruction)
      split at hstep
      next cpu' hresult =>
        cases hstep
        rw [hresult] at hwritten
        exact hwritten.retireNext
      · cases hstep

lemma Steady.memoryControlRead (h : Steady bank cpu) (hstep : memoryControlRead cpu = some next) : Steady bank next := by
  unfold Jit.memoryControlRead at hstep
  dsimp only at hstep
  split at hstep
  · cases hstep
  split at hstep
  · cases hstep
  split at hstep
  · cases hstep
  · cases hstep
    exact (h.setTarget _ _).retireNext

lemma Steady.pauthImmutableStep (h : Steady bank cpu) (hstep : pauthImmutableStep pauth cpu = some next) :
    Steady bank next := by
  unfold Jit.pauthImmutableStep at hstep
  split at hstep
  · cases hstep
  split at hstep
  · cases hstep
  split at hstep
  · cases hstep
  split at hstep
  · cases hstep
  · cases hstep
    exact h.frame rfl rfl rfl rfl

lemma Steady.slowStepDynamic (h : Steady bank cpu) (hplain : dynamicOperation cpu.instruction = none)
    (hstep : DynamicRun.slowStepDynamic pauth cpu = some next) : Steady bank next := by
  simp only [DynamicRun.slowStepDynamic, Option.orElse_eq_orElse, Option.orElse_eq_or, Option.or_eq_some_iff] at hstep
  rcases hstep with hstep | ⟨-, hstep | ⟨-, hstep⟩⟩
  · exact h.systemRegisterSlowStep hplain hstep
  · exact h.memoryControlRead hstep
  · exact h.pauthImmutableStep hstep

lemma Steady.dispatch (h : Steady bank cpu) {status : U32}
    (hplain : status = Status.undefinedInstruction ∨ status = Status.systemRegisterTrap →
      dynamicOperation cpu.instruction = none) :
    (∃ next, dispatch (DynamicRun.slowStepDynamic pauth) status cpu = .again next ∧ Steady bank next) ∨
      ∃ status' next, dispatch (DynamicRun.slowStepDynamic pauth) status cpu = .done status' next ∧ bankOf next = bank := by
  have hfails : ∀ status, bankOf { cpu.commitStatus status with status := status } = bank :=
    fun status => (bankOf_apart.commitStatus cpu status).trans h.bank
  unfold Jit.dispatch
  dsimp only
  split
  next hstopped =>
    cases hslow : DynamicRun.slowStepDynamic pauth cpu with
    | some next => exact .inl ⟨next, rfl, h.slowStepDynamic (hplain hstopped) hslow⟩
    | none =>
      dsimp only
      split
      · exact .inr ⟨_, _, rfl, hfails _⟩
      · exact .inl ⟨cpu, rfl, h⟩
  · split
    · exact .inr ⟨_, _, rfl, hfails _⟩
    · exact .inl ⟨cpu, rfl, h⟩

end Slow

section Data

lemma Steady.memorySave (h : Steady bank cpu) (reg : U32) (value : U64) (wide : Bool) :
    Steady bank (memorySave cpu reg value wide) := by
  unfold Jit.memorySave
  split
  · exact h
  · exact h.setX _ _

lemma Steady.loadData (h : Steady bank cpu) (shape : MemoryShape) (value0 value1 : U64) :
    Steady bank (loadData cpu shape value0 value1) := by
  unfold Jit.loadData
  split
  · dsimp only
    split
    · exact (h.memorySave _ _ _).memorySave _ _ _
    · exact h.memorySave _ _ _
  · exact h

lemma Steady.writeBase (h : Steady bank cpu) (shape : MemoryShape) (updated : U64) :
    Steady bank (writeBase cpu shape updated) := by
  unfold Jit.writeBase
  split
  · split
    · exact h.frame rfl rfl rfl rfl
    · exact h.setX _ _
  · exact h

lemma Steady.commitData (h : Steady bank cpu) (shape : MemoryShape) (reply : Abi.V2.Reply) :
    Steady bank (commitData cpu shape reply) :=
  ((h.loadData shape reply.value0 reply.value1).writeBase shape (dataUpdated cpu shape)).frame rfl rfl rfl rfl

end Data

end Nextcore.Provider
