import Nextcore.Jit.Decoders
import Nextcore.Jit.Transfers

/-! One word on both sides: its code does what a step of the reference core does. -/

namespace Nextcore.Jit

open Cpu Emit X86 Preos

variable {g : VfCpu} {r : GuestCpuState} {w : U32} {pc : U64} {n : U32} {t : Target}

section Families

open GuestCpuState

variable {cpu next : GuestCpuState}

lemma pc_addSubResult (cpu : GuestCpuState) (word : U32) (left right : U64) (sp : Bool) :
    (cpu.addSubResult word left right sp).pc = cpu.pc := by
  have hwrite := pc_writeReg cpu (rdField word) (addSub left right (bitSet word 30) (isWide word)).1 sp (isWide word)
  unfold addSubResult
  dsimp only
  split <;> exact hwrite

lemma pc_logicalImmediate (word : U32) (h : cpu.logicalImmediate word = some next) : next.pc = cpu.pc := by
  obtain ⟨mask, -, rfl⟩ := Option.map_eq_some_iff.mp h
  dsimp only
  split <;> exact pc_writeReg cpu _ _ _ _

lemma pc_logicalShifted (word : U32) (h : cpu.logicalShifted word = some next) : next.pc = cpu.pc := by
  unfold GuestCpuState.logicalShifted at h
  dsimp only at h
  split at h
  · cases h
  · cases h
    split <;> exact pc_writeReg cpu _ _ _ _

lemma pc_guarded {p : Prop} [Decidable p] {result : GuestCpuState} (hresult : result.pc = cpu.pc)
    (h : (if p then none else some result) = some next) : next.pc = cpu.pc := by
  by_cases hp : p
  · rw [if_pos hp] at h
    cases h
  · rw [if_neg hp] at h
    exact Option.some.inj h ▸ hresult

lemma pc_dataStep (cpu : GuestCpuState) (word : U32) : ∀ next, cpu.dataStep word = some (some next) → next.pc = cpu.pc := by
  unfold dataStep
  refine chain_ite (chain_total (pc_writeReg cpu _ _ _ _)) ?_
  refine chain_ite (chain_total (pc_writeReg cpu _ _ _ _)) ?_
  refine chain_ite (chain_total ?_) ?_
  · unfold GuestCpuState.conditionalCompare
    split <;> rfl
  refine chain_ite (fun _ h => pc_guarded (pc_writeReg cpu _ _ _ _) (Option.some.inj h)) ?_
  refine chain_ite (fun _ h => pc_guarded (pc_writeReg cpu _ _ _ _) (Option.some.inj h)) ?_
  refine chain_ite (fun _ h => pc_logicalImmediate word (Option.some.inj h)) ?_
  refine chain_ite (fun _ h => pc_logicalShifted word (Option.some.inj h)) ?_
  refine chain_ite (chain_total (pc_writeReg cpu _ _ _ _)) ?_
  refine chain_ite (fun _ h => pc_guarded (pc_writeReg cpu _ _ _ _) (Option.some.inj h)) ?_
  refine chain_ite (chain_total (pc_addSubResult cpu _ _ _ _)) ?_
  refine chain_ite (fun _ h => pc_guarded (pc_addSubResult cpu _ _ _ _) (Option.some.inj h)) ?_
  refine chain_ite (fun _ h => pc_guarded (pc_addSubResult cpu _ _ _ _) (Option.some.inj h)) ?_
  intro next h
  cases h

variable (cpu)

lemma dataStep_multiplyAdd (h : w &&& 0x7fe00000#32 = 0x1b000000#32) : cpu.dataStep w = some (some (cpu.multiplyAdd w)) := by
  rw [dataStep, if_pos h]

lemma dataStep_conditionalSelect (h : w &&& 0x3fe00800#32 = 0x1a800000#32) :
    cpu.dataStep w = some (some (cpu.conditionalSelect w)) := by
  rw [dataStep, if_neg (mask_ne h (by decide)), if_pos h]

lemma dataStep_conditionalCompare (h : w &&& 0x3fe00410#32 = 0x3a400000#32) :
    cpu.dataStep w = some (some (cpu.conditionalCompare w)) := by
  rw [dataStep, if_neg (mask_ne h (by decide)), if_neg (mask_ne h (by decide)), if_pos h]

lemma dataStep_variableShift (h : w &&& 0x7fe0f000#32 = 0x1ac02000#32) :
    cpu.dataStep w = some (some (cpu.variableShift w)) := by
  rw [dataStep, if_neg (mask_ne h (by decide)), if_neg (mask_ne h (by decide)), if_neg (mask_ne h (by decide)),
    if_neg (mask_ne h (by decide)), if_neg (mask_ne h (by decide)), if_neg (mask_ne h (by decide)),
    if_neg (mask_ne h (by decide)), if_pos h]

end Families

section Branches

lemma times_four (v : U64) : v * 4#64 = v <<< 2 := by
  apply BitVec.eq_of_toNat_eq
  rw [BitVec.toNat_mul, BitVec.toNat_shiftLeft, Nat.shiftLeft_eq]
  rfl

lemma Alike.link (h : Alike g r) (v : U64) : Alike (g.setX 30#32 v) { r with x := Function.update r.x 30 v } := by
  refine ⟨fun i => ?_, h.sp, h.pstate⟩
  change Function.update g.x 30 v (i.castLE (by decide)) = Function.update r.x 30 v i
  by_cases hi : i = 30
  · subst hi
    exact (Function.update_self (30 : Fin 32) v g.x).trans (Function.update_self (30 : Fin 31) v r.x).symm
  · have hcast : i.castLE (by decide : 31 ≤ 32) ≠ 30 := fun heq => hi (Fin.castLE_injective _ heq)
    rw [Function.update_of_ne hcast, Function.update_of_ne hi, h.x]

lemma Alike.testTakes (h : Alike g r) :
    testTakes w g = decide ((r.readReg (rdField w) false >>> (((w >>> 26) &&& 32#32) ||| ((w >>> 19) &&& 31#32)).toNat)
      &&& 1#64 = ((w >>> 24) &&& 1#32).zeroExtend 64) := by
  have hread : memoryRegister g (rdOf w) false = r.readReg (rdField w) false := h.read (rdOf_lt w) false
  have hselected (v : U64) (k : ℕ) : (v >>> k) &&& 1#64 = if v.getLsbD k then 1#64 else 0#64 := by
    rw [show (1#64 : U64) = BitVec.twoPow 64 0 from rfl, BitVec.and_twoPow, BitVec.getLsbD_ushiftRight, Nat.add_zero]
  have hwanted : ((w >>> 24) &&& 1#32).zeroExtend 64 = if bitOf w 24 then 1#64 else 0#64 := by
    rw [bitOf, show (1#32 : U32) = BitVec.twoPow 32 0 from rfl, BitVec.and_twoPow, BitVec.getLsbD_ushiftRight, Nat.add_zero]
    cases w.getLsbD 24 <;> decide
  unfold Jit.testTakes
  rw [hread, hselected, hwanted]
  change ((r.readReg (rdField w) false).getLsbD (testedBit w).toNat == _) = decide ((if
    (r.readReg (rdField w) false).getLsbD (testedBit w).toNat = true then 1#64 else 0#64) = _)
  generalize (r.readReg (rdField w) false).getLsbD (testedBit w).toNat = p
  generalize bitOf w 24 = q
  revert p q
  decide

lemma Alike.compareTakes (h : Alike g r) :
    compareTakes w g = if bitSet w 24 then decide ((if isWide w then r.readReg (rdField w) false
        else lowWord (r.readReg (rdField w) false)) ≠ 0#64)
      else decide ((if isWide w then r.readReg (rdField w) false else lowWord (r.readReg (rdField w) false)) = 0#64) := by
  have hvalue : operandOf g (rdOf w) (wideOf w) =
      if isWide w then r.readReg (rdField w) false else lowWord (r.readReg (rdField w) false) := by
    rw [h.operand (rdOf_lt w), low_eq, wideOf_eq]
    rfl
  unfold Jit.compareTakes
  rw [hvalue, bitOf_bitSet w (by decide), decide_not]
  cases bitSet w 24
  · rw [if_neg Bool.false_ne_true, Bool.not_false, beq_true]
  · rw [if_pos rfl, Bool.not_true, beq_false]

end Branches

section Transfers

variable {shape : MemoryShape} {ram : List Byte}

lemma transfer_agrees (hflat : Flat t r) (h : Alike g r) (hfamily : memoryFamily w = true)
    (hshape : decodeMemory w = some shape) (hregime : outsideRegime t = false) (hram : ram.length < 2 ^ 64) :
    ∃ out : GuestCpuState.Transfer RamBus, Agreed t shape g ram r out ∧
      r.memoryStep RamBus.bus ⟨ram, t.base⟩ w = some (match out.1 with
        | .ok () => (.resume, out.2)
        | .error (kind, far) => out.2.1.fault out.2.2 w kind (out.2.1.transferSyndrome w kind (if pairFamily w
            then decide (kind = .dataAbort ∨ kind = .alignmentFault)
            else decide (kind = .dataAbort ∨ kind = .translationFault ∨ kind = .permissionFault ∨
              kind = .alignmentFault)) (if pairFamily w then !bitSet w 22 else decide (GuestCpuState.scalarOpc w = 0#32)))
            far) := by
  unfold decodeMemory at hshape
  unfold GuestCpuState.memoryStep
  by_cases hpair : w &&& 0x3a000000#32 = 0x28000000#32
  · have hfamily' : pairFamily w = true := decide_eq_true hpair
    rw [if_pos hfamily'] at hshape
    refine ⟨_, pair_agrees hflat h hshape hregime hram, ?_⟩
    rw [if_pos hpair]
    generalize r.pairMemory RamBus.bus ⟨ram, t.base⟩ w = out
    obtain ⟨- | -, -, -⟩ := out
    · simp only [hfamily', if_true]
    · rfl
  · have hfamily' : pairFamily w = false := decide_eq_false hpair
    rw [memoryFamily, hfamily', Bool.false_or] at hfamily
    rw [hfamily', if_neg Bool.false_ne_true, if_pos hfamily] at hshape
    refine ⟨_, scalar_agrees hflat h hshape hregime hram, ?_⟩
    rw [if_neg hpair, if_pos]
    · generalize r.scalarMemory RamBus.bus ⟨ram, t.base⟩ w = out
      obtain ⟨- | -, -, -⟩ := out
      · simp only [hfamily', Bool.false_eq_true, if_false]
      · rfl
    · simpa only [scalarFamily, unsignedOffsetFamily, registerOffsetFamily, unscaledOffsetFamily, scalarWritebackFamily,
        Bool.or_eq_true, decide_eq_true_eq, or_assoc] using hfamily

lemma transfer_outside {s : RamBus} (hflat : Flat t r) (hfamily : memoryFamily w = true)
    (hshape : decodeMemory w = some shape) (hregime : outsideRegime t = true) :
    (r.memoryStep RamBus.bus s w).map Prod.fst = some (.exception .systemRegisterTrap) := by
  unfold decodeMemory at hshape
  unfold GuestCpuState.memoryStep
  by_cases hpair : w &&& 0x3a000000#32 = 0x28000000#32
  · rw [if_pos (show pairFamily w = true from decide_eq_true hpair)] at hshape
    have hdefined := (decodePair_fields hshape).1
    have hunsupported := hflat.pairUnsupported.trans hregime
    rw [if_pos hpair]
    simp only [GuestCpuState.pairMemory, hdefined, hunsupported, Bool.false_eq_true, if_false, if_true]
    rfl
  · have hfamily' : pairFamily w = false := decide_eq_false hpair
    rw [memoryFamily, hfamily', Bool.false_or] at hfamily
    rw [hfamily', if_neg Bool.false_ne_true, if_pos hfamily] at hshape
    have hdefined := (decodeScalar_fields hshape).1
    have hunsupported := hflat.scalarUnsupported.trans hregime
    rw [if_neg hpair, if_pos]
    · simp only [GuestCpuState.scalarMemory, hdefined, hunsupported, Bool.false_eq_true, if_false, if_true]
      rfl
    · simpa only [scalarFamily, unsignedOffsetFamily, registerOffsetFamily, unscaledOffsetFamily, scalarWritebackFamily,
        Bool.or_eq_true, decide_eq_true_eq, or_assoc] using hfamily

end Transfers

def translatorOnly (w : U32) : Bool :=
  w &&& 0x7f800000#32 = 0x12800000#32 ∨ w &&& 0x1f000000#32 = 0x10000000#32 ∨ w &&& 0xff000010#32 = 0x54000000#32 ∨
    w &&& 0xfc000000#32 = 0x94000000#32

structure Common (w : U32) : Prop extends Plain w where
  notReturn : w ≠ 0xd69f03e0#32
  notTag : w &&& 0x1f800000#32 ≠ 0x11800000#32
  both : translatorOnly w = false

inductive Reports : ExceptionKind → U32 → Prop
  | undefined : Reports .undefinedInstruction Status.undefinedInstruction
  | trap : Reports .systemRegisterTrap Status.systemRegisterTrap
  | block (b : Block) : Reports b.kind b.status

/-- A step of the reference core that goes on is what the code of the word does: it falls through to the next word, or
it ends the block at the next pc. Where the step faults, the code leaves everything but its report as it was. -/
structure Simulates (t : Target) (w : U32) (pc : U64) (n : U32) (e : VfCpu → List Byte → Effect) : Prop where
  resumes (g : VfCpu) (r : GuestCpuState) (ram : List Byte) (r' : GuestCpuState) (s' : RamBus) : Flat t r → Alike g r →
    r.pc = pc → ram.length < 2 ^ 64 → r.executeWord RamBus.bus ⟨ram, t.base⟩ w = (.resume, r', s') →
    ∃ g' ram', s' = ⟨ram', t.base⟩ ∧ Alike g' r' ∧ Worked r r' ∧
      (e g ram = .next g' ram' ∧ r'.pc = pc + 4#64 ∨ e g ram = .stops Status.next (finished g' r'.pc (n + 1#32)) ram')
  faults (g : VfCpu) (r : GuestCpuState) (ram : List Byte) (kind : ExceptionKind) : Flat t r → Alike g r → r.pc = pc →
    ram.length < 2 ^ 64 → (r.executeWord RamBus.bus ⟨ram, t.base⟩ w).1 = .exception kind →
    ∃ status far, Reports kind status ∧
      e g ram = .stops status (finished { g with instruction := w, far := far } pc n) ram

section Combinators

variable {e e' : VfCpu → List Byte → Effect}

lemma simulates_ite {p : Prop} [Decidable p] (h : p → Simulates t w pc n e) (h' : ¬p → Simulates t w pc n e') :
    Simulates t w pc n (if p then e else e') := by
  by_cases hp : p
  · rw [if_pos hp]
    exact h hp
  · rw [if_neg hp]
    exact h' hp

lemma simulates_refused (h : Refused w) (he : ∀ g ram, e g ram = stopEffect w pc n Status.undefinedInstruction g ram) :
    Simulates t w pc n e where
  resumes g r ram r' s' _ _ _ _ hstep := by
    have hkind := h RamBus r RamBus.bus ⟨ram, t.base⟩
    rw [hstep] at hkind
    cases hkind
  faults g r ram kind _ _ _ _ hstep := by
    rw [h RamBus r RamBus.bus ⟨ram, t.base⟩] at hstep
    cases hstep
    exact ⟨_, g.far, .undefined, he g ram⟩

variable (hw : Plain w) (heret : w ≠ 0xd69f03e0#32)

include hw heret

lemma executeWord_data {out : Option GuestCpuState} (hdata : r.dataStep w = some out) (s : RamBus) :
    r.executeWord RamBus.bus s w = r.settle s w (out.map GuestCpuState.advance) := by
  simp only [GuestCpuState.executeWord, hw.pauthStep, hw.systemStep heret, hw.exclusiveStep, hw.controlStep, hdata]

lemma executeWord_memory {s : RamBus} {out : GuestCpuState.Outcome RamBus} (hdata : r.dataStep w = none)
    (hmemory : r.memoryStep RamBus.bus s w = some out) : r.executeWord RamBus.bus s w = out := by
  simp only [GuestCpuState.executeWord, hw.pauthStep, hw.systemStep heret, hw.exclusiveStep, hw.controlStep, hdata,
    hmemory]

lemma executeWord_branch {s : RamBus} {out : Option GuestCpuState} (hdata : r.dataStep w = none)
    (hmemory : r.memoryStep RamBus.bus s w = none) (hbranch : r.branchStep w = some out) :
    r.executeWord RamBus.bus s w = r.settle s w out := by
  simp only [GuestCpuState.executeWord, hw.pauthStep, hw.systemStep heret, hw.exclusiveStep, hw.controlStep, hdata,
    hmemory, hbranch]

lemma simulates_data {result : Option (VfCpu → VfCpu)} (out : GuestCpuState → Option GuestCpuState)
    (hdata : ∀ r : GuestCpuState, r.dataStep w = some (out r))
    (hagree : ∀ g r f, Alike g r → result = some f → ∃ r', out r = some r' ∧ Alike (f g) r')
    (hnone : result = none → Refused w) : Simulates t w pc n (straightEffect w pc n result) := by
  cases hresult : result with
  | none => exact simulates_refused (hnone hresult) fun _ _ => rfl
  | some f =>
    have hsteps (g : VfCpu) (r : GuestCpuState) (s : RamBus) (h : Alike g r) :
        ∃ next, out r = some next ∧ Alike (f g) next ∧ r.executeWord RamBus.bus s w = (.resume, next.advance, s) := by
      obtain ⟨next, hnext, halike⟩ := hagree g r f h hresult
      refine ⟨next, hnext, halike, ?_⟩
      rw [executeWord_data hw heret (hdata r), hnext]
      rfl
    constructor
    · intro g r ram r' s' _ h hpc _ hstep
      obtain ⟨next, hnext, halike, hexecuted⟩ := hsteps g r ⟨ram, t.base⟩ h
      have hregisters := GuestCpuState.registers_dataStep r w next (by rw [hdata, hnext])
      have hnextPc := pc_dataStep r w next (by rw [hdata, hnext])
      rw [hexecuted] at hstep
      cases hstep
      refine ⟨f g, ram, rfl, ⟨halike.x, halike.sp, halike.pstate⟩,
        worked_registers (hregisters.trans (GuestCpuState.registers_advance next)), Or.inl ⟨rfl, ?_⟩⟩
      rw [← hpc, ← hnextPc]
      rfl
    · intro g r ram kind _ h _ _ hstep
      obtain ⟨next, -, -, hexecuted⟩ := hsteps g r ⟨ram, t.base⟩ h
      rw [hexecuted] at hstep
      cases hstep

lemma simulates_total {result : VfCpu → VfCpu} (out : GuestCpuState → GuestCpuState)
    (hdata : ∀ r : GuestCpuState, r.dataStep w = some (some (out r))) (hagree : ∀ g r, Alike g r → Alike (result g) (out r)) :
    Simulates t w pc n (straightEffect w pc n (some result)) := by
  refine simulates_data hw heret (fun r => some (out r)) hdata ?_ fun hnone => absurd hnone (Option.some_ne_none _)
  rintro g r f h ⟨⟩
  exact ⟨out r, rfl, hagree g r h⟩

lemma simulates_memory (hfamily : memoryFamily w = true) : Simulates t w pc n (inlineEffect t w pc n) := by
  have hdata (r : GuestCpuState) := dataStep_memory r hfamily
  cases hshape : decodeMemory w with
  | none =>
    have hrefused := refused_memory hw heret hdata (fun _ => decodeMemory_reserved hfamily hshape)
    refine simulates_refused hrefused fun g ram => ?_
    unfold inlineEffect
    rw [hshape]
    rfl
  | some shape =>
    cases hregime : outsideRegime t with
    | true =>
      have hexecuted (r : GuestCpuState) (s : RamBus) (hflat : Flat t r) :
          (r.executeWord RamBus.bus s w).1 = .exception .systemRegisterTrap := by
        obtain ⟨out, hout, hkind⟩ := Option.map_eq_some_iff.mp (transfer_outside hflat hfamily hshape hregime)
        rw [executeWord_memory hw heret (hdata r) hout]
        exact hkind
      constructor
      · intro g r ram r' s' hflat _ _ _ hstep
        have hkind := hexecuted r ⟨ram, t.base⟩ hflat
        rw [hstep] at hkind
        cases hkind
      · intro g r ram kind hflat _ _ _ hstep
        rw [hexecuted r _ hflat] at hstep
        cases hstep
        refine ⟨_, g.far, .trap, ?_⟩
        unfold inlineEffect
        rw [hshape, hregime]
        rfl
    | false =>
      have hinline (g : VfCpu) (ram : List Byte) :
          inlineEffect t w pc n g ram = accessEffect t shape pc n { g with instruction := w } ram := by
        unfold inlineEffect
        rw [hshape, hregime]
        rfl
      constructor
      · intro g r ram r' s' hflat halike hpc hram hstep
        have halike' : Alike { g with instruction := w } r := ⟨halike.x, halike.sp, halike.pstate⟩
        obtain ⟨out, hagreed, hmemory⟩ := transfer_agrees hflat halike' hfamily hshape hregime hram
        rw [executeWord_memory hw heret (hdata r) hmemory] at hstep
        rw [hinline]
        unfold Agreed at hagreed
        unfold accessEffect
        cases hfault : accessFault t shape { g with instruction := w } (BitVec.ofNat 64 ram.length) with
        | some stop =>
          rw [hfault] at hagreed
          rw [hagreed] at hstep
          cases hstep
        | none =>
          rw [hfault] at hagreed
          obtain ⟨hok, hstored, hafter, hpc', hworked⟩ := hagreed
          rw [hok] at hstep
          have hstate : out.2 = (r', s') := congrArg Prod.snd hstep
          rw [hstate] at hstored hafter hpc' hworked
          exact ⟨_, _, hstored, hafter, hworked, Or.inl ⟨rfl, hpc'.trans (congrArg (· + 4#64) hpc)⟩⟩
      · intro g r ram kind hflat halike hpc hram hstep
        have halike' : Alike { g with instruction := w } r := ⟨halike.x, halike.sp, halike.pstate⟩
        obtain ⟨out, hagreed, hmemory⟩ := transfer_agrees hflat halike' hfamily hshape hregime hram
        rw [executeWord_memory hw heret (hdata r) hmemory] at hstep
        rw [hinline]
        unfold Agreed at hagreed
        unfold accessEffect
        cases hfault : accessFault t shape { g with instruction := w } (BitVec.ofNat 64 ram.length) with
        | some stop =>
          rw [hfault] at hagreed
          rw [hagreed] at hstep
          cases hstep
          exact ⟨_, stop.2, .block stop.1, rfl⟩
        | none =>
          rw [hfault] at hagreed
          rw [hagreed.ok] at hstep
          cases hstep

lemma simulates_branch {e : VfCpu → List Byte → Effect} (hdata : ∀ r : GuestCpuState, r.dataStep w = none)
    (hmemory : ∀ (r : GuestCpuState) (s : RamBus), r.memoryStep RamBus.bus s w = none)
    (h : ∀ (g : VfCpu) (r : GuestCpuState), Alike g r → r.pc = pc → ∃ r' g', r.branchStep w = some (some r') ∧ Alike g' r' ∧
      r.Registers r' ∧ ∀ ram, e g ram = .stops Status.next (finished g' r'.pc (n + 1#32)) ram) : Simulates t w pc n e := by
  constructor
  · intro g r ram r' s' _ halike hpc _ hstep
    obtain ⟨next, g', hbranch, halike', hregisters, heffect⟩ := h g r halike hpc
    rw [executeWord_branch hw heret (hdata r) (hmemory r _) hbranch] at hstep
    cases hstep
    exact ⟨g', ram, rfl, halike', worked_registers hregisters, Or.inr (heffect ram)⟩
  · intro g r ram kind _ halike hpc _ hstep
    obtain ⟨next, g', hbranch, -⟩ := h g r halike hpc
    rw [executeWord_branch hw heret (hdata r) (hmemory r _) hbranch] at hstep
    cases hstep

end Combinators

section Words

variable (hw : Plain w) (heret : w ≠ 0xd69f03e0#32)

include hw heret

lemma simulates_testBranch (h : w &&& 0x7e000000#32 = 0x36000000#32) :
    Simulates t w pc n (branchEffect (testTarget w pc) pc n (testTakes w)) := by
  refine simulates_branch hw heret (fun cpu => dataStep_other cpu h (by decide))
    (fun cpu s => memoryStep_none cpu (memoryFamily_other (mask_ne h (by decide))) RamBus.bus s) ?_
  intro g r halike hpc
  have htarget : testTarget w pc = r.pc + signExtend (((w >>> 5) &&& 0x3fff#32).zeroExtend 64) 14 * 4#64 := by
    rw [testTarget, sext_signExtend (by decide) (by decide), hpc]
  have hstep : r.branchStep w = some (some { r with pc := if testTakes w g then testTarget w pc else pc + 4#64 }) := by
    unfold GuestCpuState.branchStep
    dsimp only
    rw [if_neg (mask_ne h (by decide)), if_neg (not_or.mpr ⟨mask_ne h (by decide), mask_ne_or h (by decide) (by decide)⟩),
      if_pos h, ← halike.testTakes, htarget, ← hpc, apply_ite (r.pc + ·)]
  exact ⟨_, g, hstep, ⟨halike.x, halike.sp, halike.pstate⟩, ⟨_, _, _, _, rfl⟩, fun _ => rfl⟩

lemma simulates_compareBranch (h : w &&& 0x7e000000#32 = 0x34000000#32) :
    Simulates t w pc n (branchEffect (conditionalTarget w pc) pc n (compareTakes w)) := by
  refine simulates_branch hw heret (fun cpu => dataStep_other cpu h (by decide))
    (fun cpu s => memoryStep_none cpu (memoryFamily_other (mask_ne h (by decide))) RamBus.bus s) ?_
  intro g r halike hpc
  have htarget : conditionalTarget w pc = r.pc + (signExtend (((w >>> 5) &&& 0x7ffff#32).zeroExtend 64) 19 <<< 2) := by
    rw [conditionalTarget, sext_signExtend (by decide) (by decide), times_four, hpc]
  have hstep : r.branchStep w = some (some { r with pc := if compareTakes w g then conditionalTarget w pc else pc + 4#64 }) := by
    unfold GuestCpuState.branchStep
    dsimp only
    rw [if_neg (mask_ne h (by decide)), if_neg (not_or.mpr ⟨mask_ne h (by decide), mask_ne_or h (by decide) (by decide)⟩),
      if_neg (mask_ne h (by decide)), if_pos h, ← halike.compareTakes, htarget, ← hpc]
  exact ⟨_, g, hstep, ⟨halike.x, halike.sp, halike.pstate⟩, ⟨_, _, _, _, rfl⟩, fun _ => rfl⟩

lemma simulates_jump (h : w &&& 0x7c000000#32 = 0x14000000#32) (hlink : ¬w &&& 0xfc000000#32 = 0x94000000#32) :
    Simulates t w pc n (branchResult w pc n) := by
  have hdata (cpu : GuestCpuState) : cpu.dataStep w = none := dataStep_other cpu h (by decide)
  have hmemory (r : GuestCpuState) (s : RamBus) : r.memoryStep RamBus.bus s w = none :=
    memoryStep_none r (memoryFamily_other (mask_ne h (by decide))) RamBus.bus s
  have hsplit : w &&& 0xfc000000#32 = w &&& 0x7c000000#32 ||| w &&& BitVec.twoPow 32 31 := by
    rw [← BitVec.and_or_distrib_left]
    congr 1
  have hclear : w.getLsbD 31 = false := by
    by_contra hset
    rw [h, BitVec.and_twoPow, if_pos (eq_true_of_ne_false hset)] at hsplit
    exact hlink (hsplit.trans (by decide))
  have hjump : w &&& 0xfc000000#32 = 0x14000000#32 := by
    rw [h, BitVec.and_twoPow, if_neg (hclear ▸ Bool.false_ne_true)] at hsplit
    exact hsplit.trans (by decide)
  refine simulates_branch hw heret hdata hmemory fun g r halike hpc => ?_
  have hsame : ¬w >>> 31 ≠ 0#32 := by
    rw [not_not, Bits.shiftRight_eq_zero_iff]
    exact and_of_and hjump (by decide)
  have htarget : pc + sext (w &&& 0x3ffffff#32) 26 * 4#64 =
      r.pc + (signExtend ((w &&& 0x3ffffff#32).zeroExtend 64) 26 <<< 2) := by
    rw [sext_signExtend (by decide) (by decide), times_four, hpc]
  have hstep : r.branchStep w = some (some { r with pc := pc + sext (w &&& 0x3ffffff#32) 26 * 4#64 }) := by
    unfold GuestCpuState.branchStep
    rw [if_pos hjump, htarget]
  refine ⟨_, g, hstep, ⟨halike.x, halike.sp, halike.pstate⟩, ⟨_, _, _, _, rfl⟩, fun _ => ?_⟩
  rw [branchResult, if_neg hsame]

lemma simulates_branchRegister (h : w &&& 0xfffffc1f#32 = 0xd61f0000#32 ∨ w &&& 0xfffffc1f#32 = 0xd63f0000#32 ∨
    w &&& 0xfffffc1f#32 = 0xd65f0000#32) : Simulates t w pc n (branchRegisterResult w pc n) := by
  have not {k b : U32} (hbr : 0xd61f0000#32 &&& k ≠ b &&& 0xfffffc1f#32)
      (hblr : 0xd63f0000#32 &&& k ≠ b &&& 0xfffffc1f#32) (hret : 0xd65f0000#32 &&& k ≠ b &&& 0xfffffc1f#32) :
      ¬w &&& k = b :=
    h.elim (mask_ne · hbr) fun h => h.elim (mask_ne · hblr) (mask_ne · hret)
  have hdata (cpu : GuestCpuState) : cpu.dataStep w = none := by
    rcases h with h | h | h
    · exact dataStep_other cpu h (by decide)
    · exact dataStep_other cpu h (by decide)
    · exact dataStep_other cpu h (by decide)
  by_cases h31 : rnOf w = 31#32
  · refine simulates_refused (refused_branchRegister hw heret h h31) fun g ram => ?_
    rw [branchRegisterResult, if_pos h31]
  refine simulates_branch hw heret hdata
    (fun cpu s => memoryStep_none cpu (memoryFamily_other (not (by decide) (by decide) (by decide))) RamBus.bus s) ?_
  intro g r halike hpc
  have hread : memoryRegister g (rnOf w) false = r.readReg (rnField w) false := halike.read (rnOf_lt w) false
  have hstep : r.branchStep w = some (some { r with
      x := if w &&& 0xfffffc1f#32 = 0xd63f0000#32 then Function.update r.x 30 (r.pc + 4#64) else r.x
      pc := memoryRegister g (rnOf w) false }) := by
    unfold GuestCpuState.branchStep
    dsimp only
    rw [if_neg (not (by decide) (by decide) (by decide)), if_pos h,
      if_neg (show ¬rnField w = 31#32 from h31), hread]
  refine ⟨_, _, hstep, ?_, ⟨_, _, _, _, rfl⟩, fun _ => by rw [branchRegisterResult, if_neg h31]⟩
  have hlinked := halike.link (pc + 4#64)
  rw [hpc]
  split
  · exact ⟨hlinked.x, hlinked.sp, hlinked.pstate⟩
  · exact ⟨halike.x, halike.sp, halike.pstate⟩

lemma Plain.notReturn : isExceptionReturn w = false := by
  refine decide_eq_false (not_or.mpr ⟨heret, not_or.mpr ⟨?_, ?_⟩⟩)
  · rintro rfl
    exact absurd hw.pauth (by decide)
  · rintro rfl
    exact absurd hw.pauth (by decide)

lemma Plain.unprivileged (el : U32) : knownPrivileged w el = false := by
  rw [knownPrivileged, hw.notReturn heret, if_neg Bool.false_ne_true, if_neg, if_neg, hw.mrsMsr]
  · rfl
  · exact not_or.mpr ⟨hw.not_system (by decide) (by decide), not_or.mpr ⟨hw.not_system (by decide) (by decide),
      hw.not_system (by decide) (by decide)⟩⟩
  · exact not_or.mpr ⟨hw.ne (by decide), not_or.mpr ⟨hw.ne (by decide), not_or.mpr
      ⟨hw.not_exception (by decide) (by decide), hw.not_exception (by decide) (by decide)⟩⟩⟩

lemma Plain.boundary (el : U32) : systemBoundary w el = Status.next := by
  rw [systemBoundary, hw.notReturn heret, if_neg Bool.false_ne_true, hw.system, if_pos rfl]

end Words

lemma simulates_one (hw : Common w) : Simulates t w pc n (effectOne t false w pc n) := by
  have heret := hw.notReturn
  have hplain := hw.toPlain
  have hboth := hw.both
  rw [translatorOnly, decide_eq_false_iff_not, not_or, not_or, not_or] at hboth
  obtain ⟨hinverted, hrelative, hconditional, hlink⟩ := hboth
  unfold effectOne
  rw [hplain.mrsMsr, hplain.idRead]
  refine simulates_ite (fun h => absurd h.1 Bool.false_ne_true) fun _ => ?_
  refine simulates_ite (fun h => absurd h.1 Bool.false_ne_true) fun _ => ?_
  refine simulates_ite (fun h => absurd h.1 Bool.false_ne_true) fun _ => ?_
  refine simulates_ite (fun h => ?_) fun hselect => ?_
  · exact simulates_total hplain heret _ (dataStep_conditionalSelect · h) fun _ _ => Alike.conditionalSelect
  refine simulates_ite (fun h => ?_) fun hshift => ?_
  · exact simulates_total hplain heret _ (dataStep_variableShift · h) fun _ _ => Alike.variableShift
  refine simulates_ite (fun h => ?_) fun hmultiply => ?_
  · exact simulates_total hplain heret _ (dataStep_multiplyAdd · h) fun _ _ => Alike.multiplyAdd
  refine simulates_ite (fun h => ?_) fun hcompare => ?_
  · exact simulates_total hplain heret _ (dataStep_conditionalCompare · h) fun _ _ => Alike.conditionalCompare
  refine simulates_ite (fun h => ?_) fun hbitfield => ?_
  · exact simulates_data hplain heret _ (dataStep_bitfieldMove · h) (fun _ _ _ halike => halike.bitfieldMove)
      (refused_bitfieldMove hplain h)
  refine simulates_ite (fun h => ?_) fun hunsigned => ?_
  · exact simulates_data hplain heret _ (dataStep_unsignedBitfieldMove · h)
      (fun _ _ _ halike => halike.unsignedBitfieldMove) (refused_unsignedBitfieldMove hplain h)
  refine simulates_ite (fun h => ?_) fun himmediate => ?_
  · exact simulates_data hplain heret _ (dataStep_logicalImmediate · h) (fun _ _ _ halike => halike.logicalImmediate)
      (refused_logicalImmediate hplain h)
  refine simulates_ite (fun h => absurd h Bool.false_ne_true) fun _ => ?_
  refine simulates_ite (fun h => absurd h.1 Bool.false_ne_true) fun _ => ?_
  refine simulates_ite (fun h => ?_) fun hwide => ?_
  · have hword : w &&& 0x7f800000#32 = 0x52800000#32 ∨ w &&& 0x7f800000#32 = 0x72800000#32 :=
      h.imp_right fun h => h.resolve_right hinverted
    exact simulates_data hplain heret _ (dataStep_moveWide · hword) (fun _ _ _ halike => halike.moveWide hword)
      (refused_moveWide hplain hword)
  refine simulates_ite (fun h => absurd h hrelative) fun _ => ?_
  refine simulates_ite (fun h => ?_) fun hlogical => ?_
  · exact simulates_data hplain heret _ (dataStep_logicalShifted · h) (fun _ _ _ halike => halike.logicalShifted)
      (refused_logicalShifted hplain h)
  refine simulates_ite (fun h => ?_) fun hadd => ?_
  · exact simulates_total hplain heret _
      (fun cpu => dataStep_addSubImmediate cpu ((and_of_and h (by decide)).trans (by decide)))
      fun _ _ => Alike.addSubImmediate
  refine simulates_ite (fun h => ?_) fun hextended => ?_
  · exact simulates_data hplain heret _ (dataStep_addSubExtended · h) (fun _ _ _ halike => halike.addSubExtended)
      (refused_addSubExtended hplain h)
  refine simulates_ite (fun h => ?_) fun hshifted => ?_
  · exact simulates_data hplain heret _ (dataStep_addSubShifted · h) (fun _ _ _ halike => halike.addSubShifted)
      (refused_addSubShifted hplain h)
  refine simulates_ite (fun h => simulates_memory hplain heret h) fun hmemory => ?_
  refine simulates_ite (fun h => absurd h hconditional) fun _ => ?_
  refine simulates_ite (fun h => simulates_testBranch hplain heret h) fun htest => ?_
  refine simulates_ite (fun h => simulates_compareBranch hplain heret h) fun hzero => ?_
  refine simulates_ite (fun h => simulates_jump hplain heret h hlink) fun hjump => ?_
  refine simulates_ite (fun h => simulates_branchRegister hplain heret h) fun hregister => ?_
  have hnone (cpu : GuestCpuState) : cpu.dataStep w = none := by
    apply dataStep_none
    simp only [dataMasks, List.forall_mem_cons, List.not_mem_nil, false_imp_iff, implies_true, and_true]
    refine ⟨hmultiply, hselect, hcompare, hbitfield, hunsigned, himmediate, hlogical, hshift,
      fun h => hwide (Or.inl h), fun h => hwide (Or.inr (Or.inl h)), fun h => ?_, hextended, hshifted⟩
    exact (addSub_class h).elim hadd hw.notTag
  have hrefused : Refused w := refused_branch hplain heret hnone
    (fun _ cpu bus s => memoryStep_none cpu (Bool.eq_false_iff.mpr hmemory) bus s)
    fun cpu => Or.inr (branchStep_none cpu hjump htest hzero hregister)
  have hnop : ¬w = 0xd503201f#32 := hplain.ne (by decide)
  have hhalt : ¬w = 0xd4400000#32 := by
    rintro rfl
    exact absurd hplain.exception (by decide)
  rw [if_neg hnop, if_neg hhalt]
  refine simulates_refused hrefused fun g ram => ?_
  rw [hplain.unprivileged heret t.currentEl, hplain.boundary heret t.currentEl]
  rfl

lemma Plain.executes (hw : Plain w) (heret : w ≠ 0xd69f03e0#32) (r : GuestCpuState) (s : RamBus) :
    (r.executeWord RamBus.bus s w).1 = .resume ∨ ∃ kind, (r.executeWord RamBus.bus s w).1 = .exception kind := by
  have hsettle (r : GuestCpuState) (out : Option GuestCpuState) :
      (r.settle s w out).1 = .resume ∨ ∃ kind, (r.settle s w out).1 = .exception kind := by
    cases out with
    | none => exact Or.inr ⟨_, rfl⟩
    | some next => exact Or.inl rfl
  cases hdata : r.dataStep w with
  | some out =>
    rw [executeWord_data hw heret hdata]
    exact hsettle r _
  | none =>
    cases hmemory : r.memoryStep RamBus.bus s w with
    | some out =>
      rw [executeWord_memory hw heret hdata hmemory]
      unfold GuestCpuState.memoryStep at hmemory
      dsimp only at hmemory
      split at hmemory
      · cases hmemory
        split
        · exact Or.inl rfl
        · exact Or.inr ⟨_, rfl⟩
      split at hmemory
      · cases hmemory
        split
        · exact Or.inl rfl
        · exact Or.inr ⟨_, rfl⟩
      · cases hmemory
    | none =>
      cases hbranch : r.branchStep w with
      | some out =>
        rw [executeWord_branch hw heret hdata hmemory hbranch]
        exact hsettle r _
      | none =>
        simp only [GuestCpuState.executeWord, hw.pauthStep, hw.systemStep heret, hw.exclusiveStep, hw.controlStep, hdata,
          hmemory, hbranch]
        exact Or.inr ⟨_, rfl⟩

/-- With the MMU off, the code of a word of the families that both decoders have does what the reference core does with
the word. -/
theorem common_word_agrees (hw : Common w) (t : Target) (pc : U64) (n : U32) :
    ∃ code more effect, Emits (translateOne t false w pc n) more code ∧ Runs code effect ∧ Simulates t w pc n effect ∧
      ∀ r s, (GuestCpuState.executeWord r RamBus.bus s w).1 = .resume ∨
        ∃ kind, (GuestCpuState.executeWord r RamBus.bus s w).1 = .exception kind := by
  obtain ⟨code, more, hemits, hruns, -⟩ := translates_one t false w pc n
  exact ⟨code, more, _, hemits, hruns, simulates_one hw, hw.toPlain.executes hw.notReturn⟩

-- ldr x0, [x1], #8
theorem common_word_agrees_ldr :
    ∃ code more effect, Emits (translateOne {} false 0xf8408420#32 0#64 0#32) more code ∧ Runs code effect ∧
      Simulates {} 0xf8408420#32 0#64 0#32 effect ∧
      ∀ r s, (GuestCpuState.executeWord r RamBus.bus s 0xf8408420#32).1 = .resume ∨
        ∃ kind, (GuestCpuState.executeWord r RamBus.bus s 0xf8408420#32).1 = .exception kind :=
  common_word_agrees ⟨⟨by decide, by decide, by decide, by decide⟩, by decide, by decide, by decide⟩ {} 0#64 0#32

end Nextcore.Jit
