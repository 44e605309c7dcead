import Nextcore.Jit.Lockstep

/-! The boots of the two engines: what they refuse, and how what they run agrees. -/

namespace Nextcore.Jit

open Cpu Emit X86 Loop Preos

structure BootOptions where
  abiVersion : U32
  structSize : U32
  platformProfile : U32
  flags : U32
  initialOverride : U64
  initialPstate : U64
  vbar : U64
  irqLevel : U64
  fiqLevel : U64
  reserved : U64
  deriving DecidableEq, Repr

namespace BootOptions

def defaults : BootOptions := ⟨2#32, 64#32, 0#32, 0#32, 0#64, 0x3c5#64, 0#64, 0#64, 0#64, 0#64⟩

def refused (config : BootOptions) (ramSize base : U64) : Bool :=
  config.abiVersion ≠ 2#32 ∨ config.structSize ≠ 64#32 ∨ config.flags ≠ 0#32 ∨ config.reserved ≠ 0#64 ∨
    1#64 < config.irqLevel ∨ 1#64 < config.fiqLevel ∨
    (config.initialPstate &&& 15#64 ≠ 4#64 ∧ config.initialPstate &&& 15#64 ≠ 5#64) ∨
    config.initialPstate &&& ~~~0xf00003cf#64 ≠ 0#64 ∨
    (config.vbar ≠ 0#64 ∧ (config.vbar &&& 0x7ff#64 ≠ 0#64 ∨ config.vbar < base ∨ ramSize < 0x800#64 ∨
      ramSize - 0x800#64 < config.vbar - base))

end BootOptions

def placementRefused (ramSize base entry args stack budget : U64) : Bool :=
  ramSize < 8#64 ∨ BitVec.allOnes 64 - ramSize < base ∨ base &&& 0x3fff#64 ≠ 0#64 ∨ entry &&& 3#64 ≠ 0#64 ∨
    entry < base ∨ ramSize - 4#64 < entry - base ∨ args &&& 7#64 ≠ 0#64 ∨ args < base ∨ ramSize ≤ args - base ∨
    stack &&& 15#64 ≠ 0#64 ∨ stack ≤ base ∨ ramSize < stack - base ∨ budget = 0#64

def bootState (cpu : VfCpu) (base entry stack : U64) (registers : Fin 4 → U64) (config : BootOptions) : VfCpu :=
  let cpu := { cpu with
    pc := entry
    x := fun i => if h : i.val < 4 then registers ⟨i, h⟩ else cpu.x i
    sp := stack
    spEl := Function.update (Function.update cpu.spEl 1 stack) 0 stack
    pstate := config.initialPstate
    vbarEl := Function.update cpu.vbarEl 1 config.vbar }
  let cpu := (cpu.setInterruptLines (config.irqLevel.truncate 32) (config.fiqLevel.truncate 32)).getD cpu
  { cpu with guestRamBase := base }

/-- `vf_cpu_prepare_boot`; a platform that it cannot configure leaves the CPU reset. -/
def vfCpuPrepareBoot (cpu : VfCpu) (ramSize base entry args stack : U64) (registers : Fin 4 → U64)
    (options : Option BootOptions) (budget : U64) : U32 × VfCpu :=
  let config := options.getD .defaults
  if placementRefused ramSize base entry args stack budget then (Status.dataFault, cpu)
  else if config.refused ramSize base then (Status.dataFault, cpu)
  else
    match (VfCpu.reset 1#32).configurePlatform config.platformProfile config.initialOverride with
    | (.ok, cpu) => (Status.next, bootState cpu base entry stack registers config)
    | (_, cpu) => (Status.dataFault, cpu)

section Run

variable {τ : Type} (caller : Caller) (pauth : Option PauthStep) (protect : Protect τ) (base entry args stack budget : U64)

def vfRunBootV2 (registers : Fin 4 → U64) (options : Option BootOptions) (s : RunState τ) : Option (U32 × RunState τ) :=
  let (status, cpu) := vfCpuPrepareBoot s.cpu (BitVec.ofNat 64 s.ram.length) base entry args stack registers options budget
  let s := { s with cpu := cpu }
  if status ≠ Status.next then some (status, s) else vfRun caller pauth protect (ramImage s.ram.length) budget s

def vfRunBootWithRegisters (registers : Fin 4 → U64) (s : RunState τ) : Option (U32 × RunState τ) :=
  vfRunBootV2 caller pauth protect base entry args stack budget registers none s

def vfRunBootWithPauth (s : RunState τ) : Option (U32 × RunState τ) :=
  vfRunBootWithRegisters caller pauth protect base entry args stack budget ![args, 0#64, 0#64, 0#64] s

def vfRunBoot (s : RunState τ) : Option (U32 × RunState τ) :=
  vfRunBootWithPauth caller none protect base entry args stack budget s

end Run

section Placement

variable {length : ℕ} {size base entry args stack : U64} (hlength : size.toNat = length)

include hlength

lemma placed_sum : BitVec.allOnes 64 - size < base ↔ 2 ^ 64 ≤ base.toNat + length := by
  have hsize := size.isLt
  have hbase := base.isLt
  rw [BitVec.allOnes_sub_eq_not, BitVec.lt_def, BitVec.toNat_not]
  omega

lemma placed_entry (hsize : ¬size < 8#64) (hlow : ¬entry < base) :
    size - 4#64 < entry - base ↔ base.toNat + length < entry.toNat + 4 := by
  have hle := BitVec.not_lt.mp hlow
  have height : 8 ≤ length := hlength ▸ BitVec.le_def.mp (BitVec.not_lt.mp hsize)
  have hfour : (size - 4#64).toNat = size.toNat - 4 :=
    BitVec.toNat_sub_of_le (BitVec.le_trans (by decide) (BitVec.not_lt.mp hsize))
  rw [BitVec.lt_def, hfour, BitVec.toNat_sub_of_le hle, hlength]
  rw [BitVec.le_def] at hle
  omega

lemma placed_args (hlow : ¬args < base) : size ≤ args - base ↔ base.toNat + length ≤ args.toNat := by
  have hle := BitVec.not_lt.mp hlow
  rw [BitVec.le_def, BitVec.toNat_sub_of_le hle, hlength]
  rw [BitVec.le_def] at hle
  omega

lemma placed_stack (hlow : ¬stack ≤ base) : size < stack - base ↔ base.toNat + length < stack.toNat := by
  have hle := BitVec.le_of_lt (BitVec.not_le.mp hlow)
  rw [BitVec.lt_def, BitVec.toNat_sub_of_le hle, hlength]
  rw [BitVec.le_def] at hle
  omega

lemma placed_size (hbase : ¬base &&& 0x3fff#64 ≠ 0#64) (hstack : ¬stack &&& 15#64 ≠ 0#64) (hlow : ¬stack ≤ base)
    (hfits : ¬base.toNat + length < stack.toNat) : ¬size < 8#64 := by
  have hb := Bits.toNat_and_mask base 14 0x3fff#64 rfl
  have hs := Bits.toNat_and_mask stack 4 15#64 rfl
  rw [not_ne_iff.mp hbase] at hb
  rw [not_ne_iff.mp hstack] at hs
  change 0 = _ at hb
  change 0 = _ at hs
  rw [BitVec.le_def] at hlow
  rw [BitVec.lt_def, hlength, show (8#64).toNat = 8 from rfl]
  omega

end Placement

lemma placementRefused_eq {ram : List Byte} {size : U64} (hlength : size.toNat = ram.length)
    (base entry args stack budget : U64) : placementRefused size base entry args stack budget =
      GuestCpuState.bootRefused ram base entry args stack budget := by
  unfold placementRefused GuestCpuState.bootRefused
  rw [decide_eq_decide, ← not_iff_not]
  simp only [not_or]
  constructor
  · rintro ⟨hsize, hsum, hbase, hentry, hlow, hword, hargs, hargsLow, hargsFit, hstack, hstackLow, hstackFit, hbudget⟩
    exact ⟨hbudget, hbase, hentry, hargs, hstack, hsum ∘ (placed_sum hlength).mpr, hlow,
      hword ∘ (placed_entry hlength hsize hlow).mpr, hargsLow, hargsFit ∘ (placed_args hlength hargsLow).mpr, hstackLow,
      hstackFit ∘ (placed_stack hlength hstackLow).mpr⟩
  · rintro ⟨hbudget, hbase, hentry, hargs, hstack, hsum, hlow, hword, hargsLow, hargsFit, hstackLow, hstackFit⟩
    have hsize := placed_size hlength hbase hstack hstackLow hstackFit
    exact ⟨hsize, hsum ∘ (placed_sum hlength).mp, hbase, hentry, hlow, hword ∘ (placed_entry hlength hsize hlow).mp, hargs,
      hargsLow, hargsFit ∘ (placed_args hlength hargsLow).mp, hstack, hstackLow,
      hstackFit ∘ (placed_stack hlength hstackLow).mp, hbudget⟩

section Prepared

variable {size base entry args stack budget : U64} {registers : Fin 4 → U64}

/-- What holds of a record that a boot starts from: it is valid at EL1 with coherent timers and nothing pending, and its
first word, its stack and, when a base is given, its vectors are aligned and lie in guest RAM. -/
structure Prepared (size base : U64) (cpu : VfCpu) : Prop where
  good : cpu.Good
  level : cpu.currentEl = 1#32
  settled : cpu.exceptionPending = Exception.none
  ram : cpu.guestRamBase = base
  word : cpu.pc &&& 3#64 = 0#64 ∧ base ≤ cpu.pc ∧ cpu.pc.toNat + 4 ≤ base.toNat + size.toNat
  stack : cpu.sp &&& 15#64 = 0#64 ∧ base < cpu.sp ∧ cpu.sp.toNat ≤ base.toNat + size.toNat
  banks : cpu.spEl 0 = cpu.sp ∧ cpu.spEl 1 = cpu.sp
  vectors : cpu.vbarEl 1 = 0#64 ∨
    (cpu.vbarEl 1 &&& 0x7ff#64 = 0#64 ∧ base ≤ cpu.vbarEl 1 ∧ (cpu.vbarEl 1).toNat + 0x800 ≤ base.toNat + size.toNat)

lemma BootOptions.mode_of_accepted {config : BootOptions} (h : config.refused size base = false) :
    config.initialPstate &&& 15#64 = 4#64 ∨ config.initialPstate &&& 15#64 = 5#64 := by
  obtain ⟨-, -, -, -, -, -, hmode, -⟩ := by simpa only [refused, decide_eq_false_iff_not, not_or] using h
  by_contra hne
  exact hmode (not_or.mp hne)

lemma BootOptions.vectors_of_accepted {config : BootOptions} (h : config.refused size base = false) :
    config.vbar = 0#64 ∨ (config.vbar &&& 0x7ff#64 = 0#64 ∧ base ≤ config.vbar ∧
      config.vbar.toNat + 0x800 ≤ base.toNat + size.toNat) := by
  obtain ⟨-, -, -, -, -, -, -, -, hvectors⟩ := by simpa only [refused, decide_eq_false_iff_not, not_or] using h
  by_cases hzero : config.vbar = 0#64
  · exact .inl hzero
  have hinside := mt (And.intro hzero) hvectors
  simp only [not_or] at hinside
  obtain ⟨haligned, hlow, hroom, hfits⟩ := hinside
  have hbase := BitVec.not_lt.mp hlow
  refine .inr ⟨not_ne_iff.mp haligned, hbase, ?_⟩
  rw [BitVec.lt_def, BitVec.toNat_sub_of_le hbase, BitVec.toNat_sub_of_le (BitVec.not_lt.mp hroom)] at hfits
  rw [BitVec.lt_def] at hroom
  rw [BitVec.le_def] at hbase
  change ¬size.toNat < 0x800 at hroom
  change ¬size.toNat - 0x800 < _ at hfits
  omega

lemma configurePlatform_keeps {cpu configured : VfCpu} {profile : U32} {value : U64}
    (h : cpu.configurePlatform profile value = (.ok, configured)) :
    configured = { cpu with platformProfile := profile, platformOverride := value } := by
  unfold VfCpu.configurePlatform at h
  split at h
  · cases h
  · exact (Prod.mk.inj h).2.symm

lemma bootState_eq (cpu : VfCpu) (registers : Fin 4 → U64) (config : BootOptions) : ∃ irq fiq,
    bootState cpu base entry stack registers config = { cpu with
      pc := entry
      x := fun i => if h : i.val < 4 then registers ⟨i, h⟩ else cpu.x i
      sp := stack
      spEl := Function.update (Function.update cpu.spEl 1 stack) 0 stack
      pstate := config.initialPstate
      vbarEl := Function.update cpu.vbarEl 1 config.vbar
      irqLevel := irq
      fiqLevel := fiq
      guestRamBase := base } := by
  unfold bootState VfCpu.setInterruptLines
  split
  · exact ⟨cpu.irqLevel, cpu.fiqLevel, rfl⟩
  · exact ⟨_, _, rfl⟩

lemma configurePlatform_refuses {cpu configured : VfCpu} {profile : U32} {value : U64} {result : SysregResult}
    (h : cpu.configurePlatform profile value = (result, configured)) (hresult : result ≠ .ok) : configured = cpu := by
  unfold VfCpu.configurePlatform at h
  split at h
  · exact (Prod.mk.inj h).2.symm
  · exact absurd (Prod.mk.inj h).1.symm hresult

lemma bootState_prepared {configured : VfCpu} {config : BootOptions}
    (hplaced : ¬placementRefused size base entry args stack budget = true) (haccepted : config.refused size base = false)
    (hplatform : (VfCpu.reset 1#32).configurePlatform config.platformProfile config.initialOverride = (.ok, configured)) :
    Prepared size base (bootState configured base entry stack registers config) := by
  obtain ⟨irq, fiq, hstate⟩ := @bootState_eq base entry stack configured registers config
  rw [hstate, configurePlatform_keeps hplatform]
  simp only [placementRefused, decide_eq_true_eq, not_or] at hplaced
  obtain ⟨hsize, -, -, hentry, hlow, hword, -, -, -, hstack, hstackLow, hstackFit, -⟩ := hplaced
  have hreset := VfCpu.reset_good 1#32
  exact
    { good := ⟨{ hreset.valid with mode := .inr (.inl ⟨rfl, BootOptions.mode_of_accepted haccepted⟩) },
        hreset.timers.frame rfl⟩
      level := rfl
      settled := rfl
      ram := rfl
      word := ⟨not_ne_iff.mp hentry, BitVec.not_lt.mp hlow, Nat.not_lt.mp (hword ∘ (placed_entry rfl hsize hlow).mpr)⟩
      stack := ⟨not_ne_iff.mp hstack, BitVec.not_le.mp hstackLow,
        Nat.not_lt.mp (hstackFit ∘ (placed_stack rfl hstackLow).mpr)⟩
      banks := ⟨rfl, rfl⟩
      vectors := BootOptions.vectors_of_accepted haccepted }

/-- A boot, with any registers and options, starts from a prepared record, or is refused with the record as it was or
reset. -/
theorem vfCpuPrepareBoot_prepared (cpu : VfCpu) (size base entry args stack : U64) (registers : Fin 4 → U64)
    (options : Option BootOptions) (budget : U64) :
    let (status, prepared) := vfCpuPrepareBoot cpu size base entry args stack registers options budget
    (status = Status.next ∧ Prepared size base prepared) ∨
      (status = Status.dataFault ∧ (prepared = cpu ∨ prepared = VfCpu.reset 1#32)) := by
  unfold vfCpuPrepareBoot
  generalize options.getD .defaults = config
  dsimp only
  split
  · exact .inr ⟨rfl, .inl rfl⟩
  next hplaced =>
  split
  · exact .inr ⟨rfl, .inl rfl⟩
  next haccepted =>
  split
  next configured hplatform =>
    exact .inl ⟨rfl, bootState_prepared hplaced (Bool.eq_false_of_not_eq_true haccepted) hplatform⟩
  next result configured hresult hplatform =>
    exact .inr ⟨rfl, .inr (configurePlatform_refuses hplatform hresult)⟩

end Prepared

section Boot

variable {τ : Type} {base entry args stack budget : U64}

def bootRecord (base entry args stack : U64) : VfCpu :=
  bootState (VfCpu.reset 1#32) base entry stack ![args, 0#64, 0#64, 0#64] .defaults

lemma vfCpuPrepareBoot_defaults (cpu : VfCpu) (size : U64)
    (h : placementRefused size base entry args stack budget = false) :
    vfCpuPrepareBoot cpu size base entry args stack ![args, 0#64, 0#64, 0#64] none budget =
      (Status.next, bootRecord base entry args stack) := by
  unfold vfCpuPrepareBoot
  dsimp only
  rw [h, if_neg Bool.false_ne_true]
  rfl

lemma boot_registers (args : U64) {i : Fin 4} (hi : i ≠ 0) : ![args, 0#64, 0#64, 0#64] i = 0#64 := by
  fin_cases i
  · exact absurd rfl hi
  all_goals rfl

lemma bootRecord_x (i : Fin 31) :
    (bootRecord base entry args stack).x (i.castLE (by decide)) = Function.update (fun _ => 0#64) 0 args i := by
  change (if h : i.val < 4 then ![args, 0#64, 0#64, 0#64] ⟨i.val, h⟩ else 0#64) = _
  rcases eq_or_ne i 0 with rfl | hi
  · rfl
  rw [Function.update_of_ne hi]
  split
  next h => exact boot_registers args fun heq => hi (Fin.ext (Fin.mk_eq_zero.mp heq))
  · rfl

lemma linked_boot (affinity : U32) :
    Linked Matches false base (bootRecord base entry args stack) (GuestCpuState.booted affinity entry args stack) := by
  have hmatch : Matches (veiled (bootRecord base entry args stack) (Function.update (fun _ => 0#64) 1 stack)
      (0#64, 0#64, 0#64, 0x10#64)) (GuestCpuState.booted affinity entry args stack) :=
    { reset_matches with
      valid := by
        change ({ VfCpu.reset 1#32 with pstate := 0x3c5#64 } : VfCpu).stateValid = true
        decide
      x := @bootRecord_x base entry args stack
      sp := rfl
      pc := rfl
      pstate := by
        change 0x3c5#64 = (5#32 ||| Preos.Pstate.d ||| Preos.Pstate.a ||| Preos.Pstate.i ||| Preos.Pstate.f).zeroExtend 64
        decide
      spEl := fun el => by cases el <;> rfl
      vbar := fun el _ => by cases el <;> rfl }
  have hprofile : (0#32 : U32) ≤ 1#32 := by decide
  have htimer : GenericTimer.reset.ctl &&& 1#64 = 0#64 := by decide
  exact ⟨⟨_, _, fun h => absurd h (by decide), hmatch⟩, rfl, rfl, rfl, hprofile, BitVec.zero_and,
    fun _ => ⟨rfl, rfl, htimer, htimer⟩⟩

section Run

variable {caller : Caller} {protect : Protect τ} {s : RunState τ}

lemma vfRunBoot_refused
    (h : placementRefused (BitVec.ofNat 64 s.ram.length) base entry args stack budget = true) :
    vfRunBoot caller protect base entry args stack budget s = some (Status.dataFault, s) := by
  unfold vfRunBoot vfRunBootWithPauth vfRunBootWithRegisters vfRunBootV2 vfCpuPrepareBoot
  rw [h]
  rfl

lemma vfRunBoot_placed
    (h : placementRefused (BitVec.ofNat 64 s.ram.length) base entry args stack budget = false) :
    vfRunBoot caller protect base entry args stack budget s = vfRun caller none protect (ramImage s.ram.length) budget
      { s with cpu := bootRecord base entry args stack } := by
  unfold vfRunBoot vfRunBootWithPauth vfRunBootWithRegisters vfRunBootV2
  rw [vfCpuPrepareBoot_defaults _ _ h]
  rfl

end Run

/-- A boot without options and a boot of the reference core refuse the same placements, with nothing changed, and what they
do not refuse they run to the same end. -/
theorem boot_agrees (caller : Caller) (protect : Protect τ) (hprotect : ∀ o flag, (protect o flag).2 = 0#32)
    (base entry args stack budget : U64) (s : RunState τ) (r : GuestCpuState) (hsize : s.ram.length < 2 ^ 64)
    (hroomy : Roomy 32 s.code.capacity)
    (hfetches : GuestCpuState.bootRefused s.ram base entry args stack budget = false → ∀ m,
      Visits (GuestCpuState.body RamBus.bus budget) (GuestCpuState.booted r.affinity entry args stack, ⟨s.ram, base⟩) m →
        Fetches false m)
    (hstable : GuestCpuState.bootRefused s.ram base entry args stack budget = false → ∀ s',
      Visits (vfRunTurn caller none protect (ramImage s.ram.length) 32 budget 0#64)
        { s with cpu := bootRecord base entry args stack } s' → Undisturbed (ramImage s.ram.length) 32 budget 0#64 s') :
    ∃ status s' result m, vfRunBoot caller protect base entry args stack budget s = some (status, s') ∧
      r.runBootBounded s.ram base entry args stack budget = some (result, m) ∧
      if GuestCpuState.bootRefused s.ram base entry args stack budget then
        status = Status.dataFault ∧ s' = s ∧ result = ⟨.input, none, 0#64, r.pc⟩ ∧ m = (r, ⟨s.ram, base⟩)
      else Concludes false base status s'.cpu s'.ram result m := by
  have hlength : (BitVec.ofNat 64 s.ram.length).toNat = s.ram.length := Nat.mod_eq_of_lt hsize
  have hplacement := placementRefused_eq hlength base entry args stack budget
  unfold GuestCpuState.runBootBounded
  cases hrefused : GuestCpuState.bootRefused s.ram base entry args stack budget with
  | true =>
    exact ⟨_, _, _, _, vfRunBoot_refused (hplacement.trans hrefused), rfl, rfl, rfl, rfl, rfl⟩
  | false =>
    have hplaced := hplacement.trans hrefused
    have hram : 8 ≤ s.ram.length := by
      have hroom := BitVec.not_lt.mp (not_or.mp (of_decide_eq_false hplaced)).1
      exact hlength ▸ BitVec.le_def.mp hroom
    have hbudget : (0#64 : U64).toNat + budget.toNat < 2 ^ 64 := (Nat.zero_add _).symm ▸ budget.isLt
    obtain ⟨status, s', result, m, hrun, hreference, hconcludes⟩ :=
      vfRun_runs caller (s := { s with cpu := bootRecord base entry args stack }) hprotect (linked_boot r.affinity)
        (GuestCpuState.atBoundary_booted r.affinity entry args stack budget) rfl hbudget hbudget hram hsize hroomy
        (hfetches hrefused) (hstable hrefused)
    exact ⟨status, s', result, m, (vfRunBoot_placed hplaced).trans hrun, hreference, hconcludes⟩

end Boot

theorem boot_agrees_halt : ∃ status s' result m,
    vfRunBoot ⟨⟨0x10000#64, 0x20000#64⟩, fun _ => ⟨.word 0#64, .word 0#64, .word 0#64, .word 0#64, .undefined⟩⟩
      (fun o _ => (o, 0#32)) 0#64 0#64 0#64 16#64 8#64 (haltRun (VfCpu.reset 1#32)) = some (status, s') ∧
    (GuestCpuState.reset 0#32).runBootBounded haltRam 0#64 0#64 0#64 16#64 8#64 = some (result, m) ∧
    if GuestCpuState.bootRefused haltRam 0#64 0#64 0#64 16#64 8#64 then
      status = Status.dataFault ∧ s' = haltRun (VfCpu.reset 1#32) ∧ result = ⟨.input, none, 0#64, 0#64⟩ ∧
        m = (GuestCpuState.reset 0#32, ⟨haltRam, 0#64⟩)
    else Concludes false 0#64 status s'.cpu s'.ram result m := by
  have hlinked : Linked Matches false 0#64 (bootRecord 0#64 0#64 0#64 16#64) (GuestCpuState.booted 0#32 0#64 0#64 16#64) :=
    linked_boot 0#32
  have hready : Ready 8#64 0#64 (haltRun (bootRecord 0#64 0#64 0#64 16#64)) :=
    ⟨by decide, by decide, by decide, by decide⟩
  have hboundary := GuestCpuState.atBoundary_booted 0#32 0#64 0#64 16#64 8#64
  exact boot_agrees _ (fun o _ => (o, 0#32)) (fun _ _ => rfl) 0#64 0#64 0#64 16#64 8#64 (haltRun (VfCpu.reset 1#32))
    (GuestCpuState.reset 0#32) (by decide) (roomy_loader List.length_replicate.ge)
    (fun _ _ h => haltRun_fetches hready rfl rfl hlinked hboundary (by decide) (by decide) h)
    fun _ _ h => haltRun_undisturbed _ hready rfl rfl h

end Nextcore.Jit
