import Nextcore.Cpu.Invariant
import Nextcore.Preos.Sysreg

/-! The system registers of the C record and of the reference core, side by side. -/

namespace Nextcore.Preos

open Mmu Cpu

def levelWord (el : ExceptionLevel) : U32 := BitVec.ofNat 32 el.toNat

/-- The C record and the reference state agree, up to the two values a timer recomputes: its status bit and
TVAL. The record is valid and has no FP profile, which the reference does not know. -/
structure Unsettled (c : VfCpu) (r : GuestCpuState) : Prop where
  valid : c.stateValid = true
  fp : c.fpExecutionProfile = 0#32
  x : ∀ i : Fin 31, c.x (i.castLE (by decide)) = r.x i
  sp : c.sp = r.sp
  pc : c.pc = r.pc
  pstate : c.pstate = r.pstate.zeroExtend 64
  level : c.currentEl = levelWord r.currentEl
  spEl : ∀ el, c.spEl (VfCpu.bank (levelWord el)) = r.spEl el
  spsr : ∀ el, el ≠ .el0 → c.spsrEl (VfCpu.bank (levelWord el)) = r.sys.spsr el
  elr : ∀ el, el ≠ .el0 → c.elrEl (VfCpu.bank (levelWord el)) = r.sys.elr el
  esr : ∀ el, el ≠ .el0 → c.esrEl (VfCpu.bank (levelWord el)) = r.sys.esr el
  far : ∀ el, el ≠ .el0 → c.farEl (VfCpu.bank (levelWord el)) = r.sys.far el
  vbar : ∀ el, el ≠ .el0 → c.vbarEl (VfCpu.bank (levelWord el)) = r.sys.vbar el
  sctlr : c.sctlr = r.sys.sctlrEl1
  ttbr0 : c.ttbr0 = r.sys.ttbr0El1
  ttbr1 : c.ttbr1 = r.sys.ttbr1El1
  tcr : c.tcr = r.sys.tcrEl1
  mair : c.mair = r.sys.mairEl1
  hcr : c.hcrEl2 = r.sys.hcrEl2
  cnthctl : c.cnthctlEl2 = r.sys.cnthctlEl2
  scr : c.scrEl3 = r.sys.scrEl3
  tpidrEl0 : c.tpidrEl0 = r.sys.tpidrEl0
  tpidrroEl0 : c.tpidrroEl0 = r.sys.tpidrroEl0
  tpidrEl1 : c.tpidrEl1 = r.sys.tpidrEl1
  isar1 : c.idAa64isar1 = r.sys.idAa64isar1El1
  profile : c.platformProfile = r.platform.profile
  platform : c.platformOverride = r.platform.overrideValue
  irq : c.irqLevel ≠ 0#32 ↔ r.platform.irq = true
  fiq : c.fiqLevel ≠ 0#32 ↔ r.platform.fiq = true
  keys : ∀ i, c.pauthKeys i 0 = (r.pauth i).lo ∧ c.pauthKeys i 1 = (r.pauth i).hi
  retired : c.retired = r.retired
  frequency : c.cntfrq = r.timer.frequency
  counter : c.cntpct = r.timer.counter
  cval : c.cntpCval = r.timer.cval
  ctl : c.cntpCtl &&& ~~~4#64 = r.timer.ctl &&& ~~~4#64
  virtualCounter : c.cntvct = r.virtualTimer.counter
  virtualCval : c.cntvCval = r.virtualTimer.cval
  virtualCtl : c.cntvCtl &&& ~~~4#64 = r.virtualTimer.ctl &&& ~~~4#64

structure Matches (c : VfCpu) (r : GuestCpuState) : Prop extends Unsettled c r where
  status : c.cntpCtl = r.timer.ctl
  virtualStatus : c.cntvCtl = r.virtualTimer.ctl
  tval : c.cntpTval = saturatingSub r.timer.cval r.timer.counter

def SystemRegister.sysreg : SystemRegister → Sysreg
  | .sctlrEl1 => .sctlrEl1
  | .ttbr0El1 => .ttbr0El1
  | .ttbr1El1 => .ttbr1El1
  | .tcrEl1 => .tcrEl1
  | .mairEl1 => .mairEl1
  | .vbarEl1 => .vbarEl1
  | .esrEl1 => .esrEl1
  | .farEl1 => .farEl1
  | .elrEl1 => .elrEl1
  | .spsrEl1 => .spsrEl1
  | .cntfrqEl0 => .cntfrqEl0
  | .cntpctEl0 => .cntpctEl0
  | .cntpCtlEl0 => .cntpCtlEl0
  | .cntpCvalEl0 => .cntpCvalEl0
  | .currentEl => .currentEl
  | .idAa64mmfr0El1 => .idAa64mmfr0El1
  | .idAa64isar1El1 => .idAa64isar1El1
  | .cntvctEl0 => .cntvctEl0
  | .cntvCtlEl0 => .cntvCtlEl0
  | .cntvCvalEl0 => .cntvCvalEl0
  | .cntpTvalEl0 => .cntpTvalEl0
  | .hcrEl2 => .hcrEl2
  | .cnthctlEl2 => .cnthctlEl2
  | .vbarEl2 => .vbarEl2
  | .esrEl2 => .esrEl2
  | .farEl2 => .farEl2
  | .elrEl2 => .elrEl2
  | .spsrEl2 => .spsrEl2
  | .scrEl3 => .scrEl3
  | .vbarEl3 => .vbarEl3
  | .esrEl3 => .esrEl3
  | .farEl3 => .farEl3
  | .elrEl3 => .elrEl3
  | .spsrEl3 => .spsrEl3
  | .tpidrEl0 => .tpidrEl0
  | .tpidrroEl0 => .tpidrroEl0
  | .tpidrEl1 => .tpidrEl1
  | .platformOverride => .platformOverride
  | .idAa64zfr0El1 => .idAa64zfr0El1
  | .idAa64isar0El1 => .idAa64isar0El1
  | .idAa64isar2El1 => .idAa64isar2El1
  | .idAa64isar3El1 => .idAa64isar3El1
  | .idAa64mmfr1El1 => .idAa64mmfr1El1
  | .idAa64mmfr2El1 => .idAa64mmfr2El1
  | .idAa64pfr0El1 => .idAa64pfr0El1
  | .idAa64pfr1El1 => .idAa64pfr1El1
  | .idAa64pfr2El1 => .idAa64pfr2El1

lemma bank_levelWord_inj {a b : ExceptionLevel} (h : VfCpu.bank (levelWord a) = VfCpu.bank (levelWord b)) :
    a = b := by
  revert h
  cases a <;> cases b <;> decide

lemma bank_update {f : Fin 4 → U64} {g : ExceptionLevel → U64}
    (h : ∀ el, el ≠ .el0 → f (VfCpu.bank (levelWord el)) = g el) (target : ExceptionLevel) (value : U64)
    (el : ExceptionLevel) (hel : el ≠ .el0) :
    Function.update f (VfCpu.bank (levelWord target)) value (VfCpu.bank (levelWord el)) =
      Function.update g target value el := by
  by_cases htarget : el = target
  · subst htarget
    rw [Function.update_self, Function.update_self]
  · rw [Function.update_of_ne (fun h => htarget (bank_levelWord_inj h)), Function.update_of_ne htarget]
    exact h el hel

lemma bank_fetch {f : Fin 4 → U64} {g : ExceptionLevel → U64}
    (h : ∀ el, el ≠ .el0 → f (VfCpu.bank (levelWord el)) = g el) :
    some (f 1) = some (g .el1) ∧ some (f 2) = some (g .el2) ∧ some (f 3) = some (g .el3) :=
  ⟨congrArg some (h .el1 (by decide)), congrArg some (h .el2 (by decide)), congrArg some (h .el3 (by decide))⟩

def SameRead : Except SysregResult U64 → Except SysRegFault U64 → Prop
  | .ok a, .ok b => a = b
  | .error _, .error _ => True
  | _, _ => False

lemma levelWord_lt {a b : ExceptionLevel} : levelWord a < levelWord b ↔ a.toNat < b.toNat := by
  cases a <;> cases b <;> decide

lemma plainEl1_eq {c : VfCpu} {r : GuestCpuState} (h : Unsettled c r) : c.plainEl1 = r.plainEl1 := by
  have hlevel : c.currentEl = 1#32 ↔ r.currentEl = .el1 := by
    rw [h.level]
    cases r.currentEl <;> decide
  simp only [VfCpu.plainEl1, GuestCpuState.plainEl1, hlevel, h.hcr, h.scr]

lemma fetchSysreg_eq {c : VfCpu} {r : GuestCpuState} (h : Matches c r) {reg : SystemRegister}
    (hid : reg.isScalarId = false) (hplatform : reg ≠ .platformOverride) :
    c.fetchSysreg reg.sysreg = some (r.fetchSysreg reg) := by
  cases reg <;> first | exact absurd hid (by decide) | exact absurd rfl hplatform | skip
  case currentEl =>
    simp only [SystemRegister.sysreg, VfCpu.fetchSysreg, GuestCpuState.fetchSysreg, h.level]
    cases r.currentEl <;> rfl
  all_goals first
    | exact congrArg some h.sctlr | exact congrArg some h.ttbr0 | exact congrArg some h.ttbr1
    | exact congrArg some h.tcr | exact congrArg some h.mair | exact congrArg some h.hcr
    | exact congrArg some h.cnthctl | exact congrArg some h.scr | exact congrArg some h.tpidrEl0
    | exact congrArg some h.tpidrroEl0 | exact congrArg some h.tpidrEl1 | exact congrArg some h.isar1
    | exact congrArg some h.frequency | exact congrArg some h.counter | exact congrArg some h.cval
    | exact congrArg some h.status | exact congrArg some h.virtualCounter | exact congrArg some h.virtualCval
    | exact congrArg some h.virtualStatus | exact congrArg some h.tval
    | exact (bank_fetch h.spsr).1 | exact (bank_fetch h.spsr).2.1 | exact (bank_fetch h.spsr).2.2
    | exact (bank_fetch h.elr).1 | exact (bank_fetch h.elr).2.1 | exact (bank_fetch h.elr).2.2
    | exact (bank_fetch h.esr).1 | exact (bank_fetch h.esr).2.1 | exact (bank_fetch h.esr).2.2
    | exact (bank_fetch h.far).1 | exact (bank_fetch h.far).2.1 | exact (bank_fetch h.far).2.2
    | exact (bank_fetch h.vbar).1 | exact (bank_fetch h.vbar).2.1 | exact (bank_fetch h.vbar).2.2

lemma levelCheck_iff {c : VfCpu} {r : GuestCpuState} (h : Unsettled c r) {reg : SystemRegister}
    (hid : reg.isScalarId = false) (hplatform : reg ≠ .platformOverride) :
    c.levelCheck reg.sysreg = none ↔ ¬r.currentEl.toNat < reg.minimumEl.toNat := by
  have hmin : reg.sysreg.minEl = some (levelWord reg.minimumEl) := by
    cases reg <;> first | exact absurd hid (by decide) | exact absurd rfl hplatform | rfl
  unfold VfCpu.levelCheck
  rw [hmin, h.level]
  simp only [levelWord_lt]
  split <;> simp_all

lemma readSysreg_same {c : VfCpu} {r : GuestCpuState} (h : Matches c r) (reg : SystemRegister) :
    SameRead (c.readSysreg reg.sysreg.key) (r.readSysreg reg) := by
  have hplain := plainEl1_eq h.toUnsettled
  have hfp : ¬(reg.sysreg = .fpcr ∨ reg.sysreg = .fpsr) := by cases reg <;> decide
  have hcpacr : reg.sysreg ≠ .cpacrEl1 := by cases reg <;> decide
  have hscalar : reg.sysreg.isScalarId = reg.isScalarId := by cases reg <;> rfl
  unfold VfCpu.readSysreg GuestCpuState.readSysreg
  rw [if_neg (by simp [h.valid]), Sysreg.ofKey_key]
  simp only [if_neg hfp, if_neg hcpacr]
  by_cases hplatform : reg = .platformOverride
  · subst hplatform
    have hsame : SystemRegister.platformOverride.sysreg = .platformOverride := rfl
    have hscalar : ¬SystemRegister.platformOverride.isScalarId = true := by decide
    rw [if_pos hsame, if_neg hscalar, if_pos rfl, hplain, h.profile]
    by_cases hok : r.platform.profile = 1#32 ∧ r.plainEl1 = true
    · rw [if_neg (by simp [hok]), if_pos hok]
      exact h.platform
    · rw [if_pos (by simpa [imp_iff_not_or] using hok), if_neg hok]
      trivial
  have hplatform' : reg.sysreg ≠ .platformOverride := by
    intro heq
    apply hplatform
    cases reg <;> first | rfl | cases heq
  rw [if_neg hplatform']
  by_cases hid : reg.isScalarId = true
  · rw [if_pos (hscalar.trans hid), if_pos hid, hplain]
    by_cases hok : r.plainEl1 = true
    · rw [if_neg (by simp [hok]), if_pos hok]
      simp only [SameRead, h.fp]
      cases reg <;> rfl
    · rw [if_pos (by simpa using hok), if_neg hok]
      trivial
  rw [if_neg (by rw [hscalar]; exact hid), if_neg hid, if_neg hplatform]
  have hid := Bool.not_eq_true _ ▸ hid
  have hlevel := levelCheck_iff h.toUnsettled hid hplatform
  cases hc : c.levelCheck reg.sysreg with
  | some err =>
    rw [hc] at hlevel
    have hlow : r.currentEl.toNat < reg.minimumEl.toNat := by
      by_contra hge
      exact absurd (hlevel.mpr hge) (by simp)
    dsimp only
    by_cases hundefined : reg = .tpidrEl1 ∧ r.currentEl = .el0
    · rw [if_pos hundefined]
      trivial
    · rw [if_neg hundefined, if_pos hlow]
      trivial
  | none =>
    have hhigh := hlevel.mp hc
    have hundefined : ¬(reg = .tpidrEl1 ∧ r.currentEl = .el0) := by
      rintro ⟨rfl, hel⟩
      rw [hel] at hhigh
      exact hhigh (by decide)
    simp only [if_neg hundefined, if_neg hhigh, fetchSysreg_eq h hid hplatform]
    rfl

lemma timerStatus_settled (frequency : U64) {ctl ctl' count count' cval cval' : U64}
    (hctl : ctl &&& ~~~4#64 = ctl' &&& ~~~4#64) (hcount : count = count') (hcval : cval = cval') :
    VfCpu.timerStatus ctl count cval = (GenericTimer.mk frequency count' ctl' cval').settled.ctl := by
  subst hcount hcval
  rw [VfCpu.timerStatus_congr hctl]
  simp only [VfCpu.timerStatus, GenericTimer.settled, GenericTimer.pending, decide_eq_true_eq]

lemma advanceCounter_matches {c : VfCpu} {r : GuestCpuState} (h : Unsettled c r)
    (hcounter : c.cntpct ≠ BitVec.allOnes 64) (hvirtual : c.cntvct ≠ BitVec.allOnes 64) :
    Matches (c.advanceCounter 1#64) (r.advanceCounter 1#64) := by
  have hnext : ∀ count : U64, count ≠ BitVec.allOnes 64 → saturatingAdd count 1#64 = count + 1#64 := by
    intro count hcount
    unfold saturatingAdd
    rw [if_neg]
    simp only [BitVec.uaddOverflow, decide_eq_true_eq, not_le]
    have hlt := count.isLt
    have hne : count.toNat ≠ 2 ^ 64 - 1 := fun heq => hcount (BitVec.eq_of_toNat_eq (by simpa using heq))
    have hone : (1#64).toNat = 1 := rfl
    omega
  have hvalid : (c.advanceCounter 1#64).stateValid = true := h.valid
  have hphysical : c.cntpct + 1#64 = saturatingAdd r.timer.counter 1#64 := by
    rw [hnext _ (h.counter ▸ hcounter), h.counter]
  have hvirt : c.cntvct + 1#64 = saturatingAdd r.virtualTimer.counter 1#64 := by
    rw [hnext _ (h.virtualCounter ▸ hvirtual), h.virtualCounter]
  have hstatus := timerStatus_settled r.timer.frequency h.ctl hphysical h.cval
  have hvstatus := timerStatus_settled r.virtualTimer.frequency h.virtualCtl hvirt h.virtualCval
  refine ⟨{ h with valid := hvalid, counter := hphysical, virtualCounter := hvirt,
                   ctl := congrArg (· &&& ~~~4#64) hstatus, virtualCtl := congrArg (· &&& ~~~4#64) hvstatus },
    hstatus, hvstatus, ?_⟩
  change (if c.cntpct + 1#64 ≤ c.cntpCval then c.cntpCval - (c.cntpct + 1#64) else 0#64) =
    saturatingSub r.timer.cval (saturatingAdd r.timer.counter 1#64)
  rw [hphysical, h.cval]
  rfl

def Accepts (c : VfCpu) (reg : SystemRegister) (value : U64) : Prop :=
  match reg with
  | .platformOverride =>
    c.platformProfile = 1#32 ∧ c.plainEl1 = true ∧ value &&& ~~~0x00f00000#64 = 0#64 ∧
      ((value >>> 20) &&& 3#64 = 0#64 ∨ (value >>> 20) &&& 3#64 = 2#64) ∧
      ((value >>> 22) &&& 3#64 = 0#64 ∨ (value >>> 22) &&& 3#64 = 2#64)
  | .cntfrqEl0 | .cntpctEl0 | .cntvctEl0 | .currentEl | .idAa64mmfr0El1 | .idAa64isar1El1 | .idAa64zfr0El1
  | .idAa64isar0El1 | .idAa64isar2El1 | .idAa64isar3El1 | .idAa64mmfr1El1 | .idAa64mmfr2El1 | .idAa64pfr0El1
  | .idAa64pfr1El1 | .idAa64pfr2El1 => False
  | .tpidrroEl0 => c.currentEl ≠ 0#32
  | .ttbr0El1 | .ttbr1El1 => ¬c.currentEl < 1#32 ∧ value &&& 0xfff#64 = 0#64
  | .tcrEl1 => ¬c.currentEl < 1#32 ∧ value &&& (0xf#64 <<< 39) = 0#64
  | reg => ¬c.currentEl < levelWord reg.minimumEl

/-- The eight-bit ASID profile: no TTBR tag above bit 55 and no TCR.AS, neither in the value written nor, for
SCTLR, in the controls it would put in force. -/
def Supported (c : VfCpu) (reg : SystemRegister) (value : U64) : Prop :=
  match reg with
  | .ttbr0El1 | .ttbr1El1 => value >>> 56 = 0#64
  | .tcrEl1 => value &&& (1#64 <<< 36) = 0#64
  | .sctlrEl1 => c.tcr &&& (1#64 <<< 36) = 0#64 ∧ (c.ttbr0 ||| c.ttbr1) >>> 56 = 0#64
  | _ => True

def checkedStore (c : VfCpu) (reg : Sysreg) (value : U64) : SysregResult × VfCpu :=
  match c.levelCheck reg with
  | some err => (err, c)
  | none =>
    match c.storeSysreg reg value with
    | (.ok, cpu) => (.ok, cpu.updateTimerStatus)
    | failed => failed

lemma writeSysreg_result (c : VfCpu) (reg : SystemRegister) (value : U64) (hvalid : c.stateValid = true)
    (hplatform : reg ≠ .platformOverride) :
    c.writeSysreg reg.sysreg.key value = checkedStore c reg.sysreg value := by
  have hfp : ¬(reg.sysreg = .fpcr ∨ reg.sysreg = .fpsr) := by cases reg <;> decide
  have hcpacr : reg.sysreg ≠ .cpacrEl1 := by cases reg <;> decide
  have hplatform' : reg.sysreg ≠ .platformOverride := by
    intro heq
    apply hplatform
    cases reg <;> first | rfl | cases heq
  unfold VfCpu.writeSysreg
  rw [if_neg (by simp [hvalid]), Sysreg.ofKey_key]
  simp only [if_neg hfp, if_neg hcpacr, if_neg hplatform']
  rfl

lemma checkedStore_ok {c : VfCpu} {reg : Sysreg} {value : U64} :
    (checkedStore c reg value).1 = .ok ↔ c.levelCheck reg = none ∧ (c.storeSysreg reg value).1 = .ok := by
  unfold checkedStore
  cases hlevel : c.levelCheck reg with
  | some err =>
    simp only [reduceCtorEq, false_and, iff_false]
    intro herr
    exact VfCpu.levelCheck_ne_ok (hlevel.trans (congrArg some herr))
  | none =>
    rcases c.storeSysreg reg value with ⟨result, next⟩
    cases result <;> simp

lemma checkedStore_next {c : VfCpu} {reg : Sysreg} {value : U64} (h : (checkedStore c reg value).1 = .ok) :
    (checkedStore c reg value).2 = (c.storeSysreg reg value).2.updateTimerStatus := by
  obtain ⟨hlevel, hstore⟩ := checkedStore_ok.mp h
  unfold checkedStore
  rw [hlevel]
  rcases hs : c.storeSysreg reg value with ⟨result, next⟩
  rw [hs] at hstore
  cases hstore
  rfl

lemma writeSysreg_platform (c : VfCpu) (value : U64) (hvalid : c.stateValid = true) :
    c.writeSysreg SystemRegister.platformOverride.sysreg.key value =
      if c.platformProfile ≠ 1#32 ∨ c.plainEl1 = false then (.unknown, c)
      else c.configurePlatform c.platformProfile value := by
  unfold VfCpu.writeSysreg
  rw [if_neg (by simp [hvalid]), Sysreg.ofKey_key]
  rfl

lemma writeSysreg_accepts (c : VfCpu) (reg : SystemRegister) (value : U64) (hvalid : c.stateValid = true) :
    (c.writeSysreg reg.sysreg.key value).1 = .ok ↔ Accepts c reg value := by
  by_cases hplatform : reg = .platformOverride
  · subst hplatform
    rw [writeSysreg_platform c value hvalid]
    unfold VfCpu.configurePlatform Accepts
    by_cases hok : c.platformProfile = 1#32 ∧ c.plainEl1 = true
    · rw [if_neg (by simp [hok])]
      split
      next hbad =>
        simp only [reduceCtorEq, false_iff]
        rintro ⟨_, _, hmask, hfiq, hirq⟩
        simp [hok] at hbad
        tauto
      next hgood =>
        simp only [true_iff]
        simp only [hok.1, not_or, not_and, not_not, ne_eq] at hgood
        tauto
    · rw [if_pos (by simpa [imp_iff_not_or] using hok)]
      simp only [reduceCtorEq, false_iff]
      tauto
  rw [writeSysreg_result c reg value hvalid hplatform]
  rw [checkedStore_ok]
  cases reg <;> first | exact absurd rfl hplatform | skip
  all_goals
    simp [SystemRegister.sysreg, VfCpu.levelCheck, Sysreg.minEl, VfCpu.storeSysreg, Accepts, levelWord,
      SystemRegister.minimumEl, ExceptionLevel.toNat, apply_ite Prod.fst]

lemma levelWord_eq_zero {el : ExceptionLevel} : levelWord el = 0#32 ↔ el = .el0 := by
  cases el <;> decide

lemma installControl_off (next : GuestCpuState) (restore : GuestCpuState → GuestCpuState)
    (hoff : next.sys.sctlrEl1 &&& 1#64 = 0#64) :
    ((GuestCpuState.installControl next restore).1 = .ok () ↔
      next.sys.tcrEl1 &&& (1#64 <<< 36) = 0#64 ∧ (next.sys.ttbr0El1 ||| next.sys.ttbr1El1) >>> 56 = 0#64) ∧
    ((GuestCpuState.installControl next restore).1 = .ok () →
      (GuestCpuState.installControl next restore).2 = { next with mmu := next.mmu.disable }) := by
  unfold GuestCpuState.installControl GuestCpuState.syncMmu
  by_cases hbad : next.sys.tcrEl1 &&& (1#64 <<< 36) ≠ 0#64 ∨
      (next.sys.ttbr0El1 ||| next.sys.ttbr1El1) >>> 56 ≠ 0#64
  · simp only [if_pos hbad]
    refine ⟨⟨fun h => ?_, fun h => ?_⟩, fun h => ?_⟩
    · cases h
    · exact absurd hbad (by simp only [h.1, h.2]; decide)
    · cases h
  · simp only [if_neg hbad, if_pos hoff, if_true]
    simp only [not_or, not_not] at hbad
    exact ⟨⟨fun _ => hbad, fun _ => trivial⟩, fun _ => trivial⟩

lemma storeSysreg_ttbr0 {r : GuestCpuState} (hoff : r.sys.sctlrEl1 &&& 1#64 = 0#64) (value : U64) :
    r.storeSysreg .ttbr0El1 value =
      if value &&& 0xfff#64 ≠ 0#64 ∨ value >>> 56 ≠ 0#64 then (.error .invalidValue, r)
      else (.ok (), { r with sys := { r.sys with ttbr0El1 := value } }) := by
  unfold GuestCpuState.storeSysreg
  simp only [if_neg (not_not.mpr hoff)]

lemma storeSysreg_ttbr1 {r : GuestCpuState} (hoff : r.sys.sctlrEl1 &&& 1#64 = 0#64) (value : U64) :
    r.storeSysreg .ttbr1El1 value =
      if value &&& 0xfff#64 ≠ 0#64 ∨ value >>> 56 ≠ 0#64 then (.error .invalidValue, r)
      else (.ok (), { r with sys := { r.sys with ttbr1El1 := value } }) := by
  unfold GuestCpuState.storeSysreg
  simp only [if_neg (not_not.mpr hoff)]

lemma storeSysreg_tcr {r : GuestCpuState} (hoff : r.sys.sctlrEl1 &&& 1#64 = 0#64) (value : U64) :
    r.storeSysreg .tcrEl1 value =
      if value &&& ((1#64 <<< 36) ||| (0xf#64 <<< 39)) ≠ 0#64 then (.error .invalidValue, r)
      else (.ok (), { r with sys := { r.sys with tcrEl1 := value } }) := by
  unfold GuestCpuState.storeSysreg
  simp only [if_neg (not_not.mpr hoff)]

lemma configure_isSome {p : PlatformState} (value : U64) (hprofile : p.profile = 1#32) :
    (p.configure p.profile value).isSome = true ↔ value &&& ~~~0x00f00000#64 = 0#64 ∧
      ((value >>> 20) &&& 3#64 = 0#64 ∨ (value >>> 20) &&& 3#64 = 2#64) ∧
      ((value >>> 22) &&& 3#64 = 0#64 ∨ (value >>> 22) &&& 3#64 = 2#64) := by
  unfold PlatformState.configure
  rw [hprofile]
  split
  next hbad =>
    simp only [Option.isSome_none, Bool.false_eq_true, false_iff]
    rintro ⟨hmask, hfiq, hirq⟩
    rcases hbad with h | ⟨h, _⟩ | h | h | h
    · exact absurd h (by decide)
    · exact absurd h (by decide)
    · exact h hmask
    · exact h hfiq
    · exact h hirq
  next hgood =>
    simp only [Option.isSome_some, true_iff]
    exact ⟨not_not.mp fun h => hgood (Or.inr (Or.inr (Or.inl h))),
      not_not.mp fun h => hgood (Or.inr (Or.inr (Or.inr (Or.inl h)))),
      not_not.mp fun h => hgood (Or.inr (Or.inr (Or.inr (Or.inr h))))⟩

lemma writeSysreg_ok {r : GuestCpuState} {reg : SystemRegister} {value : U64}
    (hplatform : reg ≠ .platformOverride) :
    (r.writeSysreg reg value).1 = .ok () ↔ ¬(r.currentEl = .el0 ∧ (reg = .tpidrEl1 ∨ reg = .tpidrroEl0)) ∧
      ¬r.currentEl.toNat < reg.minimumEl.toNat ∧ (r.storeSysreg reg value).1 = .ok () := by
  unfold GuestCpuState.writeSysreg
  rw [if_neg hplatform]
  split
  next h => simp [h]
  next h =>
    split
    next hlow => simp [hlow]
    next hlow => simp [h, hlow]

lemma writeSysreg_accepts_reference {c : VfCpu} {r : GuestCpuState} (h : Unsettled c r)
    (hoff : r.sys.sctlrEl1 &&& 1#64 = 0#64) {reg : SystemRegister} {value : U64}
    (hkeep : reg = .sctlrEl1 → value &&& 1#64 = 0#64) :
    (r.writeSysreg reg value).1 = .ok () ↔ Accepts c reg value ∧ Supported c reg value := by
  have hplain := plainEl1_eq h
  by_cases hplatform : reg = .platformOverride
  · subst hplatform
    unfold GuestCpuState.writeSysreg Accepts Supported
    rw [if_pos rfl, h.profile, hplain]
    by_cases hok : r.platform.profile = 1#32 ∧ r.plainEl1 = true
    · rw [if_neg (by simp [hok])]
      have hconfigure := configure_isSome value hok.1
      cases hp : r.platform.configure r.platform.profile value with
      | none =>
        rw [hp] at hconfigure
        simp only [reduceCtorEq, false_iff]
        rintro ⟨⟨_, _, hvalue⟩, _⟩
        exact absurd (hconfigure.mpr hvalue) (by decide)
      | some platform =>
        rw [hp] at hconfigure
        exact iff_of_true rfl ⟨⟨hok.1, hok.2, hconfigure.mp rfl⟩, trivial⟩
    · rw [if_pos (by simpa [imp_iff_not_or] using hok)]
      simp only [reduceCtorEq, false_iff]
      rintro ⟨⟨hprofile, hel, _⟩, _⟩
      exact hok ⟨hprofile, hel⟩
  rw [writeSysreg_ok hplatform]
  have hlow : ∀ el, c.currentEl < levelWord el ↔ r.currentEl.toNat < el.toNat := by
    intro el
    rw [h.level]
    exact levelWord_lt
  have hlow1 : c.currentEl < 1#32 ↔ r.currentEl.toNat < ExceptionLevel.el1.toNat := hlow .el1
  have hzero : c.currentEl = 0#32 ↔ r.currentEl = .el0 := by
    rw [h.level]
    exact levelWord_eq_zero
  have hel0 : r.currentEl.toNat < ExceptionLevel.el1.toNat ↔ r.currentEl = .el0 := by
    cases r.currentEl <;> decide
  cases reg
  case sctlrEl1 =>
    have hinstall := (installControl_off { r with sys := { r.sys with sctlrEl1 := value } }
      (fun next => { next with sys := { next.sys with sctlrEl1 := r.sys.sctlrEl1 } }) (hkeep rfl)).1
    simp only [GuestCpuState.storeSysreg, hinstall, Accepts, Supported, hlow, h.tcr, h.ttbr0, h.ttbr1, reduceCtorEq,
      or_self, and_false, not_false_eq_true, true_and]
  case platformOverride => exact absurd rfl hplatform
  case tcrEl1 =>
    have hsplit : value &&& ((1#64 <<< 36) ||| (0xf#64 <<< 39)) = 0#64 ↔
        value &&& (1#64 <<< 36) = 0#64 ∧ value &&& (0xf#64 <<< 39) = 0#64 := by
      rw [BitVec.and_or_distrib_left, BitVec.or_eq_zero_iff]
    rw [storeSysreg_tcr hoff]
    simp only [Accepts, Supported, hlow1, SystemRegister.minimumEl, reduceCtorEq, or_self, and_false,
      not_false_eq_true, true_and]
    by_cases hbits : value &&& ((1#64 <<< 36) ||| (0xf#64 <<< 39)) = 0#64
    · rw [if_neg (not_not.mpr hbits)]
      have := hsplit.mp hbits
      tauto
    · rw [if_pos hbits]
      simp only [reduceCtorEq, and_false, false_iff]
      tauto
  case ttbr0El1 =>
    rw [storeSysreg_ttbr0 hoff]
    simp only [Accepts, Supported, hlow1, SystemRegister.minimumEl, reduceCtorEq, or_self, and_false,
      not_false_eq_true, true_and]
    by_cases hbits : value &&& 0xfff#64 ≠ 0#64 ∨ value >>> 56 ≠ 0#64
    · rw [if_pos hbits]
      simp only [reduceCtorEq, and_false, false_iff]
      tauto
    · rw [if_neg hbits]
      tauto
  case ttbr1El1 =>
    rw [storeSysreg_ttbr1 hoff]
    simp only [Accepts, Supported, hlow1, SystemRegister.minimumEl, reduceCtorEq, or_self, and_false,
      not_false_eq_true, true_and]
    by_cases hbits : value &&& 0xfff#64 ≠ 0#64 ∨ value >>> 56 ≠ 0#64
    · rw [if_pos hbits]
      simp only [reduceCtorEq, and_false, false_iff]
      tauto
    · rw [if_neg hbits]
      tauto
  case tpidrroEl0 =>
    simp only [GuestCpuState.storeSysreg, Accepts, Supported, ne_eq, SystemRegister.minimumEl, ExceptionLevel.toNat]
    simp [hzero]
  all_goals
    simp [GuestCpuState.storeSysreg, Accepts, Supported, hlow, hel0, SystemRegister.minimumEl]

lemma updateTimerStatus_unsettled {c : VfCpu} {r : GuestCpuState} (h : Unsettled c r) :
    Unsettled c.updateTimerStatus r :=
  { h with
    valid := h.valid
    ctl := (VfCpu.timerStatus_masked _ _ _).trans h.ctl
    virtualCtl := (VfCpu.timerStatus_masked _ _ _).trans h.virtualCtl }

lemma stored_ctl (t : GenericTimer) (value : U64) :
    (if { t with ctl := value &&& 3#64 }.pending
      then { t with ctl := (value &&& 3#64) ||| 4#64 } else { t with ctl := value &&& 3#64 }).ctl &&& ~~~4#64 =
      value &&& 3#64 &&& ~~~4#64 := by
  split
  · rw [BitVec.and_or_distrib_right]
    simp
  · rfl

lemma storeSysreg_unsettled {c : VfCpu} {r : GuestCpuState} (h : Unsettled c r) {reg : SystemRegister}
    {value : U64} (hplatform : reg ≠ .platformOverride) (hoff : r.sys.sctlrEl1 &&& 1#64 = 0#64)
    (hkeep : reg = .sctlrEl1 → value &&& 1#64 = 0#64)
    (hc : (c.storeSysreg reg.sysreg value).1 = .ok) (hr : (r.storeSysreg reg value).1 = .ok ()) :
    Unsettled (c.storeSysreg reg.sysreg value).2 (r.storeSysreg reg value).2 := by
  have hvalid : (c.storeSysreg reg.sysreg value).2.stateValid = true :=
    (VfCpu.storeSysreg_stateValid _ _ _).trans h.valid
  cases reg <;> first | exact absurd rfl hplatform | cases hr | skip
  case tpidrEl0 => exact { h with valid := hvalid, tpidrEl0 := rfl }
  case tpidrEl1 => exact { h with valid := hvalid, tpidrEl1 := rfl }
  case mairEl1 => exact { h with valid := hvalid, mair := rfl }
  case hcrEl2 => exact { h with valid := hvalid, hcr := rfl }
  case cnthctlEl2 => exact { h with valid := hvalid, cnthctl := rfl }
  case scrEl3 => exact { h with valid := hvalid, scr := rfl }
  case spsrEl1 => exact { h with valid := hvalid, spsr := bank_update h.spsr .el1 value }
  case spsrEl2 => exact { h with valid := hvalid, spsr := bank_update h.spsr .el2 value }
  case spsrEl3 => exact { h with valid := hvalid, spsr := bank_update h.spsr .el3 value }
  case elrEl1 => exact { h with valid := hvalid, elr := bank_update h.elr .el1 value }
  case elrEl2 => exact { h with valid := hvalid, elr := bank_update h.elr .el2 value }
  case elrEl3 => exact { h with valid := hvalid, elr := bank_update h.elr .el3 value }
  case esrEl1 => exact { h with valid := hvalid, esr := bank_update h.esr .el1 value }
  case esrEl2 => exact { h with valid := hvalid, esr := bank_update h.esr .el2 value }
  case esrEl3 => exact { h with valid := hvalid, esr := bank_update h.esr .el3 value }
  case farEl1 => exact { h with valid := hvalid, far := bank_update h.far .el1 value }
  case farEl2 => exact { h with valid := hvalid, far := bank_update h.far .el2 value }
  case farEl3 => exact { h with valid := hvalid, far := bank_update h.far .el3 value }
  case vbarEl1 => exact { h with valid := hvalid, vbar := bank_update h.vbar .el1 _ }
  case vbarEl2 => exact { h with valid := hvalid, vbar := bank_update h.vbar .el2 _ }
  case vbarEl3 => exact { h with valid := hvalid, vbar := bank_update h.vbar .el3 _ }
  case tpidrroEl0 =>
    simp only [SystemRegister.sysreg, VfCpu.storeSysreg] at hc hvalid ⊢
    split at hc
    · cases hc
    next hel =>
      rw [if_neg hel] at hvalid ⊢
      exact { h with valid := hvalid, tpidrroEl0 := rfl }
  case ttbr0El1 =>
    rw [storeSysreg_ttbr0 hoff] at hr ⊢
    simp only [SystemRegister.sysreg, VfCpu.storeSysreg] at hc hvalid ⊢
    split at hc
    · cases hc
    next hlow =>
      split at hr
      · cases hr
      next hbits =>
        rw [if_neg hlow] at hvalid ⊢
        rw [if_neg hbits]
        exact { h with valid := hvalid, ttbr0 := rfl }
  case ttbr1El1 =>
    rw [storeSysreg_ttbr1 hoff] at hr ⊢
    simp only [SystemRegister.sysreg, VfCpu.storeSysreg] at hc hvalid ⊢
    split at hc
    · cases hc
    next hlow =>
      split at hr
      · cases hr
      next hbits =>
        rw [if_neg hlow] at hvalid ⊢
        rw [if_neg hbits]
        exact { h with valid := hvalid, ttbr1 := rfl }
  case tcrEl1 =>
    rw [storeSysreg_tcr hoff] at hr ⊢
    simp only [SystemRegister.sysreg, VfCpu.storeSysreg] at hc hvalid ⊢
    split at hc
    · cases hc
    next hlow =>
      split at hr
      · cases hr
      next hbits =>
        rw [if_neg hlow] at hvalid ⊢
        rw [if_neg hbits]
        exact { h with valid := hvalid, tcr := rfl }
  case sctlrEl1 =>
    have hinstall := (installControl_off { r with sys := { r.sys with sctlrEl1 := value } }
      (fun next => { next with sys := { next.sys with sctlrEl1 := r.sys.sctlrEl1 } }) (hkeep rfl)).2 hr
    have hstore : (r.storeSysreg .sctlrEl1 value).2 = _ := hinstall
    rw [hstore]
    exact { h with valid := hvalid, sctlr := rfl }
  case cntpCtlEl0 =>
    refine { h with valid := hvalid, frequency := ?_, counter := ?_, cval := ?_, ctl := (stored_ctl r.timer value).symm }
    · exact h.frequency.trans (by dsimp only [GuestCpuState.storeSysreg]; split <;> rfl)
    · exact h.counter.trans (by dsimp only [GuestCpuState.storeSysreg]; split <;> rfl)
    · exact h.cval.trans (by dsimp only [GuestCpuState.storeSysreg]; split <;> rfl)
  case cntvCtlEl0 =>
    refine { h with
      valid := hvalid, virtualCounter := ?_, virtualCval := ?_, virtualCtl := (stored_ctl r.virtualTimer value).symm }
    · exact h.virtualCounter.trans (by dsimp only [GuestCpuState.storeSysreg]; split <;> rfl)
    · exact h.virtualCval.trans (by dsimp only [GuestCpuState.storeSysreg]; split <;> rfl)
  case cntpCvalEl0 => exact { h with valid := hvalid, cval := rfl }
  case cntvCvalEl0 => exact { h with valid := hvalid, virtualCval := rfl }
  case cntpTvalEl0 =>
    exact { h with valid := hvalid, cval := congrArg (· + value) h.counter }

lemma writeSysreg_unsettled {c : VfCpu} {r : GuestCpuState} (h : Unsettled c r) {reg : SystemRegister} {value : U64}
    (hoff : r.sys.sctlrEl1 &&& 1#64 = 0#64) (hkeep : reg = .sctlrEl1 → value &&& 1#64 = 0#64)
    (hc : (c.writeSysreg reg.sysreg.key value).1 = .ok) (hr : (r.writeSysreg reg value).1 = .ok ()) :
    Unsettled (c.writeSysreg reg.sysreg.key value).2 (r.writeSysreg reg value).2 := by
  by_cases hplatform : reg = .platformOverride
  · subst hplatform
    rw [writeSysreg_platform c value h.valid] at hc ⊢
    unfold GuestCpuState.writeSysreg at hr ⊢
    rw [if_pos rfl] at hr ⊢
    split at hc
    · cases hc
    split at hr
    · cases hr
    next hcok hrok =>
      rw [if_neg hcok, if_neg hrok]
      unfold VfCpu.configurePlatform at hc ⊢
      split at hc
      · cases hc
      next hvalue =>
        rw [if_neg hvalue]
        cases hp : r.platform.configure r.platform.profile value with
        | none =>
          rw [hp] at hr
          cases hr
        | some platform =>
          unfold PlatformState.configure at hp
          split at hp
          · cases hp
          · cases hp
            exact { h with valid := h.valid, profile := h.profile, platform := rfl, irq := h.irq, fiq := h.fiq }
  · rw [writeSysreg_result c reg value h.valid hplatform] at hc ⊢
    rw [checkedStore_next hc]
    obtain ⟨hundefined, hlevel, hstore⟩ := (writeSysreg_ok hplatform).mp hr
    have hnext : (r.writeSysreg reg value).2 = (r.storeSysreg reg value).2 := by
      unfold GuestCpuState.writeSysreg
      rw [if_neg hplatform, if_neg hundefined, if_neg hlevel]
    rw [hnext]
    exact updateTimerStatus_unsettled
      (storeSysreg_unsettled h hplatform hoff hkeep (checkedStore_ok.mp hc).2 hstore)

lemma storeSysreg_counters (c : VfCpu) (reg : Sysreg) (value : U64) :
    (c.storeSysreg reg value).2.cntpct = c.cntpct ∧ (c.storeSysreg reg value).2.cntvct = c.cntvct := by
  cases reg <;> first | exact ⟨rfl, rfl⟩ | skip
  all_goals
    unfold VfCpu.storeSysreg
    dsimp only
    split <;> exact ⟨rfl, rfl⟩

lemma writeSysreg_counters (c : VfCpu) (key : U32) (value : U64) :
    (c.writeSysreg key value).2.cntpct = c.cntpct ∧ (c.writeSysreg key value).2.cntvct = c.cntvct := by
  rcases c.writeSysreg_cases key value with ⟨_, h⟩ | ⟨_, _, _, _, _, h⟩ | ⟨_, _, h⟩ | ⟨reg, _, _, _, _, h⟩
  · rw [h]
    exact ⟨rfl, rfl⟩
  · rw [h]
    exact ⟨rfl, rfl⟩
  · rw [h]
    unfold VfCpu.configurePlatform
    split <;> exact ⟨rfl, rfl⟩
  · rw [h]
    exact storeSysreg_counters c reg value

lemma advanceCounter_last {c : VfCpu} {r : GuestCpuState} (h : Unsettled c r)
    (hmatch : Matches (c.advanceCounter 1#64) (r.advanceCounter 1#64)) :
    c.cntpct ≠ BitVec.allOnes 64 ∧ c.cntvct ≠ BitVec.allOnes 64 := by
  have hcounter : c.cntpct + 1#64 = saturatingAdd r.timer.counter 1#64 := hmatch.counter
  have hvirtual : c.cntvct + 1#64 = saturatingAdd r.virtualTimer.counter 1#64 := hmatch.virtualCounter
  constructor
  · intro hlast
    rw [← h.counter, hlast] at hcounter
    exact absurd hcounter (by decide)
  · intro hlast
    rw [← h.virtualCounter, hlast] at hvirtual
    exact absurd hvirtual (by decide)

structure SysregAgrees (c : VfCpu) (r : GuestCpuState) (reg : SystemRegister) (value : U64) : Prop where
  read : SameRead (c.readSysreg reg.sysreg.key) (r.readSysreg reg)
  accept : (c.writeSysreg reg.sysreg.key value).1 = .ok ↔ (r.writeSysreg reg value).1 = .ok ()
  step : (c.writeSysreg reg.sysreg.key value).1 = .ok → (r.writeSysreg reg value).1 = .ok () →
    Matches ((c.writeSysreg reg.sysreg.key value).2.advanceCounter 1#64)
      ((r.writeSysreg reg value).2.advanceCounter 1#64)

/-- With the MMU off the two register files agree exactly on the writes within the ASID profile, short of the
last count of a counter. -/
theorem sysreg_agreement_iff (c : VfCpu) (r : GuestCpuState) (reg : SystemRegister) (value : U64)
    (hmatch : Matches c r) (hoff : r.sys.sctlrEl1 &&& 1#64 = 0#64)
    (hkeep : reg = .sctlrEl1 → value &&& 1#64 = 0#64) :
    SysregAgrees c r reg value ↔ (Accepts c reg value →
      Supported c reg value ∧ c.cntpct ≠ BitVec.allOnes 64 ∧ c.cntvct ≠ BitVec.allOnes 64) := by
  have hc := writeSysreg_accepts c reg value hmatch.valid
  have hr := writeSysreg_accepts_reference hmatch.toUnsettled hoff hkeep
  obtain ⟨hpct, hvct⟩ := writeSysreg_counters c reg.sysreg.key value
  constructor
  · rintro ⟨_, haccept, hstep⟩ hok
    have hcok := hc.mpr hok
    have hrok := haccept.mp hcok
    have hlast := advanceCounter_last (writeSysreg_unsettled hmatch.toUnsettled hoff hkeep hcok hrok)
      (hstep hcok hrok)
    rw [hpct, hvct] at hlast
    exact ⟨(hr.mp hrok).2, hlast⟩
  · intro hcond
    refine ⟨readSysreg_same hmatch reg, ?_, ?_⟩
    · rw [hc, hr]
      exact ⟨fun hok => ⟨hok, (hcond hok).1⟩, And.left⟩
    · intro hcok hrok
      obtain ⟨_, hcounter, hvirtual⟩ := hcond (hc.mp hcok)
      exact advanceCounter_matches (writeSysreg_unsettled hmatch.toUnsettled hoff hkeep hcok hrok)
        (by rw [hpct]; exact hcounter) (by rw [hvct]; exact hvirtual)

lemma reset_matches : Matches { VfCpu.reset 1#32 with idAa64isar1 := 0x10#64 } (GuestCpuState.reset 0#32) where
  valid := by decide
  fp := rfl
  x := fun _ => rfl
  sp := rfl
  pc := rfl
  pstate := by decide
  level := rfl
  spEl := fun _ => rfl
  spsr := fun _ _ => rfl
  elr := fun _ _ => rfl
  esr := fun _ _ => rfl
  far := fun _ _ => rfl
  vbar := fun _ _ => rfl
  sctlr := rfl
  ttbr0 := rfl
  ttbr1 := rfl
  tcr := rfl
  mair := rfl
  hcr := rfl
  cnthctl := rfl
  scr := rfl
  tpidrEl0 := rfl
  tpidrroEl0 := rfl
  tpidrEl1 := rfl
  isar1 := rfl
  profile := rfl
  platform := rfl
  irq := by decide
  fiq := by decide
  keys := fun _ => ⟨rfl, rfl⟩
  retired := rfl
  frequency := rfl
  counter := rfl
  cval := rfl
  ctl := rfl
  virtualCounter := rfl
  virtualCval := rfl
  virtualCtl := rfl
  status := rfl
  virtualStatus := rfl
  tval := rfl

theorem sysreg_agreement_iff_ttbr0 :
    SysregAgrees { VfCpu.reset 1#32 with idAa64isar1 := 0x10#64 } (GuestCpuState.reset 0#32) .ttbr0El1
      0x00ff000000004000#64 :=
  (sysreg_agreement_iff _ _ .ttbr0El1 0x00ff000000004000#64 reset_matches (by decide) (by decide)).mpr fun _ =>
    ⟨by simp only [Supported]; decide, by decide, by decide⟩

/-- A tag above bit 55: accepted by the C file, refused by the reference. -/
theorem sysreg_agreement_ttbr0_fails :
    Matches { VfCpu.reset 1#32 with idAa64isar1 := 0x10#64 } (GuestCpuState.reset 0#32) ∧
    ¬SysregAgrees { VfCpu.reset 1#32 with idAa64isar1 := 0x10#64 } (GuestCpuState.reset 0#32) .ttbr0El1
      0x0100000000004000#64 := by
  refine ⟨reset_matches, ?_⟩
  intro h
  have hc : ({ VfCpu.reset 1#32 with idAa64isar1 := 0x10#64 }.writeSysreg SystemRegister.ttbr0El1.sysreg.key
      0x0100000000004000#64).1 = .ok := by decide
  have hr : ((GuestCpuState.reset 0#32).writeSysreg .ttbr0El1 0x0100000000004000#64).1 = .error .invalidValue := by
    rfl
  have hok := h.accept.mp hc
  rw [hr] at hok
  cases hok

end Nextcore.Preos
