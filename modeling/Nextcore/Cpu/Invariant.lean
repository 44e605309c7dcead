import Nextcore.Cpu.Sysreg

/-! The architectural invariant of `arch.c`: a valid state with coherent timers,
kept by every call in any order, and the exact effect of an exception entry. -/

namespace Nextcore.Cpu

namespace VfCpu

def LegalMode (el : U32) (mode : U64) : Prop :=
  (el = 0#32 ∧ mode = 0#64) ∨ (el = 1#32 ∧ (mode = 4#64 ∨ mode = 5#64)) ∨
    (el = 2#32 ∧ (mode = 8#64 ∨ mode = 9#64)) ∨ (el = 3#32 ∧ (mode = 12#64 ∨ mode = 13#64))

structure Valid (cpu : VfCpu) : Prop where
  profile : cpu.fpExecutionProfile ≤ 1#32
  reserved : cpu.fpExecutionReserved = 0#32
  cpacr : cpu.cpacrEl1 &&& ~~~0x00300000#64 = 0#64
  absent : cpu.fpExecutionProfile = 0#32 → cpu.cpacrEl1 = 0#64
  pending : cpu.exceptionPending = Exception.none ∨ validExceptionKind cpu.exceptionPending = true
  target : cpu.exceptionTargetEl ≤ 3#32
  lower : cpu.exceptionFromLowerEl ≤ 1#32
  mode : LegalMode cpu.currentEl (cpu.pstate &&& 15#64)

def TimerCoherent (ctl count cval : U64) : Prop :=
  ctl &&& 4#64 ≠ 0#64 ↔ ctl &&& 1#64 ≠ 0#64 ∧ ctl &&& 2#64 = 0#64 ∧ cval ≤ count

structure TimersCoherent (cpu : VfCpu) : Prop where
  physical : TimerCoherent cpu.cntpCtl cpu.cntpct cpu.cntpCval
  virtual : TimerCoherent cpu.cntvCtl cpu.cntvct cpu.cntvCval
  tval : cpu.cntpTval.toNat = cpu.cntpCval.toNat - cpu.cntpct.toNat

lemma LegalMode.el_le {el : U32} {mode : U64} (h : LegalMode el mode) : el ≤ 3#32 := by
  rcases h with ⟨rfl, _⟩ | ⟨rfl, _⟩ | ⟨rfl, _⟩ | ⟨rfl, _⟩ <;> decide

lemma legalMode_iff {el : U32} (h : el ≤ 3#32) (mode : U64) :
    LegalMode el mode ↔ (if el = 0#32 then decide (mode = 0#64)
      else if el = 1#32 then decide (mode = 4#64 ∨ mode = 5#64)
      else if el = 2#32 then decide (mode = 8#64 ∨ mode = 9#64)
      else decide (mode = 12#64 ∨ mode = 13#64)) = true := by
  have hel : el = 0#32 ∨ el = 1#32 ∨ el = 2#32 ∨ el = 3#32 := by bv_omega
  rcases hel with rfl | rfl | rfl | rfl <;> simp [LegalMode]

lemma stateValid_iff (cpu : VfCpu) : cpu.stateValid = true ↔ cpu.Valid := by
  unfold stateValid
  constructor
  · intro h
    simp only at h
    split at h
    · cases h
    next hbad =>
      simp only [not_or, not_and, not_not] at hbad
      obtain ⟨hel, hprofile, hreserved, hcpacr, habsent, hpending, htarget, hlower⟩ := hbad
      refine ⟨BitVec.not_lt.mp hprofile, hreserved, hcpacr, habsent, ?_, BitVec.not_lt.mp htarget,
        BitVec.not_lt.mp hlower, (legalMode_iff (BitVec.not_lt.mp hel) _).mpr h⟩
      by_cases hp : cpu.exceptionPending = Exception.none
      · exact Or.inl hp
      · exact Or.inr (by simpa using hpending hp)
  · rintro ⟨hprofile, hreserved, hcpacr, habsent, hpending, htarget, hlower, hmode⟩
    have hel := hmode.el_le
    simp only
    rw [if_neg]
    · exact (legalMode_iff hel _).mp hmode
    · simp only [not_or, not_and, not_not]
      refine ⟨BitVec.not_lt.mpr hel, BitVec.not_lt.mpr hprofile, hreserved, hcpacr, habsent, ?_,
        BitVec.not_lt.mpr htarget, BitVec.not_lt.mpr hlower⟩
      intro hp
      rcases hpending with h | h
      · exact absurd h hp
      · simp [h]

lemma legalMode_modeForEl {el : U32} (h : el ≤ 3#32) : LegalMode el (modeForEl el) := by
  have hel : el = 0#32 ∨ el = 1#32 ∨ el = 2#32 ∨ el = 3#32 := by bv_omega
  rcases hel with rfl | rfl | rfl | rfl <;> simp [LegalMode, modeForEl]

lemma modeForEl_low (el : U32) : modeForEl el &&& 15#64 = modeForEl el := by
  unfold modeForEl
  split
  · decide
  · split
    · decide
    · split <;> decide

lemma mode_replaced (old : U64) (el : U32) : ((old &&& ~~~15#64) ||| modeForEl el) &&& 15#64 = modeForEl el := by
  rw [BitVec.and_or_distrib_right, BitVec.and_assoc, modeForEl_low]
  simp

lemma mode_masked (old : U64) (el : U32) :
    ((old &&& ~~~15#64) ||| modeForEl el ||| 0x3c0#64) &&& 15#64 = modeForEl el := by
  rw [BitVec.and_or_distrib_right, mode_replaced]
  simp

lemma saveActiveSp_eq (cpu : VfCpu) : ∃ spEl, cpu.saveActiveSp = { cpu with spEl := spEl } := by
  unfold saveActiveSp
  split
  · exact ⟨_, rfl⟩
  · exact ⟨cpu.spEl, rfl⟩

lemma timerStatus_coherent (ctl count cval : U64) : TimerCoherent (timerStatus ctl count cval) count cval := by
  unfold TimerCoherent timerStatus
  split
  next h =>
    rw [BitVec.and_or_distrib_right, BitVec.and_or_distrib_right, BitVec.and_or_distrib_right]
    refine ⟨fun _ => ⟨?_, ?_, h.2.2⟩, fun _ => ?_⟩
    · simpa using h.1
    · simpa using h.2.1
    · intro hzero
      have hbit := congrArg (fun v : U64 => v.getLsbD 2) hzero
      simp at hbit
  next h =>
    rw [BitVec.and_assoc, BitVec.and_assoc, BitVec.and_assoc]
    simpa using h

lemma timerStatus_masked (ctl count cval : U64) : timerStatus ctl count cval &&& ~~~4#64 = ctl &&& ~~~4#64 := by
  unfold timerStatus
  split
  · rw [BitVec.and_or_distrib_right]
    simp
  · rw [BitVec.and_assoc, BitVec.and_self]

lemma timerStatus_congr {ctl ctl' : U64} (h : ctl &&& ~~~4#64 = ctl' &&& ~~~4#64) (count cval : U64) :
    timerStatus ctl count cval = timerStatus ctl' count cval := by
  have hbit : ∀ v : U64, v &&& ~~~4#64 &&& 1#64 = v &&& 1#64 ∧ v &&& ~~~4#64 &&& 2#64 = v &&& 2#64 ∧
      v &&& ~~~4#64 ||| 4#64 = v ||| 4#64 := by
    intro v
    refine ⟨by rw [BitVec.and_assoc]; rfl, by rw [BitVec.and_assoc]; rfl, ?_⟩
    ext i hi
    simp only [BitVec.getElem_or, BitVec.getElem_and, BitVec.getElem_not]
    cases v[i] <;> cases (4#64)[i] <;> rfl
  have h1 : ctl &&& 1#64 = ctl' &&& 1#64 := by rw [← (hbit ctl).1, h, (hbit ctl').1]
  have h2 : ctl &&& 2#64 = ctl' &&& 2#64 := by rw [← (hbit ctl).2.1, h, (hbit ctl').2.1]
  have h4 : ctl ||| 4#64 = ctl' ||| 4#64 := by rw [← (hbit ctl).2.2, h, (hbit ctl').2.2]
  simp only [timerStatus, h, h1, h2, h4]

lemma advanceCounter_update (cpu : VfCpu) (ticks : U64) :
    cpu.updateTimerStatus.advanceCounter ticks = cpu.advanceCounter ticks := by
  unfold advanceCounter updateTimerStatus
  dsimp only
  rw [timerStatus_congr (timerStatus_masked _ _ _), timerStatus_congr (timerStatus_masked _ _ _)]

lemma updateTimerStatus_idem (cpu : VfCpu) : cpu.updateTimerStatus.updateTimerStatus = cpu.updateTimerStatus := by
  unfold updateTimerStatus
  dsimp only
  rw [timerStatus_congr (timerStatus_masked _ _ _), timerStatus_congr (timerStatus_masked _ _ _)]

lemma timerStatus_disabled {ctl : U64} (h : ctl &&& 1#64 = 0#64) (count cval : U64) :
    timerStatus ctl count cval &&& 4#64 = 0#64 := by
  unfold timerStatus
  rw [if_neg (fun hon => hon.1 h), BitVec.and_assoc]
  exact BitVec.and_zero

lemma updateTimerStatus_coherent (cpu : VfCpu) : cpu.updateTimerStatus.TimersCoherent := by
  refine ⟨timerStatus_coherent _ _ _, timerStatus_coherent _ _ _, ?_⟩
  change (if cpu.cntpct ≤ cpu.cntpCval then cpu.cntpCval - cpu.cntpct else 0#64).toNat = _
  split
  next h => exact BitVec.toNat_sub_of_le h
  next h =>
    have hlt := BitVec.not_le.mp h
    exact (Nat.sub_eq_zero_of_le (Nat.le_of_lt hlt)).symm

lemma updateTimerStatus_valid {cpu : VfCpu} (h : cpu.Valid) : cpu.updateTimerStatus.Valid :=
  ⟨h.profile, h.reserved, h.cpacr, h.absent, h.pending, h.target, h.lower, h.mode⟩

structure Good (cpu : VfCpu) : Prop where
  valid : cpu.Valid
  timers : cpu.TimersCoherent

def timerFields (cpu : VfCpu) : U64 × U64 × U64 × U64 × U64 × U64 × U64 :=
  (cpu.cntpCtl, cpu.cntpct, cpu.cntpCval, cpu.cntvCtl, cpu.cntvct, cpu.cntvCval, cpu.cntpTval)

lemma TimersCoherent.frame {cpu next : VfCpu} (h : cpu.TimersCoherent) (ht : next.timerFields = cpu.timerFields) :
    next.TimersCoherent := by
  simp only [timerFields, Prod.mk.injEq] at ht
  obtain ⟨hpctl, hpct, hpcval, hvctl, hvct, hvcval, htval⟩ := ht
  refine ⟨?_, ?_, ?_⟩
  · rw [hpctl, hpct, hpcval]
    exact h.physical
  · rw [hvctl, hvct, hvcval]
    exact h.virtual
  · rw [htval, hpcval, hpct]
    exact h.tval

lemma Good.frame {cpu next : VfCpu} (h : cpu.Good) (hv : next.stateValid = cpu.stateValid)
    (ht : next.timerFields = cpu.timerFields) : next.Good :=
  ⟨(stateValid_iff next).mp (hv.trans ((stateValid_iff cpu).mpr h.valid)), h.timers.frame ht⟩

lemma updateTimerStatus_good {cpu : VfCpu} (h : cpu.Valid) : cpu.updateTimerStatus.Good :=
  ⟨updateTimerStatus_valid h, updateTimerStatus_coherent cpu⟩

lemma reset_good (el : U32) : (reset el).Good := by
  have hel : (if 3#32 < el then 0#32 else el) ≤ 3#32 := by
    split
    · decide
    next h => exact BitVec.not_lt.mp h
  have htimer : TimerCoherent 0#64 0#64 0#64 := by simp [TimerCoherent]
  refine ⟨⟨(by decide : 0#32 ≤ 1#32), rfl, (by decide : 0#64 &&& ~~~0x00300000#64 = 0#64), fun _ => rfl,
    Or.inl rfl, (by decide : 0#32 ≤ 3#32), (by decide : 0#32 ≤ 1#32), ?_⟩, ⟨htimer, htimer, rfl⟩⟩
  change LegalMode (if 3#32 < el then 0#32 else el) (modeForEl (if 3#32 < el then 0#32 else el) &&& 15#64)
  rw [modeForEl_low]
  exact legalMode_modeForEl hel

lemma setCurrentEl_good {cpu next : VfCpu} {el : U32} (h : cpu.Good) (hs : cpu.setCurrentEl el = some next) :
    next.Good := by
  unfold setCurrentEl at hs
  split at hs
  · cases hs
  next hel =>
    obtain ⟨spEl, hsave⟩ := cpu.saveActiveSp_eq
    simp only [hsave, Option.some.injEq] at hs
    subst hs
    obtain ⟨hv, ht⟩ := h
    refine ⟨⟨hv.profile, hv.reserved, hv.cpacr, hv.absent, hv.pending, hv.target, hv.lower, ?_⟩,
      ht.frame rfl⟩
    change LegalMode el (((cpu.pstate &&& ~~~15#64) ||| modeForEl el) &&& 15#64)
    rw [mode_replaced]
    exact legalMode_modeForEl (BitVec.not_lt.mp fun hlt => hel (Or.inl hlt))

lemma targetEl_le {cpu : VfCpu} (h : cpu.currentEl ≤ 3#32) : cpu.targetEl ≤ 3#32 := by
  unfold targetEl
  split
  · decide
  · exact h

lemma recordException_good {cpu : VfCpu} (h : cpu.Good) {kind : U32} (hkind : validExceptionKind kind = true)
    (pc far : U64) (syndrome instruction : U32) :
    (cpu.recordException kind pc far syndrome instruction).Good := by
  obtain ⟨spEl, hsave⟩ := cpu.saveActiveSp_eq
  unfold recordException
  simp only [hsave]
  obtain ⟨hv, ht⟩ := h
  refine ⟨⟨hv.profile, hv.reserved, hv.cpacr, hv.absent, Or.inr hkind, targetEl_le hv.mode.el_le, ?_, hv.mode⟩,
    ht.frame rfl⟩
  change (if cpu.currentEl < cpu.targetEl then 1#32 else 0#32) ≤ 1#32
  split <;> decide

lemma raiseException_good {cpu next : VfCpu} {kind : U32} {pc far : U64} {syndrome instruction : U32}
    (h : cpu.Good) (hr : cpu.raiseException kind pc far syndrome instruction = some next) : next.Good := by
  unfold raiseException at hr
  split at hr
  · cases hr
  next hok =>
    simp only [not_or, Bool.not_eq_false] at hok
    cases hr
    exact recordException_good h hok.2.1 _ _ _ _

def vectorOffset (cpu : VfCpu) : U64 :=
  let offset := if cpu.exceptionFromLowerEl ≠ 0#32 then 0x400#64
    else if cpu.spsrEl (bank cpu.exceptionTargetEl) &&& 1#64 ≠ 0#64 then 0x200#64 else 0#64
  if cpu.exceptionPending = Exception.timerInterrupt ∨ cpu.exceptionPending = Exception.externalInterrupt then
    offset + 0x80#64
  else if cpu.exceptionPending = Exception.fiqInterrupt then offset + 0x100#64 else offset

def entered (cpu : VfCpu) : VfCpu :=
  let target := bank cpu.exceptionTargetEl
  let base := cpu.vbarEl target &&& ~~~0x7ff#64
  clearException
    { cpu with
      currentEl := cpu.exceptionTargetEl
      pstate := (cpu.spsrEl target &&& ~~~15#64) ||| modeForEl cpu.exceptionTargetEl ||| 0x3c0#64
      sp := cpu.spEl target
      pc := base + cpu.vectorOffset
      exceptionVector := base + cpu.vectorOffset
      vbar := base
      esr := cpu.esrEl target
      far := cpu.farEl target
      elr := cpu.elrEl target }

lemma vectorOffset_lt (cpu : VfCpu) : cpu.vectorOffset < 0x800#64 := by
  unfold vectorOffset
  simp only
  split_ifs <;> decide

lemma base_no_overflow (base : U64) {offset : U64} (h : offset < 0x800#64) :
    (base &&& ~~~0x7ff#64).uaddOverflow offset = false := by
  have hbase : base &&& ~~~0x7ff#64 ≤ ~~~0x7ff#64 := by
    rw [BitVec.le_def, BitVec.toNat_and]
    exact Nat.and_le_right
  simp only [BitVec.uaddOverflow, ge_iff_le, decide_eq_false_iff_not, not_le]
  have htop : (~~~0x7ff#64 : U64).toNat = 2 ^ 64 - 0x800 := by decide
  have hb := BitVec.le_def.mp hbase
  have ho := BitVec.lt_def.mp h
  have hsize : (0x800#64 : U64).toNat = 0x800 := by decide
  omega

lemma takeException_eq (cpu : VfCpu) : cpu.takeException =
    if cpu.stateValid = false ∨ cpu.exceptionPending = Exception.none ∨ 3#32 < cpu.exceptionTargetEl then none
    else some cpu.entered := by
  unfold takeException
  split
  · rfl
  · refine (if_neg ?_).trans rfl
    exact ne_true_of_eq_false (base_no_overflow _ cpu.vectorOffset_lt)

lemma takeException_good {cpu next : VfCpu} (h : cpu.Good) (ht : cpu.takeException = some next) : next.Good := by
  rw [takeException_eq] at ht
  split at ht
  · cases ht
  next hok =>
    simp only [not_or] at hok
    cases ht
    obtain ⟨hv, hc⟩ := h
    refine ⟨⟨hv.profile, hv.reserved, hv.cpacr, hv.absent, Or.inl rfl, (by decide : 0#32 ≤ 3#32),
      (by decide : 0#32 ≤ 1#32), ?_⟩, hc.frame rfl⟩
    change LegalMode cpu.exceptionTargetEl ((_ ||| modeForEl cpu.exceptionTargetEl ||| 0x3c0#64) &&& 15#64)
    rw [mode_masked]
    exact legalMode_modeForEl (BitVec.not_lt.mp hok.2.2)

lemma status_good {cpu : VfCpu} (h : cpu.Good) (status : U32) : { cpu with status := status }.Good :=
  h.frame rfl rfl

lemma getD_good {cpu : VfCpu} {next : Option VfCpu} (h : cpu.Good) (hn : ∀ cpu', next = some cpu' → cpu'.Good) :
    (next.getD cpu).Good := by
  cases next with
  | none => exact h
  | some cpu' => exact hn cpu' rfl

lemma commitStatus_good {cpu : VfCpu} (h : cpu.Good) (status : U32) : (cpu.commitStatus status).Good := by
  unfold commitStatus
  simp only
  split
  · exact status_good h status
  · exact getD_good (status_good h status) fun _ hr => raiseException_good (status_good h status) hr

lemma pollInterrupt_good {cpu : VfCpu} (h : cpu.Good) : cpu.pollInterrupt.2.Good := by
  unfold pollInterrupt
  split
  · exact h
  · split
    · -- A line the model cannot route raises a trap instead.
      have hword : { cpu with instruction := 0#32 }.Good :=
        h.frame rfl rfl
      exact status_good (getD_good hword fun _ hr => raiseException_good hword hr) _
    · split
      · exact h
      · split
        · exact h
        next raised hraise =>
          have hr := raiseException_good h hraise
          split
          · exact hr
          next taken htake => exact status_good (takeException_good hr htake) _

lemma configurePlatform_good {cpu : VfCpu} (h : cpu.Good) (profile : U32) (value : U64) :
    (cpu.configurePlatform profile value).2.Good := by
  unfold configurePlatform
  split
  · exact h
  · exact h.frame rfl rfl

lemma configurePlatform_ok_or (cpu : VfCpu) (profile : U32) (value : U64) :
    (cpu.configurePlatform profile value).1 = .ok ∨ (cpu.configurePlatform profile value).2 = cpu := by
  unfold configurePlatform
  split
  · exact Or.inr rfl
  · exact Or.inl rfl

lemma storeSysreg_stateValid (cpu : VfCpu) (r : Sysreg) (value : U64) :
    (cpu.storeSysreg r value).2.stateValid = cpu.stateValid := by
  cases r <;> simp only [storeSysreg] <;> first | rfl | (split <;> rfl)

lemma storeSysreg_ok_or (cpu : VfCpu) (r : Sysreg) (value : U64) :
    (cpu.storeSysreg r value).1 = .ok ∨ (cpu.storeSysreg r value).2 = cpu := by
  cases r <;> first | exact Or.inl rfl | exact Or.inr rfl | skip
  all_goals
    unfold storeSysreg
    dsimp only
    split
    · exact Or.inr rfl
    · exact Or.inl rfl

lemma levelCheck_ne_ok {cpu : VfCpu} {r : Sysreg} : cpu.levelCheck r ≠ some .ok := by
  unfold levelCheck
  split
  · simp
  · split
    · split <;> simp
    · simp

lemma writeSysreg_cases (cpu : VfCpu) (key : U32) (value : U64) :
    ((cpu.writeSysreg key value).1 ≠ .ok ∧ (cpu.writeSysreg key value).2 = cpu) ∨
    (cpu.stateValid = true ∧ cpu.fpExecutionProfile = 1#32 ∧ cpu.currentEl = 1#32 ∧
      value &&& ~~~0x00300000#64 = 0#64 ∧ Sysreg.ofKey key = some .cpacrEl1 ∧
      cpu.writeSysreg key value = (.ok, { cpu with cpacrEl1 := value })) ∨
    (cpu.currentEl = 1#32 ∧ Sysreg.ofKey key = some .platformOverride ∧
      cpu.writeSysreg key value = cpu.configurePlatform cpu.platformProfile value) ∨
    (∃ r, cpu.stateValid = true ∧ Sysreg.ofKey key = some r ∧ cpu.levelCheck r = none ∧
      (cpu.storeSysreg r value).1 = .ok ∧
      cpu.writeSysreg key value = (.ok, (cpu.storeSysreg r value).2.updateTimerStatus)) := by
  unfold writeSysreg
  by_cases hvalid : cpu.stateValid = false
  · rw [if_pos hvalid]
    exact Or.inl ⟨by simp, rfl⟩
  rw [if_neg hvalid]
  have hvalid := Bool.not_eq_false _ ▸ hvalid
  cases hr : Sysreg.ofKey key with
  | none => exact Or.inl ⟨by simp, rfl⟩
  | some r =>
    simp only
    by_cases hfp : r = .fpcr ∨ r = .fpsr
    · rw [if_pos hfp]
      exact Or.inl ⟨by simp, rfl⟩
    rw [if_neg hfp]
    by_cases hcpacr : r = .cpacrEl1
    · rw [if_pos hcpacr]
      subst hcpacr
      split
      · exact Or.inl ⟨by simp, rfl⟩
      next hprofile =>
        split
        · exact Or.inl ⟨by simp, rfl⟩
        · split
          · exact Or.inl ⟨by simp, rfl⟩
          next hplain =>
            split
            · exact Or.inl ⟨by simp, rfl⟩
            next hbits =>
              have hel : cpu.currentEl = 1#32 := by
                simp only [plainEl1, Bool.not_eq_false, decide_eq_true_eq] at hplain
                exact hplain.1
              exact Or.inr (Or.inl ⟨hvalid, not_not.mp hprofile, hel, not_not.mp hbits, rfl, rfl⟩)
    rw [if_neg hcpacr]
    by_cases hplatform : r = .platformOverride
    · rw [if_pos hplatform]
      subst hplatform
      split
      · exact Or.inl ⟨by simp, rfl⟩
      next hplain =>
        have hel : cpu.currentEl = 1#32 := by
          simp only [plainEl1, not_or, Bool.not_eq_false, decide_eq_true_eq] at hplain
          exact hplain.2.1
        exact Or.inr (Or.inr (Or.inl ⟨hel, rfl, rfl⟩))
    rw [if_neg hplatform]
    cases hlevel : cpu.levelCheck r with
    | some err =>
      refine Or.inl ⟨?_, rfl⟩
      rintro rfl
      exact levelCheck_ne_ok hlevel
    | none =>
      simp only
      rcases hstore : cpu.storeSysreg r value with ⟨result, next⟩
      cases result with
      | ok => exact Or.inr (Or.inr (Or.inr ⟨r, hvalid, rfl, hlevel, by rw [hstore], by rw [hstore]⟩))
      | _ =>
        have hnext := (cpu.storeSysreg_ok_or r value).resolve_left (by rw [hstore]; simp)
        rw [hstore] at hnext
        exact Or.inl ⟨by simp, hnext⟩

lemma writeSysreg_failed {cpu : VfCpu} {key : U32} {value : U64} (h : (cpu.writeSysreg key value).1 ≠ .ok) :
    (cpu.writeSysreg key value).2 = cpu := by
  rcases cpu.writeSysreg_cases key value with ⟨_, h'⟩ | ⟨_, _, _, _, _, h'⟩ | ⟨_, _, h'⟩ | ⟨r, _, _, _, _, h'⟩
  · exact h'
  · rw [h'] at h
    exact absurd rfl h
  · rw [h'] at h ⊢
    exact (cpu.configurePlatform_ok_or _ _).resolve_left h
  · rw [h'] at h
    exact absurd rfl h

def WriteAllowed (cpu : VfCpu) (r : Sysreg) : Prop :=
  (∀ minimum, r.minEl = some minimum → minimum ≤ cpu.currentEl) ∧
    (r.minEl = none ∨ r = .tpidrroEl0 → cpu.currentEl ≠ 0#32)

lemma levelCheck_none {cpu : VfCpu} {r : Sysreg} (h : cpu.levelCheck r = none) :
    ∃ minimum, r.minEl = some minimum ∧ minimum ≤ cpu.currentEl := by
  unfold levelCheck at h
  split at h
  · cases h
  next minimum hm =>
    split at h
    · cases h
    next hle => exact ⟨minimum, hm, BitVec.not_lt.mp hle⟩

lemma writeSysreg_allowed {cpu : VfCpu} {key : U32} {value : U64} (h : (cpu.writeSysreg key value).1 = .ok) :
    ∃ r, Sysreg.ofKey key = some r ∧ cpu.WriteAllowed r := by
  rcases cpu.writeSysreg_cases key value with
    ⟨h', _⟩ | ⟨_, _, hel, _, hr, _⟩ | ⟨hel, hr, _⟩ | ⟨r, _, hr, hlevel, hstore, _⟩
  · exact absurd h h'
  · refine ⟨_, hr, ?_, ?_⟩
    · intro minimum hm
      cases hm
      rw [hel]
      exact BitVec.le_refl _
    · rw [hel]
      simp
  · refine ⟨_, hr, ?_, ?_⟩
    · intro minimum hm
      cases hm
    · rw [hel]
      simp
  · obtain ⟨minimum, hm, hle⟩ := levelCheck_none hlevel
    refine ⟨r, hr, ?_, ?_⟩
    · intro m hm'
      rw [hm] at hm'
      cases hm'
      exact hle
    · rintro (hnone | rfl) hzero
      · rw [hm] at hnone
        cases hnone
      · simp [storeSysreg, hzero] at hstore

lemma writeSysreg_good {cpu : VfCpu} (h : cpu.Good) (key : U32) (value : U64) :
    (cpu.writeSysreg key value).2.Good := by
  rcases cpu.writeSysreg_cases key value with
    ⟨_, h'⟩ | ⟨_, hprofile, _, hbits, _, h'⟩ | ⟨_, _, h'⟩ | ⟨r, hvalid, _, _, _, h'⟩
  · rw [h']
    exact h
  · rw [h']
    refine ⟨⟨h.valid.profile, h.valid.reserved, hbits, ?_, h.valid.pending, h.valid.target, h.valid.lower,
      h.valid.mode⟩, h.timers.frame rfl⟩
    intro habsent
    change cpu.fpExecutionProfile = 0#32 at habsent
    rw [hprofile] at habsent
    cases habsent
  · rw [h']
    exact configurePlatform_good h _ _
  · rw [h']
    apply updateTimerStatus_good
    rw [← stateValid_iff, storeSysreg_stateValid]
    exact hvalid

inductive Op
  | reset (el : U32)
  | setCurrentEl (el : U32)
  | raiseException (kind : U32) (pc far : U64) (syndrome instruction : U32)
  | takeException
  | commitStatus (status : U32)
  | readSysreg (key : U32)
  | writeSysreg (key : U32) (value : U64)
  | advanceCounter (ticks : U64)
  | pollInterrupt
  | configurePlatform (profile : U32) (value : U64)
  | setInterruptLines (irq fiq : U32)

def Op.apply (cpu : VfCpu) : Op → VfCpu
  | .reset el => VfCpu.reset el
  | .setCurrentEl el => (cpu.setCurrentEl el).getD cpu
  | .raiseException kind pc far syndrome instruction =>
    (cpu.raiseException kind pc far syndrome instruction).getD cpu
  | .takeException => cpu.takeException.getD cpu
  | .commitStatus status => cpu.commitStatus status
  | .readSysreg _ => cpu
  | .writeSysreg key value => (cpu.writeSysreg key value).2
  | .advanceCounter ticks => cpu.advanceCounter ticks
  | .pollInterrupt => cpu.pollInterrupt.2
  | .configurePlatform profile value => (cpu.configurePlatform profile value).2
  | .setInterruptLines irq fiq => (cpu.setInterruptLines irq fiq).getD cpu

def runOps (cpu : VfCpu) (ops : List Op) : VfCpu := ops.foldl Op.apply cpu

lemma setInterruptLines_good {cpu next : VfCpu} {irq fiq : U32} (h : cpu.Good)
    (hs : cpu.setInterruptLines irq fiq = some next) : next.Good := by
  unfold setInterruptLines at hs
  split at hs
  · cases hs
  · cases hs
    exact h.frame rfl rfl

lemma advanceCounter_good {cpu : VfCpu} (h : cpu.Good) (ticks : U64) : (cpu.advanceCounter ticks).Good :=
  updateTimerStatus_good ((stateValid_iff _).mp ((stateValid_iff cpu).mpr h.valid))

lemma apply_good {cpu : VfCpu} (h : cpu.Good) (op : Op) : (op.apply cpu).Good := by
  cases op with
  | reset el => exact reset_good el
  | setCurrentEl el => exact getD_good h fun _ hs => setCurrentEl_good h hs
  | raiseException kind pc far syndrome instruction => exact getD_good h fun _ hr => raiseException_good h hr
  | takeException => exact getD_good h fun _ ht => takeException_good h ht
  | commitStatus status => exact commitStatus_good h status
  | readSysreg key => exact h
  | writeSysreg key value => exact writeSysreg_good h key value
  | advanceCounter ticks => exact advanceCounter_good h ticks
  | pollInterrupt => exact pollInterrupt_good h
  | configurePlatform profile value => exact configurePlatform_good h profile value
  | setInterruptLines irq fiq => exact getD_good h fun _ hs => setInterruptLines_good h hs

lemma runOps_good {cpu : VfCpu} (h : cpu.Good) (ops : List Op) : (cpu.runOps ops).Good := by
  induction ops generalizing cpu with
  | nil => exact h
  | cons op ops ih => exact ih (apply_good h op)

/-- Any calls in any order keep a valid, coherent state; in the state they reach, a refused write changes
nothing and an accepted one is not made from below the register's level. -/
theorem architectural_invariant (cpu : VfCpu) (hvalid : cpu.stateValid = true) (htimers : cpu.TimersCoherent)
    (ops : List Op) :
    (cpu.runOps ops).stateValid = true ∧ (cpu.runOps ops).TimersCoherent ∧
    ∀ key value,
      (((cpu.runOps ops).writeSysreg key value).1 ≠ .ok →
        ((cpu.runOps ops).writeSysreg key value).2 = cpu.runOps ops) ∧
      (((cpu.runOps ops).writeSysreg key value).1 = .ok →
        ∃ r, Sysreg.ofKey key = some r ∧ (cpu.runOps ops).WriteAllowed r) := by
  have hgood := runOps_good ⟨(stateValid_iff cpu).mp hvalid, htimers⟩ ops
  exact ⟨(stateValid_iff _).mpr hgood.valid, hgood.timers, fun _ _ => ⟨writeSysreg_failed, writeSysreg_allowed⟩⟩

theorem architectural_invariant_reset :
    let cpu := (reset 1#32).runOps [.writeSysreg 0x5f11#32 1#64, .advanceCounter 1#64, .pollInterrupt]
    cpu.stateValid = true ∧ cpu.TimersCoherent ∧ (cpu.writeSysreg 0#32 1#64).2 = cpu ∧
      ∃ r, Sysreg.ofKey 0x5f11#32 = some r ∧ cpu.WriteAllowed r := by
  intro cpu
  obtain ⟨hvalid, htimers, hwrites⟩ := architectural_invariant (reset 1#32) (by decide) (reset_good 1#32).timers
    [.writeSysreg 0x5f11#32 1#64, .advanceCounter 1#64, .pollInterrupt]
  exact ⟨hvalid, htimers, (hwrites 0#32 1#64).1 (by decide +kernel), (hwrites 0x5f11#32 1#64).2 (by decide +kernel)⟩

lemma saveActiveSp_of_le {cpu : VfCpu} (h : cpu.currentEl ≤ 3#32) :
    cpu.saveActiveSp = { cpu with spEl := Function.update cpu.spEl (bank cpu.activeSpIndex) cpu.sp } :=
  if_pos h

lemma raiseException_eq {cpu : VfCpu} (hvalid : cpu.stateValid = true)
    (hnone : cpu.exceptionPending = Exception.none) {kind : U32} (hkind : validExceptionKind kind = true)
    (pc far : U64) (syndrome instruction : U32) :
    cpu.raiseException kind pc far syndrome instruction = some (cpu.recordException kind pc far
      (if syndrome = 0#32 then exceptionSyndromeOf kind cpu.currentEl pc instruction else syndrome) instruction) := by
  unfold raiseException
  rw [if_neg]
  simp [hvalid, hnone, hkind]

lemma takeException_recorded {cpu : VfCpu} (hvalid : cpu.Valid) {kind : U32}
    (hkind : validExceptionKind kind = true) (pc far : U64) (syndrome instruction : U32) :
    (cpu.recordException kind pc far syndrome instruction).takeException =
      some (cpu.recordException kind pc far syndrome instruction).entered := by
  obtain ⟨spEl, hsave⟩ := cpu.saveActiveSp_eq
  have hrecorded : (cpu.recordException kind pc far syndrome instruction).Valid := by
    unfold recordException
    simp only [hsave]
    refine ⟨hvalid.profile, hvalid.reserved, hvalid.cpacr, hvalid.absent, Or.inr hkind,
      targetEl_le hvalid.mode.el_le, ?_, hvalid.mode⟩
    change (if cpu.currentEl < cpu.targetEl then 1#32 else 0#32) ≤ 1#32
    split <;> decide
  rw [takeException_eq, if_neg]
  simp only [not_or]
  refine ⟨by simp [(stateValid_iff _).mpr hrecorded], ?_, BitVec.not_lt.mpr hrecorded.target⟩
  change kind ≠ Exception.none
  rintro rfl
  revert hkind
  decide

structure ExactEntry (cpu taken : VfCpu) (kind : U32) (pc far syndrome : U64) : Prop where
  level : taken.currentEl = if cpu.currentEl = 0#32 then 1#32 else cpu.currentEl
  elr : taken.elrEl (bank taken.currentEl) = pc
  spsr : taken.spsrEl (bank taken.currentEl) = cpu.pstate
  liveSp : taken.spEl (bank (if cpu.currentEl = 0#32 ∨ cpu.pstate &&& 1#64 = 0#64 then 0#32 else cpu.currentEl)) = cpu.sp
  otherSp : ∀ el, el ≠ bank (if cpu.currentEl = 0#32 ∨ cpu.pstate &&& 1#64 = 0#64 then 0#32 else cpu.currentEl) →
    taken.spEl el = cpu.spEl el
  interrupt : asynchronous kind = true → taken.esrEl = cpu.esrEl ∧ taken.farEl = cpu.farEl
  synchronous : asynchronous kind = false →
    taken.esrEl (bank taken.currentEl) = syndrome ∧ taken.farEl (bank taken.currentEl) = far
  otherBanks : ∀ el, el ≠ bank taken.currentEl → taken.elrEl el = cpu.elrEl el ∧ taken.spsrEl el = cpu.spsrEl el ∧
    taken.esrEl el = cpu.esrEl el ∧ taken.farEl el = cpu.farEl el
  vbar : taken.vbarEl = cpu.vbarEl
  vector : taken.pc = (cpu.vbarEl (bank taken.currentEl) &&& ~~~0x7ff#64) +
    ((if cpu.currentEl = 0#32 then 0x400#64 else if cpu.pstate &&& 1#64 ≠ 0#64 then 0x200#64 else 0#64) +
      (if kind = Exception.timerInterrupt ∨ kind = Exception.externalInterrupt then 0x80#64
        else if kind = Exception.fiqInterrupt then 0x100#64 else 0#64))
  pstate : taken.pstate = (cpu.pstate &&& ~~~15#64) ||| modeForEl taken.currentEl ||| 0x3c0#64
  sp : taken.sp = taken.spEl (bank taken.currentEl)
  settled : taken.exceptionPending = Exception.none

lemma targetEl_lower {cpu : VfCpu} : cpu.currentEl < cpu.targetEl ↔ cpu.currentEl = 0#32 := by
  unfold targetEl
  constructor
  · intro h
    by_contra hne
    rw [if_neg hne] at h
    exact (BitVec.lt_irrefl _) h
  · intro h
    rw [if_pos h, h]
    decide

lemma vectorOffset_recorded (cpu : VfCpu) (kind : U32) (pc far : U64) (syndrome instruction : U32) :
    (cpu.recordException kind pc far syndrome instruction).vectorOffset =
      (if cpu.currentEl = 0#32 then 0x400#64 else if cpu.pstate &&& 1#64 ≠ 0#64 then 0x200#64 else 0#64) +
      (if kind = Exception.timerInterrupt ∨ kind = Exception.externalInterrupt then 0x80#64
        else if kind = Exception.fiqInterrupt then 0x100#64 else 0#64) := by
  unfold vectorOffset recordException
  simp only [Function.update_self, targetEl_lower]
  have hlower : ((if cpu.currentEl = 0#32 then 1#32 else 0#32) ≠ 0#32) ↔ cpu.currentEl = 0#32 := by
    split <;> simp_all
  simp only [hlower]
  by_cases hirq : kind = Exception.timerInterrupt ∨ kind = Exception.externalInterrupt
  · rw [if_pos hirq, if_pos hirq]
  · rw [if_neg hirq, if_neg hirq]
    split
    · rfl
    · exact (BitVec.add_zero _).symm

lemma entered_exact {cpu : VfCpu} (h : cpu.currentEl ≤ 3#32) (kind : U32) (pc far : U64)
    (syndrome instruction : U32) :
    ExactEntry cpu (cpu.recordException kind pc far syndrome instruction).entered kind pc far
      (syndrome.zeroExtend 64) := by
  have hoffset := vectorOffset_recorded cpu kind pc far syndrome instruction
  unfold entered
  rw [hoffset]
  unfold recordException clearException
  simp only [saveActiveSp_of_le h]
  refine ⟨rfl, Function.update_self .., Function.update_self .., Function.update_self .., ?_, ?_, ?_, ?_, rfl, rfl, ?_,
    rfl, rfl⟩
  · intro el hel
    exact Function.update_of_ne hel _ _
  · intro hasync
    simp [hasync]
  · intro hsync
    simp [hsync]
  · intro el hel
    refine ⟨Function.update_of_ne hel _ _, Function.update_of_ne hel _ _, ?_, ?_⟩
    · dsimp only
      split
      · rfl
      · exact Function.update_of_ne hel _ _
    · dsimp only
      split
      · rfl
      · exact Function.update_of_ne hel _ _
  · simp only [Function.update_self]

/-- Raising and taking an exception is exact for every valid state, kind and argument; a raise over a pending
exception is refused and leaves the record alone. -/
theorem exception_entry_exact (cpu : VfCpu) (kind : U32) (pc far : U64) (syndrome instruction : U32)
    (hvalid : cpu.stateValid = true) (hkind : validExceptionKind kind = true) :
    (cpu.exceptionPending = Exception.none → ∃ raised taken,
      cpu.raiseException kind pc far syndrome instruction = some raised ∧ raised.takeException = some taken ∧
      ExactEntry cpu taken kind pc far ((if syndrome = 0#32
        then exceptionSyndromeOf kind cpu.currentEl pc instruction else syndrome).zeroExtend 64)) ∧
    (cpu.exceptionPending ≠ Exception.none →
      cpu.raiseException kind pc far syndrome instruction = none ∧
      (Op.raiseException kind pc far syndrome instruction).apply cpu = cpu) := by
  have hv := (stateValid_iff cpu).mp hvalid
  constructor
  · intro hnone
    exact ⟨_, _, raiseException_eq hvalid hnone hkind pc far syndrome instruction,
      takeException_recorded hv hkind _ _ _ _, entered_exact hv.mode.el_le _ _ _ _ _⟩
  · intro hpending
    have hrefused : cpu.raiseException kind pc far syndrome instruction = none :=
      if_pos (Or.inr (Or.inr hpending))
    exact ⟨hrefused, by simp [Op.apply, hrefused]⟩

theorem exception_entry_exact_fiq : ∃ raised taken,
    { reset 1#32 with pstate := 4#64, sp := 0x40#64 }.raiseException Exception.fiqInterrupt 0x80#64 0#64 0#32 0#32 =
      some raised ∧ raised.takeException = some taken ∧ taken.pc = 0x100#64 ∧ taken.spEl 0 = 0x40#64 := by
  obtain ⟨raised, taken, hr, ht, hexact⟩ :=
    (exception_entry_exact { reset 1#32 with pstate := 4#64, sp := 0x40#64 } Exception.fiqInterrupt 0x80#64 0#64
      0#32 0#32 (by decide) (by decide)).1 rfl
  exact ⟨raised, taken, hr, ht, hexact.vector.trans (by rw [hexact.level]; decide), hexact.liveSp⟩

end VfCpu

end Nextcore.Cpu
