import Nextcore.Cpu.Invariant
import Nextcore.Jit.Dispatch
import Nextcore.Jit.Translate

/-! The words of the system space on every path: which of them reach a register. -/

namespace Nextcore.Cpu

def Sysreg.storable : Sysreg → Bool
  | .cntfrqEl0 | .cntpctEl0 | .cntvctEl0 | .currentEl | .idAa64pfr0El1 | .idAa64pfr1El1 | .idAa64pfr2El1
  | .idAa64zfr0El1 | .idAa64isar0El1 | .idAa64isar1El1 | .idAa64isar2El1 | .idAa64isar3El1 | .idAa64mmfr0El1
  | .idAa64mmfr1El1 | .idAa64mmfr2El1 | .fpcr | .fpsr => false
  | _ => true

def Sysreg.readable (r : Sysreg) : Bool := r ≠ .fpcr ∧ r ≠ .fpsr

namespace VfCpu

lemma readSysreg_unreadable {key : U32} (h : ∀ r, Sysreg.ofKey key = some r → r.readable = false) (cpu : VfCpu) :
    ∃ err, cpu.readSysreg key = .error err := by
  unfold readSysreg
  split
  · exact ⟨_, rfl⟩
  cases hr : Sysreg.ofKey key with
  | none => exact ⟨_, rfl⟩
  | some r =>
    have hunreadable : r = .fpcr ∨ r = .fpsr := by
      have hr := h r hr
      simp only [Sysreg.readable, decide_eq_false_iff_not] at hr
      tauto
    simp only [if_pos hunreadable]
    exact ⟨_, rfl⟩

lemma writeSysreg_unstorable {key : U32} (h : ∀ r, Sysreg.ofKey key = some r → r.storable = false) (cpu : VfCpu)
    (value : U64) : (cpu.writeSysreg key value).1 ≠ .ok := by
  rcases cpu.writeSysreg_cases key value with hcase | ⟨-, -, -, -, hr, -⟩ | ⟨-, hr, -⟩ | ⟨r, -, hr, hlevel, hstore, -⟩
  · exact hcase.1
  · cases h _ hr
  · cases h _ hr
  · have hunstorable := h r hr
    -- the remaining registers are read only or have no level of their own
    cases r <;> first
      | exact absurd hunstorable (by decide)
      | exact absurd hstore (by simp [storeSysreg])

def accessing (r : Sysreg) : VfCpu :=
  { reset (if r.minEl = some 0#32 then 1#32 else r.minEl.getD 1#32) with
    fpExecutionProfile := 1#32, platformProfile := 1#32 }

lemma accessing_read {r : Sysreg} (h : r.readable = true) :
    ((accessing r).readSysreg r.key).isOk = true := by
  cases r <;> first | decide | exact absurd h (by decide)

lemma accessing_write {r : Sysreg} (h : r.storable = true) :
    ((accessing r).writeSysreg r.key 0#64).1 = .ok := by
  cases r <;> first | decide | exact absurd h (by decide)

lemma readSysreg_instruction (cpu : VfCpu) (w key : U32) :
    { cpu with instruction := w }.readSysreg key = cpu.readSysreg key := rfl

lemma storeSysreg_instruction (cpu : VfCpu) (w : U32) (r : Sysreg) (value : U64) :
    ({ cpu with instruction := w }.storeSysreg r value).1 = (cpu.storeSysreg r value).1 := by
  cases r <;> first | rfl | (simp only [storeSysreg]; split <;> rfl)

lemma writeSysreg_instruction (cpu : VfCpu) (w key : U32) (value : U64) :
    ({ cpu with instruction := w }.writeSysreg key value).1 = (cpu.writeSysreg key value).1 := by
  have hvalid : { cpu with instruction := w }.stateValid = cpu.stateValid := rfl
  have hplain : { cpu with instruction := w }.plainEl1 = cpu.plainEl1 := rfl
  have hlevel : ∀ r, { cpu with instruction := w }.levelCheck r = cpu.levelCheck r := fun _ => rfl
  have hstore := storeSysreg_instruction cpu w
  unfold writeSysreg
  simp only [hvalid, hplain, hlevel, configurePlatform]
  cases cpu.stateValid with
  | false => rfl
  | true =>
    cases Sysreg.ofKey key with
    | none => rfl
    | some r =>
      simp only [reduceCtorEq, if_false, apply_ite Prod.fst]
      cases cpu.levelCheck r with
      | some err => rfl
      | none =>
        specialize hstore r value
        cases hl : { cpu with instruction := w }.storeSysreg r value with
        | mk out next =>
          cases hr : cpu.storeSysreg r value with
          | mk out' next' =>
            rw [hl, hr] at hstore
            obtain rfl : out = out' := hstore
            cases out <;> rfl

end VfCpu

end Nextcore.Cpu

namespace Nextcore.Jit

open Cpu Emit Preos.Pauth

lemma mask_clash {w a b m k : U32} (ha : w &&& m = a) (hb : w &&& k = b) (h : a &&& k ≠ b &&& m) : False := by
  apply h
  rw [← ha, ← hb, BitVec.and_assoc, BitVec.and_assoc, BitVec.and_comm m k]

def boundaryStatus (w currentEl : U32) : U32 :=
  let boundary := if knownPrivileged w currentEl then Status.privilegeFault else systemBoundary w currentEl
  if boundary ≠ Status.next then boundary else Status.undefinedInstruction

lemma system_ne {w : U32} (hw : w &&& 0xffc00000#32 = 0xd5000000#32) {k b : U32}
    (h : 0xd5000000#32 &&& k ≠ b &&& 0xffc00000#32) : ¬w &&& k = b := fun hb => mask_clash hw hb h

lemma system_memoryFamily {w : U32} (hw : w &&& 0xffc00000#32 = 0xd5000000#32) : memoryFamily w = false := by
  simp only [memoryFamily, pairFamily, scalarFamily, unsignedOffsetFamily, registerOffsetFamily,
    unscaledOffsetFamily, scalarWritebackFamily,
    system_ne hw (show 0xd5000000#32 &&& 0x3a000000#32 ≠ 0x28000000#32 &&& _ by decide),
    system_ne hw (show 0xd5000000#32 &&& 0x3b000000#32 ≠ 0x39000000#32 &&& _ by decide),
    system_ne hw (show 0xd5000000#32 &&& 0x3b200c00#32 ≠ 0x38200800#32 &&& _ by decide),
    system_ne hw (show 0xd5000000#32 &&& 0x3b200c00#32 ≠ 0x38000000#32 &&& _ by decide),
    system_ne hw (show 0xd5000000#32 &&& 0x3b200400#32 ≠ 0x38000400#32 &&& _ by decide), decide_false, Bool.or_false]

lemma system_moveWide {w : U32} (hw : w &&& 0xffc00000#32 = 0xd5000000#32) :
    ¬(w &&& 0x7f800000#32 = 0x52800000#32 ∨ w &&& 0x7f800000#32 = 0x72800000#32 ∨
      w &&& 0x7f800000#32 = 0x12800000#32) := by
  rintro (h | h | h)
  · exact system_ne hw (by decide) h
  · exact system_ne hw (by decide) h
  · exact system_ne hw (by decide) h

lemma system_branchRegister {w : U32} (hw : w &&& 0xffc00000#32 = 0xd5000000#32) :
    ¬(w &&& 0xfffffc1f#32 = 0xd61f0000#32 ∨ w &&& 0xfffffc1f#32 = 0xd63f0000#32 ∨
      w &&& 0xfffffc1f#32 = 0xd65f0000#32) := by
  rintro (h | h | h)
  · exact system_ne hw (by decide) h
  · exact system_ne hw (by decide) h
  · exact system_ne hw (by decide) h

lemma system_halt {w : U32} (hw : w &&& 0xffc00000#32 = 0xd5000000#32) : ¬w = 0xd4400000#32 := by
  rintro rfl
  revert hw
  decide

lemma translateOne_system {w : U32} (hw : w &&& 0xffc00000#32 = 0xd5000000#32) (t : Target) (provider : Bool)
    (pc : U64) (n : U32) :
    translateOne t provider w pc n =
      if isMrsMsr w = true ∧ sysregKey w = Key.cpacrEl1 ∧ t.currentEl = 0#32 then undefined w pc n
      else if isMrsMsr w = true ∧ (sysregKey w = Key.fpcr ∨ sysregKey w = Key.fpsr) then undefined w pc n
      else if isIdRead w then idRead w pc n
      else if isMrsMsr w = true ∧ threadOffset (sysregKey w) ≠ 0#32 then straight w pc n (threadRegister t w)
      else if w = 0xd503201f#32 then pure true
      else ends (stop w pc n (boundaryStatus w t.currentEl)) := by
  have not : ∀ {k b : U32}, 0xd5000000#32 &&& k ≠ b &&& 0xffc00000#32 → ¬w &&& k = b := system_ne hw
  have hmemory := system_memoryFamily hw
  unfold translateOne
  rw [if_neg (show ¬(provider = true ∧ memoryFamily w = true) by simp [hmemory]), if_neg (not (by decide)),
    if_neg (not (by decide)), if_neg (not (by decide)), if_neg (not (by decide)), if_neg (not (by decide)),
    if_neg (not (by decide)), if_neg (not (by decide)), if_neg (system_moveWide hw), if_neg (not (by decide)),
    if_neg (not (by decide)), if_neg (not (by decide)), if_neg (not (by decide)), if_neg (not (by decide)),
    if_neg (show ¬memoryFamily w = true by simp [hmemory]), if_neg (not (by decide)), if_neg (not (by decide)),
    if_neg (not (by decide)), if_neg (not (by decide)), if_neg (system_branchRegister hw), if_neg (system_halt hw)]
  rfl

def pauthKeyWords : List U32 :=
  [0x4108#32, 0x4109#32, 0x410a#32, 0x410b#32, 0x4110#32, 0x4111#32, 0x4112#32, 0x4113#32, 0x4118#32, 0x4119#32]

def registerKeys (w : U32) : List U32 :=
  (Sysreg.all.filter (if isRead w then Sysreg.readable else Sysreg.storable)).map Sysreg.key ++ pauthKeyWords

structure RegisterFree (w : U32) : Prop where
  translator : ∀ t provider pc n, translateOne t provider w pc n = pure true ∨
    ∃ status, translateOne t provider w pc n = ends (stop w pc n status)
  slow : ∀ cpu : VfCpu, cpu.instruction = w → systemRegisterSlowStep cpu = none ∧
    systemRegisterReadSlowStep cpu = none ∧ platformOverrideWriteSlowStep cpu = none ∧
    fpAccessControlWriteSlowStep cpu = none ∧ memoryControlRead cpu = none
  dynamic : ∀ selector, dynamicOperation w ≠ some (Abi.Dynamic.write, selector)
  pauth : isRegisterAccess w = true → ∀ c c', registerStep c w ≠ .ok c'

lemma mem_registerKeys {w : U32} {r : Sysreg}
    (h : (if isRead w then Sysreg.readable else Sysreg.storable) r = true) : r.key ∈ registerKeys w := by
  have hall : r ∈ Sysreg.all := by
    cases r <;> decide
  exact List.mem_append_left _ (List.mem_map_of_mem (List.mem_filter.mpr ⟨hall, h⟩))

lemma mem_pauthKeyWords {k : U32} (h : (keySlot k).isSome = true) : k ∈ pauthKeyWords := by
  simp only [pauthKeyWords, List.mem_cons, List.not_mem_nil, or_false]
  unfold keySlot at h
  split at h
  · bv_omega
  split at h
  · bv_omega
  split at h
  · bv_omega
  · cases h

lemma keySlot_of_mem {k : U32} (h : k ∈ pauthKeyWords) : ∃ slot, keySlot k = some slot := by
  simp only [pauthKeyWords, List.mem_cons, List.not_mem_nil, or_false] at h
  rcases h with rfl | rfl | rfl | rfl | rfl | rfl | rfl | rfl | rfl | rfl <;> exact ⟨_, rfl⟩

lemma isMrsMsr_of_system {w : U32} (hw : w &&& 0xffc00000#32 = 0xd5000000#32) :
    isMrsMsr w = true ∧ isMrs w = isRead w ∧ isMsr w = !isRead w := by
  have hsplit : w &&& 0xffe00000#32 = 0xd5000000#32 ||| (w &&& 0x00200000#32) := by
    rw [← hw, ← BitVec.and_or_distrib_left]
    rfl
  have hbit : w &&& 0x00200000#32 = if w.getLsbD 21 then 0x00200000#32 else 0#32 := BitVec.and_twoPow w 21
  simp only [isMrsMsr, isMrs, isMsr, isRead, hsplit, hbit]
  cases w.getLsbD 21 <;> decide

lemma not_registerFree_of_mem {w : U32} (hw : w &&& 0xffc00000#32 = 0xd5000000#32)
    (hmem : sysregKey w ∈ registerKeys w) : ¬RegisterFree w := by
  intro hfree
  obtain ⟨hmrs, hread, -⟩ := isMrsMsr_of_system hw
  rcases List.mem_append.mp hmem with h | h
  · obtain ⟨r, hr, hkey⟩ := List.mem_map.mp h
    have hdirection := (List.mem_filter.mp hr).2
    have hslow := (hfree.slow { VfCpu.accessing r with instruction := w } rfl).1
    cases hbit : isRead w with
    | true =>
      have hok := VfCpu.accessing_read (r := r) (by simpa [hbit] using hdirection)
      simp only [systemRegisterSlowStep, hmrs, hbit, Bool.true_eq_false, if_false, if_true, ← hkey,
        VfCpu.readSysreg_instruction] at hslow
      split at hslow
      next err herr =>
        rw [herr] at hok
        cases hok
      next => cases hslow
    | false =>
      have hok := VfCpu.accessing_write (r := r) (by simpa [hbit] using hdirection)
      have hsource : sourceOf { VfCpu.accessing r with instruction := w } w = 0#64 := ite_self _
      simp only [systemRegisterSlowStep, hmrs, hbit, Bool.true_eq_false, Bool.false_eq_true, if_false, ← hkey,
        hsource] at hslow
      split at hslow
      next => cases hslow
      next hrefused =>
        have hfirst := VfCpu.writeSysreg_instruction (VfCpu.accessing r) w r.key 0#64
        rw [hok] at hfirst
        exact hrefused _ (Prod.ext hfirst rfl)
  · obtain ⟨⟨index, high⟩, hslot⟩ := keySlot_of_mem h
    have hslot' : keySlot (syskeyOf w) = some (index, high) := hslot
    have haccess : isRegisterAccess w = true := by
      obtain ⟨-, h1, h2⟩ := isMrsMsr_of_system hw
      simp [isRegisterAccess, hslot', h1, h2]
    let c : PauthContext := ⟨fun _ => 0#64, 0#64, 0#64, 0#64, 0#64, fun _ => ⟨0#64, 0#64⟩, 1#32, 0#32⟩
    have hstep : ∃ c', registerStep c w = .ok c' := by
      unfold registerStep
      simp only [hslot']
      cases isMrs w <;> exact ⟨_, rfl⟩
    obtain ⟨c', hc⟩ := hstep
    exact hfree.pauth haccess c c' hc

lemma registerFree_of_not_mem {w : U32} (hw : w &&& 0xffc00000#32 = 0xd5000000#32)
    (hbit : w &&& 0x00100000#32 = 0#32) (hmem : sysregKey w ∉ registerKeys w) : RegisterFree w := by
  obtain ⟨hmrs, hreads, hwrites⟩ := isMrsMsr_of_system hw
  -- no register with this key is accessed in this direction
  have hdirection : ∀ r, Sysreg.ofKey (sysregKey w) = some r →
      (if isRead w then Sysreg.readable else Sysreg.storable) r = false := by
    intro r hr
    rw [Bool.eq_false_iff]
    intro h
    exact hmem (Sysreg.key_of_ofKey hr ▸ mem_registerKeys h)
  have hkey : ∀ r : Sysreg, r.readable = true → r.storable = true → sysregKey w ≠ r.key := by
    intro r hread hstore heq
    apply hmem
    rw [heq]
    apply mem_registerKeys
    split
    · exact hread
    · exact hstore
  have hid : isIdRead w = false := by
    have hids : ∀ e ∈ [0xd5380400#32, 0xd5380420#32, 0xd5380440#32, 0xd5380480#32, 0xd5380600#32, 0xd5380640#32,
        0xd5380660#32, 0xd5380700#32, 0xd5380720#32, 0xd5380740#32], e &&& 0x00100000#32 ≠ 0#32 := by
      simp only [List.mem_cons, List.not_mem_nil, or_false]
      rintro e (rfl | rfl | rfl | rfl | rfl | rfl | rfl | rfl | rfl | rfl) <;> decide
    rw [isIdRead, decide_eq_false_iff_not]
    intro h
    apply hids _ h
    rw [BitVec.and_assoc]
    exact hbit
  have hslow : ∀ cpu : VfCpu, cpu.instruction = w → systemRegisterSlowStep cpu = none := by
    rintro cpu rfl
    cases hbit : isRead cpu.instruction with
    | true =>
      obtain ⟨err, herr⟩ := cpu.readSysreg_unreadable fun r hr => by simpa [hbit] using hdirection r hr
      simp [systemRegisterSlowStep, hbit, herr]
    | false =>
      have hrefused := cpu.writeSysreg_unstorable (fun r hr => by simpa [hbit] using hdirection r hr)
        (sourceOf cpu cpu.instruction)
      simp only [systemRegisterSlowStep, hmrs, hbit, Bool.true_eq_false, Bool.false_eq_true, if_false]
      split
      next h => exact absurd (by rw [h]) hrefused
      next => rfl
  refine ⟨?_, ?_, ?_, ?_⟩
  · intro t provider pc n
    have hthread : threadOffset (sysregKey w) = 0#32 := by
      unfold threadOffset
      rw [if_neg (show ¬sysregKey w = Key.tpidrEl0 from hkey .tpidrEl0 rfl rfl),
        if_neg (show ¬sysregKey w = Key.tpidrroEl0 from hkey .tpidrroEl0 rfl rfl),
        if_neg (show ¬sysregKey w = Key.tpidrEl1 from hkey .tpidrEl1 rfl rfl)]
    rw [translateOne_system hw, if_neg (show ¬isIdRead w = true by simp [hid]),
      if_neg (show ¬(isMrsMsr w = true ∧ threadOffset (sysregKey w) ≠ 0#32) by simp [hthread])]
    split
    · exact .inr ⟨_, rfl⟩
    split
    · exact .inr ⟨_, rfl⟩
    split
    · exact .inl rfl
    · exact .inr ⟨_, rfl⟩
  · intro cpu hw
    have h := hslow cpu hw
    refine ⟨h, ?_, ?_, ?_, ?_⟩
    · simp [systemRegisterReadSlowStep, h]
    · simp [platformOverrideWriteSlowStep, writeOnlySlowStep, h]
    · simp [fpAccessControlWriteSlowStep, writeOnlySlowStep, h]
    · subst hw
      have hcontrol : sysregKey cpu.instruction ∉ [Sysreg.sctlrEl1.key, Sysreg.ttbr0El1.key, Sysreg.ttbr1El1.key,
          Sysreg.tcrEl1.key, Sysreg.mairEl1.key] := by
        simp only [List.mem_cons, List.not_mem_nil, or_false, not_or]
        exact ⟨hkey _ rfl rfl, hkey _ rfl rfl, hkey _ rfl rfl, hkey _ rfl rfl, hkey _ rfl rfl⟩
      simp only [memoryControlRead, if_pos hcontrol, ite_self]
  · intro selector h
    have hselector : selectorOf (sysregKey w) = none := by
      unfold selectorOf
      rw [if_neg (hkey _ rfl rfl), if_neg (hkey _ rfl rfl), if_neg (hkey _ rfl rfl), if_neg (hkey _ rfl rfl),
        if_neg (hkey _ rfl rfl)]
    simp only [dynamicOperation, hselector, Option.map_none, ite_self] at h
    split at h
    · cases h
    split at h
    · cases h
    split at h
    · cases h
    · cases h
  · intro haccess c c' h
    have hslot : keySlot (syskeyOf w) = none := by
      cases hslot : keySlot (syskeyOf w) with
      | none => rfl
      | some slot =>
        have hwords : sysregKey w ∈ pauthKeyWords := mem_pauthKeyWords (Option.isSome_iff_exists.mpr ⟨_, hslot⟩)
        exact absurd (List.mem_append_right _ hwords) hmem
    have hsctlr : ¬syskeyOf w = 0x4080#32 := hkey .sctlrEl1 rfl rfl
    have htcr : ¬syskeyOf w = 0x4102#32 := hkey .tcrEl1 rfl rfl
    simp only [isRegisterAccess, hslot, Option.isSome_none, hsctlr, htcr, decide_false, Bool.false_or,
      Bool.and_eq_true, decide_eq_true_eq] at haccess
    -- the one key left is ID_AA64ISAR1, which may not be written
    have hisar : sysregKey w = Sysreg.idAa64isar1El1.key := haccess.2
    have hwrite : isMrs w = false := by
      rw [hreads, Bool.eq_false_iff]
      intro hread
      apply hmem
      rw [hisar]
      apply mem_registerKeys
      rw [if_pos hread]
      rfl
    simp only [registerStep, hwrite, haccess.2, Bool.false_eq_true, if_false, if_true] at h
    split at h
    · cases h
    · cases h

/-- A system word with bit 20 clear stays away from every register exactly when its key is none's. -/
theorem register_free_iff (w : U32) (hspace : w &&& 0xffc00000#32 = 0xd5000000#32)
    (hbit : w &&& 0x00100000#32 = 0#32) : RegisterFree w ↔ sysregKey w ∉ registerKeys w :=
  ⟨fun hfree hmem => not_registerFree_of_mem hspace hmem hfree, registerFree_of_not_mem hspace hbit⟩

-- TLBI VMALLE1
theorem register_free_tlbi : RegisterFree 0xd508871f#32 :=
  (register_free_iff 0xd508871f#32 (by decide) (by decide)).mpr (by decide)

/-- SYS #0, C12, C0, #0, X0 has the key of VBAR_EL1: it stops as a trap, and the slow step writes the register. -/
theorem sys_word_writes_vbar : 0xd508c000#32 &&& 0xffc00000#32 = 0xd5000000#32 ∧
    0xd508c000#32 &&& 0x00100000#32 = 0#32 ∧
    translateOne (.ofCpu (VfCpu.reset 1#32)) false 0xd508c000#32 0x1000#64 0#32 =
      ends (stop 0xd508c000#32 0x1000#64 0#32 Status.systemRegisterTrap) ∧
    (systemRegisterSlowStep { (VfCpu.reset 1#32).setX 0#32 0x800#64 with instruction := 0xd508c000#32 }).map
      (fun cpu => (cpu.vbarEl 1, cpu.retired)) = some (0x800#64, 1#64) ∧
    ¬RegisterFree 0xd508c000#32 := by
  refine ⟨by decide, by decide, ?_, by decide, ?_⟩
  · rw [translateOne_system (by decide)]
    rfl
  · exact not_registerFree_of_mem (by decide) (by decide)

end Nextcore.Jit
