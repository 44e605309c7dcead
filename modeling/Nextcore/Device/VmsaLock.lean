import Nextcore.Device.Gxf

/-! The VMSA lock over runs. A lock bit is never cleared by a guest write, and outside
the guarded mode no write at EL1 changes what it protects. The lock is one on EL1: a
write at EL0 passes it by the guard of `gxf_vmsa_locked`. -/

namespace Nextcore.Device

inductive VmsaLock
  | vbar | sctlr | tcr | ttbr0 | ttbr1 | sctlrM
  deriving DecidableEq, Repr

namespace VmsaLock

open Gxf

variable {κ : Type}

def bit : VmsaLock → U64
  | vbar => vmsaLockVbarEl1
  | sctlr => vmsaLockSctlrEl1
  | tcr => vmsaLockTcrEl1
  | ttbr0 => vmsaLockTtbr0El1
  | ttbr1 => vmsaLockTtbr1El1
  | sctlrM => vmsaLockSctlrMBit

def reg : VmsaLock → GxfReg
  | vbar => .vbarEl1
  | sctlr | sctlrM => .sctlrEl1
  | tcr => .tcrEl1
  | ttbr0 => .ttbr0El1
  | ttbr1 => .ttbr1El1

def view (g : VfAppleGxf κ) : VmsaLock → U64
  | vbar => g.el1.vbar
  | sctlr => g.sctlrEl1
  | tcr => g.tcrEl1
  | ttbr0 => g.ttbr0El1
  | ttbr1 => g.ttbr1El1
  | sctlrM => g.sctlrEl1 &&& Gxf.sctlrM

def stored (value : U64) : VmsaLock → U64
  | vbar => value &&& ~~~0x1f#64
  | sctlrM => value &&& Gxf.sctlrM
  | _ => value

def Set (lock : VmsaLock) (g : VfAppleGxf κ) : Prop := g.vmsaLockEl1 &&& lock.bit ≠ 0#64

end VmsaLock

namespace VfAppleGxf

open Gxf

variable {κ : Type}

def KeepsLock : GxfOp κ → Prop
  | .setVmsaLockEl1 _ => False
  | _ => True

def LockedWrite (els : ℕ → Prop) (x : GxfEntry κ) : Prop :=
  x.before.guarded = false ∧ ∃ reg value el, x.event = .writeEl reg value el ∧ els el

/-- Once a bit is set it stays set, and no write at one of the levels `els` changes what it protects. -/
def LockEnforced (els : ℕ → Prop) (g : VfAppleGxf κ) (ops : List (GxfOp κ)) : Prop :=
  ∀ done rest, ops = done ++ rest → ∀ lock : VmsaLock, lock.Set (Run.final step g done) →
    ∀ x ∈ Run.log step (Run.final step g done) rest,
      lock.Set x.before ∧ lock.Set x.after ∧ (LockedWrite els x → lock.view x.after = lock.view x.before)

/-- The step is not an unguarded EL0 write that changes what a set bit protects. -/
def El0Leaves (g : VfAppleGxf κ) (op : GxfOp κ) : Prop :=
  ∀ (lock : VmsaLock) value, op = .writeEl lock.reg.code value 0 → g.guarded = false → lock.Set g →
    lock.stored value = lock.view g

lemma writeEl_el0 {g : VfAppleGxf κ} (hg : g.guarded = false) (lock : VmsaLock) (value : U64) :
    lock.view (step g (.writeEl lock.reg.code value 0)).2 = lock.stored value := by
  have hunlocked : ∀ guarded bit, g.vmsaLocked guarded 0 bit = false := by
    intro guarded bit
    rw [vmsaLocked, if_pos (Or.inr (by decide))]
  have hopen : ∀ reg, g.tvmTrvmBlocks reg false 0 = false := fun _ => rfl
  rw [step, writeEl, GxfReg.decode_code, Option.bind_some]
  cases lock <;>
    simp [VmsaLock.reg, guardedOnly, el1AliasWrite, hunlocked, hopen, hg, VmsaLock.view, VmsaLock.stored]

lemma wrote_step (g : VfAppleGxf κ) (reg : U32) (value : U64) (el : ℕ) :
    (step g (.writeEl reg value el)).2 = g ∨
      ∃ r, reg = r.code ∧ Wrote g r value el (step g (.writeEl reg value el)).2 := by
  rw [step]
  cases h : g.writeEl reg value el with
  | none => exact Or.inl rfl
  | some p =>
    obtain ⟨g', call⟩ := p
    exact Or.inr (wrote_of_writeEl h)

lemma lock_answerPc {g : VfAppleGxf κ} {r : Option (VfAppleGxf κ × U64)}
    (h : ∀ g' pc, r = some (g', pc) → g'.vmsaLockEl1 = g.vmsaLockEl1) :
    (g.answerPc r).2.vmsaLockEl1 = g.vmsaLockEl1 := by
  cases hr : r with
  | none => rfl
  | some p => exact h p.1 p.2 hr

lemma lock_genter {g g' : VfAppleGxf κ} {returnPc spsr pc : U64} (h : g.genter returnPc spsr = some (g', pc)) :
    g'.vmsaLockEl1 = g.vmsaLockEl1 := by
  rw [genter] at h
  split_ifs at h
  exact (Prod.mk.inj (Option.some.inj h)).1 ▸ rfl

lemma lock_gexit {g g' : VfAppleGxf κ} {pc : U64} (h : g.gexit = some (g', pc)) :
    g'.vmsaLockEl1 = g.vmsaLockEl1 := by
  rw [gexit] at h
  split at h
  · obtain ⟨rfl, -⟩ := Prod.mk.inj (Option.some.inj h)
    split <;> rfl
  · exact absurd h (by simp)

lemma set_step {g : VfAppleGxf κ} {op : GxfOp κ} (hop : KeepsLock op) {lock : VmsaLock} (h : lock.Set g) :
    lock.Set (step g op).2 := by
  cases op with
  | writeEl reg value el =>
    rcases wrote_step g reg value el with he | ⟨r, -, hw⟩
    · rw [he]
      exact h
    · rw [VmsaLock.Set, hw.lock]
      split
      · intro hz
        rw [BitVec.and_comm, BitVec.and_or_distrib_left, BitVec.or_eq_zero_iff, BitVec.and_comm] at hz
        exact h hz.1
      · exact h
  | genter returnPc spsr =>
    rw [VmsaLock.Set, step, lock_answerPc fun _ _ => lock_genter]
    exact h
  | abort returnPc spsr esr far =>
    rw [VmsaLock.Set, step, lock_answerPc fun g' pc hr => ?_]
    · exact h
    · rw [abort] at hr
      split at hr
      · exact absurd hr (by simp)
      obtain ⟨rfl, -⟩ := Prod.mk.inj (Option.some.inj hr)
      split <;> rfl
  | takeException kind table returnPc spsr esr far =>
    rw [VmsaLock.Set, step, lock_answerPc fun g' pc hr => ?_]
    · exact h
    · rw [takeException] at hr
      split at hr
      · exact absurd hr (by simp)
      simp only at hr
      split at hr
      · split at hr
        · exact absurd hr (by simp)
        · exact (Prod.mk.inj (Option.some.inj hr)).1 ▸ rfl
      · split at hr
        · exact absurd hr (by simp)
        · exact (Prod.mk.inj (Option.some.inj hr)).1 ▸ rfl
  | gexit =>
    rw [VmsaLock.Set, step, lock_answerPc fun _ _ => lock_gexit]
    exact h
  | tcgExec insn el returnPc spsr =>
    rw [VmsaLock.Set, step, lock_answerPc fun g' pc hr => ?_]
    · exact h
    · rw [tcgExec] at hr
      split at hr
      · exact absurd hr (by simp)
      split at hr
      · exact lock_genter hr
      · exact lock_gexit hr
      · exact absurd hr (by simp)
  | setVmsaLockEl1 => exact absurd hop id
  | setGuarded | read | isGuarded | setHcrEl2 | getHcrEl2 | getVmsaLockEl1 | setSprrTlbFlush | sprrPermGeneration
  | sprrTlbFlushCount => exact h

lemma view_other {g g' : VfAppleGxf κ} {r : GxfReg} {value : U64} {el : ℕ} (hw : Wrote g r value el g')
    {lock : VmsaLock} (hr : r ≠ lock.reg) : lock.view g' = lock.view g := by
  cases lock with
  | vbar => exact hw.vbar.trans (if_neg fun h => hr h.1)
  | sctlr => exact hw.sctlr.trans (if_neg fun h => hr h.1)
  | tcr => exact hw.tcr.trans (if_neg fun h => hr h.1)
  | ttbr0 => exact hw.ttbr0.trans (if_neg fun h => hr h.1)
  | ttbr1 => exact hw.ttbr1.trans (if_neg fun h => hr h.1)
  | sctlrM => rw [VmsaLock.view, hw.sctlr, if_neg (fun h => hr h.1)]; rfl

lemma keep_m_bit (value old : U64) : ((value &&& ~~~sctlrM) ||| (old &&& sctlrM)) &&& sctlrM = old &&& sctlrM := by
  rw [BitVec.and_comm, BitVec.and_or_distrib_left, BitVec.and_comm, BitVec.and_assoc,
    BitVec.and_comm sctlrM (old &&& sctlrM), BitVec.and_assoc, BitVec.and_self]
  simp

lemma view_el1 {g : VfAppleGxf κ} (hg : g.guarded = false) {lock : VmsaLock} (hset : lock.Set g) (reg : U32)
    (value : U64) : lock.view (step g (.writeEl reg value 1)).2 = lock.view g := by
  have hlocked : g.vmsaLocked g.guarded 1 lock.bit = true := by
    rw [vmsaLocked, hg, if_neg (by simp)]
    exact decide_eq_true hset
  rcases wrote_step g reg value 1 with he | ⟨r, -, hw⟩
  · rw [he]
  · have hclosed : ∀ {p : Prop}, ¬(p ∧ g.vmsaLocked g.guarded 1 lock.bit = false) :=
      fun h => by rw [hlocked] at h; exact Bool.noConfusion h.2
    cases lock with
    | vbar => exact hw.vbar.trans (if_neg fun h => hclosed ⟨h.1, h.2.2⟩)
    | sctlr => exact hw.sctlr.trans (if_neg fun h => hclosed h)
    | tcr => exact hw.tcr.trans (if_neg fun h => hclosed h)
    | ttbr0 => exact hw.ttbr0.trans (if_neg fun h => hclosed h)
    | ttbr1 => exact hw.ttbr1.trans (if_neg fun h => hclosed h)
    | sctlrM =>
      have hm : g.vmsaLocked g.guarded 1 vmsaLockSctlrMBit = true := hlocked
      rw [VmsaLock.view, hw.sctlr, if_pos hm]
      split
      · rw [keep_m_bit]
        rfl
      · rfl

lemma view_el0 {g : VfAppleGxf κ} {reg : U32} {value : U64} (hleaves : El0Leaves g (.writeEl reg value 0))
    (hg : g.guarded = false) {lock : VmsaLock} (hset : lock.Set g) :
    lock.view (step g (.writeEl reg value 0)).2 = lock.view g := by
  rcases wrote_step g reg value 0 with he | ⟨r, rfl, hw⟩
  · rw [he]
  · by_cases hr : r = lock.reg
    · subst hr
      rw [writeEl_el0 hg]
      exact hleaves lock value rfl hg hset
    · exact view_other hw hr

lemma lockEnforced_of_writes {els : ℕ → Prop} {g : VfAppleGxf κ} {ops : List (GxfOp κ)}
    (hops : ∀ op ∈ ops, KeepsLock op)
    (hwrites : ∀ x ∈ Run.log step g ops, ∀ (lock : VmsaLock) reg value el, x.event = .writeEl reg value el → els el →
      x.before.guarded = false → lock.Set x.before →
      lock.view (step x.before (.writeEl reg value el)).2 = lock.view x.before) : LockEnforced els g ops := by
  intro done rest hsplit lock hset x hx
  subst hsplit
  have hin : x ∈ Run.log step g (done ++ rest) := by
    rw [Run.log_append]
    exact List.mem_append_right _ hx
  obtain ⟨mid, op, post, rfl, rfl⟩ := Run.exists_of_mem_log hx
  have hkeep : ∀ op ∈ mid, KeepsLock op := fun op hop => hops op (by simp [hop])
  have hop : KeepsLock op := hops op (by simp)
  have hbefore : lock.Set (Run.final step (Run.final step g done) mid) :=
    Run.final_invariant (C := KeepsLock) (fun _ _ hs hc => set_step hc hs) mid hkeep hset
  refine ⟨hbefore, set_step hop hbefore, ?_⟩
  rintro ⟨hg, reg, value, el, hwrite, hel⟩
  have hview := hwrites _ hin lock reg value el hwrite hel hg hbefore
  rw [← hwrite] at hview
  exact hview

/-- Over a run of guest operations a set bit stays set, and no write at EL1 outside the guarded mode changes what it
protects. The same of EL0 exactly when no unguarded EL0 write of the run changes it. -/
theorem vmsa_lock_enforced (g : VfAppleGxf κ) (ops : List (GxfOp κ)) (hops : ∀ op ∈ ops, KeepsLock op) :
    LockEnforced (· = 1) g ops ∧
      (LockEnforced (· ≤ 1) g ops ↔ ∀ x ∈ Run.log step g ops, El0Leaves x.before x.event) := by
  refine ⟨lockEnforced_of_writes hops ?_, ?_, fun hleaves => lockEnforced_of_writes hops ?_⟩
  · rintro x - lock reg value el - rfl hg hset
    exact view_el1 hg hset reg value
  · intro henf x hx lock value hop hg hset
    obtain ⟨done, op, rest, rfl, rfl⟩ := Run.exists_of_mem_log hx
    simp only [Run.entry] at hop hg hset
    subst hop
    have hstep := (henf done _ rfl lock hset _ List.mem_cons_self).2.2 ⟨hg, _, value, 0, rfl, by decide⟩
    exact (writeEl_el0 hg lock value).symm.trans hstep
  · intro x hx lock reg value el hwrite hel hg hset
    have hx' := hleaves x hx
    rw [hwrite] at hx'
    rcases Nat.le_one_iff_eq_zero_or_eq_one.mp hel with rfl | rfl
    · exact view_el0 hx' hg hset
    · exact view_el1 hg hset reg value

def vbarLocked : VfAppleGxf Unit := (step init (.writeEl GxfReg.vmsaLockEl1.code 1#64 1)).2

def vbarWritten : VfAppleGxf Unit := (step vbarLocked (.writeEl GxfReg.vbarEl1.code 0x1000#64 1)).2

-- VBAR is locked and written, and the lock is written with zero, all at EL1
theorem vmsa_lock_enforced_el1 :
    VmsaLock.vbar.Set vbarLocked ∧ vbarWritten.el1.vbar = vbarLocked.el1.vbar ∧
      VmsaLock.vbar.Set (step vbarWritten (.writeEl GxfReg.vmsaLockEl1.code 0#64 1)).2 := by
  have hset : VmsaLock.vbar.Set vbarLocked := by
    rw [VmsaLock.Set]
    decide +kernel
  have henforced := (vmsa_lock_enforced (init : VfAppleGxf Unit) [.writeEl GxfReg.vmsaLockEl1.code 1#64 1,
      .writeEl GxfReg.vbarEl1.code 0x1000#64 1, .writeEl GxfReg.vmsaLockEl1.code 0#64 1] (by
    intro op hop
    simp only [List.mem_cons, List.not_mem_nil, or_false] at hop
    rcases hop with rfl | rfl | rfl <;> exact trivial)).1 [.writeEl GxfReg.vmsaLockEl1.code 1#64 1]
    [.writeEl GxfReg.vbarEl1.code 0x1000#64 1, .writeEl GxfReg.vmsaLockEl1.code 0#64 1] rfl .vbar hset
  obtain ⟨-, -, hview⟩ := henforced _ List.mem_cons_self
  obtain ⟨-, hcleared, -⟩ := henforced _ (List.mem_cons_of_mem _ List.mem_cons_self)
  exact ⟨hset, hview ⟨by decide +kernel, _, _, 1, rfl, rfl⟩, hcleared⟩

/-- The same write at EL0 changes the locked VBAR. -/
theorem vmsa_lock_passed_at_el0 :
    ¬∀ writes : List (U32 × U64 × ℕ), LockEnforced (· ≤ 1) (init : VfAppleGxf Unit)
      (writes.map fun w => .writeEl w.1 w.2.1 w.2.2) := by
  intro h
  have hset : VmsaLock.vbar.Set (Run.final step (init : VfAppleGxf Unit) [.writeEl GxfReg.vmsaLockEl1.code 1#64 1]) := by
    rw [VmsaLock.Set]
    decide +kernel
  have hsame := (h [(GxfReg.vmsaLockEl1.code, 1#64, 1), (GxfReg.vbarEl1.code, 0x1000#64, 0)]
    [.writeEl GxfReg.vmsaLockEl1.code 1#64 1] [.writeEl GxfReg.vbarEl1.code 0x1000#64 0] rfl .vbar hset _
    List.mem_cons_self).2.2 ⟨by decide +kernel, _, _, 0, rfl, by decide⟩
  exact absurd hsame (by decide +kernel)

end VfAppleGxf

end Nextcore.Device
