import Nextcore.Device.Gxf

/-! Outside the guarded mode no operation depends on the guarded bank, and only the
entries into the mode write it. -/

namespace Nextcore.Device.VfAppleGxf

open Gxf

variable {κ : Type}

def Synced (g : VfAppleGxf κ) : Prop := g.guarded = g.isGuarded

def withBank (g : VfAppleGxf κ) (bank : GuardedBank) : VfAppleGxf κ := { g with gl11 := bank }

def AgreeOutside (g h : VfAppleGxf κ) : Prop := ∃ bank, h = g.withBank bank

lemma synced_init : (init : VfAppleGxf κ).Synced := by simp [Synced, isGuarded, init]

lemma synced_sync (g : VfAppleGxf κ) : g.syncGuardedFromStatus.Synced := rfl

lemma read_withBank {g : VfAppleGxf κ} (hg : g.guarded = false) (bank : GuardedBank) (reg : U32) :
    (g.withBank bank).read reg = g.read reg := by
  have hg' : (g.withBank bank).guarded = false := hg
  rw [read, read]
  cases GxfReg.decode reg with
  | none => rfl
  | some r =>
    cases r <;>
      simp only [Option.bind_some, guardedOnly, el1AliasRead, tvmTrvmBlocks, hg, hg', Bool.not_false, if_true,
        Bool.false_eq_true, if_false] <;> rfl

lemma guardedOnly_withBank (g : VfAppleGxf κ) (bank : GuardedBank) (reg : GxfReg) :
    (g.withBank bank).guardedOnly reg = g.guardedOnly reg := by cases reg <;> rfl

lemma tvmTrvmBlocks_withBank (g : VfAppleGxf κ) (bank : GuardedBank) (reg : GxfReg) (isread : Bool) (el : ℕ) :
    (g.withBank bank).tvmTrvmBlocks reg isread el = g.tvmTrvmBlocks reg isread el := rfl

lemma vmsaLocked_withBank (g : VfAppleGxf κ) (bank : GuardedBank) (guarded : Bool) (el : ℕ) (lockBit : U64) :
    (g.withBank bank).vmsaLocked guarded el lockBit = g.vmsaLocked guarded el lockBit := rfl

lemma el1AliasWrite_withBank {g : VfAppleGxf κ} (hg : g.guarded = false) (bank : GuardedBank) (reg : GxfReg)
    (value : U64) (el : ℕ) : (g.withBank bank).el1AliasWrite reg value el =
      (g.el1AliasWrite reg value el).map (·.withBank bank) := by
  have hg' : (g.withBank bank).guarded = false := hg
  unfold el1AliasWrite
  rw [apply_ite (Option.map _), tvmTrvmBlocks_withBank]
  cases reg with
  | vbarEl1 =>
    simp only [apply_ite (Option.map _), hg, hg', vmsaLocked_withBank, Bool.false_eq_true, if_false]
    rfl
  | tpidrEl1 | spsrEl1 | elrEl1 | esrEl1 | farEl1 =>
    simp only [hg, hg', Bool.false_eq_true, if_false]
    rfl
  | _ => rfl

lemma writeEl_withBank {g : VfAppleGxf κ} (hg : g.guarded = false) (bank : GuardedBank) (reg : U32) (value : U64)
    (el : ℕ) : (g.withBank bank).writeEl reg value el =
      (g.writeEl reg value el).map fun r => (r.1.withBank bank, r.2) := by
  rw [writeEl, writeEl]
  cases GxfReg.decode reg with
  | none => rfl
  | some r =>
    rw [Option.bind_some, Option.bind_some, el1AliasWrite_withBank hg, guardedOnly_withBank]
    by_cases hrefused : g.guardedOnly r = true
    · rw [if_pos hrefused, if_pos hrefused]
      rfl
    rw [if_neg hrefused, if_neg hrefused]
    cases g.el1AliasWrite r value el with
    | some g' => rfl
    | none =>
      cases r with
      | aspsrGl11 | spGl11 | tpidrGl11 | vbarGl11 | spsrGl11 | esrGl11 | elrGl11 | farGl11 =>
        exact absurd (by rw [guardedOnly, hg]; rfl) hrefused
      | sctlrEl1 | tcrEl1 | ttbr0El1 | ttbr1El1 | hcrEl2 | sprrEl0br0El1 =>
        simp only [Option.map_none, Option.none_or, apply_ite (Option.map _)]
        rfl
      | _ => rfl

lemma isGuarded_of_synced {g : VfAppleGxf κ} (h : g.Synced) (hg : g.guarded = false) : g.isGuarded = false := by
  rw [← h, hg]

def Enters : GxfOp κ → Prop
  | .genter _ _ => True
  | .abort _ _ _ _ => True
  | .tcgExec insn _ _ _ => tcgClassify insn = .genter
  | _ => False

lemma or_statusGuarded (x : U64) : (x ||| statusGuarded) &&& statusGuarded ≠ 0#64 := by
  intro h
  have hb := congrArg (fun v => v.getLsbD 0) h
  simp at hb

/-- What an operation outside the guarded mode does: with another bank it answers the
same and leaves the same outside of it, and it keeps the bank unless it enters the mode. -/
structure Hidden (g : VfAppleGxf κ) (op : GxfOp κ) : Prop where
  answer : ∀ bank, (step (g.withBank bank) op).1 = (step g op).1
  outside : ∀ bank, AgreeOutside (step g op).2 (step (g.withBank bank) op).2
  bank : (step g op).2.gl11 = g.gl11 ∨
    Enters op ∧ (step g op).2.guarded = true ∧ (step g op).1 ≠ .refused

lemma hidden_of_commutes {g : VfAppleGxf κ} {op : GxfOp κ}
    (h : ∀ bank, step (g.withBank bank) op = ((step g op).1, (step g op).2.withBank bank)) : Hidden g op := by
  refine ⟨fun bank => by rw [h], fun bank => ⟨bank, by rw [h]⟩, Or.inl ?_⟩
  have hsame := congrArg (fun r => r.2.gl11) (h g.gl11)
  exact hsame

lemma hidden_genter {g : VfAppleGxf κ} (h : g.isGuarded = false) (returnPc spsr : U64) :
    (∀ bank, ((g.withBank bank).answerPc ((g.withBank bank).genter returnPc spsr)).1 =
      (g.answerPc (g.genter returnPc spsr)).1) ∧
    (∀ bank, AgreeOutside (g.answerPc (g.genter returnPc spsr)).2
      ((g.withBank bank).answerPc ((g.withBank bank).genter returnPc spsr)).2) ∧
    ((g.answerPc (g.genter returnPc spsr)).2.gl11 = g.gl11 ∨
      (g.answerPc (g.genter returnPc spsr)).2.guarded = true ∧
        (g.answerPc (g.genter returnPc spsr)).1 ≠ .refused) := by
  have h' : ∀ bank, (g.withBank bank).isGuarded = false := fun _ => h
  by_cases hen : g.gxfConfigEl1 &&& configEn = 0#64
  · have hen' : ∀ bank, (g.withBank bank).gxfConfigEl1 &&& configEn = 0#64 := fun _ => hen
    simp only [genter, if_pos hen, if_pos (hen' _)]
    exact ⟨fun _ => rfl, fun bank => ⟨bank, rfl⟩, Or.inl rfl⟩
  · have hen' : ∀ bank, ¬(g.withBank bank).gxfConfigEl1 &&& configEn = 0#64 := fun _ => hen
    simp only [genter, if_neg hen, if_neg (hen' _), h, h', Bool.false_eq_true, if_false]
    exact ⟨fun _ => rfl, fun bank => ⟨_, rfl⟩,
      Or.inr ⟨decide_eq_true (or_statusGuarded g.gxfStatusEl1), by simp [answerPc]⟩⟩

lemma hidden_gexit {g : VfAppleGxf κ} (h : g.isGuarded = false) : g.gexit = none := by
  rw [gexit, h]
  rfl

lemma hidden_step {g : VfAppleGxf κ} (hs : g.Synced) (hg : g.guarded = false) (op : GxfOp κ) : Hidden g op := by
  have h := isGuarded_of_synced hs hg
  have h' : ∀ bank, (g.withBank bank).isGuarded = false := fun _ => h
  cases op with
  | read reg =>
    refine hidden_of_commutes fun bank => ?_
    rw [step, step, read_withBank hg]
  | writeEl reg value el =>
    refine hidden_of_commutes fun bank => ?_
    rw [step, step, writeEl_withBank hg]
    cases g.writeEl reg value el <;> rfl
  | genter returnPc spsr =>
    obtain ⟨hans, hout, hbank⟩ := hidden_genter h returnPc spsr
    exact ⟨hans, hout, hbank.imp_right fun hb => ⟨trivial, hb⟩⟩
  | abort returnPc spsr esr far =>
    by_cases hen : g.gxfConfigEl1 &&& configEn = 0#64
    · refine hidden_of_commutes fun bank => ?_
      rw [step, step, abort, abort, if_pos hen, if_pos (show (g.withBank bank).gxfConfigEl1 &&& configEn = 0#64 from hen)]
      rfl
    · have hen' : ∀ bank, ¬(g.withBank bank).gxfConfigEl1 &&& configEn = 0#64 := fun _ => hen
      refine ⟨fun bank => ?_, fun bank => ?_, Or.inr ⟨trivial, ?_⟩⟩
      · simp only [step, abort, if_neg hen, if_neg (hen' _), h, h', Bool.false_eq_true, if_false]
        rfl
      · simp only [step, abort, if_neg hen, if_neg (hen' _), h, h', Bool.false_eq_true, if_false]
        exact ⟨_, rfl⟩
      · simp only [step, abort, if_neg hen, h, Bool.false_eq_true, if_false]
        exact ⟨decide_eq_true (or_statusGuarded g.gxfStatusEl1), by simp [answerPc]⟩
  | takeException kind table returnPc spsr esr far =>
    refine hidden_of_commutes fun bank => ?_
    have hel1 : (g.withBank bank).el1 = g.el1 := rfl
    simp only [step, takeException, h, h', hel1, Bool.false_eq_true, if_false]
    split_ifs <;> rfl
  | gexit =>
    refine hidden_of_commutes fun bank => ?_
    rw [step, step, hidden_gexit h, hidden_gexit (h' bank)]
    rfl
  | tcgExec insn el returnPc spsr =>
    by_cases hel : el = 0
    · refine hidden_of_commutes fun bank => ?_
      rw [step, step, tcgExec, tcgExec, if_pos hel, if_pos hel]
      rfl
    · cases hkind : tcgClassify insn with
      | genter =>
        obtain ⟨hans, hout, hbank⟩ := hidden_genter h returnPc spsr
        have hexec : ∀ g : VfAppleGxf κ, step g (.tcgExec insn el returnPc spsr) =
            g.answerPc (g.genter returnPc spsr) := by
          intro g
          rw [step, tcgExec, if_neg hel, hkind]
        refine ⟨fun bank => ?_, fun bank => ?_, ?_⟩
        · rw [hexec, hexec]
          exact hans bank
        · rw [hexec, hexec]
          exact hout bank
        · rw [hexec]
          exact hbank.imp_right fun hb => ⟨hkind, hb⟩
      | gexit =>
        refine hidden_of_commutes fun bank => ?_
        simp only [step, tcgExec, if_neg hel, hkind]
        rw [hidden_gexit h, hidden_gexit (h' bank)]
        rfl
      | none =>
        refine hidden_of_commutes fun bank => ?_
        simp only [step, tcgExec, if_neg hel, hkind]
        rfl
  | setGuarded | isGuarded | setHcrEl2 | getHcrEl2 | setVmsaLockEl1 | getVmsaLockEl1 | setSprrTlbFlush
  | sprrPermGeneration | sprrTlbFlushCount =>
    exact hidden_of_commutes fun bank => rfl

lemma synced_writeEl {g g' : VfAppleGxf κ} {reg : U32} {value : U64} {el : ℕ} {call : Option (κ × U64)} (hs : g.Synced)
    (h : g.writeEl reg value el = some (g', call)) : g'.Synced := by
  obtain ⟨r, -, hw⟩ := wrote_of_writeEl h
  rw [Synced, hw.guarded, hs, isGuarded, isGuarded, hw.status]

lemma synced_genter {g g' : VfAppleGxf κ} {returnPc spsr pc : U64} (h : g.genter returnPc spsr = some (g', pc)) :
    g'.Synced := by
  rw [genter] at h
  split_ifs at h
  obtain ⟨rfl, -⟩ := Prod.mk.inj (Option.some.inj h)
  exact synced_sync _

lemma synced_abort {g g' : VfAppleGxf κ} {returnPc spsr esr far pc : U64} (hs : g.Synced)
    (h : g.abort returnPc spsr esr far = some (g', pc)) : g'.Synced := by
  rw [abort] at h
  split at h
  · exact absurd h (by simp)
  obtain ⟨rfl, -⟩ := Prod.mk.inj (Option.some.inj h)
  by_cases hg : g.isGuarded = true
  · simp only [hg, if_true]
    exact hs
  · simp only [hg]
    exact synced_sync _

lemma synced_takeException {g g' : VfAppleGxf κ} {kind table : ℕ} {returnPc spsr esr far pc : U64} (hs : g.Synced)
    (h : g.takeException kind table returnPc spsr esr far = some (g', pc)) : g'.Synced := by
  rw [takeException] at h
  split at h
  · exact absurd h (by simp)
  cases hg : g.isGuarded with
  | true =>
    simp only [hg, if_true] at h
    split at h
    · exact absurd h (by simp)
    obtain ⟨rfl, -⟩ := Prod.mk.inj (Option.some.inj h)
    exact hs
  | false =>
    simp only [hg, Bool.false_eq_true, if_false] at h
    split at h
    · exact absurd h (by simp)
    obtain ⟨rfl, -⟩ := Prod.mk.inj (Option.some.inj h)
    exact hs

lemma synced_gexit {g g' : VfAppleGxf κ} {pc : U64} (hs : g.Synced) (h : g.gexit = some (g', pc)) : g'.Synced := by
  rw [gexit] at h
  split at h
  · obtain ⟨rfl, -⟩ := Prod.mk.inj (Option.some.inj h)
    by_cases hn : g.gl11.aspsr &&& aspsrNest ≠ 0#64
    · rw [if_pos hn]
      exact hs
    · rw [if_neg hn]
      exact synced_sync _
  · exact absurd h (by simp)

lemma synced_answerPc {g : VfAppleGxf κ} (hs : g.Synced) {r : Option (VfAppleGxf κ × U64)}
    (h : ∀ g' pc, r = some (g', pc) → g'.Synced) : (g.answerPc r).2.Synced := by
  cases hr : r with
  | none => exact hs
  | some p => exact h p.1 p.2 hr

lemma synced_step (g : VfAppleGxf κ) (op : GxfOp κ) (hs : g.Synced) : (step g op).2.Synced := by
  cases op with
  | writeEl reg value el =>
    rw [step]
    cases h : g.writeEl reg value el with
    | none => exact hs
    | some r => exact synced_writeEl hs h
  | genter returnPc spsr => exact synced_answerPc hs fun _ _ h => synced_genter h
  | abort returnPc spsr esr far => exact synced_answerPc hs fun _ _ h => synced_abort hs h
  | takeException kind table returnPc spsr esr far =>
    exact synced_answerPc hs fun _ _ h => synced_takeException hs h
  | gexit => exact synced_answerPc hs fun _ _ h => synced_gexit hs h
  | tcgExec insn el returnPc spsr =>
    refine synced_answerPc hs fun g' pc h => ?_
    rw [tcgExec] at h
    split at h
    · exact absurd h (by simp)
    split at h
    · exact synced_genter h
    · exact synced_gexit hs h
    · exact absurd h (by simp)
  | setGuarded => exact synced_sync _
  | read | isGuarded | setHcrEl2 | getHcrEl2 | setVmsaLockEl1 | getVmsaLockEl1 | setSprrTlbFlush | sprrPermGeneration
  | sprrTlbFlushCount => exact hs

lemma unguarded_runs_agree {g h : VfAppleGxf κ} (hs : g.Synced) (hag : AgreeOutside g h) (ops : List (GxfOp κ))
    (hrun : ∀ x ∈ Run.log step g ops, x.before.guarded = false) :
    (Run.log step g ops).map Run.Entry.answer = (Run.log step h ops).map Run.Entry.answer ∧
      AgreeOutside (Run.final step g ops) (Run.final step h ops) := by
  obtain ⟨hans, -, hfinal⟩ := Run.log_related
    (R := fun s t : VfAppleGxf κ => s.Synced ∧ AgreeOutside s t) (C := fun s => s.guarded = false)
    (fun s t op hR hC => by
      obtain ⟨hsync, bank, rfl⟩ := hR
      have hh := hidden_step hsync hC op
      exact ⟨(hh.answer bank).symm, synced_step s op hsync, hh.outside bank⟩)
    ops ⟨hs, hag⟩ hrun
  exact ⟨hans, hfinal⟩

/-- Over any run: the flag mirrors the status bit; outside the guarded mode an operation
is hidden from the bank, which only an entry into the mode writes; and two unguarded
runs that start from states differing only in the bank answer alike. -/
theorem gxf_isolation (ops : List (GxfOp κ)) :
    (∀ x ∈ Run.log step (init : VfAppleGxf κ) ops, x.before.Synced ∧ x.after.Synced) ∧
    (∀ x ∈ Run.log step (init : VfAppleGxf κ) ops, x.before.guarded = false → Hidden x.before x.event) ∧
    (∀ (h : VfAppleGxf κ) (rest : List (GxfOp κ)), AgreeOutside (Run.final step init ops) h →
      (∀ x ∈ Run.log step (Run.final step init ops) rest, x.before.guarded = false) →
      (Run.log step (Run.final step init ops) rest).map Run.Entry.answer =
          (Run.log step h rest).map Run.Entry.answer ∧
        AgreeOutside (Run.final step (Run.final step init ops) rest) (Run.final step h rest)) := by
  refine ⟨fun x hx => ?_, fun x hx hg => ?_, fun h rest hag hrun => ?_⟩
  · obtain ⟨hb, hentry⟩ := Run.mem_log synced_step ops synced_init hx
    refine ⟨hb, ?_⟩
    rw [hentry]
    exact synced_step _ _ hb
  · exact hidden_step (Run.mem_log synced_step ops synced_init hx).1 hg x.event
  · have hs : (Run.final step (init : VfAppleGxf κ) ops).Synced :=
      Run.final_invariant (C := fun _ => True) (fun s op hs _ => synced_step s op hs) ops (fun _ _ => trivial)
        synced_init
    exact unguarded_runs_agree hs hag rest hrun

theorem gxf_isolation_entered :
    ∀ x ∈ Run.log step (init : VfAppleGxf Unit)
        [.writeEl GxfReg.gxfConfigEl1.code 1#64 1, .genter 0x1000#64 5#64, .gexit, .read GxfReg.elrEl1.code],
      x.before.guarded = false → Hidden x.before x.event :=
  fun x hx hg => (gxf_isolation _).2.1 x hx hg

end Nextcore.Device.VfAppleGxf
