import Nextcore.Device.Routing

/-! The cause of the controller's interrupt. The status bit stands for a completion that
the host has not taken; a posted completion that meets a head doorbell ahead of it breaks
this, and nothing else does. -/

namespace Nextcore.Device

variable {ι α μ : Type}

namespace VfAns

open Ans

structure SameCause (a a' : VfAns ι) : Prop where
  cc : a'.cc = a.cc
  csts : a'.csts = a.csts
  irqStatus : a'.irqStatus = a.irqStatus
  head : a'.doorbell 1 = a.doorbell 1
  tail : a'.adminCqTail = a.adminCqTail

lemma SameCause.refl (a : VfAns ι) : SameCause a a := ⟨rfl, rfl, rfl, rfl, rfl⟩

lemma Stored.sameCause {a a' : VfAns ι} (h : Stored a a') : SameCause a a' :=
  ⟨h.cc, h.csts, h.irqStatus, congrFun h.doorbell 1, h.tail⟩

structure Caused (a : VfAns ι) : Prop where
  cause : a.irqStatus.getLsbD 0 = true → a.adminCqPending ≠ 0#16
  ready : a.csts &&& cstsRdy ≠ 0#32 ↔ a.cc &&& ccEn ≠ 0#32

lemma SameCause.caused {a a' : VfAns ι} (h : SameCause a a') (ha : Caused a) : Caused a' := by
  refine ⟨?_, ?_⟩
  · rw [h.irqStatus, adminCqPending, h.head, h.tail]
    exact ha.cause
  · rw [h.csts, h.cc]
    exact ha.ready

lemma caused_init : Caused (init : VfAns ι) := ⟨by simp [init], by simp [init]⟩

lemma Caused.irqCheck {a : VfAns ι} (h : Caused a) (hirq : a.irqCheck = true) : a.adminCqPending ≠ 0#16 := by
  rw [AnsWorld.irqCheck_eq] at hirq
  exact h.cause (Bool.and_eq_true_iff.mp hirq).1

lemma caused_clear {a : VfAns ι} (h : Caused a) : Caused a.clearAdminIdentify := ⟨h.cause, h.ready⟩

lemma caused_post {a : VfAns ι} (h : Caused a) (hhead : (a.doorbell 1).truncate 16 ≠ a.adminCqTail + 1#16) :
    Caused a.completionPosted := by
  refine ⟨fun _ hzero => hhead ?_, h.ready⟩
  have htail : a.adminCqTail + 1#16 - (a.doorbell 1).truncate 16 = 0#16 := hzero
  bv_omega

end VfAns

namespace AnsWorld

open Ans VfAns

lemma refresh_caused {a : VfAns ι} (h : Caused a) (newv : U32) :
    Caused ({ a with
      doorbell := Function.update a.doorbell 1 newv
      irqStatus :=
        if ({ a with doorbell := Function.update a.doorbell 1 newv } : VfAns ι).adminCqPending = 0#16 then
          a.irqStatus &&& ~~~irqAdminCq
        else a.irqStatus } : VfAns ι) := by
  refine ⟨fun hbit hzero => ?_, h.ready⟩
  have hpending : ({ a with doorbell := Function.update a.doorbell 1 newv } : VfAns ι).adminCqPending = 0#16 := hzero
  simp [hpending] at hbit

lemma onAns_caused {w : AnsWorld ι α μ} (h : Caused w.ans) {r : Option (VfAns ι)} (hr : ∀ a ∈ r, SameCause w.ans a) :
    Caused (w.onAns r).2.ans := by
  cases r with
  | none => exact h
  | some a => exact (hr a rfl).caused h

variable [DecidableEq ι]

def laps (w : AnsWorld ι α μ) : AnsOp ι α μ → Bool
  | .ansWrite off width value =>
    !VfAns.outOfBounds off width && decide (VfAns.dbIndex off = some 0) && w.postsIdentify value &&
      decide ((w.ans.doorbell 1).truncate 16 = w.ans.adminCqTail + 1#16)
  | _ => false

omit [DecidableEq ι] in
lemma caused_ring {w : AnsWorld ι α μ} (h : Caused w.ans) (value : U32) : Caused (w.ringSqTail value).ans := by
  have hsame : SameCause w.ans (w.ringSqTail value).ans := ⟨rfl, rfl, rfl, rfl, rfl⟩
  exact hsame.caused h

lemma tryAdminIdentify_caused {w : AnsWorld ι α μ} (h : Caused w.ans) {value : U32}
    (hchange : value &&& dbValueMask ≠ w.ans.doorbell 0) (harmed : w.ans.adminId.isSome)
    (hhead : w.postsIdentify value = true → (w.ans.doorbell 1).truncate 16 ≠ w.ans.adminCqTail + 1#16) :
    Caused ((w.ringSqTail value).tryAdminIdentifyOnDoorbell ((w.ans.doorbell 0).truncate 16)).ans := by
  obtain ⟨arm, harm⟩ := Option.isSome_iff_exists.mp harmed
  have harm' : (w.ringSqTail value).ans.adminId = some arm := harm
  have hready : (w.ringSqTail value).identifyReady ((w.ans.doorbell 0).truncate 16) arm =
      w.identifyReady ((w.ans.doorbell 0).truncate 16) arm := rfl
  rw [tryAdminIdentify_eq harm', hready]
  rw [postsIdentify, harm, Option.any_some, decide_eq_true hchange, Bool.true_and] at hhead
  cases hr : w.identifyReady ((w.ans.doorbell 0).truncate 16) arm with
  | none => exact caused_clear (caused_ring h value)
  | some prp1 =>
    rw [Option.map_some, Option.getD_some, postAdminIdentifyCqe_eq, ans_syncPciIrq]
    refine caused_post (caused_clear (caused_ring h value)) ?_
    exact hhead (by rw [hr]; rfl)

lemma applyCcEnable_caused {w : AnsWorld ι α μ} (h : Caused w.ans) (cc : U32) : Caused (w.applyCcEnable cc).ans := by
  rw [applyCcEnable, ans_syncPciIrq]
  by_cases hen : cc &&& ccEn ≠ 0#32
  · rw [if_pos hen]
    refine ⟨h.cause, ⟨fun _ => hen, fun _ hzero => ?_⟩⟩
    have hbit : (w.ans.csts ||| cstsRdy).getLsbD 0 = false := (and_irqAdminCq _).mp hzero
    simp at hbit
  · rw [if_neg hen]
    refine ⟨fun hbit => by simp at hbit, ⟨fun hrdy => absurd ?_ hrdy, fun hen' => absurd hen' hen⟩⟩
    exact (and_irqAdminCq _).mpr (by simp)

lemma write_caused {w w' : AnsWorld ι α μ} (hw : Caused w.ans) {off width : ℕ} {value : U32}
    (h : w.write off width value = some w') (hlap : w.laps (.ansWrite off width value) = false) : Caused w'.ans := by
  rw [write] at h
  rw [laps] at hlap
  cases hin : VfAns.outOfBounds off width with
  | true => simp [hin] at h
  | false =>
    simp only [hin, Bool.false_eq_true, if_false, Bool.not_false, Bool.true_and] at h hlap
    cases hdb : VfAns.dbIndex off with
    | some dbi =>
      simp only [hdb] at h hlap
      by_cases hring : dbi = 0 ∧ value &&& dbValueMask ≠ w.ans.doorbell dbi ∧ w.ans.adminId.isSome
      · rw [if_pos hring, Option.some.injEq] at h
        obtain ⟨rfl, hchange, harmed⟩ := hring
        rw [← h]
        refine tryAdminIdentify_caused hw hchange harmed ?_
        intro hposts hhead
        simp [hposts, hhead] at hlap
      · rw [if_neg hring] at h
        by_cases hcq : dbi = 1
        · subst hcq
          rw [if_pos rfl, Option.some.injEq] at h
          rw [← h, refreshAdminCqIrq, ans_syncPciIrq]
          exact refresh_caused hw _
        · rw [if_neg hcq, Option.some.injEq] at h
          rw [← h]
          have hsame : SameCause w.ans
              ({ w.ans with doorbell := Function.update w.ans.doorbell dbi (value &&& dbValueMask) } : VfAns ι) :=
            ⟨rfl, rfl, rfl, Function.update_of_ne (Ne.symm hcq) _ _, rfl⟩
          exact hsame.caused hw
    | none =>
      simp only [hdb] at h
      split_ifs at h with hms hmc hcc
      · rw [← Option.some.inj h, ans_syncPciIrq]
        exact ⟨hw.cause, hw.ready⟩
      · rw [← Option.some.inj h, ans_syncPciIrq]
        exact ⟨hw.cause, hw.ready⟩
      · rw [← Option.some.inj h]
        exact applyCcEnable_caused hw value
      · obtain ⟨ans, hans, rfl⟩ := Option.map_eq_some_iff.mp h
        exact (stored_writeStored hans).sameCause.caused hw

lemma accept_onPci_ans (w : AnsWorld ι α μ) (r : Option (VfAnsPci α μ × Env α μ)) (i : ι) :
    (w.accept (r.map (w.onPci i))).2.ans = w.ans := by
  cases r <;> rfl

lemma step_caused {w : AnsWorld ι α μ} (h : Caused w.ans) {op : AnsOp ι α μ} (hlap : w.laps op = false) :
    Caused (w.step op).2.ans := by
  cases op with
  | ansWrite off width value =>
    cases hw : w.write off width value with
    | none =>
      rw [step, hw]
      exact h
    | some w' =>
      rw [step, hw]
      exact write_caused h hw hlap
  | bindPci pci =>
    have hans : (w.step (.bindPci pci)).2.ans = { w.ans with pci := pci } := by
      rw [step, accept, bindPci, ans_syncPciIrq]
      cases w.ans.pci with
      | none => rfl
      | some old =>
        dsimp only
        split_ifs <;> rfl
    rw [hans]
    exact ⟨h.cause, h.ready⟩
  | gates mbox ascwrap autoboot => exact ⟨h.cause, h.ready⟩
  | setIsAppleAns enabled => exact ⟨h.cause, h.ready⟩
  | arm opcode cns buf cqBuf =>
    refine onAns_caused h fun a ha => ?_
    rw [Option.mem_def, VfAns.armAdminIdentify] at ha
    split_ifs at ha
    rw [← Option.some.inj ha]
    exact ⟨rfl, rfl, rfl, rfl, rfl⟩
  | disarm => exact caused_clear h
  | bindAdminAsq mem => exact onAns_caused h (forall_mem_admitWindow fun m => ⟨rfl, rfl, rfl, rfl, rfl⟩)
  | bindAdminAcq mem => exact onAns_caused h (forall_mem_admitWindow fun m => ⟨rfl, rfl, rfl, rfl, rfl⟩)
  | bindIdentifyPrp1 mem => exact onAns_caused h (forall_mem_admitWindow fun m => ⟨rfl, rfl, rfl, rfl, rfl⟩)
  | bindIdentifyPrp2 mem => exact onAns_caused h (forall_mem_admitWindow fun m => ⟨rfl, rfl, rfl, rfl, rfl⟩)
  | pciWrite i off width value =>
    rw [step, accept_onPci_ans]
    exact h
  | pciBindMsiGpa i mem base =>
    have hans : (w.step (.pciBindMsiGpa i mem base)).2.ans = w.ans := by
      rw [step]
      cases (w.pci i).bindMsiGpa mem base <;> rfl
    rw [hans]
    exact h
  | ansRead | pciRead | pciSetIrq | pciEnableMemoryBusMaster | pciBindMsiMessage | pciBindAic | outside => exact h

/-- In a run in which no completion meets a head doorbell ahead of it, an interrupt has a
completion that was not taken, and the controller is ready exactly while it is enabled. -/
theorem irq_has_cause (env : Env α μ) (ops : List (AnsOp ι α μ))
    (hlap : ∀ x ∈ Run.log step (init env) ops, x.before.laps x.event = false) :
    let a := (Run.final step (init env) ops).ans
    (a.irqCheck = true → a.adminCqPending ≠ 0#16) ∧ (a.csts &&& cstsRdy ≠ 0#32 ↔ a.cc &&& ccEn ≠ 0#32) := by
  have hcaused : Caused (Run.final step (init env : AnsWorld ι α μ) ops).ans :=
    Run.final_of_log (I := fun w : AnsWorld ι α μ => Caused w.ans) (C := fun w op => w.laps op = false)
      (fun _ _ hw hop => step_caused hw hop) ops hlap caused_init
  exact ⟨hcaused.irqCheck, hcaused.ready⟩

def lapRun : List (AnsOp Unit Unit Unit) :=
  [.ansWrite regCc 4 1#32, .ansWrite 0x1004 4 1#32, .arm opcIdentify idCnsCtrl ⟨0, 4096⟩ ⟨4096, 16⟩,
    .ansWrite dbBase 4 1#32]

theorem irq_without_cause :
    let a := (Run.final step (init ⟨⟨fun _ => 0#8, false⟩, (), ()⟩) lapRun).ans
    ¬(a.irqCheck = true → a.adminCqPending ≠ 0#16) := by
  decide +kernel

theorem irq_has_cause_posted :
    let a := (Run.final step (init ⟨⟨fun _ => 0#8, false⟩, (), ()⟩ : AnsWorld Unit Unit Unit)
      [.ansWrite regCc 4 1#32, .arm opcIdentify idCnsCtrl ⟨0, 4096⟩ ⟨4096, 16⟩, .ansWrite dbBase 4 1#32]).ans
    (a.irqCheck = true → a.adminCqPending ≠ 0#16) ∧ (a.csts &&& cstsRdy ≠ 0#32 ↔ a.cc &&& ccEn ≠ 0#32) :=
  irq_has_cause _ _ (by
    simp only [Run.log, List.forall_mem_cons, List.not_mem_nil, false_implies, implies_true, and_true]
    decide +kernel)

end AnsWorld

end Nextcore.Device
