import Nextcore.Device.Identify
import Nextcore.Device.Signal

/-! Interrupt routing. A step of the controller and its endpoints is an update of the
controller followed by calls on the endpoints; a write that touches the interrupt gives
the bound endpoint its new level. -/

namespace Nextcore.Device

variable {ι α μ : Type}

namespace VfAns

open Ans

structure Stored (a a' : VfAns ι) : Prop where
  pci : a'.pci = a.pci
  cc : a'.cc = a.cc
  csts : a'.csts = a.csts
  intm : a'.intm = a.intm
  irqStatus : a'.irqStatus = a.irqStatus
  doorbell : a'.doorbell = a.doorbell
  tail : a'.adminCqTail = a.adminCqTail

lemma Stored.irqCheck {a a' : VfAns ι} (h : Stored a a') : a'.irqCheck = a.irqCheck := by
  rw [VfAns.irqCheck, VfAns.irqCheck, h.irqStatus, h.intm]

lemma stored_sparseStore {a a' : VfAns ι} {off : ℕ} {value : U32} (h : a.sparseStore off value = some a') :
    Stored a a' := by
  rw [sparseStore] at h
  revert h
  split
  · intro h
    rw [← Option.some.inj h]
    exact ⟨rfl, rfl, rfl, rfl, rfl, rfl, rfl⟩
  · intro h
    split_ifs at h
    rw [← Option.some.inj h]
    exact ⟨rfl, rfl, rfl, rfl, rfl, rfl, rfl⟩

lemma stored_writeStored {a a' : VfAns ι} {off : ℕ} {value : U32} (h : a.writeStored off value = some a') :
    Stored a a' := by
  have hall : ∀ a' ∈ a.writeStored off value, Stored a a' := by
    rw [writeStored]
    iterate 10 refine Run.forall_mem_ite (fun _ => Run.forall_mem_some ⟨rfl, rfl, rfl, rfl, rfl, rfl, rfl⟩) fun _ => ?_
    iterate 2 refine Run.forall_mem_ite (fun _ _ h => stored_sparseStore h) fun _ => ?_
    exact Run.forall_mem_some ⟨rfl, rfl, rfl, rfl, rfl, rfl, rfl⟩
  exact hall a' h

end VfAns

namespace AnsWorld

open Ans

def postsIdentify (w : AnsWorld ι α μ) (value : U32) : Bool :=
  decide (value &&& dbValueMask ≠ w.ans.doorbell 0) &&
    w.ans.adminId.any fun arm => (w.identifyReady ((w.ans.doorbell 0).truncate 16) arm).isSome

def writeLevel (w : AnsWorld ι α μ) (off width : ℕ) (value : U32) : Option Bool :=
  if VfAns.outOfBounds off width then none
  else
    match VfAns.dbIndex off with
    | some dbi =>
      if dbi = 0 then if w.postsIdentify value then some (!decide (w.ans.intm &&& irqAdminCq ≠ 0#32)) else none
      else if dbi = 1 then
        some (w.ans.irqCheck && decide (w.ans.adminCqTail - (value &&& dbValueMask).truncate 16 ≠ 0#16))
      else none
    | none =>
      if off = regIntms then some (decide (w.ans.irqStatus &&& ~~~(w.ans.intm ||| value) &&& irqAdminCq ≠ 0#32))
      else if off = regIntmc then some (decide (w.ans.irqStatus &&& ~~~(w.ans.intm &&& ~~~value) &&& irqAdminCq ≠ 0#32))
      else if off = regCc then some (decide (value &&& ccEn ≠ 0#32) && w.ans.irqCheck)
      else none

def levelCalls (pci : Option ι) (level : Option Bool) : List (ι × PciCall α μ) :=
  match pci, level with
  | some i, some b => [(i, .setIrq b)]
  | _, _ => []

structure Prepared (w v : AnsWorld ι α μ) : Prop where
  pci : v.pci = w.pci
  aic : v.aic = w.aic
  msg : v.msg = w.msg

lemma Prepared.refl (w : AnsWorld ι α μ) : Prepared w w := ⟨rfl, rfl, rfl⟩

lemma and_irqAdminCq (x : U32) : x &&& irqAdminCq = 0#32 ↔ x.getLsbD 0 = false := by
  constructor
  · intro h
    simpa using congrArg (fun y => y.getLsbD 0) h
  · intro h
    apply BitVec.eq_of_getLsbD_eq
    intro i hi
    rw [BitVec.getLsbD_and, BitVec.getLsbD_zero, BitVec.getLsbD_one]
    rcases eq_or_ne i 0 with rfl | hne
    · rw [h, Bool.false_and]
    · simp [hne]

lemma decide_irqAdminCq (x : U32) : decide (x &&& irqAdminCq ≠ 0#32) = x.getLsbD 0 := by
  cases h : x.getLsbD 0 with
  | false => exact decide_eq_false (not_not.mpr ((and_irqAdminCq x).mpr h))
  | true => exact decide_eq_true fun hz => Bool.false_ne_true (((and_irqAdminCq x).mp hz).symm.trans h)

lemma irqCheck_eq (a : VfAns ι) : a.irqCheck = (a.irqStatus.getLsbD 0 && !a.intm.getLsbD 0) := by
  rw [VfAns.irqCheck, decide_irqAdminCq, BitVec.getLsbD_and, BitVec.getLsbD_not]
  rfl

lemma refresh_level (w : AnsWorld ι α μ) (newv : U32) :
    ({ w.ans with
        doorbell := Function.update w.ans.doorbell 1 newv
        irqStatus :=
          if ({ w.ans with doorbell := Function.update w.ans.doorbell 1 newv } : VfAns ι).adminCqPending = 0#16 then
            w.ans.irqStatus &&& ~~~irqAdminCq
          else w.ans.irqStatus } : VfAns ι).irqCheck =
      (w.ans.irqCheck && decide (w.ans.adminCqTail - newv.truncate 16 ≠ 0#16)) := by
  have hpending : ({ w.ans with doorbell := Function.update w.ans.doorbell 1 newv } : VfAns ι).adminCqPending =
      w.ans.adminCqTail - newv.truncate 16 := by
    simp only [VfAns.adminCqPending, Function.update_self]
  rw [hpending, irqCheck_eq, irqCheck_eq]
  by_cases hzero : w.ans.adminCqTail - newv.truncate 16 = 0#16
  · simp [hzero]
  · simp [hzero]

lemma forall_mem_admitWindow {P : VfAns ι → Prop} {least : ℕ} {mem : Option Span} {f : Option (Window least) → VfAns ι}
    (hf : ∀ m, P (f m)) : ∀ a ∈ (VfAns.admitWindow least mem).map f, P a := by
  intro a ha
  obtain ⟨m, -, rfl⟩ := Option.map_eq_some_iff.mp ha
  exact hf m

variable [DecidableEq ι]

def calls (w : AnsWorld ι α μ) : AnsOp ι α μ → List (ι × PciCall α μ)
  | .ansWrite off width value => levelCalls w.ans.pci (w.writeLevel off width value)
  | .bindPci pci =>
    (match w.ans.pci with
      | none => []
      | some old => if pci = some old then [] else [(old, .setIrq false)]) ++
        levelCalls pci (some w.ans.irqCheck)
  | .pciWrite i off width value => [(i, .write off width value)]
  | .pciSetIrq i level => [(i, .setIrq level)]
  | .pciEnableMemoryBusMaster i => [(i, .enableMemoryBusMaster)]
  | .pciBindMsiGpa i mem base => [(i, .bindMsiGpa mem base)]
  | .pciBindMsiMessage i fn => [(i, .bindMsiMessage fn)]
  | .pciBindAic i fn => [(i, .bindAic fn)]
  | _ => []

def callOn (w : AnsWorld ι α μ) (c : ι × PciCall α μ) : AnsWorld ι α μ :=
  w.onPci c.1 ((w.pci c.1).call w.toEnv c.2)

lemma syncPciIrq_calls (w : AnsWorld ι α μ) :
    w.syncPciIrq = (levelCalls w.ans.pci (some w.ans.irqCheck)).foldl callOn w := by
  rw [syncPciIrq]
  cases w.ans.pci <;> rfl

structure WriteCalls (w w' : AnsWorld ι α μ) (level : Option Bool) (v : AnsWorld ι α μ) : Prop where
  prepared : Prepared w v
  pci : v.ans.pci = w.ans.pci
  calls : w' = (levelCalls w.ans.pci level).foldl callOn v
  irqCheck : level = some v.ans.irqCheck ∨ level = none ∧ v.ans.irqCheck = w.ans.irqCheck

lemma writeCalls_sync {w v : AnsWorld ι α μ} {level : Option Bool} (hp : Prepared w v) (hpci : v.ans.pci = w.ans.pci)
    (hlevel : level = some v.ans.irqCheck) : WriteCalls w v.syncPciIrq level v :=
  ⟨hp, hpci, by rw [syncPciIrq_calls, hpci, hlevel], .inl hlevel⟩

lemma writeCalls_quiet {w v : AnsWorld ι α μ} {level : Option Bool} (hp : Prepared w v) (hpci : v.ans.pci = w.ans.pci)
    (hirq : v.ans.irqCheck = w.ans.irqCheck) (hlevel : level = none) : WriteCalls w v level v := by
  refine ⟨hp, hpci, ?_, .inr ⟨hlevel, hirq⟩⟩
  rw [hlevel]
  cases w.ans.pci <;> rfl

lemma tryAdminIdentify_calls {w : AnsWorld ι α μ} {value : U32} (hchange : value &&& dbValueMask ≠ w.ans.doorbell 0)
    (harmed : w.ans.adminId.isSome) :
    ∃ v, WriteCalls w ((w.ringSqTail value).tryAdminIdentifyOnDoorbell ((w.ans.doorbell 0).truncate 16))
      (if w.postsIdentify value then some (!decide (w.ans.intm &&& irqAdminCq ≠ 0#32)) else none) v := by
  obtain ⟨arm, harm⟩ := Option.isSome_iff_exists.mp harmed
  have harm' : (w.ringSqTail value).ans.adminId = some arm := harm
  have hready : (w.ringSqTail value).identifyReady ((w.ans.doorbell 0).truncate 16) arm =
      w.identifyReady ((w.ans.doorbell 0).truncate 16) arm := rfl
  rw [tryAdminIdentify_eq harm', hready, postsIdentify, harm, Option.any_some, decide_eq_true hchange, Bool.true_and]
  cases w.identifyReady ((w.ans.doorbell 0).truncate 16) arm with
  | none => exact ⟨_, writeCalls_quiet ⟨rfl, rfl, rfl⟩ rfl rfl rfl⟩
  | some prp1 =>
    have hlevel : (!decide (w.ans.intm &&& irqAdminCq ≠ 0#32)) =
        (w.ringSqTail value).ans.clearAdminIdentify.completionPosted.irqCheck := by
      have hmask : (w.ringSqTail value).ans.clearAdminIdentify.completionPosted.intm = w.ans.intm := rfl
      have hstatus : (w.ringSqTail value).ans.clearAdminIdentify.completionPosted.irqStatus.getLsbD 0 = true := by
        simp [VfAns.completionPosted]
      rw [irqCheck_eq, hmask, hstatus, Bool.true_and, ← decide_irqAdminCq]
    exact ⟨_, writeCalls_sync ⟨rfl, rfl, rfl⟩ rfl (congrArg some hlevel)⟩

lemma write_calls {w w' : AnsWorld ι α μ} {off width : ℕ} {value : U32} (h : w.write off width value = some w') :
    ∃ v, WriteCalls w w' (w.writeLevel off width value) v := by
  rw [write] at h
  rw [writeLevel]
  cases hin : VfAns.outOfBounds off width with
  | true => simp [hin] at h
  | false =>
    simp only [hin, Bool.false_eq_true, if_false] at h ⊢
    cases hdb : VfAns.dbIndex off with
    | some dbi =>
      simp only [hdb] at h ⊢
      by_cases hsq : dbi = 0
      · subst hsq
        rw [if_pos rfl]
        by_cases hring : value &&& dbValueMask ≠ w.ans.doorbell 0 ∧ w.ans.adminId.isSome
        · rw [if_pos ⟨rfl, hring⟩, Option.some.injEq] at h
          rw [← h]
          exact tryAdminIdentify_calls hring.1 hring.2
        · have hposts : w.postsIdentify value = false := by
            rw [Bool.eq_false_iff]
            intro hposts
            obtain ⟨hchange, hany⟩ := Bool.and_eq_true_iff.mp hposts
            refine hring ⟨of_decide_eq_true hchange, ?_⟩
            cases harm : w.ans.adminId with
            | none => rw [harm] at hany; exact hany
            | some arm => rfl
          rw [if_neg fun hc => hring hc.2, if_neg (by decide), Option.some.injEq] at h
          rw [← h, hposts]
          exact ⟨_, writeCalls_quiet ⟨rfl, rfl, rfl⟩ rfl rfl rfl⟩
      · rw [if_neg hsq]
        rw [if_neg fun hc => hsq hc.1] at h
        by_cases hcq : dbi = 1
        · subst hcq
          rw [if_pos rfl]
          rw [if_pos rfl, Option.some.injEq] at h
          rw [← h]
          exact ⟨_, writeCalls_sync ⟨rfl, rfl, rfl⟩ rfl (congrArg some (refresh_level w _).symm)⟩
        · rw [if_neg hcq]
          rw [if_neg hcq, Option.some.injEq] at h
          rw [← h]
          exact ⟨_, writeCalls_quiet ⟨rfl, rfl, rfl⟩ rfl rfl rfl⟩
    | none =>
      simp only [hdb] at h ⊢
      by_cases hms : off = regIntms
      · rw [if_pos hms] at h ⊢
        rw [Option.some.injEq] at h
        rw [← h]
        exact ⟨_, writeCalls_sync ⟨rfl, rfl, rfl⟩ rfl rfl⟩
      · rw [if_neg hms] at h ⊢
        by_cases hmc : off = regIntmc
        · rw [if_pos hmc] at h ⊢
          rw [Option.some.injEq] at h
          rw [← h]
          exact ⟨_, writeCalls_sync ⟨rfl, rfl, rfl⟩ rfl rfl⟩
        · rw [if_neg hmc] at h ⊢
          by_cases hcc : off = regCc
          · rw [if_pos hcc] at h ⊢
            rw [Option.some.injEq] at h
            rw [← h, applyCcEnable]
            refine ⟨_, writeCalls_sync ⟨rfl, rfl, rfl⟩ ?_ ?_⟩
            · dsimp only
              split_ifs <;> rfl
            · by_cases hen : value &&& ccEn ≠ 0#32
              · rw [if_pos hen, decide_eq_true hen, Bool.true_and]
                rfl
              · have hclear : decide (0#32 &&& ~~~0#32 &&& irqAdminCq ≠ 0#32) = false := by decide
                rw [if_neg hen, decide_eq_false hen, Bool.false_and]
                exact congrArg some hclear.symm
          · rw [if_neg hcc] at h ⊢
            obtain ⟨ans, hans, rfl⟩ := Option.map_eq_some_iff.mp h
            have hstored := VfAns.stored_writeStored hans
            exact ⟨_, writeCalls_quiet ⟨rfl, rfl, rfl⟩ hstored.pci hstored.irqCheck rfl⟩

lemma writeLevel_of_refused {w : AnsWorld ι α μ} {off width : ℕ} {value : U32} (h : w.write off width value = none) :
    w.writeLevel off width value = none := by
  rw [write] at h
  rw [writeLevel]
  cases hin : VfAns.outOfBounds off width with
  | true => rfl
  | false =>
    simp only [hin, Bool.false_eq_true, if_false] at h ⊢
    cases hdb : VfAns.dbIndex off with
    | some dbi =>
      simp only [hdb] at h
      split_ifs at h
    | none =>
      simp only [hdb] at h ⊢
      split_ifs at h with hms hmc hcc
      rw [if_neg hms, if_neg hmc, if_neg hcc]

def boundAfter (w : AnsWorld ι α μ) : AnsOp ι α μ → Option ι
  | .bindPci pci => pci
  | _ => w.ans.pci

structure StepCalls (w w' : AnsWorld ι α μ) (op : AnsOp ι α μ) (v : AnsWorld ι α μ) : Prop where
  prepared : Prepared w v
  calls : w' = (w.calls op).foldl callOn v
  bound : v.ans.pci = w.boundAfter op
  irqCheck : ∀ i, v.ans.pci = some i →
    (∃ before, w.calls op = before ++ [(i, .setIrq v.ans.irqCheck)]) ∨
      v.ans.irqCheck = w.ans.irqCheck ∧ w.ans.pci = some i ∧ ∀ b, (i, .setIrq b) ∈ w.calls op → op = .pciSetIrq i b

lemma stepCalls_ans {w : AnsWorld ι α μ} {a : VfAns ι} {op : AnsOp ι α μ} (hpci : a.pci = w.ans.pci)
    (hirq : a.irqCheck = w.ans.irqCheck) (hcalls : w.calls op = []) (hbound : w.boundAfter op = w.ans.pci) :
    StepCalls w { w with ans := a } op { w with ans := a } :=
  ⟨⟨rfl, rfl, rfl⟩, by rw [hcalls, List.foldl_nil], hpci.trans hbound.symm,
    fun _ hi => .inr ⟨hirq, hpci.symm.trans hi, fun _ hb => by simp [hcalls] at hb⟩⟩

lemma stepCalls_call {w w' : AnsWorld ι α μ} {c : ι × PciCall α μ} {op : AnsOp ι α μ} (hcalls : w.calls op = [c])
    (hw' : w' = w.callOn c) (hbound : w.boundAfter op = w.ans.pci) (hlevel : ∀ i b, c = (i, .setIrq b) → op = .pciSetIrq i b) :
    StepCalls w w' op w := by
  refine ⟨.refl w, by rw [hcalls, hw', List.foldl_cons, List.foldl_nil], hbound.symm, fun i hi => .inr ⟨rfl, hi, ?_⟩⟩
  intro b hb
  rw [hcalls, List.mem_singleton] at hb
  exact hlevel i b hb.symm

lemma onPci_self (w : AnsWorld ι α μ) (i : ι) : w.onPci i (w.pci i, w.toEnv) = w := by
  rw [onPci, Function.update_eq_self]

lemma step_pciWrite (w : AnsWorld ι α μ) (i : ι) (off width : ℕ) (value : U64) :
    (w.step (.pciWrite i off width value)).2 = w.callOn (i, .write off width value) := by
  rw [step, callOn, VfAnsPci.call]
  cases (w.pci i).write w.toEnv off width value with
  | none => exact (w.onPci_self i).symm
  | some r => rfl

lemma onAns_calls {w : AnsWorld ι α μ} {r : Option (VfAns ι)} {op : AnsOp ι α μ}
    (hr : ∀ a ∈ r, a.pci = w.ans.pci ∧ a.irqCheck = w.ans.irqCheck) (hcalls : w.calls op = [])
    (hbound : w.boundAfter op = w.ans.pci) : ∃ v, StepCalls w (w.onAns r).2 op v := by
  cases r with
  | none => exact ⟨w, stepCalls_ans rfl rfl hcalls hbound⟩
  | some a => exact ⟨_, stepCalls_ans (hr a rfl).1 (hr a rfl).2 hcalls hbound⟩

lemma step_calls (w : AnsWorld ι α μ) {op : AnsOp ι α μ} (hop : ∀ change, op ≠ .outside change) :
    ∃ v, StepCalls w (w.step op).2 op v := by
  cases op with
  | ansRead off width => exact ⟨w, stepCalls_ans rfl rfl rfl rfl⟩
  | ansWrite off width value =>
    cases hw : w.write off width value with
    | none =>
      have hcalls : w.calls (.ansWrite off width value) = [] := by
        rw [calls, writeLevel_of_refused hw]
        cases w.ans.pci <;> rfl
      refine ⟨w, ?_⟩
      rw [step, hw]
      exact stepCalls_ans rfl rfl hcalls rfl
    | some w' =>
      obtain ⟨v, hv⟩ := write_calls hw
      refine ⟨v, hv.prepared, ?_, hv.pci, ?_⟩
      · rw [step, hw]
        exact hv.calls
      · intro i hi
        rcases hv.irqCheck with hlevel | ⟨hlevel, hsame⟩
        · refine .inl ⟨[], ?_⟩
          rw [calls, hlevel, ← hv.pci, hi]
          rfl
        · refine .inr ⟨hsame, hv.pci.symm.trans hi, ?_⟩
          intro b hb
          rw [calls, hlevel] at hb
          cases hpci : w.ans.pci <;> simp [hpci, levelCalls] at hb
  | bindPci pci =>
    refine ⟨{ w with ans := { w.ans with pci := pci } }, ⟨rfl, rfl, rfl⟩, ?_, rfl, ?_⟩
    · rw [step, accept, bindPci, calls]
      cases w.ans.pci with
      | none => exact syncPciIrq_calls _
      | some old =>
        by_cases hold : pci = some old
        · simp only [if_pos hold]
          exact syncPciIrq_calls _
        · simp only [if_neg hold]
          exact syncPciIrq_calls _
    · intro i hi
      obtain rfl : pci = some i := hi
      exact .inl ⟨_, rfl⟩
  | gates mbox ascwrap autoboot => exact onAns_calls (fun a ha => Option.some.inj ha ▸ ⟨rfl, rfl⟩) rfl rfl
  | setIsAppleAns enabled => exact onAns_calls (fun a ha => Option.some.inj ha ▸ ⟨rfl, rfl⟩) rfl rfl
  | arm opcode cns buf cqBuf =>
    refine onAns_calls ?_ rfl rfl
    intro a ha
    rw [Option.mem_def, VfAns.armAdminIdentify] at ha
    split_ifs at ha
    rw [← Option.some.inj ha]
    exact ⟨rfl, rfl⟩
  | disarm => exact onAns_calls (fun a ha => Option.some.inj ha ▸ ⟨rfl, rfl⟩) rfl rfl
  | bindAdminAsq mem => exact onAns_calls (forall_mem_admitWindow fun m => ⟨rfl, rfl⟩) rfl rfl
  | bindAdminAcq mem => exact onAns_calls (forall_mem_admitWindow fun m => ⟨rfl, rfl⟩) rfl rfl
  | bindIdentifyPrp1 mem => exact onAns_calls (forall_mem_admitWindow fun m => ⟨rfl, rfl⟩) rfl rfl
  | bindIdentifyPrp2 mem => exact onAns_calls (forall_mem_admitWindow fun m => ⟨rfl, rfl⟩) rfl rfl
  | pciRead i off width => exact ⟨w, stepCalls_ans rfl rfl rfl rfl⟩
  | pciWrite i off width value =>
    exact ⟨w, stepCalls_call rfl (w.step_pciWrite i off width value) rfl fun _ _ hc => by cases hc⟩
  | pciSetIrq i level => exact ⟨w, stepCalls_call rfl rfl rfl fun _ _ hc => by cases hc; rfl⟩
  | pciEnableMemoryBusMaster i => exact ⟨w, stepCalls_call rfl rfl rfl fun _ _ hc => by cases hc⟩
  | pciBindMsiGpa i mem base =>
    refine ⟨w, stepCalls_call rfl ?_ rfl fun _ _ hc => by cases hc⟩
    rw [step, callOn, VfAnsPci.call]
    cases (w.pci i).bindMsiGpa mem base with
    | none => exact (w.onPci_self i).symm
    | some s => rfl
  | pciBindMsiMessage i fn => exact ⟨w, stepCalls_call rfl rfl rfl fun _ _ hc => by cases hc⟩
  | pciBindAic i fn => exact ⟨w, stepCalls_call rfl rfl rfl fun _ _ hc => by cases hc⟩
  | outside change => exact absurd rfl (hop change)

def AllRouted (w : AnsWorld ι α μ) : Prop := ∀ i, (w.pci i).Routed

omit [DecidableEq ι] in
lemma allRouted_init (env : Env α μ) : AllRouted (init env : AnsWorld ι α μ) :=
  fun _ => (VfAnsPci.routed_iff _).mpr ⟨by simp [init, VfAnsPci.init], by simp [init, VfAnsPci.init], by simp [init, VfAnsPci.init]⟩

lemma callOn_routed {w : AnsWorld ι α μ} (h : w.AllRouted) (c : ι × PciCall α μ) : (w.callOn c).AllRouted := by
  intro i
  rw [callOn, onPci]
  dsimp only
  rcases eq_or_ne i c.1 with rfl | hne
  · rw [Function.update_self]
    by_cases hc : ∃ fn, c.2 = .bindAic fn
    · obtain ⟨fn, hfn⟩ := hc
      rw [hfn]
      exact (VfAnsPci.bindAic_called (h _) w.toEnv fn).1
    · exact (VfAnsPci.called_call (h _) w.toEnv (not_exists.mp hc)).routed
  · rw [Function.update_of_ne hne]
    exact h i

lemma callAll_routed (cs : List (ι × PciCall α μ)) {w : AnsWorld ι α μ} (h : w.AllRouted) :
    (cs.foldl callOn w).AllRouted := by
  induction cs generalizing w with
  | nil => exact h
  | cons c cs ih => exact ih (callOn_routed h c)

lemma step_routed {w : AnsWorld ι α μ} (h : w.AllRouted) (op : AnsOp ι α μ) : (w.step op).2.AllRouted := by
  by_cases hop : ∃ change, op = .outside change
  · obtain ⟨change, rfl⟩ := hop
    exact h
  · obtain ⟨v, hv⟩ := step_calls w (not_exists.mp hop)
    rw [hv.calls]
    apply callAll_routed
    intro i
    rw [hv.prepared.pci]
    exact h i

lemma callAll_ans (cs : List (ι × PciCall α μ)) (w : AnsWorld ι α μ) : (cs.foldl callOn w).ans = w.ans := by
  induction cs generalizing w with
  | nil => rfl
  | cons c cs ih => exact ih (w.callOn c)

lemma callOn_of_ne (w : AnsWorld ι α μ) (c : ι × PciCall α μ) {i : ι} (h : i ≠ c.1) : (w.callOn c).pci i = w.pci i :=
  Function.update_of_ne h _ _

lemma callOn_self (w : AnsWorld ι α μ) (i : ι) (c : PciCall α μ) :
    (w.callOn (i, c)).pci i = ((w.pci i).call w.toEnv c).1 := Function.update_self i _ _

lemma callOn_delivery {w : AnsWorld ι α μ} (h : w.AllRouted) (i : ι) (c : PciCall α μ) :
    ((w.callOn (i, c)).pci i).deliveryPendingLevel = c.level (w.pci i).deliveryPendingLevel := by
  rw [callOn_self, VfAnsPci.call_delivery (h i)]

lemma callAll_delivery {i : ι} (cs : List (ι × PciCall α μ)) (hcs : ∀ b, (i, .setIrq b) ∉ cs) {w : AnsWorld ι α μ}
    (h : w.AllRouted) : ((cs.foldl callOn w).pci i).deliveryPendingLevel = (w.pci i).deliveryPendingLevel := by
  induction cs generalizing w with
  | nil => rfl
  | cons c cs ih =>
    have hhead : ((w.callOn c).pci i).deliveryPendingLevel = (w.pci i).deliveryPendingLevel := by
      obtain ⟨j, c⟩ := c
      rcases eq_or_ne i j with rfl | hne
      · rw [callOn_delivery h]
        cases c with
        | setIrq b => exact absurd List.mem_cons_self (hcs b)
        | _ => rfl
      · rw [callOn_of_ne w (j, c) hne]
    rw [List.foldl_cons, ih (fun b hb => hcs b (List.mem_cons_of_mem _ hb)) (callOn_routed h c), hhead]

def Bound (i : ι) (w : AnsWorld ι α μ) : Prop :=
  w.ans.pci = some i ∧ (w.pci i).deliveryPendingLevel = w.ans.irqCheck

end AnsWorld

def AnsOp.KeepsBinding (i : ι) : AnsOp ι α μ → Prop
  | .bindPci pci => pci = some i
  | .pciSetIrq j _ => j ≠ i
  | _ => True

namespace AnsWorld

open Ans

lemma prepared_routed {w v : AnsWorld ι α μ} (hp : Prepared w v) (h : w.AllRouted) : v.AllRouted := by
  intro j
  rw [hp.pci]
  exact h j

variable [DecidableEq ι]

lemma bound_of_last {w w' v : AnsWorld ι α μ} {op : AnsOp ι α μ} (h : w.AllRouted) (hv : StepCalls w w' op v) {i : ι}
    (hi : v.ans.pci = some i) {before : List (ι × PciCall α μ)}
    (hlast : w.calls op = before ++ [(i, .setIrq v.ans.irqCheck)]) : Bound i w' := by
  rw [hv.calls, hlast, List.foldl_append, List.foldl_cons, List.foldl_nil]
  refine ⟨?_, ?_⟩
  · exact (congrArg VfAns.pci (callAll_ans before v)).trans hi
  · rw [callOn_delivery (callAll_routed before (prepared_routed hv.prepared h))]
    exact (congrArg VfAns.irqCheck (callAll_ans before v)).symm

lemma step_bound {i : ι} {w : AnsWorld ι α μ} (h : w.AllRouted) (hb : Bound i w) {op : AnsOp ι α μ}
    (hop : op.KeepsBinding i) : Bound i (w.step op).2 := by
  by_cases hout : ∃ change, op = .outside change
  · obtain ⟨change, rfl⟩ := hout
    exact hb
  · obtain ⟨v, hv⟩ := step_calls w (not_exists.mp hout)
    have hi : v.ans.pci = some i := by
      rw [hv.bound]
      cases op with
      | bindPci pci => exact hop
      | _ => exact hb.1
    rcases hv.irqCheck i hi with ⟨before, hlast⟩ | ⟨hirq, -, hnone⟩
    · exact bound_of_last h hv hi hlast
    · have hquiet : ∀ b, (i, .setIrq b) ∉ w.calls op := by
        intro b hmem
        obtain rfl := hnone b hmem
        exact hop rfl
      refine ⟨?_, ?_⟩
      · rw [hv.calls, callAll_ans]
        exact hi
      · rw [hv.calls, callAll_delivery _ hquiet (prepared_routed hv.prepared h), callAll_ans, hv.prepared.pci, hirq]
        exact hb.2

lemma step_bindPci_bound {w : AnsWorld ι α μ} (h : w.AllRouted) (i : ι) : Bound i (w.step (.bindPci (some i))).2 := by
  have hop : ∀ change, (.bindPci (some i) : AnsOp ι α μ) ≠ .outside change := fun _ hc => by cases hc
  obtain ⟨v, hv⟩ := step_calls w hop
  have hi : v.ans.pci = some i := hv.bound
  rcases hv.irqCheck i hi with ⟨before, hlast⟩ | ⟨hirq, -⟩
  · exact bound_of_last h hv hi hlast
  · exact bound_of_last h hv hi (congrArg _ (congrArg (fun b => [(i, PciCall.setIrq b)]) hirq.symm))

end AnsWorld

def Drives (level : α → Bool) (fn : α → ℕ → Bool → Bool × α) : Prop :=
  ∀ aic high, (fn aic AnsPci.aicStorageIrqLine high).1 = true ∧ level (fn aic AnsPci.aicStorageIrqLine high).2 = high

def Leaves (level : α → Bool) (fn : α → ℕ → Bool → Bool × α) : Prop :=
  ∀ aic line high, level (fn aic line high).2 = level aic

variable [DecidableEq ι]

def KeepsSink (level : α → Bool) (i j : ι) (fn : Option (α → ℕ → Bool → Bool × α)) : Prop :=
  if j = i then ∃ f, fn = some f ∧ Drives level f else ∀ f ∈ fn, Leaves level f

def AnsOp.KeepsLine (level : α → Bool) (i : ι) : AnsOp ι α μ → Prop
  | .pciBindAic j fn => KeepsSink level i j fn
  | .outside change => ∀ e, level (change e).aic = level e.aic
  | _ => True

namespace AnsWorld

structure OnLine (level : α → Bool) (i : ι) (w : AnsWorld ι α μ) : Prop where
  sinks : ∀ j, KeepsSink level i j (w.pci j).aicFn
  line : level w.aic = (w.pci i).deliveryPendingLevel

lemma call_sink {s : VfAnsPci α μ} (h : s.Routed) (e : Env α μ) (c : PciCall α μ) :
    ((∃ fn, c = .bindAic fn ∧ (s.call e c).1.aicFn = fn) ∨ (s.call e c).1.aicFn = s.aicFn) ∧
      ((s.call e c).2.aic = VfAnsPci.sunk (s.call e c).1.aicFn e.aic (s.call e c).1.deliveryPendingLevel ∨
        (s.call e c).2.aic = e.aic ∧ (s.call e c).1.deliveryPendingLevel = s.deliveryPendingLevel) := by
  by_cases hc : ∃ fn, c = .bindAic fn
  · obtain ⟨fn, rfl⟩ := hc
    obtain ⟨-, hdelivery, hfn, haic⟩ := VfAnsPci.bindAic_called h e fn
    refine ⟨.inl ⟨fn, rfl, hfn⟩, .inl ?_⟩
    rw [hfn, hdelivery, haic]
  · obtain ⟨-, hdelivery, hfn, haic⟩ := VfAnsPci.called_call h e (not_exists.mp hc)
    refine ⟨.inr hfn, ?_⟩
    rw [hfn, hdelivery]
    exact haic

lemma onLine_callOn {level : α → Bool} {i : ι} {w : AnsWorld ι α μ} (h : w.AllRouted) (hl : OnLine level i w)
    {j : ι} {c : PciCall α μ} (hc : ∀ fn, c = .bindAic fn → KeepsSink level i j fn) : OnLine level i (w.callOn (j, c)) := by
  obtain ⟨hfn, haic⟩ := call_sink (h j) w.toEnv c
  have hkeeps : KeepsSink level i j ((w.pci j).call w.toEnv c).1.aicFn := by
    rcases hfn with ⟨fn, hbind, hfn⟩ | hfn
    · rw [hfn]
      exact hc fn hbind
    · rw [hfn]
      exact hl.sinks j
  refine ⟨fun k => ?_, ?_⟩
  · rcases eq_or_ne k j with rfl | hne
    · rw [callOn_self]
      exact hkeeps
    · rw [callOn_of_ne w (j, c) hne]
      exact hl.sinks k
  · have haic' : (w.callOn (j, c)).aic = ((w.pci j).call w.toEnv c).2.aic := rfl
    rw [haic']
    rcases eq_or_ne j i with rfl | hne
    · rw [KeepsSink, if_pos rfl] at hkeeps
      obtain ⟨f, hf, hdrives⟩ := hkeeps
      rw [callOn_self]
      rcases haic with hsunk | ⟨hsame, hlevel⟩
      · rw [hsunk, hf]
        exact (hdrives w.aic _).2
      · rw [hsame, hlevel]
        exact hl.line
    · rw [KeepsSink, if_neg hne] at hkeeps
      rw [callOn_of_ne w (j, c) (Ne.symm hne), ← hl.line]
      rcases haic with hsunk | ⟨hsame, -⟩
      · rw [hsunk]
        cases hf : ((w.pci j).call w.toEnv c).1.aicFn with
        | none => rfl
        | some f => exact hkeeps f hf w.aic _ _
      · rw [hsame]

lemma onLine_callAll {level : α → Bool} {i : ι} (cs : List (ι × PciCall α μ))
    (hcs : ∀ j fn, (j, .bindAic fn) ∈ cs → KeepsSink level i j fn) {w : AnsWorld ι α μ} (h : w.AllRouted)
    (hl : OnLine level i w) : OnLine level i (cs.foldl callOn w) := by
  induction cs generalizing w with
  | nil => exact hl
  | cons c cs ih =>
    obtain ⟨j, c⟩ := c
    refine ih (fun k fn hk => hcs k fn (List.mem_cons_of_mem _ hk)) (callOn_routed h _) (onLine_callOn h hl ?_)
    rintro fn rfl
    exact hcs j fn List.mem_cons_self

lemma calls_bindAic {w : AnsWorld ι α μ} {op : AnsOp ι α μ} {j : ι} {fn : Option (α → ℕ → Bool → Bool × α)}
    (h : (j, .bindAic fn) ∈ w.calls op) : op = .pciBindAic j fn := by
  have hlevel : ∀ pci level, (j, .bindAic fn) ∉ (levelCalls pci level : List (ι × PciCall α μ)) := by
    intro pci level
    cases pci <;> cases level <;> simp [levelCalls]
  cases op with
  | ansWrite off width value => exact absurd h (hlevel _ _)
  | bindPci pci =>
    rw [calls, List.mem_append] at h
    rcases h with h | h
    · revert h
      cases w.ans.pci with
      | none => simp
      | some old =>
        dsimp only
        split_ifs <;> simp
    · exact absurd h (hlevel _ _)
  | pciBindAic i f =>
    rw [calls, List.mem_singleton] at h
    cases h
    rfl
  | _ => simp [calls] at h

lemma step_onLine {level : α → Bool} {i : ι} {w : AnsWorld ι α μ} (h : w.AllRouted) (hl : OnLine level i w)
    {op : AnsOp ι α μ} (hop : op.KeepsLine level i) : OnLine level i (w.step op).2 := by
  by_cases hout : ∃ change, op = .outside change
  · obtain ⟨change, rfl⟩ := hout
    exact ⟨hl.sinks, (hop w.toEnv).trans hl.line⟩
  · obtain ⟨v, hv⟩ := step_calls w (not_exists.mp hout)
    rw [hv.calls]
    refine onLine_callAll _ ?_ (prepared_routed hv.prepared h) ⟨?_, ?_⟩
    · intro j fn hmem
      obtain rfl := calls_bindAic hmem
      exact hop
    · intro j
      rw [hv.prepared.pci]
      exact hl.sinks j
    · rw [hv.prepared.aic, hv.prepared.pci]
      exact hl.line

lemma step_bindAic_onLine {level : α → Bool} {i : ι} {w : AnsWorld ι α μ} (h : w.AllRouted)
    {fn : α → ℕ → Bool → Bool × α} (hfn : Drives level fn) (hothers : ∀ j ≠ i, ∀ g ∈ (w.pci j).aicFn, Leaves level g) :
    OnLine level i (w.step (.pciBindAic i (some fn))).2 := by
  have hcall : (w.step (.pciBindAic i (some fn))).2 = w.callOn (i, .bindAic (some fn)) := rfl
  obtain ⟨-, hdelivery, haicFn, haic⟩ := VfAnsPci.bindAic_called (h i) w.toEnv (some fn)
  rw [hcall]
  refine ⟨fun j => ?_, ?_⟩
  · rw [KeepsSink]
    split_ifs with hj
    · subst hj
      rw [callOn_self]
      exact ⟨fn, haicFn, hfn⟩
    · rw [callOn_of_ne w _ hj]
      exact hothers j hj
  · rw [callOn_self, hdelivery]
    exact (congrArg level haic).trans (hfn w.aic _).2

lemma run_routed (ops : List (AnsOp ι α μ)) {w : AnsWorld ι α μ} (h : w.AllRouted) : (Run.final step w ops).AllRouted :=
  Run.final_invariant (I := AllRouted) (C := fun _ => True) (fun _ op hw _ => step_routed hw op) ops
    (fun _ _ => trivial) h

/-- Interrupt routing after any calls. Only the latch of the mode is set. A register
write conserves the level, in the latch of the mode it leaves. While an endpoint stays
bound to the controller it has the controller's level, and while its sink stays bound
the line has the endpoint's level. -/
theorem irq_routing (env : Env α μ) (ops : List (AnsOp ι α μ)) (i : ι) :
    let w := Run.final step (init env) ops
    (w.pci i).Routed ∧
      (∀ off width value,
        let s := (w.step (.pciWrite i off width value)).2.pci i
        s.pendingOf s.mode = (w.pci i).deliveryPendingLevel ∧
          s.deliveryPendingLevel = (w.pci i).deliveryPendingLevel) ∧
      (∀ done rest, ops = done ++ .bindPci (some i) :: rest → (∀ op ∈ rest, op.KeepsBinding i) →
        w.ans.pci = some i ∧ (w.pci i).deliveryPendingLevel = w.ans.irqCheck) ∧
      ∀ (level : α → Bool) fn done rest, ops = done ++ .pciBindAic i (some fn) :: rest → Drives level fn →
        (∀ j ≠ i, ∀ g ∈ ((Run.final step (init env) done).pci j).aicFn, Leaves level g) →
        (∀ op ∈ rest, op.KeepsLine level i) → level w.aic = (w.pci i).deliveryPendingLevel := by
  intro w
  have hrouted : w.AllRouted := run_routed ops (allRouted_init env)
  refine ⟨hrouted i, ?_, ?_, ?_⟩
  · intro off width value s
    have hs : s = ((w.pci i).call w.toEnv (.write off width value)).1 := by
      rw [← callOn_self, ← step_pciWrite]
    have hcalled := VfAnsPci.called_call (hrouted i) w.toEnv (c := .write off width value) (fun _ hc => by cases hc)
    rw [hs]
    exact ⟨hcalled.routed.pendingOf_mode.trans hcalled.delivery, hcalled.delivery⟩
  · rintro done rest rfl hrest
    have hdone : (Run.final step (init env) done).AllRouted := run_routed done (allRouted_init env)
    have hbound := Run.final_invariant (I := fun w => AllRouted w ∧ Bound i w) (C := AnsOp.KeepsBinding i)
      (fun _ op hw hop => ⟨step_routed hw.1 op, step_bound hw.1 hw.2 hop⟩) rest hrest
      ⟨step_routed hdone (.bindPci (some i)), step_bindPci_bound hdone i⟩
    rw [← Run.final, ← Run.final_append] at hbound
    exact hbound.2
  · rintro level fn done rest rfl hfn hothers hrest
    have hdone : (Run.final step (init env) done).AllRouted := run_routed done (allRouted_init env)
    have hline := Run.final_invariant (I := fun w => AllRouted w ∧ OnLine level i w) (C := AnsOp.KeepsLine level i)
      (fun _ op hw hop => ⟨step_routed hw.1 op, step_onLine hw.1 hw.2 hop⟩) rest hrest
      ⟨step_routed hdone (.pciBindAic i (some fn)), step_bindAic_onLine hdone hfn hothers⟩
    rw [← Run.final, ← Run.final_append] at hline
    exact hline.2.line

def completing : List (AnsOp Unit Bool Unit) :=
  [.pciEnableMemoryBusMaster (), .ansWrite Ans.regCc 4 1#32, .arm Ans.opcIdentify Ans.idCnsCtrl ⟨0, 4096⟩ ⟨4096, 16⟩,
    .pciBindAic () (some fun _ _ high => (true, high)), .bindPci (some ()), .ansWrite Ans.dbBase 4 1#32]

def completed : AnsWorld Unit Bool Unit := Run.final step (init ⟨⟨fun _ => 0#8, false⟩, true, ()⟩) completing

def moved : VfAnsPci Bool Unit := (completed.step (.pciWrite () AnsPci.mmioMsixCtrl 32 1#64)).2.pci ()

theorem irq_routing_bound :
    (completed.pci ()).deliveryPendingLevel = true ∧ (completed.pci ()).Routed ∧
      moved.mode = .msix ∧ moved.pendingOf moved.mode = true ∧
      completed.ans.irqCheck = true ∧ completed.aic = true := by
  have hpending : (completed.pci ()).deliveryPendingLevel = true := by decide +kernel
  have hmode : moved.mode = .msix := by decide +kernel
  obtain ⟨hrouted, htoggle, hbound, hline⟩ := irq_routing ⟨⟨fun _ => 0#8, false⟩, true, ()⟩ completing ()
  have hmoved : moved.pendingOf moved.mode = (completed.pci ()).deliveryPendingLevel :=
    (htoggle AnsPci.mmioMsixCtrl 32 1#64).1
  have hlevel := (hbound [_, _, _, _] [_] rfl (by simp [AnsOp.KeepsBinding])).2
  have hdriven := hline id _ [_, _, _] [_, _] rfl (fun _ _ => ⟨rfl, rfl⟩) (fun j hj => absurd rfl hj)
    (by simp [AnsOp.KeepsLine])
  exact ⟨hpending, hrouted, hmode, hmoved.trans hpending, hlevel.symm.trans hpending, hdriven.trans hpending⟩

end AnsWorld

end Nextcore.Device
