import Nextcore.Device.Routing

/-! Message interrupts by edges. While an endpoint delivers by messages and its sink
accepts them, a step writes one message when it gives the endpoint the high level. -/

namespace Nextcore.Device

variable {ι α μ : Type}

namespace VfAnsPci

open AnsPci

def ByMessage (s : VfAnsPci α μ) : Prop := s.msiEnabled = true ∧ s.msixEnabled = false

def Accepts (s : VfAnsPci α μ) : Prop :=
  match s.msiGpa with
  | some gpa => gpa.base ≤ s.msiAddr ∧ (s.msiAddr - gpa.base).toNat + 2 ≤ gpa.mem.len
  | none => ∃ fn, s.msiMessageFn = some fn ∧ ∀ msg addr data, (fn msg addr data).1 = true

lemma syncAic_sent (s : VfAnsPci α μ) (e : Env α μ) : (s.syncAic e).2.1.sent = s.sent := by
  rw [syncAic]
  cases s.aicFn with
  | none => rfl
  | some fn =>
    dsimp only
    split_ifs <;> rfl

lemma tryMsiMessageWrite_sent {s : VfAnsPci α μ} (h : s.Accepts) (e : Env α μ) :
    (s.tryMsiMessageWrite e).2.1.sent = s.sent ++ [(s.msiAddr, s.msiData)] := by
  rw [Accepts] at h
  rw [tryMsiMessageWrite]
  cases hgpa : s.msiGpa with
  | some gpa =>
    simp only [hgpa] at h ⊢
    rw [if_neg (BitVec.not_lt.mpr h.1), if_neg (by omega), if_neg (by omega)]
    rfl
  | none =>
    simp only [hgpa] at h ⊢
    obtain ⟨fn, hfn, haccept⟩ := h
    simp only [hfn, if_pos (haccept _ _ _)]
    rfl

lemma setIrq_sent {s : VfAnsPci α μ} (hmode : s.ByMessage) (h : s.Accepts) (e : Env α μ) (level : Bool) :
    (s.setIrq e level).1.sent = s.sent ++ if level then [(s.msiAddr, s.msiData)] else [] := by
  have hmsix : ¬s.msixEnabled = true := by simp [hmode.2]
  simp only [setIrq, syncAic_sent]
  rw [if_neg hmsix, if_pos hmode.1]
  cases level with
  | false => simp
  | true =>
    have haccepts : ({ s with msiPending := true, intxPending := false, msixPending := false } : VfAnsPci α μ).Accepts := h
    exact tryMsiMessageWrite_sent haccepts e

lemma applyMsiEnable_enabled (s : VfAnsPci α μ) (e : Env α μ) (enable : Bool) :
    (s.applyMsiEnable e enable).1.msiEnabled = enable := by
  rw [applyMsiEnable]
  dsimp only
  split_ifs
  · exact (syncAic_signal _ _).msiEnabled
  · exact ((tryMsiMessageWrite_signal _ _).trans (syncAic_signal _ _)).msiEnabled
  · exact (syncAic_signal _ _).msiEnabled
  · exact (syncAic_signal _ _).msiEnabled
  · exact (syncAic_signal _ _).msiEnabled
  · exact (syncAic_signal _ _).msiEnabled

lemma applyMsixEnable_enabled (s : VfAnsPci α μ) (e : Env α μ) (enable : Bool) :
    (s.applyMsixEnable e enable).1.msixEnabled = enable := by
  rw [applyMsixEnable]
  dsimp only
  split_ifs
  · exact (syncAic_signal _ _).msixEnabled
  · exact (syncAic_signal _ _).msixEnabled
  · exact ((tryMsiMessageWrite_signal _ _).trans (syncAic_signal _ _)).msixEnabled
  · exact (syncAic_signal _ _).msixEnabled
  · exact (syncAic_signal _ _).msixEnabled
  · exact (syncAic_signal _ _).msixEnabled

lemma applyMsiEnable_sent {s : VfAnsPci α μ} (hmode : s.ByMessage) (e : Env α μ) :
    (s.applyMsiEnable e true).1.sent = s.sent := by
  simp only [applyMsiEnable, hmode.1, hmode.2, Bool.false_eq_true, if_false, Bool.not_true, Bool.false_and, Bool.and_false,
    syncAic_sent]

lemma applyMsixEnable_sent {s : VfAnsPci α μ} (hmode : s.ByMessage) (e : Env α μ) :
    (s.applyMsixEnable e false).1.sent = s.sent := by
  simp only [applyMsixEnable, hmode.2, Bool.false_eq_true, if_false, Bool.not_false, Bool.false_and, Bool.and_false,
    syncAic_sent]

lemma write_sent {s : VfAnsPci α μ} (hmode : s.ByMessage) {e : Env α μ} {off width : ℕ} {value : U64}
    (hafter : ((s.write e off width value).getD (s, e)).1.ByMessage) :
    ((s.write e off width value).getD (s, e)).1.sent = s.sent := by
  revert hafter
  rw [write]
  split_ifs <;> rw [Option.getD]
  · exact fun _ => rfl
  · exact fun _ => rfl
  · intro hafter
    have henable := hafter.1
    rw [applyMsiEnable_enabled] at henable
    rw [henable, applyMsiEnable_sent hmode]
  · exact fun _ => rfl
  · exact fun _ => rfl
  · exact fun _ => rfl
  · exact fun _ => rfl
  · exact fun _ => rfl
  · intro hafter
    have henable := hafter.2
    rw [applyMsixEnable_enabled] at henable
    rw [henable, applyMsixEnable_sent hmode]
  · exact fun _ => rfl
  · exact fun _ => rfl
  · exact fun _ => rfl
  · exact fun _ => rfl

def messages (s : VfAnsPci α μ) : PciCall α μ → List (U64 × U16)
  | .setIrq true => [(s.msiAddr, s.msiData)]
  | _ => []

lemma call_sent {s : VfAnsPci α μ} (hmode : s.ByMessage) (h : s.Accepts) {e : Env α μ} {c : PciCall α μ}
    (hafter : (s.call e c).1.ByMessage) : (s.call e c).1.sent = s.sent ++ s.messages c := by
  cases c with
  | setIrq level =>
    rw [call, setIrq_sent hmode h]
    cases level <;> rfl
  | write off width value => exact (write_sent hmode hafter).trans (List.append_nil _).symm
  | enableMemoryBusMaster => exact (List.append_nil _).symm
  | bindMsiGpa mem base =>
    cases mem with
    | none => exact (List.append_nil _).symm
    | some span =>
      simp only [call, bindMsiGpa]
      split_ifs <;> exact (List.append_nil _).symm
  | bindMsiMessage fn => exact (List.append_nil _).symm
  | bindAic fn =>
    refine Eq.trans ?_ (List.append_nil _).symm
    cases fn with
    | none => rfl
    | some fn => exact syncAic_sent _ e

end VfAnsPci

namespace AnsWorld

variable [DecidableEq ι]

lemma callAll_of_notMem {i : ι} (cs : List (ι × PciCall α μ)) (hcs : ∀ c, (i, c) ∉ cs) (w : AnsWorld ι α μ) :
    (cs.foldl callOn w).pci i = w.pci i := by
  induction cs generalizing w with
  | nil => rfl
  | cons c cs ih =>
    obtain ⟨j, c⟩ := c
    have hne : i ≠ j := by
      rintro rfl
      exact hcs c List.mem_cons_self
    rw [List.foldl_cons, ih fun c hc => hcs c (List.mem_cons_of_mem _ hc)]
    exact callOn_of_ne w (j, c) hne

def OneCall (i : ι) (cs : List (ι × PciCall α μ)) : Prop :=
  (∀ c, (i, c) ∉ cs) ∨ ∃ before c after, cs = before ++ (i, c) :: after ∧ (∀ c, (i, c) ∉ before) ∧ ∀ c, (i, c) ∉ after

omit [DecidableEq ι] in
lemma oneCall_singleton (i : ι) (c : ι × PciCall α μ) : OneCall i [c] := by
  obtain ⟨j, c⟩ := c
  by_cases hj : i = j
  · subst hj
    exact .inr ⟨[], c, [], rfl, by simp, by simp⟩
  · exact .inl fun d hd => hj (by simpa using congrArg Prod.fst (List.mem_singleton.mp hd))

omit [DecidableEq ι] in
lemma oneCall_cons {i j : ι} (hij : i ≠ j) (c : PciCall α μ) {cs : List (ι × PciCall α μ)} (h : OneCall i cs) :
    OneCall i ((j, c) :: cs) := by
  have hhead : ∀ d, (i, d) ≠ (j, c) := fun d hd => hij (congrArg Prod.fst hd)
  rcases h with hnone | ⟨before, d, after, rfl, hbefore, hafter⟩
  · refine .inl fun d hd => ?_
    rcases List.mem_cons.mp hd with hd | hd
    · exact hhead d hd
    · exact hnone d hd
  · refine .inr ⟨(j, c) :: before, d, after, rfl, fun e he => ?_, hafter⟩
    rcases List.mem_cons.mp he with he | he
    · exact hhead e he
    · exact hbefore e he

omit [DecidableEq ι] in
lemma oneCall_levelCalls (i : ι) (pci : Option ι) (level : Option Bool) :
    OneCall i (levelCalls pci level : List (ι × PciCall α μ)) := by
  cases pci with
  | none => exact .inl (by simp [levelCalls])
  | some j =>
    cases level with
    | none => exact .inl (by simp [levelCalls])
    | some b => exact oneCall_singleton i _

lemma oneCall_calls (w : AnsWorld ι α μ) (op : AnsOp ι α μ) (i : ι) : OneCall i (w.calls op) := by
  cases op with
  | ansWrite off width value => exact oneCall_levelCalls i _ _
  | bindPci pci =>
    rw [calls]
    cases hold : w.ans.pci with
    | none => exact oneCall_levelCalls i _ _
    | some old =>
      by_cases hsame : pci = some old
      · simp only [if_pos hsame]
        exact oneCall_levelCalls i _ _
      · simp only [if_neg hsame]
        by_cases hi : i = old
        · subst hi
          refine .inr ⟨[], _, _, rfl, by simp, ?_⟩
          cases pci with
          | none => simp [levelCalls]
          | some j =>
            have hne : j ≠ i := fun h => hsame (congrArg some h)
            simp [levelCalls, hne.symm]
        · exact oneCall_cons hi _ (oneCall_levelCalls i _ _)
  | ansRead | gates | setIsAppleAns | arm | disarm | bindAdminAsq | bindAdminAcq | bindIdentifyPrp1 | bindIdentifyPrp2
  | pciRead | outside => exact .inl (by simp [calls])
  | pciWrite | pciSetIrq | pciEnableMemoryBusMaster | pciBindMsiGpa | pciBindMsiMessage | pciBindAic =>
    exact oneCall_singleton i _

lemma step_endpoint (w : AnsWorld ι α μ) (op : AnsOp ι α μ) (i : ι) :
    ((∀ c, (i, c) ∉ w.calls op) ∧ (w.step op).2.pci i = w.pci i) ∨
      ∃ c e, (∀ d, (i, d) ∈ w.calls op ↔ d = c) ∧ (w.step op).2.pci i = ((w.pci i).call e c).1 := by
  by_cases hout : ∃ change, op = .outside change
  · obtain ⟨change, rfl⟩ := hout
    exact .inl ⟨by simp [calls], rfl⟩
  · obtain ⟨v, hv⟩ := step_calls w (not_exists.mp hout)
    rcases oneCall_calls w op i with hnone | ⟨before, c, after, hcalls, hbefore, hafter⟩
    · refine .inl ⟨hnone, ?_⟩
      rw [hv.calls, callAll_of_notMem _ hnone, hv.prepared.pci]
    · refine .inr ⟨c, (before.foldl callOn v).toEnv, fun d => ?_, ?_⟩
      · rw [hcalls]
        constructor
        · intro hd
          rcases List.mem_append.mp hd with hd | hd
          · exact absurd hd (hbefore d)
          · rcases List.mem_cons.mp hd with hd | hd
            · exact (Prod.mk.inj hd).2
            · exact absurd hd (hafter d)
        · rintro rfl
          exact List.mem_append_right _ List.mem_cons_self
      · rw [hv.calls, hcalls, List.foldl_append, List.foldl_cons, callAll_of_notMem after hafter, callOn_self,
          callAll_of_notMem before hbefore, hv.prepared.pci]

def Resyncs (i : ι) (w : AnsWorld ι α μ) (op : AnsOp ι α μ) : Prop :=
  (i, .setIrq true) ∈ w.calls op ∧ (w.pci i).deliveryPendingLevel = true

def OncePerEdge (i : ι) (w w' : AnsWorld ι α μ) : Prop :=
  (w'.pci i).sent = (w.pci i).sent ++
    if !(w.pci i).deliveryPendingLevel && (w'.pci i).deliveryPendingLevel then
      [((w.pci i).msiAddr, (w.pci i).msiData)]
    else []

lemma step_edge {w : AnsWorld ι α μ} (h : w.AllRouted) {i : ι} (hmode : (w.pci i).ByMessage) (haccept : (w.pci i).Accepts)
    {op : AnsOp ι α μ} (hafter : ((w.step op).2.pci i).ByMessage) :
    OncePerEdge i w (w.step op).2 ↔ ¬Resyncs i w op := by
  rw [OncePerEdge, Resyncs]
  rcases step_endpoint w op i with ⟨hnone, hsame⟩ | ⟨c, e, hcall, hsame⟩
  · simp [hsame, hnone]
  · rw [hsame] at hafter
    rw [hsame, VfAnsPci.call_sent hmode haccept hafter, VfAnsPci.call_delivery (h i), hcall]
    cases c with
    | setIrq level => cases level <;> simp [VfAnsPci.messages, PciCall.level]
    | _ => simp [VfAnsPci.messages, PciCall.level]

/-- In a run in which an endpoint delivers by messages to a sink that accepts them, the
messages are those of the rising edges exactly when no step gives the endpoint the high
level again. -/
theorem msi_once_per_edge_iff (env : Env α μ) (setup ops : List (AnsOp ι α μ)) (i : ι)
    (hlive : ∀ x ∈ Run.log step (Run.final step (init env) setup) ops,
      (x.before.pci i).ByMessage ∧ (x.before.pci i).Accepts ∧ (x.after.pci i).ByMessage) :
    (∀ x ∈ Run.log step (Run.final step (init env) setup) ops, OncePerEdge i x.before x.after) ↔
      ∀ x ∈ Run.log step (Run.final step (init env) setup) ops, ¬Resyncs i x.before x.event := by
  have hrouted : (Run.final step (init env) setup : AnsWorld ι α μ).AllRouted := run_routed setup (allRouted_init env)
  refine forall₂_congr fun x hx => ?_
  obtain ⟨hbefore, hentry⟩ := Run.mem_log (I := AllRouted) (fun _ op hw => step_routed hw op) ops hrouted hx
  obtain ⟨hmode, haccept, hafter⟩ := hlive x hx
  rw [hentry] at hafter ⊢
  exact step_edge hbefore hmode haccept hafter

def countSink : Option (ℕ → U64 → U16 → Bool × ℕ) := some fun n _ _ => (true, n + 1)

def messageSetup : List (AnsOp Unit Unit ℕ) :=
  [.pciBindMsiMessage () countSink, .pciWrite () AnsPci.mmioMsiCtrl 32 1#64, .pciEnableMemoryBusMaster (),
    .bindPci (some ()), .ansWrite Ans.regCc 4 1#32,
    .arm Ans.opcIdentify Ans.idCnsCtrl ⟨0, 4096⟩ ⟨4096, 16⟩]

def messageWorld : AnsWorld Unit Unit ℕ := Run.final step (init ⟨⟨fun _ => 0#8, false⟩, (), 0⟩) messageSetup

lemma live_of_bound {s : VfAnsPci Unit ℕ} (hmode : s.msiEnabled = true ∧ s.msixEnabled = false) (hgpa : s.msiGpa = none)
    (hfn : s.msiMessageFn = countSink) : s.ByMessage ∧ s.Accepts := by
  refine ⟨hmode, ?_⟩
  rw [VfAnsPci.Accepts, hgpa]
  exact ⟨_, hfn, fun _ _ _ => rfl⟩

/-- The completion is one rising edge; clearing no mask bit after it writes the message
again. -/
theorem msi_message_repeated :
    (∀ x ∈ Run.log step messageWorld [.ansWrite Ans.dbBase 4 1#32, .ansWrite Ans.regIntmc 4 0#32],
      (x.before.pci ()).ByMessage ∧ (x.before.pci ()).Accepts ∧ (x.after.pci ()).ByMessage) ∧
      ¬∀ x ∈ Run.log step messageWorld [.ansWrite Ans.dbBase 4 1#32, .ansWrite Ans.regIntmc 4 0#32],
        OncePerEdge () x.before x.after := by
  simp only [Run.log, List.forall_mem_cons, List.not_mem_nil, false_implies, implies_true, and_true]
  refine ⟨⟨?_, ?_⟩, ?_⟩
  · obtain ⟨hmode, haccept⟩ := live_of_bound (s := messageWorld.pci ()) (by decide +kernel) rfl rfl
    exact ⟨hmode, haccept, by unfold VfAnsPci.ByMessage; decide +kernel⟩
  · obtain ⟨hmode, haccept⟩ := live_of_bound (s := (messageWorld.step (.ansWrite Ans.dbBase 4 1#32)).2.pci ())
      (by decide +kernel) rfl rfl
    exact ⟨hmode, haccept, by unfold VfAnsPci.ByMessage; decide +kernel⟩
  · unfold OncePerEdge
    decide +kernel

theorem msi_once_per_edge_unmasked :
    (Run.log step messageWorld [.ansWrite Ans.dbBase 4 1#32]).Forall fun x => OncePerEdge () x.before x.after := by
  refine List.forall_iff_forall_mem.mpr ?_
  refine (msi_once_per_edge_iff _ messageSetup [.ansWrite Ans.dbBase 4 1#32] () ?_).mpr ?_
  · simp only [Run.log, List.forall_mem_cons, List.not_mem_nil, false_implies, implies_true, and_true]
    obtain ⟨hmode, haccept⟩ := live_of_bound (s := messageWorld.pci ()) (by decide +kernel) rfl rfl
    exact ⟨hmode, haccept, by unfold VfAnsPci.ByMessage; decide +kernel⟩
  · simp only [Run.log, List.forall_mem_cons, List.not_mem_nil, false_implies, implies_true, and_true]
    exact fun h => absurd h.2 (by decide +kernel)

end AnsWorld

end Nextcore.Device
