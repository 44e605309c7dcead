import Nextcore.Device.Bridge
import Nextcore.Device.Edge
import Nextcore.Device.Event

/-! What a step of the bridge does to the lines of the AIC and to the interrupts of the
devices behind them. -/

namespace Nextcore.Device

namespace VfAic

structure SameLines (a a' : VfAic) : Prop where
  level : a'.level = a.level
  irqCount : a'.irqCount = a.irqCount

lemma line_setLine {a a' : VfAic} {irq : ℕ} {high : Bool} (h : a.setLine irq high = some a') :
    line a'.level = Function.update (line a.level) irq high ∧ a'.irqCount = a.irqCount := by
  have hirq : ¬a.irqCount ≤ irq := fun hle => by simp [setLine, if_pos hle] at h
  rw [setLine, if_neg hirq] at h
  rw [← Option.some.inj h]
  refine ⟨funext fun i => ?_, rfl⟩
  rw [Function.update_apply]
  cases high with
  | true =>
    rw [if_pos rfl, line_set]
    by_cases hi : i = irq <;> simp [hi]
  | false =>
    rw [if_neg Bool.false_ne_true, line_clear]
    by_cases hi : i = irq <;> simp [hi]

lemma setLine_exists {a : VfAic} {irq : ℕ} (hirq : irq < a.irqCount) (high : Bool) : ∃ a', a.setLine irq high = some a' := by
  rw [setLine, if_neg (Nat.not_le.mpr hirq)]
  exact ⟨_, rfl⟩

lemma line_resetState (a : VfAic) : line a.resetState.level = fun _ => false := by
  funext i
  rw [line, resetState, BitVec.getLsbD_zero]

lemma sameLines_writeBank {a a' : VfAic} {off op : ℕ} {value : U32} (h : a.writeBank off value op = some a') :
    SameLines a a' := by
  rw [writeBank] at h
  dsimp only at h
  split_ifs at h <;> exact (Option.some.inj h) ▸ ⟨rfl, rfl⟩

lemma sameLines_read {a a' : VfAic} {cpu off width : ℕ} {value : U32} (h : a.read cpu off width = some (value, a')) :
    SameLines a a' := by
  have hall : ∀ r ∈ a.read cpu off width, SameLines a r.2 := by
    have hself : SameLines a a := ⟨rfl, rfl⟩
    rw [read]
    refine Run.forall_mem_ite (fun _ => Run.forall_mem_none) fun _ => ?_
    cases a.resolveAccess cpu off with
    | none => exact Run.forall_mem_none
    | some r =>
      obtain ⟨cpu, off⟩ := r
      rw [Option.bind_some]
      iterate 4 refine Run.forall_mem_ite (fun _ => Run.forall_mem_some hself) fun _ => ?_
      refine Run.forall_mem_ite (fun _ => Run.forall_mem_some ?_) fun _ => ?_
      · rw [readEvent]
        cases a.nextIrq cpu <;> exact ⟨rfl, rfl⟩
      refine Run.forall_mem_ite (fun _ => ?_) fun _ => ?_
      · exact Run.forall_mem_ite (fun _ => Run.forall_mem_none) fun _ => Run.forall_mem_some hself
      refine Run.forall_mem_ite (fun _ r hr => ?_) fun _ => ?_
      · obtain ⟨word, -, rfl⟩ := Option.map_eq_some_iff.mp hr
        exact hself
      refine Run.forall_mem_ite (fun _ => ?_) fun _ => Run.forall_mem_none
      exact Run.forall_mem_ite (fun _ => Run.forall_mem_none) fun _ => Run.forall_mem_some hself
  exact hall _ h

lemma resolveAccess_rst {a : VfAic} {off c : ℕ} (h : a.resolveAccess 0 off = some (c, regRst)) : off = regRst := by
  rw [resolveAccess] at h
  dsimp only at h
  split_ifs at h
  · have hoff := (Prod.mk.inj (Option.some.inj h)).2
    norm_num at hoff
    omega
  · exact (Prod.mk.inj (Option.some.inj h)).2

lemma sameLines_write {a a' : VfAic} {off : ℕ} {value : U32} (hoff : off ≠ regRst)
    (h : a.write 0 off 4 value = some a') : SameLines a a' := by
  rw [write] at h
  split_ifs at h
  obtain ⟨⟨c, l⟩, hres, h⟩ := Option.bind_eq_some_iff.mp h
  have hl : l ≠ regRst := fun hl => hoff (resolveAccess_rst (hl ▸ hres))
  dsimp only at h
  rw [if_neg hl] at h
  split_ifs at h
  · exact (Option.some.inj h) ▸ ⟨rfl, rfl⟩
  · exact (Option.some.inj h) ▸ ⟨rfl, rfl⟩
  · exact sameLines_writeBank h

lemma write_rst (a : VfAic) (value : U32) : a.write 0 regRst 4 value = some a.resetState := by
  have hcpus := a.cpus.1
  have hresolve : a.resolveAccess 0 regRst = some (0, regRst) := by
    rw [resolveAccess, if_neg (by norm_num), if_neg (by omega)]
  rw [write, if_neg (by decide), hresolve]
  rfl

end VfAic

namespace VfAnsPci

open AnsPci

variable {α μ : Type}

def syncs : PciCall α μ → Bool
  | .setIrq _ => true
  | .write off width _ => decide ((off = mmioMsiCtrl ∨ off = mmioMsixCtrl) ∧ width = 32)
  | .bindAic fn => fn.isSome
  | _ => false

lemma level_of_not_syncs {c : PciCall α μ} (h : syncs c = false) (before : Bool) : c.level before = before := by
  cases c with
  | setIrq level => simp [syncs] at h
  | _ => rfl

lemma write_aic (s : VfAnsPci α μ) (e : Env α μ) (off width : ℕ) (value : U64) :
    ((s.write e off width value).getD (s, e)).2.aic =
      if (off = mmioMsiCtrl ∨ off = mmioMsixCtrl) ∧ width = 32 then
        sunk s.aicFn e.aic ((s.write e off width value).getD (s, e)).1.deliveryPendingLevel
      else e.aic := by
  by_cases hctrl : off = mmioMsiCtrl
  · subst hctrl
    by_cases hwidth : width = 32
    · rw [if_pos ⟨.inl rfl, hwidth⟩, write, if_neg (by decide), if_pos rfl, if_pos hwidth, Option.getD_some]
      exact applyMsiEnable_aic s e _
    · rw [if_neg (by simp [hwidth]), write, if_neg (by decide), if_pos rfl, if_neg hwidth, Option.getD_none]
  · by_cases hmsix : off = mmioMsixCtrl
    · subst hmsix
      by_cases hwidth : width = 32
      · rw [if_pos ⟨.inr rfl, hwidth⟩, write, if_neg (by decide), if_neg (by decide), if_neg (by decide),
          if_neg (by decide), if_pos rfl, if_pos hwidth, Option.getD_some]
        exact applyMsixEnable_aic s e _
      · rw [if_neg (by simp [hwidth]), write, if_neg (by decide), if_neg (by decide), if_neg (by decide),
          if_neg (by decide), if_pos rfl, if_neg hwidth, Option.getD_none]
    · rw [if_neg (by simp [hctrl, hmsix]), write]
      split_ifs <;> rfl

lemma call_aic {s : VfAnsPci α μ} (h : s.Routed) (e : Env α μ) (c : PciCall α μ) :
    (s.call e c).2.aic =
      if syncs c then sunk (s.call e c).1.aicFn e.aic (s.call e c).1.deliveryPendingLevel else e.aic := by
  cases c with
  | setIrq level =>
    rw [syncs, if_pos rfl, call, setIrq_aic, (s.setIrq_signal e level).aicFn]
    rfl
  | write off width value =>
    rw [syncs, call, write_aic, (called_write h e off width value).aicFn]
    simp only [decide_eq_true_eq]
  | enableMemoryBusMaster => rfl
  | bindMsiGpa mem base => rfl
  | bindMsiMessage fn => rfl
  | bindAic fn =>
    cases fn with
    | none => rfl
    | some fn =>
      obtain ⟨-, hdelivery, hfn, haic⟩ := bindAic_called h e (some fn)
      rw [syncs, Option.isSome_some, if_pos rfl, hfn, hdelivery]
      exact haic

end VfAnsPci

namespace AnsWorld

variable {α μ : Type}

lemma levelCalls_unit (pci : Option Unit) (level : Option Bool) :
    (levelCalls pci level : List (Unit × PciCall α μ)).length ≤ 1 := by
  cases pci <;> cases level <;> simp [levelCalls]

lemma calls_length (w : AnsWorld Unit α μ) (op : AnsOp Unit α μ) : (w.calls op).length ≤ 1 := by
  cases op with
  | ansWrite off width value => exact levelCalls_unit _ _
  | bindPci pci =>
    rw [calls]
    cases w.ans.pci with
    | none => exact levelCalls_unit pci _
    | some old =>
      cases pci with
      | none => simp [levelCalls]
      | some new => simp [levelCalls]
  | _ => simp [calls]

lemma calls_cases (w : AnsWorld Unit α μ) (op : AnsOp Unit α μ) : w.calls op = [] ∨ ∃ c, w.calls op = [((), c)] := by
  have hlength := w.calls_length op
  generalize w.calls op = cs at hlength ⊢
  rcases cs with _ | ⟨⟨_, c⟩, _ | ⟨d, rest⟩⟩
  · exact .inl rfl
  · exact .inr ⟨c, rfl⟩
  · simp at hlength

def syncLevel (w : AnsWorld Unit α μ) (op : AnsOp Unit α μ) : Option Bool :=
  (w.calls op).findSome? fun c =>
    if VfAnsPci.syncs c.2 then some (c.2.level (w.pci ()).deliveryPendingLevel) else none

structure Synced (w w' : AnsWorld Unit α μ) (level : Option Bool) : Prop where
  delivery : (w'.pci ()).deliveryPendingLevel = level.getD (w.pci ()).deliveryPendingLevel
  aic : w'.aic = (level.map (VfAnsPci.sunk (w'.pci ()).aicFn w.aic)).getD w.aic

lemma step_synced {w : AnsWorld Unit α μ} (h : w.AllRouted) {op : AnsOp Unit α μ} (hop : ∀ change, op ≠ .outside change) :
    Synced w (w.step op).2 (w.syncLevel op) := by
  obtain ⟨v, hv⟩ := step_calls w hop
  have hroute : (v.pci ()).Routed := prepared_routed hv.prepared h ()
  rw [syncLevel]
  rcases w.calls_cases op with hcalls | ⟨c, hcalls⟩
  · have hw : (w.step op).2 = v := by rw [hv.calls, hcalls, List.foldl_nil]
    rw [hw, hcalls, List.findSome?_nil]
    refine ⟨?_, hv.prepared.aic⟩
    rw [hv.prepared.pci]
    rfl
  · have hw : (w.step op).2 = v.callOn ((), c) := by rw [hv.calls, hcalls, List.foldl_cons, List.foldl_nil]
    have hdelivery : (((v.callOn ((), c)).pci ()).deliveryPendingLevel) = c.level (w.pci ()).deliveryPendingLevel := by
      rw [callOn_self, VfAnsPci.call_delivery hroute, hv.prepared.pci]
    have haic : (v.callOn ((), c)).aic = ((v.pci ()).call v.toEnv c).2.aic := rfl
    rw [hw, hcalls, List.findSome?_cons, List.findSome?_nil]
    cases hsync : VfAnsPci.syncs c with
    | true =>
      refine ⟨hdelivery, ?_⟩
      rw [haic, VfAnsPci.call_aic hroute, if_pos hsync, callOn_self, VfAnsPci.call_delivery hroute, hv.prepared.pci]
      exact congrArg (VfAnsPci.sunk _ · _) hv.prepared.aic
    | false =>
      refine ⟨?_, ?_⟩
      · rw [hdelivery, VfAnsPci.level_of_not_syncs hsync]
        rfl
      · rw [haic, VfAnsPci.call_aic hroute, hsync]
        exact hv.prepared.aic

lemma step_aicFn {w : AnsWorld Unit α μ} (h : w.AllRouted) (op : AnsOp Unit α μ) :
    (∃ fn, op = .pciBindAic () fn ∧ ((w.step op).2.pci ()).aicFn = fn) ∨
      ((w.step op).2.pci ()).aicFn = (w.pci ()).aicFn := by
  rcases step_endpoint w op () with ⟨-, hsame⟩ | ⟨c, e, hcall, hsame⟩
  · exact .inr (congrArg VfAnsPci.aicFn hsame)
  · rw [hsame]
    rcases (call_sink (h ()) e c).1 with ⟨fn, rfl, hfn⟩ | hfn
    · exact .inl ⟨fn, calls_bindAic ((hcall _).mpr rfl), hfn⟩
    · exact .inr hfn

end AnsWorld

abbrev Bridge.World := AnsWorld Unit BridgeAic Unit

namespace AnsWorld

open Bridge

def line (w : World) : ℕ → Bool := VfAic.line w.aic.aic.level

def Wired (w : World) : Prop := (w.pci ()).aicFn = some aicSink

structure Hooked (w : World) : Prop where
  routed : w.AllRouted
  ready : w.aic.ready = true
  irqCount : w.aic.aic.irqCount = aicIrqCount
  sink : (w.pci ()).aicFn = none ∨ w.Wired

def FromBridge : AnsOp Unit BridgeAic Unit → Prop
  | .outside change => ∀ e, (change e).aic = e.aic
  | .pciBindAic _ fn => fn = none ∨ fn = some aicSink
  | _ => True

lemma aicSink_line {a : BridgeAic} (hready : a.ready = true) (hirqs : a.aic.irqCount = aicIrqCount) (level : Bool) :
    VfAic.line (VfAnsPci.sunk (some aicSink) a level).aic.level =
        Function.update (VfAic.line a.aic.level) storageIrqLine level ∧
      (VfAnsPci.sunk (some aicSink) a level).ready = true ∧
        (VfAnsPci.sunk (some aicSink) a level).aic.irqCount = aicIrqCount := by
  have hirq : storageIrqLine < a.aic.irqCount := by rw [hirqs]; decide
  obtain ⟨aic, haic⟩ := VfAic.setLine_exists hirq level
  obtain ⟨hline, hcount⟩ := VfAic.line_setLine haic
  have hsunk : VfAnsPci.sunk (some aicSink) a level = { a with aic } := by
    simp only [VfAnsPci.sunk, Option.map_some, Option.getD_some, aicSink, hready, haic, Bool.not_true, Bool.false_eq_true,
      if_false, ne_eq, not_true_eq_false]
  rw [hsunk]
  exact ⟨hline, hready, hcount.trans hirqs⟩

structure Drove (w w' : World) (level : Option Bool) : Prop where
  hooked : w'.Hooked
  others : ∀ irq ≠ storageIrqLine, w'.line irq = w.line irq
  delivery : (w'.pci ()).deliveryPendingLevel = level.getD (w.pci ()).deliveryPendingLevel
  given : ∀ v, level = some v → w'.Wired → w'.line storageIrqLine = v
  kept : level = none → w'.line = w.line ∧ (w'.Wired → w.Wired)

lemma Drove.refl {w : World} (h : w.Hooked) : Drove w w none :=
  ⟨h, fun _ _ => rfl, rfl, fun _ hv => absurd hv (by simp), fun _ => ⟨rfl, id⟩⟩

lemma Drove.trans {w w' w'' : World} {l l' : Option Bool} (h : Drove w w' l) (h' : Drove w' w'' l') :
    Drove w w'' (l'.or l) := by
  refine ⟨h'.hooked, fun irq hirq => (h'.others irq hirq).trans (h.others irq hirq), ?_, ?_, ?_⟩
  · rw [h'.delivery, h.delivery]
    cases l' <;> rfl
  · intro v hv hbound
    cases l' with
    | some v' => exact h'.given v hv hbound
    | none =>
      obtain ⟨hline, hbound'⟩ := h'.kept rfl
      rw [hline]
      exact h.given v hv (hbound' hbound)
  · intro hnone
    obtain ⟨hl', hl⟩ := Option.or_eq_none_iff.mp hnone
    obtain ⟨hline', hbound'⟩ := h'.kept hl'
    obtain ⟨hline, hbound⟩ := h.kept hl
    exact ⟨hline'.trans hline, hbound ∘ hbound'⟩

lemma step_sink {w : World} (h : w.Hooked) {op : AnsOp Unit BridgeAic Unit} (hop : FromBridge op) :
    ((w.step op).2.pci ()).aicFn = none ∨ Wired (w.step op).2 := by
  rcases step_aicFn h.routed op with ⟨fn, rfl, hfn⟩ | hfn
  · rw [Wired, hfn]
    exact hop
  · rw [Wired, hfn]
    exact h.sink

lemma outside_drove {w : World} (h : w.Hooked) {change : Env BridgeAic Unit → Env BridgeAic Unit}
    (hop : ∀ e, (change e).aic = e.aic) : Drove w (w.step (.outside change)).2 none := by
  have haic : (w.step (.outside change)).2.aic = w.aic := hop w.toEnv
  have hline : line (w.step (.outside change)).2 = w.line := by rw [line, haic, line]
  refine ⟨⟨h.routed, haic ▸ h.ready, haic ▸ h.irqCount, h.sink⟩, fun irq _ => congrFun hline irq, rfl, ?_, ?_⟩
  · exact fun v hv => absurd hv (by simp)
  · exact fun _ => ⟨hline, id⟩

lemma bound_of_silent {w : World} (h : w.Hooked) {op : AnsOp Unit BridgeAic Unit} (hsilent : w.syncLevel op = none)
    (hbound : Wired (w.step op).2) : w.Wired := by
  rcases step_aicFn h.routed op with ⟨fn, rfl, hfn⟩ | hfn
  · rw [Wired, hfn] at hbound
    simp [syncLevel, calls, VfAnsPci.syncs, hbound] at hsilent
  · exact hfn.symm.trans hbound

lemma step_drove {w : World} (h : w.Hooked) {op : AnsOp Unit BridgeAic Unit} (hop : FromBridge op) :
    Drove w (w.step op).2 (w.syncLevel op) := by
  by_cases hout : ∃ change, op = .outside change
  · obtain ⟨change, rfl⟩ := hout
    exact outside_drove h hop
  · obtain ⟨hdelivery, haic⟩ := step_synced h.routed (not_exists.mp hout)
    have hroute := step_routed h.routed op
    have hsink := step_sink h hop
    cases hl : w.syncLevel op with
    | none =>
      rw [hl, Option.map_none, Option.getD_none] at haic
      have hline : line (w.step op).2 = w.line := by rw [line, haic, line]
      refine ⟨⟨hroute, haic ▸ h.ready, haic ▸ h.irqCount, hsink⟩, fun irq _ => congrFun hline irq, hl ▸ hdelivery, ?_, ?_⟩
      · exact fun v hv => absurd hv (by simp)
      · exact fun _ => ⟨hline, bound_of_silent h hl⟩
    | some v =>
      rw [hl, Option.map_some, Option.getD_some] at haic
      rcases hsink with hnone | hbound
      · rw [hnone] at haic
        have hsame : (w.step op).2.aic = w.aic := haic
        have hline : line (w.step op).2 = w.line := by rw [line, hsame, line]
        refine ⟨⟨hroute, hsame ▸ h.ready, hsame ▸ h.irqCount, .inl hnone⟩, fun irq _ => congrFun hline irq,
          hl ▸ hdelivery, ?_, fun hv => absurd hv (by simp)⟩
        intro _ _ hbound
        rw [Wired, hnone] at hbound
        exact absurd hbound (by simp)
      · rw [hbound] at haic
        obtain ⟨hline, hready, hcount⟩ := aicSink_line h.ready h.irqCount v
        rw [← haic] at hline hready hcount
        refine ⟨⟨hroute, hready, hcount, .inr hbound⟩, ?_, hl ▸ hdelivery, ?_, fun hv => absurd hv (by simp)⟩
        · intro irq hirq
          exact (congrFun hline irq).trans (Function.update_of_ne hirq _ _)
        · intro u hu _
          obtain rfl := Option.some.inj hu
          exact (congrFun hline _).trans (Function.update_self _ _ _)

def lastLevel (w : World) : List (AnsOp Unit BridgeAic Unit) → Option Bool
  | [] => none
  | op :: ops =>
    match w.step op with
    | (none, _) => w.syncLevel op
    | (some _, w') => (lastLevel w' ops).or (w.syncLevel op)

lemma attempt_drove (ops : List (AnsOp Unit BridgeAic Unit)) (hops : ∀ op ∈ ops, FromBridge op) {w : World} (h : w.Hooked)
    (value : U64) : Drove w (w.attempt value ops).2 (lastLevel w ops) := by
  induction ops generalizing w value with
  | nil => exact .refl h
  | cons op ops ih =>
    have hstep := step_drove h (hops op List.mem_cons_self)
    rw [attempt, lastLevel]
    cases hr : w.step op with
    | mk r w' =>
      rw [hr] at hstep
      cases r with
      | none => exact hstep
      | some value => exact hstep.trans (ih (fun op' hop' => hops op' (List.mem_cons_of_mem _ hop')) hstep.hooked value)

end AnsWorld

end Nextcore.Device
