import Nextcore.Device.Mirror

/-! The storage line of the bridge. The storage and the endpoint drive it in turn, each
from its own state: what one raised, the other lowers. -/

namespace Nextcore.Device

namespace AnsWorld

open Bridge

lemma step_wired {w : World} (h : w.Hooked) (hw : w.Wired) {op : AnsOp Unit BridgeAic Unit}
    (hop : op ≠ .pciBindAic () none) (hfrom : FromBridge op) : Wired (w.step op).2 := by
  rcases step_sink h hfrom with hnone | hbound
  · rcases step_aicFn h.routed op with ⟨fn, rfl, hfn⟩ | hfn
    · rw [hfn] at hnone
      exact absurd (congrArg _ hnone) hop
    · exact hfn.trans hw
  · exact hbound

lemma attempt_wired (ops : List (AnsOp Unit BridgeAic Unit)) (hops : ∀ op ∈ ops, FromBridge op)
    (hbind : AnsOp.pciBindAic () none ∉ ops) {w : World} (h : w.Hooked) (hw : w.Wired) (value : U64) :
    Wired (w.attempt value ops).2 := by
  induction ops generalizing w value with
  | nil => exact hw
  | cons op ops ih =>
    have hfrom := hops op List.mem_cons_self
    have hhooked := (step_drove h hfrom).hooked
    have hwired := step_wired h hw (fun heq => hbind (heq ▸ List.mem_cons_self)) hfrom
    rw [attempt]
    cases hr : w.step op with
    | mk r w' =>
      rw [hr] at hhooked hwired
      cases r with
      | none => exact hwired
      | some value =>
        exact ih (fun op' hop' => hops op' (List.mem_cons_of_mem _ hop'))
          (fun hmem => hbind (List.mem_cons_of_mem _ hmem)) hhooked hwired value

end AnsWorld

namespace Bridge

variable {κ : Type}

def LineShared (b : Bridge κ) : Prop :=
  b.world.line storageIrqLine = (b.storage.irqPending || (b.world.pci ()).deliveryPendingLevel)

instance decidableLineShared (b : Bridge κ) : Decidable b.LineShared := inferInstanceAs (Decidable (_ = _))

/-- One driver lowers the line while the other is pending: the storage is detached under a
pending endpoint, or the endpoint is left idle by a call that gives the line its level
while the storage is attached. -/
def drops (b : Bridge κ) : BridgeOp κ → Bool
  | .storageDetach => (b.world.pci ()).deliveryPendingLevel
  | .ans c => b.storage.irqPending && decide (AnsWorld.lastLevel b.world (b.accesses c) = some false)
  | _ => false

end Bridge

def BridgeOp.keepsWire {κ : Type} (op : BridgeOp κ) : Bool :=
  !op.setsLine && !op.resetsAic &&
    match op with
    | .ans .pciUnbindAic => false
    | _ => true

namespace Bridge

variable {κ : Type}

lemma drops_of_plain (b : Bridge κ) {op : BridgeOp κ} (h : op.plain = true) : b.drops op = false := by
  cases op with
  | storageDetach => cases h
  | ans c => cases h
  | _ => rfl

lemma Moves.pci {s s' : Signals} (h : Moves s s') : s'.pci = s.pci := by cases h <;> rfl

lemma Moves.shared {s s' : Signals} (h : Moves s s') (hs : s.line storageIrqLine = (s.storage || s.pci.deliveryPendingLevel)) :
    s'.line storageIrqLine = (s'.storage || s'.pci.deliveryPendingLevel) := by
  cases h with
  | quiet => exact hs
  | device l v => exact (Function.update_of_ne l.irq_ne_storage.symm _ _).trans hs
  | attach => exact Function.update_self storageIrqLine true s.line

lemma unbind_notMem_accesses (b : Bridge κ) {c : AnsCall} (hc : c ≠ .pciUnbindAic) :
    AnsOp.pciBindAic () none ∉ b.accesses c := by
  cases c with
  | pciUnbindAic => exact absurd rfl hc
  | pciPrepareMsi enable addr data => cases enable <;> simp [accesses]
  | pciPrepareMsix enable tableBir => cases enable <;> simp [accesses]
  | _ =>
    simp only [accesses, fill, List.mem_cons, List.not_mem_nil, AnsOp.pciBindAic.injEq, reduceCtorEq, and_false,
      or_self, not_false_eq_true]

structure Kept (b : Bridge κ) : Prop where
  hooked : b.world.Hooked
  wired : b.world.Wired

lemma guestMmioReset_kept (b : Bridge κ) : b.guestMmioReset.Kept := ⟨b.guestMmioReset_hooked, b.guestMmioReset_wired⟩

lemma guestMmioReset_shared (b : Bridge κ) : b.guestMmioReset.LineShared := by
  rw [LineShared, guestMmioReset_line, guestMmioReset_delivery]
  rfl

lemma step_kept {b : Bridge κ} (h : b.Kept) {op : BridgeOp κ} (hop : op.keepsWire = true) : (b.step op).2.Kept := by
  simp only [BridgeOp.keepsWire, Bool.and_eq_true, Bool.not_eq_true'] at hop
  obtain ⟨⟨hset, hrst⟩, hwire⟩ := hop
  refine ⟨step_hooked h.hooked hset, ?_⟩
  rcases op.kinds hset with hplain | hrst' | rfl | rfl | ⟨c, rfl⟩
  · have hpci := (step_moved h.hooked hplain).moves.pci
    exact (congrArg VfAnsPci.aicFn hpci).trans h.wired
  · exact absurd hrst' (by simp [hrst])
  · exact b.guestMmioReset_wired
  · have hpci := congrArg Signals.pci (step_storageDetach h.hooked).2
    exact (congrArg VfAnsPci.aicFn hpci).trans h.wired
  · have hc : c ≠ .pciUnbindAic := by
      rintro rfl
      cases hwire
    have hwired := AnsWorld.attempt_wired _ (b.fromBridge_accesses c) (b.unbind_notMem_accesses hc) h.hooked h.wired 0#64
    have hready : b.ready = true := h.hooked.ready
    simp only [step, onHost, ansCall, hready, Bool.not_true, Bool.false_eq_true, if_false]
    cases hr : b.world.attempt 0#64 (b.accesses c) with
    | mk r world =>
      rw [hr] at hwired
      cases r <;> exact hwired

lemma step_shared {b : Bridge κ} (h : b.Kept) (hs : b.LineShared) {op : BridgeOp κ} (hop : op.keepsWire = true) :
    (b.step op).2.LineShared ↔ ¬b.drops op = true := by
  have hkept := step_kept h hop
  simp only [BridgeOp.keepsWire, Bool.and_eq_true, Bool.not_eq_true'] at hop
  obtain ⟨⟨hset, hrst⟩, -⟩ := hop
  rcases op.kinds hset with hplain | hrst' | rfl | rfl | ⟨c, rfl⟩
  · rw [drops_of_plain b hplain]
    exact iff_of_true ((step_moved h.hooked hplain).moves.shared hs) Bool.false_ne_true
  · exact absurd hrst' (by simp [hrst])
  · exact iff_of_true b.guestMmioReset_shared Bool.false_ne_true
  · obtain ⟨-, hsignals⟩ := step_storageDetach h.hooked
    have hline : (b.step .storageDetach).2.world.line storageIrqLine = false :=
      (congrFun (congrArg Signals.line hsignals) _).trans (Function.update_self storageIrqLine false b.signals.line)
    have hstorage : (b.step .storageDetach).2.storage.irqPending = false := congrArg Signals.storage hsignals
    have hpci : (b.step .storageDetach).2.world.pci () = b.world.pci () := congrArg Signals.pci hsignals
    rw [LineShared, hline, hstorage, hpci, drops, Bool.false_or, Bool.not_eq_true]
    exact eq_comm
  · obtain ⟨hdrove, -, hstorage⟩ := step_ans h.hooked c
    rw [LineShared, hstorage, hdrove.delivery, drops]
    cases hlast : AnsWorld.lastLevel b.world (b.accesses c) with
    | none =>
      rw [(hdrove.kept hlast).1]
      exact iff_of_true hs (by simp)
    | some v =>
      rw [hdrove.given v hlast hkept.wired]
      cases hv : v <;> cases hb : b.storage.irqPending <;> simp

/-- From a reset of the bridge on, while its endpoint stays bound to the AIC and neither
the guest resets the AIC nor the host overrides a line, the storage line is raised while
the storage or the endpoint is pending, exactly when no driver drops it under the other. -/
theorem storage_line_iff (b : Bridge κ) (ops : List (BridgeOp κ)) (hops : ∀ op ∈ ops, op.keepsWire = true) :
    b.guestMmioReset.LineShared ∧
      ((∀ x ∈ Run.log step b.guestMmioReset ops, x.after.LineShared) ↔
        ∀ x ∈ Run.log step b.guestMmioReset ops, ¬x.before.drops x.event = true) := by
  refine ⟨b.guestMmioReset_shared, ?_⟩
  exact Run.forall_after_iff (I := Kept) (P := LineShared) (C := fun op => op.keepsWire = true)
    (D := fun b op => b.drops op = true) (fun _ _ hb hop => step_kept hb hop)
    (fun _ _ hb hop hs => step_shared hb hs hop) ops hops b.guestMmioReset_kept b.guestMmioReset_shared

/-- The storage is attached, and the endpoint is given the low level. -/
theorem storage_line_dropped :
    ¬∀ x ∈ Run.log step powerOn.guestMmioReset [.storageAttach 1#64 false, .ans (.pciSetIrq false)],
      x.after.LineShared := by
  decide +kernel

theorem storage_line_attached :
    (Run.log step powerOn.guestMmioReset [.ans (.pciSetIrq true), .storageAttach 1#64 false]).Forall
      fun x => x.after.LineShared := by
  refine List.forall_iff_forall_mem.mpr ?_
  refine (storage_line_iff powerOn _ (by decide)).2.mpr ?_
  decide +kernel

end Bridge

end Nextcore.Device
