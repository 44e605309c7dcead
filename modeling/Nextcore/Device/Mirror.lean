import Nextcore.Device.Lines

/-! The line mirror of the bridge. Six devices have a line of their own; every operation
keeps their lines at their interrupts, except a reset of the AIC by the guest. -/

namespace Nextcore.Device

inductive IrqLine
  | timer
  | adp
  | recovery
  | dart
  | uart
  | sep
  deriving DecidableEq, Repr

def IrqLine.irq : IrqLine → ℕ
  | .timer => Bridge.timerIrqLine
  | .adp => Bridge.adpIrqLine
  | .recovery => Bridge.recoveryIrqLine
  | .dart => Bridge.dartIrqLine
  | .uart => Bridge.uartIrqLine
  | .sep => Bridge.sepIrqLine

lemma IrqLine.irq_injective : Function.Injective IrqLine.irq := by
  intro l l' h
  cases l <;> cases l' <;> first | rfl | exact absurd h (by decide)

lemma IrqLine.irq_ne_storage (l : IrqLine) : l.irq ≠ Bridge.storageIrqLine := by cases l <;> decide

lemma IrqLine.irq_lt (l : IrqLine) : l.irq < Bridge.aicIrqCount := by cases l <;> decide

namespace Bridge

variable {κ : Type}

lemma storageIrqLine_lt : storageIrqLine < aicIrqCount := by decide

def pending (b : Bridge κ) : IrqLine → Bool
  | .timer => b.timer.irqPending
  | .adp => b.adp.irqPending
  | .recovery => b.recovery.irqPending
  | .dart => b.dart.irqPending
  | .uart => b.uart.irqPending
  | .sep => b.sep.irqPending

structure Signals where
  line : ℕ → Bool
  pending : IrqLine → Bool
  storage : Bool
  pci : VfAnsPci BridgeAic Unit

def signals (b : Bridge κ) : Signals := ⟨b.world.line, b.pending, b.storage.irqPending, b.world.pci ()⟩

inductive Moves (s : Signals) : Signals → Prop
  | quiet : Moves s s
  | device (l : IrqLine) (v : Bool) :
    Moves s { s with line := Function.update s.line l.irq v, pending := Function.update s.pending l v }
  | attach : Moves s { s with line := Function.update s.line storageIrqLine true, storage := true }

structure Moved (b b' : Bridge κ) : Prop where
  hooked : b'.world.Hooked
  moves : Moves b.signals b'.signals

lemma moved_of_signals {b b' : Bridge κ} (h : b'.world.Hooked) (hs : b'.signals = b.signals) : Moved b b' :=
  ⟨h, hs ▸ .quiet⟩

lemma moved_ite {σ : Type} {b : Bridge κ} {c : Prop} [Decidable c] {x y : σ × Bridge κ} (hx : c → Moved b x.2)
    (hy : ¬c → Moved b y.2) : Moved b (if c then x else y).2 := by
  split_ifs with hc
  · exact hx hc
  · exact hy hc

lemma hooked_withAic {b : Bridge κ} (h : b.world.Hooked) {aic : VfAic} (hcount : aic.irqCount = b.aic.irqCount) :
    (b.withAic aic).world.Hooked := ⟨h.routed, h.ready, hcount.trans h.irqCount, h.sink⟩

lemma setLine_spec {b : Bridge κ} (h : b.world.Hooked) {irq : ℕ} (hirq : irq < aicIrqCount) (high : Bool) :
    ∃ r, b.setLine irq high = some r ∧ r.world.Hooked ∧
      r.signals = { b.signals with line := Function.update b.signals.line irq high } := by
  obtain ⟨aic, haic⟩ := VfAic.setLine_exists (a := b.aic) (hirq.trans_eq h.irqCount.symm) high
  obtain ⟨hline, hcount⟩ := VfAic.line_setLine haic
  refine ⟨b.withAic aic, by rw [setLine, haic, Option.map_some], hooked_withAic h hcount, ?_⟩
  exact congrArg (fun line => (⟨line, b.pending, b.storage.irqPending, b.world.pci ()⟩ : Signals)) hline

lemma dispatch_cases {P : Bridge κ → Prop} {b : Bridge κ} {fits : Bool} {access : Except MmioError (U64 × Bridge κ)}
    {sync : Bridge κ → Option (Bridge κ)} (hb : P b)
    (haccess : ∀ value b', access = .ok (value, b') → ∃ r, sync b' = some r ∧ P r) : P (b.dispatch fits access sync).2 := by
  simp only [dispatch]
  split_ifs
  · exact hb
  · exact hb
  · cases access with
    | error e => exact hb
    | ok p =>
      obtain ⟨value, b'⟩ := p
      obtain ⟨r, hr, hp⟩ := haccess value b' rfl
      simp only [hr]
      exact hp

lemma valid_ok {σ : Type} {r : Option σ} {s : σ} (h : valid r = .ok s) : r = some s := by
  cases r with
  | none => cases h
  | some t => exact congrArg some (Except.ok.inj h)

structure Touched (l : IrqLine) (b b' : Bridge κ) : Prop where
  world : b'.world = b.world
  others : ∀ l' ≠ l, b'.pending l' = b.pending l'
  storage : b'.storage = b.storage

lemma moved_of_touched {l : IrqLine} {b b' : Bridge κ} (h : b.world.Hooked) (ht : Touched l b b') :
    ∃ r, b'.setLine l.irq (b'.pending l) = some r ∧ Moved b r := by
  have h' : b'.world.Hooked := ht.world ▸ h
  obtain ⟨r, hr, hhooked, hsignals⟩ := setLine_spec h' l.irq_lt (b'.pending l)
  refine ⟨r, hr, hhooked, ?_⟩
  have hpending : b'.pending = Function.update b.pending l (b'.pending l) := by
    funext l'
    by_cases hl : l' = l
    · rw [hl, Function.update_self]
    · rw [Function.update_of_ne hl, ht.others l' hl]
  have heq : r.signals =
      { b.signals with
        line := Function.update b.signals.line l.irq (b'.pending l)
        pending := Function.update b.signals.pending l (b'.pending l) } := by
    rw [hsignals, signals, signals, ht.world, ht.storage]
    exact congrArg (fun pending => (⟨_, pending, _, _⟩ : Signals)) hpending
  exact heq ▸ .device l (b'.pending l)

lemma dispatch_device {σ : Type} {l : IrqLine} {b : Bridge κ} (h : b.world.Hooked) {fits : Bool} {r : Option σ}
    {g : σ → U64 × Bridge κ} (hg : ∀ s ∈ r, Touched l b (g s).2) :
    Moved b (b.dispatch fits (valid (r.map g)) fun b => b.setLine l.irq (b.pending l)).2 := by
  refine dispatch_cases ⟨h, .quiet⟩ fun value b' ha => moved_of_touched h ?_
  obtain ⟨s, hs, heq⟩ := Option.map_eq_some_iff.mp (valid_ok ha)
  have ht := hg s hs
  rw [heq] at ht
  exact ht

lemma dispatch_quiet {σ : Type} {b : Bridge κ} (h : b.world.Hooked) {fits : Bool} {r : Option σ} {g : σ → U64 × Bridge κ}
    (hg : ∀ s ∈ r, (g s).2.world.Hooked ∧ (g s).2.signals = b.signals) :
    Moved b (b.dispatch fits (valid (r.map g)) some).2 := by
  refine dispatch_cases ⟨h, .quiet⟩ fun value b' ha => ⟨b', rfl, ?_⟩
  obtain ⟨s, hs, heq⟩ := Option.map_eq_some_iff.mp (valid_ok ha)
  have hquiet := hg s hs
  rw [heq] at hquiet
  exact moved_of_signals hquiet.1 hquiet.2

lemma dispatch_error {b : Bridge κ} (h : b.world.Hooked) {fits : Bool} {e : MmioError}
    {sync : Bridge κ → Option (Bridge κ)} : Moved b (b.dispatch fits (.error e) sync).2 :=
  dispatch_cases ⟨h, .quiet⟩ fun _ _ ha => absurd ha (by simp)

lemma touched_timer (b : Bridge κ) (timer : VfTimer) : Touched .timer b { b with timer } :=
  ⟨rfl, fun l hl => by cases l <;> first | rfl | exact absurd rfl hl, rfl⟩

lemma touched_adp (b : Bridge κ) (adp : VfAdpDisplay) : Touched .adp b { b with adp } :=
  ⟨rfl, fun l hl => by cases l <;> first | rfl | exact absurd rfl hl, rfl⟩

lemma touched_recovery (b : Bridge κ) (recovery : VfRecovery) : Touched .recovery b { b with recovery } :=
  ⟨rfl, fun l hl => by cases l <;> first | rfl | exact absurd rfl hl, rfl⟩

lemma touched_dart (b : Bridge κ) (dart : VfDart) : Touched .dart b { b with dart } :=
  ⟨rfl, fun l hl => by cases l <;> first | rfl | exact absurd rfl hl, rfl⟩

lemma touched_uart (b : Bridge κ) (uart : VfAppleUart Unit) : Touched .uart b { b with uart } :=
  ⟨rfl, fun l hl => by cases l <;> first | rfl | exact absurd rfl hl, rfl⟩

lemma touched_sep (b : Bridge κ) (sep : VfSepMailbox) : Touched .sep b { b with sep } :=
  ⟨rfl, fun l hl => by cases l <;> first | rfl | exact absurd rfl hl, rfl⟩

lemma Touched.signals_eq {l : IrqLine} {b b' : Bridge κ} (ht : Touched l b b') (hl : b'.pending l = b.pending l) :
    b'.signals = b.signals := by
  have hpending : b'.pending = b.pending := by
    funext l'
    by_cases hl' : l' = l
    · rw [hl', hl]
    · exact ht.others l' hl'
  rw [signals, signals, ht.world, ht.storage, hpending]

lemma sameLines_spec {b : Bridge κ} (h : b.world.Hooked) {aic : VfAic} (hs : VfAic.SameLines b.aic aic) :
    (b.withAic aic).world.Hooked ∧ (b.withAic aic).signals = b.signals := by
  refine ⟨hooked_withAic h hs.irqCount, ?_⟩
  exact congrArg (fun level => (⟨VfAic.line level, b.pending, b.storage.irqPending, b.world.pci ()⟩ : Signals)) hs.level

section

variable {b : Bridge κ} (h : b.world.Hooked) (offset width : ℕ) (value : U64)

include h

lemma aicDispatchRead_moved : Moved b (b.aicDispatchRead offset width).2 :=
  dispatch_quiet h fun _ hread => sameLines_spec h (VfAic.sameLines_read hread)

lemma aicDispatchWrite_moved (hoff : offset ≠ VfAic.regRst ∨ width ≠ 32) :
    Moved b (b.aicDispatchWrite offset width value).2 := by
  rcases hoff with hoff | hwidth
  · exact dispatch_quiet h fun _ hwrite => sameLines_spec h (VfAic.sameLines_write hoff hwrite)
  · have hself : (b.aicDispatchWrite offset width value).2 = b := by
      simp only [aicDispatchWrite, dispatch, decide_eq_false hwidth, Bool.not_false, if_true]
      split_ifs <;> rfl
    rw [hself]
    exact ⟨h, .quiet⟩

lemma dartDispatchWrite_moved : Moved b (b.dartDispatchWrite offset width value).2 := by
  rw [dartDispatchWrite]
  by_cases hoff : offset = VfDart.regErrorStatus
  · rw [if_pos hoff]
    exact dispatch_device (l := .dart) h fun dart _ => touched_dart b dart
  · rw [if_neg hoff]
    refine dispatch_quiet h fun dart hwrite => ⟨h, (touched_dart b dart).signals_eq ?_⟩
    exact congrArg (fun status => decide (status &&& VfDart.errorFlag ≠ 0#32)) (VfDart.errorStatus_write hoff hwrite)

lemma sepDispatchRead_moved : Moved b (b.sepDispatchRead offset width).2 := by
  rw [sepDispatchRead]
  by_cases hoff : offset = VfSepMailbox.mmioMsgOut
  · rw [if_pos hoff]
    exact dispatch_device (l := .sep) h fun r _ => touched_sep b r.2
  · rw [if_neg hoff]
    refine dispatch_quiet h fun r hread => ⟨h, (touched_sep b r.2).signals_eq ?_⟩
    exact congrArg VfSepMailbox.replyPending (VfSepMailbox.read_eq_self hoff hread)

lemma sepDispatchWrite_moved : Moved b (b.sepDispatchWrite offset width value).2 := by
  rw [sepDispatchWrite]
  by_cases hoff : offset ≠ VfSepMailbox.mmioMsgIn
  · rw [if_pos hoff]
    exact dispatch_error h
  · rw [if_neg hoff]
    exact dispatch_device (l := .sep) h fun sep _ => touched_sep b sep

lemma nvramDispatchWrite_moved : Moved b (b.nvramDispatchWrite offset width value).2 := by
  rw [nvramDispatchWrite]
  split_ifs
  · exact ⟨h, .quiet⟩
  · exact ⟨h, .quiet⟩
  · exact ⟨h, .quiet⟩
  · exact ⟨h, .quiet⟩
  · exact ⟨h, .quiet⟩
  · rcases Nvram.envSet b.nvram bootArgsName (Nvram.cstr b.nvramBootArgs) 0#32 with ⟨_ | _, nvram⟩ <;> exact ⟨h, .quiet⟩
  · exact ⟨h, .quiet⟩

lemma smcDispatchRead_moved : Moved b (b.smcDispatchRead offset width).2 := by
  rw [smcDispatchRead]
  rcases b.smc.readKey VfSmc.keyNkey 4 with ⟨_ | count, smc⟩ <;> dsimp only <;> split_ifs <;> exact ⟨h, .quiet⟩

lemma smcDispatchWrite_moved : Moved b (b.smcDispatchWrite offset width value).2 := by
  rw [smcDispatchWrite]
  split_ifs <;> exact ⟨h, .quiet⟩

lemma mmioRead_moved (window : ℕ) : Moved b (b.mmioRead window offset width).2 := by
  rw [mmioRead]
  refine moved_ite (fun _ => ⟨h, .quiet⟩) fun _ => ?_
  refine moved_ite (fun _ => aicDispatchRead_moved h offset width) fun _ => ?_
  refine moved_ite (fun _ => dispatch_quiet h fun _ _ => ⟨h, rfl⟩) fun _ => ?_
  refine moved_ite (fun _ => dispatch_quiet h fun _ _ => ⟨h, rfl⟩) fun _ => ?_
  refine moved_ite (fun _ => dispatch_quiet h fun _ _ => ⟨h, rfl⟩) fun _ => ?_
  refine moved_ite (fun _ => dispatch_quiet h fun _ _ => ⟨h, rfl⟩) fun _ => ?_
  refine moved_ite (fun _ => ?_) fun _ => ?_
  · exact dispatch_quiet h fun r hread => ⟨h, (touched_adp b r.2).signals_eq (VfAdpDisplay.irqPending_read hread)⟩
  refine moved_ite (fun _ => ?_) fun _ => ?_
  · exact dispatch_quiet h fun r hread => ⟨h, (touched_uart b r.2).signals_eq (VfAppleUart.irqPending_read hread)⟩
  refine moved_ite (fun _ => dispatch_quiet h fun _ _ => ⟨h, rfl⟩) fun _ => ?_
  refine moved_ite (fun _ => dispatch_quiet h fun _ _ => ⟨h, rfl⟩) fun _ => ?_
  refine moved_ite (fun _ => smcDispatchRead_moved h offset width) fun _ => ?_
  exact moved_ite (fun _ => sepDispatchRead_moved h offset width) fun _ => ⟨h, .quiet⟩

lemma mmioWrite_moved {window : ℕ} (hrst : window ≠ windowAic ∨ offset ≠ VfAic.regRst ∨ width ≠ 32) :
    Moved b (b.mmioWrite window offset width value).2 := by
  rw [mmioWrite]
  refine moved_ite (fun _ => ⟨h, .quiet⟩) fun _ => ?_
  refine moved_ite (fun haic => ?_) fun _ => ?_
  · exact aicDispatchWrite_moved h offset width value (hrst.resolve_left fun hne => hne haic)
  refine moved_ite (fun _ => dispatch_device (l := .timer) h fun timer _ => touched_timer b timer) fun _ => ?_
  refine moved_ite (fun _ => dartDispatchWrite_moved h offset width value) fun _ => ?_
  refine moved_ite (fun _ => dispatch_error h) fun _ => ?_
  refine moved_ite (fun _ => dispatch_error h) fun _ => ?_
  refine moved_ite (fun _ => dispatch_device (l := .adp) h fun adp _ => touched_adp b adp) fun _ => ?_
  refine moved_ite (fun _ => dispatch_device (l := .uart) h fun r _ => touched_uart b r.1) fun _ => ?_
  refine moved_ite (fun _ => dispatch_quiet h fun _ _ => ⟨h, rfl⟩) fun _ => ?_
  refine moved_ite (fun _ => nvramDispatchWrite_moved h offset width value) fun _ => ?_
  refine moved_ite (fun _ => smcDispatchWrite_moved h offset width value) fun _ => ?_
  exact moved_ite (fun _ => sepDispatchWrite_moved h offset width value) fun _ => ⟨h, .quiet⟩

lemma host_moved {l : IrqLine} {call : Option (Bridge κ)} (hcall : ∀ b' ∈ call, Touched l b b') :
    Moved b (b.host call fun b => b.setLine l.irq (b.pending l)).2 :=
  dispatch_device h hcall

lemma guestStorageAttach_moved (readOnly : Bool) : Moved b (b.guestStorageAttach value readOnly).2 := by
  refine dispatch_cases ⟨h, .quiet⟩ fun v b' ha => ?_
  obtain ⟨_, hcall, heq⟩ := Option.map_eq_some_iff.mp (valid_ok ha)
  obtain ⟨storage, hattach, rfl⟩ := Option.map_eq_some_iff.mp hcall
  obtain ⟨-, rfl⟩ := Prod.mk.inj heq
  have hattached : storage.irqPending = true := by
    rw [VfStorage.attach] at hattach
    split_ifs at hattach <;> rw [← Option.some.inj hattach] <;> rfl
  have hworld : ({ b with storage } : Bridge κ).world.Hooked := h
  obtain ⟨r, hr, hhooked, hsignals⟩ := setLine_spec hworld storageIrqLine_lt storage.irqPending
  refine ⟨r, hr, hhooked, ?_⟩
  have heq : r.signals =
      { b.signals with line := Function.update b.signals.line storageIrqLine true, storage := true } := by
    rw [hsignals, ← hattached]
    rfl
  exact heq ▸ .attach

lemma guestNvramIngestBank_moved (buf past : List Byte) : Moved b (b.guestNvramIngestBank buf past).2 := by
  rw [guestNvramIngestBank]
  refine moved_ite (fun _ => ⟨h, .quiet⟩) fun _ => moved_ite (fun _ => ⟨h, .quiet⟩) fun _ => ?_
  rcases Nvram.parseBank b.nvram buf past with ⟨_ | _, nvram⟩ <;> exact ⟨h, .quiet⟩

end

end Bridge

def BridgeOp.resetsAic {κ : Type} : BridgeOp κ → Bool
  | .mmioWrite window offset width _ => decide (window = Bridge.windowAic ∧ offset = VfAic.regRst ∧ width = 32)
  | _ => false

def BridgeOp.plain {κ : Type} : BridgeOp κ → Bool
  | .reset => false
  | .aicSetLine _ _ => false
  | .storageDetach => false
  | .ans _ => false
  | op => !op.resetsAic

namespace Bridge

variable {κ : Type}

lemma step_moved {b : Bridge κ} (h : b.world.Hooked) {op : BridgeOp κ} (hop : op.plain = true) : Moved b (b.step op).2 := by
  cases op with
  | reset => cases hop
  | aicSetLine irq high => cases hop
  | storageDetach => cases hop
  | ans c => cases hop
  | mmioRead window offset width => exact mmioRead_moved h offset width window
  | mmioWrite window offset width value =>
    refine mmioWrite_moved h offset width value ?_
    simp only [BridgeOp.plain, BridgeOp.resetsAic, Bool.not_eq_true', decide_eq_false_iff_not, not_and_or] at hop
    exact hop
  | dartSimulateFault sid code =>
    refine host_moved (l := .dart) h fun b' hb' => ?_
    obtain ⟨dart, -, rfl⟩ := Option.map_eq_some_iff.mp hb'
    exact touched_dart b dart
  | uartPushRx byte =>
    refine host_moved (l := .uart) h fun b' hb' => ?_
    obtain ⟨uart, -, rfl⟩ := Option.map_eq_some_iff.mp hb'
    exact touched_uart b uart
  | timerAdvance ticks => exact host_moved (l := .timer) h (Run.forall_mem_some (touched_timer b _))
  | storageAttach blockCount readOnly => exact guestStorageAttach_moved h blockCount readOnly
  | recoveryIngest frame =>
    refine host_moved (l := .recovery) h fun b' hb' => ?_
    obtain ⟨recovery, -, rfl⟩ := Option.map_eq_some_iff.mp hb'
    exact touched_recovery b recovery
  | recoveryClear => exact host_moved (l := .recovery) h (Run.forall_mem_some (touched_recovery b _))
  | adpConfigure guestAddress backingBytes width height stride =>
    refine host_moved (l := .adp) h fun b' hb' => ?_
    obtain ⟨adp, -, rfl⟩ := Option.map_eq_some_iff.mp hb'
    exact touched_adp b adp
  | nvramIngestBank buf past => exact guestNvramIngestBank_moved h buf past
  | gxf op =>
    have hcall : Moved b (b.guestGxf op).2 := moved_ite (fun _ => ⟨h, .quiet⟩) fun _ => ⟨h, .quiet⟩
    exact hcall
  | gxfBindGuestTlb cpu =>
    have hcall : Moved b (b.guestGxfBindGuestTlb cpu).2 := moved_ite (fun _ => ⟨h, .quiet⟩) fun _ => ⟨h, .quiet⟩
    exact hcall

lemma step_rst {b : Bridge κ} (h : b.world.Hooked) {op : BridgeOp κ} (hop : op.resetsAic = true) :
    (b.step op).2.world.Hooked ∧ (b.step op).2.signals = { b.signals with line := fun _ => false } := by
  cases op with
  | mmioWrite window offset width value =>
    obtain ⟨rfl, rfl, rfl⟩ := of_decide_eq_true hop
    have hready : b.ready = true := h.ready
    have hstep : (b.step (.mmioWrite windowAic VfAic.regRst 32 value)).2 = b.withAic b.aic.resetState := by
      simp [step, onMmio, mmioWrite, mmioWidthValid, aicDispatchWrite, dispatch, hready, VfAic.write_rst, valid]
    rw [hstep]
    refine ⟨hooked_withAic h rfl, ?_⟩
    exact congrArg (fun line => (⟨line, b.pending, b.storage.irqPending, b.world.pci ()⟩ : Signals))
      b.aic.line_resetState
  | _ => cases hop

lemma step_storageDetach {b : Bridge κ} (h : b.world.Hooked) :
    (b.step .storageDetach).2.world.Hooked ∧ (b.step .storageDetach).2.signals =
      { b.signals with line := Function.update b.signals.line storageIrqLine false, storage := false } := by
  have hready : b.ready = true := h.ready
  have hworld : ({ b with storage := b.storage.detach } : Bridge κ).world.Hooked := h
  obtain ⟨r, hr, hhooked, hsignals⟩ := setLine_spec hworld storageIrqLine_lt b.storage.detach.irqPending
  have hstep : (b.step .storageDetach).2 = r := by
    simp only [step, onHost, guestStorageDetach, host, dispatch, hready, valid, Option.map_some, Bool.not_true,
      Bool.false_eq_true, if_false, storageSyncAicIrq, hr]
  rw [hstep]
  exact ⟨hhooked, hsignals⟩

lemma fromBridge_accesses (b : Bridge κ) (c : AnsCall) : ∀ op ∈ b.accesses c, AnsWorld.FromBridge op := by
  cases c with
  | pciPrepareMsi enable addr data => cases enable <;> simp [accesses, AnsWorld.FromBridge]
  | pciPrepareMsix enable tableBir => cases enable <;> simp [accesses, AnsWorld.FromBridge]
  | _ =>
    simp only [accesses, fill, AnsWorld.FromBridge, List.forall_mem_cons, List.not_mem_nil, false_implies, implies_true,
      and_true, or_true, true_or]

lemma step_ans {b : Bridge κ} (h : b.world.Hooked) (c : AnsCall) :
    AnsWorld.Drove b.world (b.step (.ans c)).2.world (AnsWorld.lastLevel b.world (b.accesses c)) ∧
      (b.step (.ans c)).2.pending = b.pending ∧ (b.step (.ans c)).2.storage = b.storage := by
  have hready : b.ready = true := h.ready
  have hdrove := AnsWorld.attempt_drove _ (b.fromBridge_accesses c) h 0#64
  simp only [step, onHost, ansCall, hready, Bool.not_true, Bool.false_eq_true, if_false]
  cases hr : b.world.attempt 0#64 (b.accesses c) with
  | mk r world =>
    rw [hr] at hdrove
    cases r <;> exact ⟨hdrove, rfl, rfl⟩

lemma guestMmioReset_pending (b : Bridge κ) : b.guestMmioReset.pending = fun l => decide (l = .sep) := by
  funext l
  cases l <;> with_unfolding_all rfl

lemma guestMmioReset_level (b : Bridge κ) :
    b.guestMmioReset.aic.level = fun w => if w = 0 then (1#32 <<< sepIrqLine) else 0#32 := by
  funext w
  cases w with
  | zero =>
    have hlevel : b.guestMmioReset.aic.level 0 = (0#32 ||| 1#32 <<< sepIrqLine) &&& ~~~(1#32 <<< storageIrqLine) := by
      with_unfolding_all rfl
    rw [hlevel, if_pos rfl]
    decide
  | succ w => rfl

lemma guestMmioReset_line (b : Bridge κ) (irq : ℕ) : b.guestMmioReset.world.line irq = decide (irq = sepIrqLine) := by
  have hline : b.guestMmioReset.world.line irq = VfAic.line b.guestMmioReset.aic.level irq := rfl
  rw [hline, guestMmioReset_level, VfAic.line]
  by_cases hw : irq / 32 = 0
  · rw [if_pos hw, VfAic.getLsbD_one_shiftLeft (by decide), Nat.mod_eq_of_lt (by omega)]
  · rw [if_neg hw, BitVec.getLsbD_zero, decide_eq_false]
    rintro rfl
    exact hw (by decide)

lemma guestMmioReset_delivery (b : Bridge κ) : (b.guestMmioReset.world.pci ()).deliveryPendingLevel = false := by
  with_unfolding_all rfl

lemma guestMmioReset_wired (b : Bridge κ) : b.guestMmioReset.world.Wired := rfl

lemma guestMmioReset_hooked (b : Bridge κ) : b.guestMmioReset.world.Hooked := by
  refine ⟨fun _ => ?_, rfl, rfl, .inr b.guestMmioReset_wired⟩
  have hidle := b.guestMmioReset_delivery
  simp only [VfAnsPci.deliveryPendingLevel, Bool.or_eq_false_iff] at hidle
  rw [VfAnsPci.routed_iff, hidle.1.1, hidle.1.2, hidle.2]
  exact ⟨fun hp => absurd hp (by simp), fun hp => absurd hp (by simp), fun hp => absurd hp (by simp)⟩

end Bridge

namespace BridgeOp

variable {κ : Type}

def setsLine : BridgeOp κ → Bool
  | .aicSetLine _ _ => true
  | _ => false

lemma resetsAic_of_plain {op : BridgeOp κ} (h : op.plain = true) : op.resetsAic = false := by
  cases op with
  | mmioWrite window offset width value => exact Bool.not_eq_true' _ |>.mp h
  | _ => rfl

lemma kinds (op : BridgeOp κ) (hop : op.setsLine = false) :
    op.plain = true ∨ op.resetsAic = true ∨ op = .reset ∨ op = .storageDetach ∨ ∃ c, op = .ans c := by
  cases op with
  | mmioWrite window offset width value =>
    cases hrst : resetsAic (.mmioWrite window offset width value : BridgeOp κ) with
    | false => exact .inl (congrArg Bool.not hrst)
    | true => exact .inr (.inl rfl)
  | aicSetLine irq high => cases hop
  | reset => simp
  | storageDetach => simp
  | ans c => simp
  | _ => exact .inl rfl

end BridgeOp

namespace Bridge

variable {κ : Type}

def Mirrored (b : Bridge κ) : Prop := ∀ l : IrqLine, b.world.line l.irq = b.pending l

lemma Moves.mirrored {s s' : Signals} (h : Moves s s') (hs : ∀ l : IrqLine, s.line l.irq = s.pending l) (l : IrqLine) :
    s'.line l.irq = s'.pending l := by
  cases h with
  | quiet => exact hs l
  | device l' v =>
    dsimp only
    by_cases hl : l = l'
    · rw [hl, Function.update_self, Function.update_self]
    · rw [Function.update_of_ne (IrqLine.irq_injective.ne hl), Function.update_of_ne hl]
      exact hs l
  | attach =>
    dsimp only
    rw [Function.update_of_ne l.irq_ne_storage]
    exact hs l

lemma guestMmioReset_mirrored (b : Bridge κ) : b.guestMmioReset.Mirrored := by
  intro l
  rw [guestMmioReset_line, guestMmioReset_pending]
  cases l <;> rfl

lemma step_hooked {b : Bridge κ} (h : b.world.Hooked) {op : BridgeOp κ} (hop : op.setsLine = false) :
    (b.step op).2.world.Hooked := by
  rcases op.kinds hop with hplain | hrst | rfl | rfl | ⟨c, rfl⟩
  · exact (step_moved h hplain).hooked
  · exact (step_rst h hrst).1
  · exact b.guestMmioReset_hooked
  · exact (step_storageDetach h).1
  · exact (step_ans h c).1.hooked

lemma step_mirrored {b : Bridge κ} (h : b.world.Hooked) (hm : b.Mirrored) {op : BridgeOp κ} (hop : op.setsLine = false) :
    (b.step op).2.Mirrored ↔ ¬(op.resetsAic = true ∧ ∃ l, b.pending l = true) := by
  rcases op.kinds hop with hplain | hrst | rfl | rfl | ⟨c, rfl⟩
  · rw [BridgeOp.resetsAic_of_plain hplain]
    exact iff_of_true ((step_moved h hplain).moves.mirrored hm) (by simp)
  · obtain ⟨-, hsignals⟩ := step_rst h hrst
    have hline : (b.step op).2.world.line = fun _ => false := congrArg Signals.line hsignals
    have hpending : (b.step op).2.pending = b.pending := congrArg Signals.pending hsignals
    rw [Mirrored, hline, hpending]
    simp only [hrst, true_and, not_exists, Bool.not_eq_true]
    exact forall_congr' fun l => eq_comm
  · exact iff_of_true b.guestMmioReset_mirrored (by simp [BridgeOp.resetsAic])
  · obtain ⟨-, hsignals⟩ := step_storageDetach h
    refine iff_of_true (fun l => ?_) (by simp [BridgeOp.resetsAic])
    have hline := congrFun (congrArg Signals.line hsignals) l.irq
    have hpending := congrFun (congrArg Signals.pending hsignals) l
    exact hline.trans ((Function.update_of_ne l.irq_ne_storage _ _).trans ((hm l).trans hpending.symm))
  · obtain ⟨hdrove, hpending, -⟩ := step_ans h c
    refine iff_of_true (fun l => ?_) (by simp [BridgeOp.resetsAic])
    rw [hdrove.others l.irq l.irq_ne_storage, hpending]
    exact hm l

/-- From a reset of the bridge on, the line of each of the six devices has its interrupt
after every operation exactly when the guest never resets the AIC while one of them is
pending. -/
theorem line_mirror_iff (b : Bridge κ) (ops : List (BridgeOp κ)) (hops : ∀ op ∈ ops, op.setsLine = false) :
    b.guestMmioReset.Mirrored ∧
      ((∀ x ∈ Run.log step b.guestMmioReset ops, x.after.Mirrored) ↔
        ∀ x ∈ Run.log step b.guestMmioReset ops, ¬(x.event.resetsAic = true ∧ ∃ l, x.before.pending l = true)) := by
  refine ⟨b.guestMmioReset_mirrored, ?_⟩
  exact Run.forall_after_iff (I := fun b : Bridge κ => b.world.Hooked) (P := Mirrored)
    (C := fun op => op.setsLine = false) (D := fun b op => op.resetsAic = true ∧ ∃ l, b.pending l = true)
    (fun _ _ hb hop => step_hooked hb hop) (fun _ _ hb hop hm => step_mirrored hb hm hop) ops hops
    b.guestMmioReset_hooked b.guestMmioReset_mirrored

def powerOn : Bridge Unit where
  world := AnsWorld.init ⟨⟨fun _ => 0#8, false⟩,
    ⟨⟨896, 8, 0#32, fun _ => 0#32, fun _ => 0#32, fun _ => 0#32, fun _ => 0#32, by decide, by decide⟩, false⟩, ()⟩
  adminSqTail := 0#16
  timer := .init
  storage := .init
  recovery := .init
  dart := .init
  sart := ⟨VfSart.version1, 0#32, fun _ => 0#32⟩
  nvram := Nvram.zeroed
  nvramBootArgs := []
  smc := .init
  smcLastResp := 0#64
  uart := .init none
  adp := .init
  sep := .init
  gxf := .init
  gxfTlbCpu := none

/-- The announcement of the mailbox is lost when the guest resets the AIC first. -/
theorem line_lost_on_aic_reset :
    ¬∀ x ∈ Run.log step powerOn.guestMmioReset [.mmioWrite windowAic VfAic.regRst 32 1#64], x.after.Mirrored := by
  intro h
  have hafter := h _ List.mem_cons_self
  have hpending : powerOn.guestMmioReset.pending .sep = true := by rw [guestMmioReset_pending]; rfl
  exact (step_mirrored powerOn.guestMmioReset_hooked powerOn.guestMmioReset_mirrored rfl).mp hafter ⟨rfl, .sep, hpending⟩

theorem line_mirror_received :
    (Run.log step powerOn.guestMmioReset [.uartPushRx 0x41#8, .mmioRead windowUart VfAppleUart.regUrxh 32]).Forall
      fun x => x.after.Mirrored := by
  have hops : ∀ op ∈ ([.uartPushRx 0x41#8, .mmioRead windowUart VfAppleUart.regUrxh 32] : List (BridgeOp Unit)),
      op.setsLine = false := by simp [BridgeOp.setsLine]
  refine List.forall_iff_forall_mem.mpr ((line_mirror_iff powerOn _ hops).2.mpr ?_)
  simp [Run.log, Run.entry, BridgeOp.resetsAic]

end Bridge

end Nextcore.Device
