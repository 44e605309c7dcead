import Nextcore.Device.AnsPci

/-! The level an endpoint was given, the latch that holds it and the sink that sees it.
A call sets the level or keeps it; the latch moves with the mode. -/

namespace Nextcore.Device

variable {ι α μ : Type}

namespace VfAnsPci

open AnsPci

inductive Mode
  | msix
  | msi
  | intx
  deriving DecidableEq, Repr

def mode (s : VfAnsPci α μ) : Mode := if s.msixEnabled then .msix else if s.msiEnabled then .msi else .intx

def pendingOf (s : VfAnsPci α μ) : Mode → Bool
  | .msix => s.msixPending
  | .msi => s.msiPending
  | .intx => s.intxPending

def Routed (s : VfAnsPci α μ) : Prop := ∀ m, s.pendingOf m = true → m = s.mode

lemma routed_iff (s : VfAnsPci α μ) :
    s.Routed ↔ (s.msixPending = true → s.msixEnabled = true) ∧
      (s.msiPending = true → s.msixEnabled = false ∧ s.msiEnabled = true) ∧
        (s.intxPending = true → s.msixEnabled = false ∧ s.msiEnabled = false) := by
  constructor
  · intro h
    refine ⟨fun hp => ?_, fun hp => ?_, fun hp => ?_⟩
    · have hm := h .msix hp
      rw [mode] at hm
      split_ifs at hm with hx
      exact hx
    · have hm := h .msi hp
      rw [mode] at hm
      split_ifs at hm with hx hy
      exact ⟨Bool.not_eq_true _ ▸ hx, hy⟩
    · have hm := h .intx hp
      rw [mode] at hm
      split_ifs at hm with hx hy
      exact ⟨Bool.not_eq_true _ ▸ hx, Bool.not_eq_true _ ▸ hy⟩
  · rintro ⟨hx, hm, hi⟩ m hp
    cases m with
    | msix => simp [mode, hx hp]
    | msi => simp [mode, hm hp]
    | intx => simp [mode, hi hp]

lemma Routed.pendingOf_mode {s : VfAnsPci α μ} (h : s.Routed) : s.pendingOf s.mode = s.deliveryPendingLevel := by
  obtain ⟨hx, hm, hi⟩ := s.routed_iff.mp h
  rw [deliveryPendingLevel, mode]
  cases hxe : s.msixEnabled <;> cases hme : s.msiEnabled <;>
    simp_all [pendingOf]

structure SameSignal (s s' : VfAnsPci α μ) : Prop where
  intx : s'.intxPending = s.intxPending
  msi : s'.msiPending = s.msiPending
  msix : s'.msixPending = s.msixPending
  msiEnabled : s'.msiEnabled = s.msiEnabled
  msixEnabled : s'.msixEnabled = s.msixEnabled
  aicFn : s'.aicFn = s.aicFn

lemma SameSignal.refl (s : VfAnsPci α μ) : SameSignal s s := ⟨rfl, rfl, rfl, rfl, rfl, rfl⟩

lemma SameSignal.trans {s s' s'' : VfAnsPci α μ} (h : SameSignal s s') (h' : SameSignal s' s'') : SameSignal s s'' :=
  ⟨h'.intx.trans h.intx, h'.msi.trans h.msi, h'.msix.trans h.msix, h'.msiEnabled.trans h.msiEnabled,
    h'.msixEnabled.trans h.msixEnabled, h'.aicFn.trans h.aicFn⟩

lemma SameSignal.delivery {s s' : VfAnsPci α μ} (h : SameSignal s s') :
    s'.deliveryPendingLevel = s.deliveryPendingLevel := by
  rw [deliveryPendingLevel, deliveryPendingLevel, h.intx, h.msi, h.msix]

lemma SameSignal.routed {s s' : VfAnsPci α μ} (h : SameSignal s s') (hs : s.Routed) : s'.Routed := by
  rw [routed_iff] at hs ⊢
  rw [h.intx, h.msi, h.msix, h.msiEnabled, h.msixEnabled]
  exact hs

lemma syncAic_signal (s : VfAnsPci α μ) (e : Env α μ) : SameSignal s (s.syncAic e).2.1 := by
  rw [syncAic]
  split
  · exact .refl s
  · dsimp only
    split_ifs
    · exact ⟨rfl, rfl, rfl, rfl, rfl, rfl⟩
    · exact .refl s

lemma tryMsiMessageWrite_signal (s : VfAnsPci α μ) (e : Env α μ) : SameSignal s (s.tryMsiMessageWrite e).2.1 := by
  rw [tryMsiMessageWrite]
  cases s.msiGpa with
  | none =>
    cases s.msiMessageFn with
    | none => exact .refl s
    | some fn =>
      dsimp only
      split_ifs
      · exact ⟨rfl, rfl, rfl, rfl, rfl, rfl⟩
      · exact .refl s
  | some gpa =>
    dsimp only
    split_ifs
    · exact .refl s
    · exact .refl s
    · exact .refl s
    · exact ⟨rfl, rfl, rfl, rfl, rfl, rfl⟩

def latched (s : VfAnsPci α μ) (level : Bool) : VfAnsPci α μ :=
  { s with
    msixPending := s.msixEnabled && level
    msiPending := !s.msixEnabled && s.msiEnabled && level
    intxPending := !s.msixEnabled && !s.msiEnabled && level }

lemma latched_delivery (s : VfAnsPci α μ) (level : Bool) : (s.latched level).deliveryPendingLevel = level := by
  cases hx : s.msixEnabled <;> cases hm : s.msiEnabled <;> cases level <;>
    simp [latched, deliveryPendingLevel, hx, hm]

lemma latched_routed (s : VfAnsPci α μ) (level : Bool) : (s.latched level).Routed := by
  rw [routed_iff]
  refine ⟨fun h => ?_, fun h => ?_, fun h => ?_⟩
  · exact (Bool.and_eq_true_iff.mp h).1
  · simp only [latched, Bool.and_eq_true, Bool.not_eq_true'] at h
    exact h.1
  · simp only [latched, Bool.and_eq_true, Bool.not_eq_true'] at h
    exact h.1

lemma setIrq_signal (s : VfAnsPci α μ) (e : Env α μ) (level : Bool) :
    SameSignal (s.latched level) (s.setIrq e level).1 := by
  rw [setIrq]
  refine SameSignal.trans ?_ (syncAic_signal _ _)
  split_ifs with hx hm hl
  · exact ⟨by simp [latched, hx], by simp [latched, hx], by simp [latched, hx], rfl, rfl, rfl⟩
  · refine SameSignal.trans ?_ (tryMsiMessageWrite_signal _ _)
    exact ⟨by simp [latched, hm], by simp [latched, hx, hm], by simp [latched, hx], rfl, rfl, rfl⟩
  · exact ⟨by simp [latched, hm], by simp [latched, hx, hm], by simp [latched, hx], rfl, rfl, rfl⟩
  · exact ⟨by simp [latched, hx, hm], by simp [latched, hm], by simp [latched, hx], rfl, rfl, rfl⟩

lemma Routed.latches {s : VfAnsPci α μ} (h : s.Routed) :
    s.msixPending = (s.msixEnabled && s.deliveryPendingLevel) ∧
      s.msiPending = (!s.msixEnabled && s.msiEnabled && s.deliveryPendingLevel) ∧
        s.intxPending = (!s.msixEnabled && !s.msiEnabled && s.deliveryPendingLevel) := by
  obtain ⟨hx, hm, hi⟩ := s.routed_iff.mp h
  rw [deliveryPendingLevel]
  cases hxe : s.msixEnabled <;> cases hme : s.msiEnabled <;> simp_all

lemma applyMsiEnable_signal {s : VfAnsPci α μ} (h : s.Routed) (e : Env α μ) (enable : Bool) :
    SameSignal ({ s with msiEnabled := enable }.latched s.deliveryPendingLevel) (s.applyMsiEnable e enable).1 := by
  obtain ⟨hx, hm, hi⟩ := h.latches
  generalize s.deliveryPendingLevel = d at hx hm hi ⊢
  rw [applyMsiEnable]
  dsimp only
  split_ifs with hmsix hon hintx hoff hmsi
  · refine SameSignal.trans ?_ (syncAic_signal _ _)
    constructor <;> simp_all [latched]
  · refine SameSignal.trans ?_ ((tryMsiMessageWrite_signal _ _).trans (syncAic_signal _ _))
    constructor <;> simp_all [latched]
  · refine SameSignal.trans ?_ (syncAic_signal _ _)
    constructor <;> simp_all [latched]
  · refine SameSignal.trans ?_ (syncAic_signal _ _)
    constructor <;> simp_all [latched]
  · refine SameSignal.trans ?_ (syncAic_signal _ _)
    constructor <;> simp_all [latched]
  · refine SameSignal.trans ?_ (syncAic_signal _ _)
    cases hen : enable <;> constructor <;> simp_all [latched]

lemma applyMsixEnable_signal {s : VfAnsPci α μ} (h : s.Routed) (e : Env α μ) (enable : Bool) :
    SameSignal ({ s with msixEnabled := enable }.latched s.deliveryPendingLevel) (s.applyMsixEnable e enable).1 := by
  obtain ⟨hx, hm, hi⟩ := h.latches
  generalize s.deliveryPendingLevel = d at hx hm hi ⊢
  rw [applyMsixEnable]
  refine SameSignal.trans ?_ (syncAic_signal _ _)
  dsimp only
  split_ifs with hon hpending hoff hmsix hmsi
  · cases hme : s.msiEnabled <;> constructor <;> simp_all [latched]
  · cases hme : s.msiEnabled <;> constructor <;> simp_all [latched]
  · refine SameSignal.trans ?_ (tryMsiMessageWrite_signal _ _)
    constructor <;> simp_all [latched]
  · constructor <;> simp_all [latched]
  · constructor <;> simp_all [latched]
  · cases hen : enable <;> constructor <;> simp_all [latched]

def sunk (fn : Option (α → ℕ → Bool → Bool × α)) (aic : α) (level : Bool) : α :=
  (fn.map fun fn => (fn aic aicStorageIrqLine level).2).getD aic

lemma syncAic_aic (s : VfAnsPci α μ) (e : Env α μ) : (s.syncAic e).2.2.aic = sunk s.aicFn e.aic s.deliveryPendingLevel := by
  rw [syncAic, sunk]
  cases s.aicFn with
  | none => rfl
  | some fn =>
    dsimp only
    split_ifs <;> rfl

lemma tryMsiMessageWrite_aic (s : VfAnsPci α μ) (e : Env α μ) : (s.tryMsiMessageWrite e).2.2.aic = e.aic := by
  rw [tryMsiMessageWrite]
  cases s.msiGpa with
  | none =>
    cases s.msiMessageFn with
    | none => rfl
    | some fn =>
      dsimp only
      split_ifs <;> rfl
  | some gpa =>
    dsimp only
    split_ifs <;> rfl

lemma syncAic_sunk {s s' : VfAnsPci α μ} {e e' : Env α μ} (hfn : s'.aicFn = s.aicFn) (he : e'.aic = e.aic) :
    (s'.syncAic e').2.2.aic = sunk s.aicFn e.aic (s'.syncAic e').2.1.deliveryPendingLevel := by
  rw [syncAic_aic, hfn, he, (syncAic_signal s' e').delivery]

lemma setIrq_aic (s : VfAnsPci α μ) (e : Env α μ) (level : Bool) :
    (s.setIrq e level).2.aic = sunk s.aicFn e.aic (s.setIrq e level).1.deliveryPendingLevel := by
  rw [setIrq]
  dsimp only
  split_ifs
  · exact syncAic_sunk rfl rfl
  · exact syncAic_sunk (tryMsiMessageWrite_signal _ _).aicFn (tryMsiMessageWrite_aic _ _)
  · exact syncAic_sunk rfl rfl
  · exact syncAic_sunk rfl rfl

lemma applyMsiEnable_aic (s : VfAnsPci α μ) (e : Env α μ) (enable : Bool) :
    (s.applyMsiEnable e enable).2.aic = sunk s.aicFn e.aic (s.applyMsiEnable e enable).1.deliveryPendingLevel := by
  rw [applyMsiEnable]
  dsimp only
  split_ifs
  · exact syncAic_sunk rfl rfl
  · exact syncAic_sunk (tryMsiMessageWrite_signal _ _).aicFn (tryMsiMessageWrite_aic _ _)
  · exact syncAic_sunk rfl rfl
  · exact syncAic_sunk rfl rfl
  · exact syncAic_sunk rfl rfl
  · exact syncAic_sunk rfl rfl

lemma applyMsixEnable_aic (s : VfAnsPci α μ) (e : Env α μ) (enable : Bool) :
    (s.applyMsixEnable e enable).2.aic = sunk s.aicFn e.aic (s.applyMsixEnable e enable).1.deliveryPendingLevel := by
  rw [applyMsixEnable]
  dsimp only
  split_ifs
  · exact syncAic_sunk rfl rfl
  · exact syncAic_sunk rfl rfl
  · exact syncAic_sunk (tryMsiMessageWrite_signal _ _).aicFn (tryMsiMessageWrite_aic _ _)
  · exact syncAic_sunk rfl rfl
  · exact syncAic_sunk rfl rfl
  · exact syncAic_sunk rfl rfl

end VfAnsPci

inductive PciCall (α μ : Type)
  | setIrq (level : Bool)
  | write (off width : ℕ) (value : U64)
  | enableMemoryBusMaster
  | bindMsiGpa (mem : Option Span) (base : U64)
  | bindMsiMessage (fn : Option (μ → U64 → U16 → Bool × μ))
  | bindAic (fn : Option (α → ℕ → Bool → Bool × α))

namespace VfAnsPci

open AnsPci

def call (s : VfAnsPci α μ) (e : Env α μ) : PciCall α μ → VfAnsPci α μ × Env α μ
  | .setIrq level => s.setIrq e level
  | .write off width value => (s.write e off width value).getD (s, e)
  | .enableMemoryBusMaster => (s.enableMemoryBusMaster, e)
  | .bindMsiGpa mem base => ((s.bindMsiGpa mem base).getD s, e)
  | .bindMsiMessage fn => (s.bindMsiMessage fn, e)
  | .bindAic fn => (s.bindAic e fn).2

structure Called (s : VfAnsPci α μ) (e : Env α μ) (level : Bool) (r : VfAnsPci α μ × Env α μ) : Prop where
  routed : r.1.Routed
  delivery : r.1.deliveryPendingLevel = level
  aicFn : r.1.aicFn = s.aicFn
  aic : r.2.aic = sunk s.aicFn e.aic level ∨ r.2.aic = e.aic ∧ level = s.deliveryPendingLevel

lemma called_of_same {s : VfAnsPci α μ} (h : s.Routed) {e : Env α μ} {r : VfAnsPci α μ × Env α μ}
    (hs : SameSignal s r.1) (he : r.2.aic = e.aic) : Called s e s.deliveryPendingLevel r :=
  ⟨hs.routed h, hs.delivery, hs.aicFn, .inr ⟨he, rfl⟩⟩

lemma called_setIrq (s : VfAnsPci α μ) (e : Env α μ) (level : Bool) : Called s e level (s.setIrq e level) := by
  have hsame := s.setIrq_signal e level
  have hdelivery : (s.setIrq e level).1.deliveryPendingLevel = level := by
    rw [hsame.delivery, latched_delivery]
  have haic := setIrq_aic s e level
  rw [hdelivery] at haic
  exact ⟨hsame.routed (s.latched_routed level), hdelivery, hsame.aicFn, .inl haic⟩

lemma called_applyMsiEnable {s : VfAnsPci α μ} (h : s.Routed) (e : Env α μ) (enable : Bool) :
    Called s e s.deliveryPendingLevel (s.applyMsiEnable e enable) := by
  have hsame := applyMsiEnable_signal h e enable
  have hdelivery : (s.applyMsiEnable e enable).1.deliveryPendingLevel = s.deliveryPendingLevel := by
    rw [hsame.delivery, latched_delivery]
  have haic := applyMsiEnable_aic s e enable
  rw [hdelivery] at haic
  exact ⟨hsame.routed (latched_routed _ _), hdelivery, hsame.aicFn, .inl haic⟩

lemma called_applyMsixEnable {s : VfAnsPci α μ} (h : s.Routed) (e : Env α μ) (enable : Bool) :
    Called s e s.deliveryPendingLevel (s.applyMsixEnable e enable) := by
  have hsame := applyMsixEnable_signal h e enable
  have hdelivery : (s.applyMsixEnable e enable).1.deliveryPendingLevel = s.deliveryPendingLevel := by
    rw [hsame.delivery, latched_delivery]
  have haic := applyMsixEnable_aic s e enable
  rw [hdelivery] at haic
  exact ⟨hsame.routed (latched_routed _ _), hdelivery, hsame.aicFn, .inl haic⟩

lemma called_write {s : VfAnsPci α μ} (h : s.Routed) (e : Env α μ) (off width : ℕ) (value : U64) :
    Called s e s.deliveryPendingLevel ((s.write e off width value).getD (s, e)) := by
  have hself : Called s e s.deliveryPendingLevel (s, e) := called_of_same h (.refl s) rfl
  rw [write]
  split_ifs <;> rw [Option.getD]
  · exact called_of_same h (by constructor <;> rfl) rfl
  · exact hself
  · exact called_applyMsiEnable h e _
  · exact hself
  · exact called_of_same h (by constructor <;> rfl) rfl
  · exact hself
  · exact called_of_same h (by constructor <;> rfl) rfl
  · exact hself
  · exact called_applyMsixEnable h e _
  · exact hself
  · exact called_of_same h (by constructor <;> rfl) rfl
  · exact hself
  · exact hself

end VfAnsPci

def PciCall.level (c : PciCall α μ) (before : Bool) : Bool :=
  match c with
  | .setIrq level => level
  | _ => before

namespace VfAnsPci

open AnsPci

lemma called_call {s : VfAnsPci α μ} (h : s.Routed) (e : Env α μ) {c : PciCall α μ} (hc : ∀ fn, c ≠ .bindAic fn) :
    Called s e (c.level s.deliveryPendingLevel) (s.call e c) := by
  cases c with
  | setIrq level => exact called_setIrq s e level
  | write off width value => exact called_write h e off width value
  | enableMemoryBusMaster => exact called_of_same h (by constructor <;> rfl) rfl
  | bindMsiGpa mem base =>
    cases mem with
    | none => exact called_of_same h (by constructor <;> rfl) rfl
    | some span =>
      simp only [call, bindMsiGpa]
      split_ifs
      · exact called_of_same h (by constructor <;> rfl) rfl
      · exact called_of_same h (.refl s) rfl
  | bindMsiMessage fn => exact called_of_same h (by constructor <;> rfl) rfl
  | bindAic fn => exact absurd rfl (hc fn)

lemma bindAic_called {s : VfAnsPci α μ} (h : s.Routed) (e : Env α μ) (fn : Option (α → ℕ → Bool → Bool × α)) :
    (s.call e (.bindAic fn)).1.Routed ∧ (s.call e (.bindAic fn)).1.deliveryPendingLevel = s.deliveryPendingLevel ∧
      (s.call e (.bindAic fn)).1.aicFn = fn ∧ (s.call e (.bindAic fn)).2.aic = sunk fn e.aic s.deliveryPendingLevel := by
  have hroute : ({ s with aicFn := fn } : VfAnsPci α μ).Routed := h
  cases fn with
  | none => exact ⟨hroute, rfl, rfl, rfl⟩
  | some fn =>
    have hsame := syncAic_signal { s with aicFn := some fn } e
    exact ⟨hsame.routed hroute, hsame.delivery, hsame.aicFn, syncAic_aic _ _⟩

lemma call_delivery {s : VfAnsPci α μ} (h : s.Routed) (e : Env α μ) (c : PciCall α μ) :
    (s.call e c).1.deliveryPendingLevel = c.level s.deliveryPendingLevel := by
  by_cases hc : ∃ fn, c = .bindAic fn
  · obtain ⟨fn, rfl⟩ := hc
    exact (bindAic_called h e fn).2.1
  · exact (called_call h e (not_exists.mp hc)).delivery

end VfAnsPci

end Nextcore.Device
