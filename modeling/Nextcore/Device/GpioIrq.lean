import Nextcore.Device.Gpio

/-! The interrupt bookkeeping of the GPIO: a pin count of at most 481 keeps every status bit inside
its row, and the level reported for a group is then whether one of its pins pends. -/

namespace Nextcore.Device.VfAppleGpio

def statusBit (group pin : ℕ) : ℕ × ℕ × ℕ := (group, gpioIntWord pin, pin % 32)

def Pending (g : VfAppleGpio) (group pin : ℕ) : Prop :=
  ∃ row word, g.intCfg[group]? = some row ∧ row[gpioIntWord pin]? = some word ∧ word.getLsbD (pin % 32) = true

def hear (levels : ℕ → Bool) : GpioCall → ℕ → Bool
  | .irq group asserted => Function.update levels group asserted
  | .out _ _ => levels

def lastLevel (calls : List GpioCall) : ℕ → Bool := calls.foldl hear fun _ => false

structure Bookkept (g : VfAppleGpio) : Prop where
  distinct : ∀ group group' pin pin', group < g.nirqgrps → group' < g.nirqgrps → pin < g.npins → pin' < g.npins →
    statusBit group pin = statusBit group' pin' → group = group' ∧ pin = pin'
  inside : ∀ pin, pin < g.npins → gpioIntWord pin < intWords
  runs : ∀ ops, ∃ calls g', g.run ops = some (calls, g') ∧
    (g.irq = true → ∀ group, group < g.nirqgrps → (lastLevel calls group = true ↔ ∃ pin < g.npins, g'.Pending group pin))

lemma statusBit_injective {group group' pin pin' : ℕ} (h : statusBit group pin = statusBit group' pin') :
    group = group' ∧ pin = pin' := by
  simp only [statusBit, gpioIntWord, Prod.mk.injEq] at h
  omega

def Owned (npins : ℕ) (row : Vector U32 16) : Prop :=
  ∀ (i : ℕ) (hi : i < 16) (b : ℕ), i < gpioIntWords npins → row[i].getLsbD b = true →
    ∃ pin < npins, gpioIntWord pin = i ∧ pin % 32 = b

def rowAt (g : VfAppleGpio) (group : ℕ) : Vector U32 16 := (g.intCfg[group]?).getD (Vector.replicate 16 0#32)

def RowPends (npins : ℕ) (row : Vector U32 16) : Prop :=
  ∃ pin < npins, ∃ word, row[gpioIntWord pin]? = some word ∧ word.getLsbD (pin % 32) = true

lemma intWords_le {npins : ℕ} (h : npins ≤ 481) : gpioIntWords npins ≤ 16 := by
  unfold gpioIntWords gpioIntWord
  split <;> omega

lemma gpioIntWord_lt {npins pin : ℕ} (h : pin < npins) : gpioIntWord pin < gpioIntWords npins := by
  unfold gpioIntWords gpioIntWord
  rw [if_neg (by omega)]
  omega

lemma scanRow_spec (row : Vector U32 16) (remaining w : ℕ) (h : w + remaining ≤ 16) :
    ∃ b, scanRow row remaining w = some b ∧
      (b = true ↔ ∃ (i : ℕ) (hi : i < 16), w ≤ i ∧ i < w + remaining ∧ row[i] ≠ 0#32) := by
  induction remaining generalizing w with
  | zero =>
    refine ⟨false, rfl, ?_⟩
    simp only [Bool.false_eq_true, false_iff]
    rintro ⟨i, hi, h1, h2, -⟩
    omega
  | succ remaining ih =>
    have hw : w < 16 := by omega
    obtain ⟨b, hb, hiff⟩ := ih (w + 1) (by omega)
    have hget : row[w]? = some row[w] := Vector.getElem?_eq_getElem hw
    simp only [scanRow, hget]
    by_cases hz : row[w] ≠ 0#32
    · rw [if_pos hz]
      exact ⟨true, rfl, fun _ => ⟨w, hw, le_refl _, by omega, hz⟩, fun _ => rfl⟩
    · rw [if_neg hz]
      refine ⟨b, hb, hiff.trans ?_⟩
      constructor
      · rintro ⟨i, hi, h1, h2, h3⟩
        exact ⟨i, hi, by omega, by omega, h3⟩
      · rintro ⟨i, hi, h1, h2, h3⟩
        have hne : i ≠ w := fun he => hz (by subst he; exact h3)
        exact ⟨i, hi, by omega, by omega, h3⟩

lemma exists_bit {word : U32} (h : word ≠ 0#32) : ∃ b, word.getLsbD b = true := by
  by_contra hnone
  apply h
  apply BitVec.eq_of_getLsbD_eq
  intro i _
  rw [BitVec.getLsbD_zero]
  exact Bool.eq_false_of_not_eq_true fun hb => hnone ⟨i, hb⟩

lemma scanRow_pends {npins : ℕ} (hn : npins ≤ 481) {row : Vector U32 16} (h : Owned npins row) :
    ∃ b, scanRow row (gpioIntWords npins) 0 = some b ∧ (b = true ↔ RowPends npins row) := by
  have hle := intWords_le hn
  obtain ⟨b, hb, hiff⟩ := scanRow_spec row (gpioIntWords npins) 0 (by omega)
  refine ⟨b, hb, hiff.trans ?_⟩
  constructor
  · rintro ⟨i, hi, -, hlt, hne⟩
    obtain ⟨k, hk⟩ := exists_bit hne
    obtain ⟨pin, hpin, rfl, rfl⟩ := h i hi k (by omega) hk
    exact ⟨pin, hpin, row[gpioIntWord pin], Vector.getElem?_eq_getElem hi, hk⟩
  · rintro ⟨pin, hpin, word, hword, hbit⟩
    have hlt := gpioIntWord_lt hpin
    have hi : gpioIntWord pin < 16 := by omega
    rw [Vector.getElem?_eq_getElem hi] at hword
    refine ⟨gpioIntWord pin, hi, by omega, by omega, fun hz => ?_⟩
    rw [← Option.some.inj hword, hz, BitVec.getLsbD_zero] at hbit
    cases hbit

lemma updateWord_spec {α : Type} {n i : ℕ} (words : Vector α n) (h : i < n) (f : α → α) :
    updateWord words i f = some (words.set i (f words[i])) := dif_pos h

def Tame (npins : ℕ) (f : Vector U32 16 → Option (Vector U32 16)) : Prop :=
  ∀ row, Owned npins row → ∃ row', f row = some row' ∧ Owned npins row'

lemma tame_updateWord {npins i : ℕ} (hi : i < 16) {f : U32 → U32}
    (hf : ∀ word b, (f word).getLsbD b = true → word.getLsbD b = true ∨ ∃ pin < npins, gpioIntWord pin = i ∧ pin % 32 = b) :
    Tame npins (updateWord · i f) := by
  intro row hrow
  refine ⟨_, updateWord_spec row hi f, fun k hk b hlt hb => ?_⟩
  by_cases he : i = k
  · subst he
    rw [Vector.getElem_set_self] at hb
    rcases hf _ b hb with hold | hnew
    · exact hrow i hk b hlt hold
    · exact hnew
  · rw [Vector.getElem_set_ne _ _ he] at hb
    exact hrow k hk b hlt hb

lemma tame_set {npins pin : ℕ} (hn : npins ≤ 481) (hpin : pin < npins) : Tame npins (gpioIntSetBit · pin) := by
  have hlt := gpioIntWord_lt hpin
  have hle := intWords_le hn
  apply tame_updateWord (by omega)
  intro word b hb
  rw [BitVec.getLsbD_or, Bool.or_eq_true] at hb
  refine hb.imp id fun hbit => ⟨pin, hpin, rfl, ?_⟩
  rw [bit, BitVec.getLsbD_shiftLeft, BitVec.getLsbD_one] at hbit
  simp only [Bool.and_eq_true, Bool.not_eq_true', decide_eq_true_eq, decide_eq_false_iff_not] at hbit
  omega

lemma tame_clear {npins pin : ℕ} (hn : npins ≤ 481) (hpin : pin < npins) : Tame npins (gpioIntClearBit · pin) := by
  have hlt := gpioIntWord_lt hpin
  have hle := intWords_le hn
  apply tame_updateWord (by omega)
  intro word b hb
  rw [BitVec.getLsbD_and, Bool.and_eq_true] at hb
  exact .inl hb.1

lemma tame_ack {npins i : ℕ} (hi : i < 16) (value : U32) : Tame npins (updateWord · i (· &&& ~~~value)) := by
  apply tame_updateWord hi
  intro word b hb
  rw [BitVec.getLsbD_and, Bool.and_eq_true] at hb
  exact .inl hb.1

structure Kept (g : VfAppleGpio) : Prop where
  pins : g.npins ≤ 481
  groups : g.nirqgrps ≤ 7
  owned : ∀ group, group < g.nirqgrps → Owned g.npins (g.rowAt group)

structure SameShape (g g' : VfAppleGpio) : Prop where
  npins : g'.npins = g.npins
  nirqgrps : g'.nirqgrps = g.nirqgrps
  irq : g'.irq = g.irq

lemma SameShape.refl (g : VfAppleGpio) : SameShape g g := ⟨rfl, rfl, rfl⟩

lemma SameShape.trans {g g' g'' : VfAppleGpio} (h : SameShape g g') (h' : SameShape g' g'') : SameShape g g'' :=
  ⟨h'.npins.trans h.npins, h'.nirqgrps.trans h.nirqgrps, h'.irq.trans h.irq⟩

def Informed (levels : ℕ → Bool) (g : VfAppleGpio) : Prop :=
  g.irq = true → ∀ group, group < g.nirqgrps → (levels group = true ↔ RowPends g.npins (g.rowAt group))

structure Touches (g g' : VfAppleGpio) (group : ℕ) : Prop where
  shape : SameShape g g'
  others : ∀ k, k < 7 → k ≠ group → g'.rowAt k = g.rowAt k

lemma Touches.trans {g g' g'' : VfAppleGpio} {group : ℕ} (h : Touches g g' group) (h' : Touches g' g'' group) :
    Touches g g'' group :=
  ⟨h.shape.trans h'.shape, fun k hk hne => (h'.others k hk hne).trans (h.others k hk hne)⟩

structure Quiet (g g' : VfAppleGpio) : Prop where
  shape : SameShape g g'
  rows : g'.intCfg = g.intCfg

lemma Quiet.rowAt {g g' : VfAppleGpio} (h : Quiet g g') (group : ℕ) : g'.rowAt group = g.rowAt group := by
  rw [VfAppleGpio.rowAt, h.rows, VfAppleGpio.rowAt]

lemma Quiet.touches {g g' : VfAppleGpio} (h : Quiet g g') (group : ℕ) : Touches g g' group :=
  ⟨h.shape, fun k _ _ => h.rowAt k⟩

lemma Quiet.kept {g g' : VfAppleGpio} (h : Quiet g g') (hk : Kept g) : Kept g' where
  pins := h.shape.npins.trans_le hk.pins
  groups := h.shape.nirqgrps.trans_le hk.groups
  owned group hg := by
    rw [h.shape.npins, h.rowAt]
    exact hk.owned group (h.shape.nirqgrps ▸ hg)

lemma Quiet.informed {g g' : VfAppleGpio} (h : Quiet g g') {levels : ℕ → Bool} (hl : Informed levels g) :
    Informed levels g' := by
  intro hirq group hg
  rw [h.shape.npins, h.rowAt]
  exact hl (h.shape.irq ▸ hirq) group (h.shape.nirqgrps ▸ hg)

lemma rowAt_eq (g : VfAppleGpio) {group : ℕ} (h : group < 7) : g.rowAt group = g.intCfg[group] := by
  rw [rowAt, Vector.getElem?_eq_getElem h, Option.getD_some]

lemma withRow_spec {g : VfAppleGpio} (hk : Kept g) {group : ℕ} (hg : group < g.nirqgrps)
    {f : Vector U32 16 → Option (Vector U32 16)} (hf : Tame g.npins f) :
    ∃ g', g.withRow group f = some g' ∧ Kept g' ∧ Touches g g' group := by
  have hlt : group < 7 := lt_of_lt_of_le hg hk.groups
  obtain ⟨row, hrow, howned⟩ := hf (g.rowAt group) (hk.owned group hg)
  rw [rowAt_eq g hlt] at hrow
  have hself : ({ g with intCfg := g.intCfg.set group row } : VfAppleGpio).rowAt group = row := by
    rw [rowAt_eq _ hlt, Vector.getElem_set_self]
  have hother : ∀ k, k < 7 → k ≠ group → ({ g with intCfg := g.intCfg.set group row } : VfAppleGpio).rowAt k = g.rowAt k :=
    fun k hk' hne => by rw [rowAt_eq _ hk', rowAt_eq _ hk', Vector.getElem_set_ne _ _ hne.symm]
  refine ⟨{ g with intCfg := g.intCfg.set group row }, ?_, ⟨hk.pins, hk.groups, ?_⟩, ⟨⟨rfl, rfl, rfl⟩, hother⟩⟩
  · rw [withRow, dif_pos hlt, hrow]
    rfl
  · intro k hkg
    by_cases he : k = group
    · rw [he, hself]
      exact howned
    · rw [hother k (lt_of_lt_of_le hkg hk.groups) he]
      exact hk.owned k hkg

lemma raise_spec {g : VfAppleGpio} (hk : Kept g) (group : ℕ) (hg : group < g.nirqgrps) :
    ∃ calls, g.gpioRaiseIrq group = some calls ∧
      ∀ levels g₀, Touches g₀ g group → Informed levels g₀ → Informed (calls.foldl hear levels) g := by
  have hlt : group < 7 := lt_of_lt_of_le hg hk.groups
  obtain ⟨b, hb, hiff⟩ := scanRow_pends hk.pins (hk.owned group hg)
  have hactive : g.gpioGroupActive group = some b := by
    rw [gpioGroupActive, if_neg (by omega), Vector.getElem?_eq_getElem hlt, ← rowAt_eq g hlt]
    exact hb
  by_cases hirq : g.irq = true
  · refine ⟨[.irq group b], by rw [gpioRaiseIrq, if_pos hirq, hactive]; rfl, fun levels g₀ ht hl _ k hkg => ?_⟩
    simp only [List.foldl_cons, List.foldl_nil, hear]
    by_cases he : k = group
    · rw [he, Function.update_self]
      exact hiff
    · rw [Function.update_of_ne he, ht.others k (lt_of_lt_of_le hkg hk.groups) he, ht.shape.npins]
      exact hl (ht.shape.irq ▸ hirq) k (ht.shape.nirqgrps ▸ hkg)
  · exact ⟨[], by rw [gpioRaiseIrq, if_neg hirq], fun _ _ _ _ h => absurd h hirq⟩

def Served (g : VfAppleGpio) (r : Option (List GpioCall × VfAppleGpio)) : Prop :=
  ∃ calls g', r = some (calls, g') ∧ Kept g' ∧ SameShape g g' ∧
    ∀ levels, Informed levels g → Informed (calls.foldl hear levels) g'

lemma served_self {g : VfAppleGpio} (hk : Kept g) : Served g (some ([], g)) :=
  ⟨[], g, rfl, hk, .refl g, fun _ h => h⟩

lemma pin_word {g : VfAppleGpio} (hk : Kept g) {pin : ℕ} (hpin : pin < g.npins) : pin / 32 < 16 := by
  have := hk.pins
  omega

lemma testBit_spec {pin : ℕ} (hpin : pin / 32 < 16) (words : Vector U32 16) : ∃ b, gpioTestBit words pin = some b :=
  ⟨words[pin / 32].getLsbD (pin % 32), by rw [gpioTestBit, Vector.getElem?_eq_getElem hpin, Option.map_some]⟩

lemma setWhen_spec {g : VfAppleGpio} (hk : Kept g) (group pin : ℕ) (hg : group < g.nirqgrps) (hpin : pin < g.npins)
    (b : Bool) : ∃ g', g.setWhen b group pin = some g' ∧ Kept g' ∧ Touches g g' group := by
  cases b with
  | true =>
    obtain ⟨g', h, hk', ht⟩ := withRow_spec hk hg (tame_set hk.pins hpin)
    exact ⟨g', h, hk', ht⟩
  | false => exact ⟨g, rfl, hk, ⟨.refl g, fun _ _ _ => rfl⟩⟩

lemma levelPends_spec {g : VfAppleGpio} {pin : ℕ} (hpin : pin / 32 < 16) (cfg : U32) :
    ∃ b, g.levelPends pin cfg = some b := by
  obtain ⟨level, hlevel⟩ := testBit_spec hpin g.input
  rw [levelPends, hlevel]
  split
  · exact ⟨_, rfl⟩
  split
  · exact ⟨_, rfl⟩
  · exact ⟨_, rfl⟩

lemma updateLevelPending_served {g : VfAppleGpio} (hk : Kept g) {pin : ℕ} (hpin : pin < g.npins) (cfg : U32) :
    Served g (g.gpioUpdateLevelPending pin cfg) := by
  rw [gpioUpdateLevelPending]
  split
  · exact served_self hk
  split
  · exact served_self hk
  rename_i hgroup
  obtain ⟨g₁, h₁, hk₁, ht₁⟩ := withRow_spec hk (Nat.not_le.mp hgroup) (tame_clear hk.pins hpin)
  obtain ⟨b, hb⟩ := levelPends_spec (g := g₁) (pin_word hk hpin) cfg
  obtain ⟨g₂, h₂, hk₂, ht₂⟩ := setWhen_spec hk₁ (irqgrpOf cfg) pin
    (by rw [ht₁.shape.nirqgrps]; exact Nat.not_le.mp hgroup) (by rw [ht₁.shape.npins]; exact hpin) b
  have ht := ht₁.trans ht₂
  obtain ⟨calls, hcalls, hinformed⟩ := raise_spec hk₂ (irqgrpOf cfg)
    (by rw [ht.shape.nirqgrps]; exact Nat.not_le.mp hgroup)
  simp only [bind, Option.bind, h₁, hb, h₂, hcalls]
  exact ⟨calls, g₂, rfl, hk₂, ht.shape, fun levels hl => hinformed levels g ht hl⟩

lemma foldl_hear_out (levels : ℕ → Bool) (g : VfAppleGpio) (pin : ℕ) (cfg : U32) :
    (g.gpioDriveOut pin cfg).foldl hear levels = levels := by
  rw [gpioDriveOut]
  split <;> rfl

lemma updatePincfg_served {g : VfAppleGpio} (hk : Kept g) (pin : ℕ) (value : U32) :
    Served g (g.gpioUpdatePincfg pin value) := by
  rw [gpioUpdatePincfg]
  split
  · exact served_self hk
  rename_i hpin
  obtain ⟨calls, g₁, h₁, hk₁, hs₁, hi₁⟩ := updateLevelPending_served hk (Nat.not_le.mp hpin) value
  have hlt : pin < 512 := by have := hk.pins; omega
  have hquiet : Quiet g₁ { g₁ with gpioCfg := g₁.gpioCfg.set pin value } := ⟨⟨rfl, rfl, rfl⟩, rfl⟩
  simp only [bind, Option.bind, h₁, updateWord_spec _ hlt]
  refine ⟨_, _, rfl, hquiet.kept hk₁, hs₁.trans hquiet.shape, fun levels hl => ?_⟩
  rw [List.foldl_append, foldl_hear_out]
  exact hquiet.informed (hi₁ levels hl)

lemma inputPends_spec {g : VfAppleGpio} {pin : ℕ} (hpin : pin / 32 < 16) (level : Bool) (cfg : U32) :
    ∃ b, g.inputPends pin level cfg = some b := by
  obtain ⟨old, hold⟩ := testBit_spec hpin g.oldIn
  rw [inputPends, hold]
  split
  · exact ⟨_, rfl⟩
  split
  · exact ⟨_, rfl⟩
  split
  · exact ⟨_, rfl⟩
  split
  · exact ⟨_, rfl⟩
  split
  · exact ⟨_, rfl⟩
  · exact ⟨_, rfl⟩

lemma putInput_spec (g : VfAppleGpio) {pin : ℕ} (hpin : pin / 32 < 16) (level : Bool) :
    ∃ g', g.gpioPutInput pin level = some g' ∧ Quiet g g' ∧ g'.gpioCfg = g.gpioCfg := by
  cases level with
  | true =>
    have h : gpioSetBit g.input pin = some _ := updateWord_spec g.input hpin _
    rw [gpioPutInput, if_pos rfl, h]
    exact ⟨_, rfl, ⟨⟨rfl, rfl, rfl⟩, rfl⟩, rfl⟩
  | false =>
    have h : gpioClearBit g.input pin = some _ := updateWord_spec g.input hpin _
    rw [gpioPutInput, if_neg Bool.false_ne_true, h]
    exact ⟨_, rfl, ⟨⟨rfl, rfl, rfl⟩, rfl⟩, rfl⟩

lemma latchInput_spec (g : VfAppleGpio) {pin : ℕ} (hpin : pin / 32 < 16) :
    ∃ g', g.gpioLatchInput pin = some g' ∧ Quiet g g' := by
  have hget : g.input[pin / 32]? = some g.input[pin / 32] := Vector.getElem?_eq_getElem hpin
  simp only [gpioLatchInput, bind, Option.bind, hget, updateWord_spec g.oldIn hpin]
  exact ⟨_, rfl, ⟨rfl, rfl, rfl⟩, rfl⟩

lemma applyInputIrq_served {g : VfAppleGpio} (hk : Kept g) (pin : ℕ) (level : Bool) :
    Served g (g.gpioApplyInputIrq pin level) := by
  rw [gpioApplyInputIrq]
  split
  · exact served_self hk
  rename_i hn
  have hpin := Nat.not_le.mp hn
  have hword := pin_word hk hpin
  have hlt : pin < 512 := by have := hk.pins; omega
  obtain ⟨g₁, h₁, hq₁, -⟩ := putInput_spec g hword level
  have hk₁ := hq₁.kept hk
  have hcfg : g₁.gpioCfg[pin]? = some g₁.gpioCfg[pin] := Vector.getElem?_eq_getElem hlt
  simp only [bind, Option.bind, h₁, hcfg]
  by_cases hgrouped : g₁.grouped g₁.gpioCfg[pin] = false
  · obtain ⟨g₂, h₂, hq₂⟩ := latchInput_spec g₁ hword
    simp only [hgrouped, if_true, h₂]
    exact ⟨[], g₂, rfl, hq₂.kept hk₁, hq₁.shape.trans hq₂.shape, fun levels hl => hq₂.informed (hq₁.informed hl)⟩
  · have hgroup : irqgrpOf g₁.gpioCfg[pin] < g₁.nirqgrps := by
      rw [Bool.not_eq_false, grouped, decide_eq_true_eq] at hgrouped
      exact hgrouped.2
    obtain ⟨b, hb⟩ := inputPends_spec (g := g₁) hword level g₁.gpioCfg[pin]
    obtain ⟨g₂, h₂, hk₂, ht₂⟩ := setWhen_spec hk₁ _ _ hgroup (by rw [hq₁.shape.npins]; exact hpin) b
    obtain ⟨g₃, h₃, hq₃⟩ := latchInput_spec g₂ hword
    have ht := (hq₁.touches (irqgrpOf g₁.gpioCfg[pin])).trans (ht₂.trans (hq₃.touches _))
    obtain ⟨calls, hcalls, hinformed⟩ := raise_spec (hq₃.kept hk₂) (irqgrpOf g₁.gpioCfg[pin])
      (by rw [hq₃.shape.nirqgrps, ht₂.shape.nirqgrps]; exact hgroup)
    simp only [if_neg hgrouped, hb, h₂, h₃, hcalls]
    exact ⟨calls, g₃, rfl, hq₃.kept hk₂, ht.shape, fun levels hl => hinformed levels g ht hl⟩

lemma write_served {g : VfAppleGpio} (hk : Kept g) (off : U32) (width : ℕ) (value : U32) :
    Served g ((g.vfAppleGpioWrite off width value).map Prod.snd) := by
  rw [vfAppleGpioWrite]
  split
  · exact served_self hk
  cases hcfg : gpioCfgIndex off with
  | some pin =>
    dsimp only
    split
    · exact served_self hk
    · obtain ⟨calls, g', h, hrest⟩ := updatePincfg_served hk pin value
      rw [h]
      exact ⟨calls, g', rfl, hrest⟩
  | none =>
    cases hint : gpioIntIndex off with
    | none => exact served_self hk
    | some place =>
      obtain ⟨group, word⟩ := place
      dsimp only
      split
      · exact served_self hk
      rename_i hplace
      rw [not_or, Nat.not_le, Nat.not_le] at hplace
      obtain ⟨g₁, h₁, hk₁, ht₁⟩ := withRow_spec hk hplace.1 (tame_ack hplace.2 value)
      obtain ⟨calls, hcalls, hinformed⟩ := raise_spec hk₁ group
        (by rw [ht₁.shape.nirqgrps]; exact hplace.1)
      simp only [bind, Option.bind, h₁, hcalls]
      exact ⟨calls, g₁, rfl, hk₁, ht₁.shape, fun levels hl => hinformed levels g ht₁ hl⟩

lemma cfgIndex_lt {off : U32} {pin : ℕ} (h : gpioCfgIndex off = some pin) : pin < 512 := by
  rw [gpioCfgIndex] at h
  split at h
  · cases h
  · rename_i hrange
    simp only [regCfg, maxPinNr] at hrange h
    obtain rfl := Option.some.inj h
    omega

lemma read_spec {g : VfAppleGpio} (hk : Kept g) (off : U32) (width : ℕ) : ∃ v, g.vfAppleGpioRead off width = some v := by
  rw [vfAppleGpioRead]
  split
  · exact ⟨_, rfl⟩
  cases hcfg : gpioCfgIndex off with
  | some pin =>
    dsimp only
    split
    · exact ⟨_, rfl⟩
    rename_i hpin
    have hlt := cfgIndex_lt hcfg
    have hget : g.gpioCfg[pin]? = some g.gpioCfg[pin] := Vector.getElem?_eq_getElem hlt
    obtain ⟨b, hb⟩ := testBit_spec (pin_word hk (Nat.not_le.mp hpin)) g.input
    simp only [bind, Option.bind, hget, hb]
    split
    · cases b <;> exact ⟨_, rfl⟩
    · exact ⟨_, rfl⟩
  | none =>
    cases hint : gpioIntIndex off with
    | none =>
      dsimp only
      split <;> exact ⟨_, rfl⟩
    | some place =>
      obtain ⟨group, word⟩ := place
      dsimp only
      split
      · exact ⟨_, rfl⟩
      rename_i hplace
      rw [not_or, Nat.not_le, Nat.not_le] at hplace
      have hlt : group < 7 := lt_of_lt_of_le hplace.1 hk.groups
      have hlt' : word < 16 := hplace.2
      have hgroup : g.intCfg[group]? = some g.intCfg[group] := Vector.getElem?_eq_getElem hlt
      have hword : g.intCfg[group][word]? = some g.intCfg[group][word] := Vector.getElem?_eq_getElem hlt'
      rw [hgroup, Option.bind_some, hword]
      exact ⟨_, rfl⟩

lemma irqAsserted_spec {g : VfAppleGpio} (hk : Kept g) (group : ℕ) : ∃ b, g.vfAppleGpioIrqAsserted group = some b := by
  rw [vfAppleGpioIrqAsserted]
  split
  · rename_i hg
    have hlt : group < 7 := lt_of_lt_of_le hg hk.groups
    obtain ⟨b, hb, -⟩ := scanRow_pends hk.pins (hk.owned group hg)
    rw [gpioGroupActive, if_neg (by omega), Vector.getElem?_eq_getElem hlt, ← rowAt_eq g hlt]
    exact ⟨b, hb⟩
  · exact ⟨_, rfl⟩

lemma step_served {g : VfAppleGpio} (hk : Kept g) (op : Op) : Served g (g.step op) := by
  cases op with
  | write off width value => exact write_served hk off width value
  | setIn pin level =>
    simp only [step, vfAppleGpioSetIn]
    split
    · exact served_self hk
    · obtain ⟨calls, g', h, hrest⟩ := applyInputIrq_served hk pin level
      rw [h]
      exact ⟨calls, g', rfl, hrest⟩
  | read off width =>
    obtain ⟨v, hv⟩ := read_spec hk off width
    simp only [step, hv]
    exact served_self hk
  | irqAsserted group =>
    obtain ⟨b, hb⟩ := irqAsserted_spec hk group
    simp only [step, hb]
    exact served_self hk

lemma run_served (ops : List Op) {g : VfAppleGpio} (hk : Kept g) : Served g (g.run ops) := by
  induction ops generalizing g with
  | nil => exact served_self hk
  | cons op ops ih =>
    obtain ⟨calls, g₁, h₁, hk₁, hs₁, hi₁⟩ := step_served hk op
    obtain ⟨rest, g₂, h₂, hk₂, hs₂, hi₂⟩ := ih hk₁
    simp only [run, bind, Option.bind, h₁, h₂]
    refine ⟨_, _, rfl, hk₂, hs₁.trans hs₂, fun levels hl => ?_⟩
    rw [List.foldl_append]
    exact hi₂ _ (hi₁ levels hl)

lemma init_eq {g₀ g : VfAppleGpio} {npins nirqgrps : ℕ} {out irq : Bool}
    (h : vfAppleGpioInit g₀ npins nirqgrps out irq = some g) :
    g.npins = npins ∧ g.nirqgrps = nirqgrps ∧ 0 < npins ∧ npins < 512 ∧ 0 < nirqgrps ∧ nirqgrps ≤ 7 ∧
      ∀ group (hg : group < 7) i (hi : i < 16), group < nirqgrps → i < gpioIntWords npins → g.intCfg[group][i] = 0#32 := by
  rw [vfAppleGpioInit] at h
  split at h
  · cases h
  · rename_i hargs
    simp only [not_or, maxPinNr, maxIntGrpNr] at hargs
    obtain rfl := Option.some.inj h
    refine ⟨rfl, rfl, by omega, by omega, by omega, by omega, fun group hg i hi hlt hwords => ?_⟩
    simp only [Vector.getElem_ofFn, hlt, hwords, and_self, if_true]

lemma init_zero {g₀ g : VfAppleGpio} {npins nirqgrps : ℕ} {out irq : Bool}
    (h : vfAppleGpioInit g₀ npins nirqgrps out irq = some g) (hn : npins ≤ 481) :
    Kept g ∧ Informed (fun _ => false) g := by
  obtain ⟨hp, hgroups, -, -, -, h7, hzero⟩ := init_eq h
  have hrow : ∀ group, group < g.nirqgrps → ∀ (i : ℕ) (hi : i < 16), i < gpioIntWords g.npins →
      (g.rowAt group)[i] = 0#32 := fun group hg i hi hlt => by
    have hg7 : group < 7 := by omega
    simp only [rowAt_eq g hg7]
    exact hzero group hg7 i hi (hgroups ▸ hg) (hp ▸ hlt)
  refine ⟨⟨by omega, by omega, fun group hg i hi b hlt hb => ?_⟩, fun _ group hg => ?_⟩
  · rw [hrow group hg i hi hlt, BitVec.getLsbD_zero] at hb
    cases hb
  · simp only [Bool.false_eq_true, false_iff]
    rintro ⟨pin, hpin, word, hword, hbit⟩
    have hlt := gpioIntWord_lt hpin
    have hi : gpioIntWord pin < 16 := by have := intWords_le (hp ▸ hn : g.npins ≤ 481); omega
    rw [Vector.getElem?_eq_getElem hi, hrow group hg _ hi hlt] at hword
    rw [← Option.some.inj hword, BitVec.getLsbD_zero] at hbit
    cases hbit

lemma rowPends_iff {g : VfAppleGpio} {group : ℕ} (hg : group < 7) :
    RowPends g.npins (g.rowAt group) ↔ ∃ pin < g.npins, g.Pending group pin := by
  have hrow : g.intCfg[group]? = some (g.rowAt group) := by
    rw [rowAt_eq g hg]
    exact Vector.getElem?_eq_getElem hg
  constructor
  · rintro ⟨pin, hpin, word, hword, hbit⟩
    exact ⟨pin, hpin, _, word, hrow, hword, hbit⟩
  · rintro ⟨pin, hpin, row, word, hrow', hword, hbit⟩
    obtain rfl := Option.some.inj (hrow.symm.trans hrow')
    exact ⟨pin, hpin, word, hword, hbit⟩

lemma overrun {g : VfAppleGpio} (hg : 0 < g.nirqgrps) (hpin : 481 < g.npins) :
    g.run [.write 0x784#32 4 0#32] = none := by
  have hwidth : gpioWidthOk 0x784#32 4 = true := by decide
  have hindex : gpioCfgIndex 0x784#32 = some 481 := by decide
  have hmasked : ¬(0#32 &&& intMasked = intMasked) := by decide
  have hgroup : irqgrpOf 0#32 = 0 := by decide
  have hrow : (g.withRow 0 (gpioIntClearBit · 481)) = none := by
    have hclear : gpioIntClearBit g.intCfg[0] 481 = none := by
      rw [gpioIntClearBit, updateWord, dif_neg (by decide)]
    rw [withRow, dif_pos (by decide), hclear]
    rfl
  have hpending : g.gpioUpdateLevelPending 481 0#32 = none := by
    rw [gpioUpdateLevelPending, if_neg hmasked, hgroup, if_neg (by omega)]
    simp only [bind, Option.bind, hrow]
  have hpincfg : g.gpioUpdatePincfg 481 0#32 = none := by
    rw [gpioUpdatePincfg, if_neg (by omega)]
    simp only [bind, Option.bind, hpending]
  have hstep : g.step (.write 0x784#32 4 0#32) = none := by
    simp only [step, vfAppleGpioWrite, hwidth, hindex, Bool.true_eq_false, if_false]
    rw [if_neg (by omega), hpincfg]
    rfl
  simp only [run, bind, Option.bind, hstep]

/-- The bookkeeping is right for exactly the configurations of at most 481 pins. -/
theorem gpio_bookkept_iff {g₀ g : VfAppleGpio} {npins nirqgrps : ℕ} {out irq : Bool}
    (hinit : vfAppleGpioInit g₀ npins nirqgrps out irq = some g) : Bookkept g ↔ npins ≤ 481 := by
  obtain ⟨hp, hgroups, -, -, hpos, h7, -⟩ := init_eq hinit
  constructor
  · intro h
    by_contra hn
    obtain ⟨calls, g', hrun, -⟩ := h.runs [.write 0x784#32 4 0#32]
    rw [overrun (by omega) (by omega)] at hrun
    cases hrun
  · intro hn
    obtain ⟨hk, hi⟩ := init_zero hinit hn
    refine ⟨fun _ _ _ _ _ _ _ _ => statusBit_injective, fun pin hpin => ?_, fun ops => ?_⟩
    · exact lt_of_lt_of_le (gpioIntWord_lt hpin) (intWords_le hk.pins)
    · obtain ⟨calls, g', h, hk', hs, hinformed⟩ := run_served ops hk
      refine ⟨calls, g', h, fun hirq group hg => ?_⟩
      have hiff := hinformed _ hi (hs.irq ▸ hirq) group (hs.nirqgrps ▸ hg)
      rw [rowPends_iff (by omega), hs.npins] at hiff
      exact hiff

def blank : VfAppleGpio :=
  { npins := 0, nirqgrps := 0, gpioCfg := Vector.replicate 512 0#32
    intCfg := Vector.replicate 7 (Vector.replicate 16 0#32), input := Vector.replicate 16 0#32
    oldIn := Vector.replicate 16 0#32, npl := 0#32, out := false, irq := false }

theorem gpio_bookkept_iff_full :
    ∃ g, vfAppleGpioInit blank 481 7 true true = some g ∧ (Bookkept g ↔ 481 ≤ 481) :=
  ⟨_, rfl, @gpio_bookkept_iff blank _ 481 7 true true rfl⟩

/-- With 482 pins a configuration write reaches past the status words of its group. -/
theorem gpio_overrun :
    ∃ g, vfAppleGpioInit blank 482 1 true true = some g ∧ g.run [.write 0x784#32 4 0#32] = none ∧ ¬Bookkept g := by
  have hrun : ∀ g, vfAppleGpioInit blank 482 1 true true = some g → g.run [.write 0x784#32 4 0#32] = none := by
    intro g hg
    obtain ⟨hp, hgroups, -⟩ := init_eq hg
    exact overrun (by omega) (by omega)
  refine ⟨_, rfl, hrun _ rfl, fun h => ?_⟩
  obtain ⟨calls, g', hsome, -⟩ := h.runs [.write 0x784#32 4 0#32]
  rw [hrun _ rfl] at hsome
  cases hsome

end Nextcore.Device.VfAppleGpio
