import Nextcore.Device.Aic

/-! EVENT reads over any interleaving of accesses and line changes. -/

namespace Nextcore.Device.VfAic

def line (bank : ℕ → U32) (irq : ℕ) : Bool := (bank (irq / 32)).getLsbD (irq % 32)

structure Deliverable (a : VfAic) (cpu irq : ℕ) : Prop where
  routed : irq < a.irqCount
  raised : (line a.level irq || line a.software irq) = true
  unmasked : line a.masked irq = false
  targeted : (a.target irq).getLsbD cpu = true

structure Bounded (a : VfAic) : Prop where
  level : ∀ irq, a.irqCount ≤ irq → line a.level irq = false
  software : ∀ irq, a.irqCount ≤ irq → line a.software irq = false
  masked : ∀ irq, a.irqCount ≤ irq → line a.masked irq = true

lemma and_shiftLeft_one_ne_zero (x : U32) (k : ℕ) : x &&& (1#32 <<< k) ≠ 0#32 ↔ x.getLsbD k = true := by
  rw [← not_iff_not, ne_eq, not_not, Bool.not_eq_true]
  constructor
  · intro h
    have hb := congrArg (fun v => v.getLsbD k) h
    by_cases hk : k < 32
    · simpa [hk] using hb
    · exact BitVec.getLsbD_of_ge x k (by omega)
  · intro h
    apply BitVec.eq_of_getLsbD_eq
    intro i hi
    by_cases hik : i = k
    · subst hik
      simp [h]
    · have hd : (1#32).getLsbD (i - k) = false ∨ i < k := by
        rcases Nat.lt_or_ge i k with hlt | hge
        · exact Or.inr hlt
        · obtain ⟨d, hd⟩ := Nat.exists_eq_succ_of_ne_zero (by omega : i - k ≠ 0)
          exact Or.inl (by simp [hd])
      rcases hd with hd | hd <;> simp [hd]

lemma getLsbD_one_shiftLeft {k : ℕ} (hk : k < 32) (j : ℕ) : (1#32 <<< k).getLsbD j = decide (j = k) := by
  by_cases hjk : j = k
  · subst hjk
    simp [hk]
  · rcases Nat.lt_or_ge j k with hlt | hge
    · simp [hlt, hjk]
    · obtain ⟨d, hd⟩ := Nat.exists_eq_succ_of_ne_zero (by omega : j - k ≠ 0)
      simp [hd, hjk]

lemma line_update (bank : ℕ → U32) (word : ℕ) (value : U32) (irq : ℕ) :
    line (Function.update bank word value) irq =
      if irq / 32 = word then value.getLsbD (irq % 32) else line bank irq := by
  by_cases h : irq / 32 = word
  · rw [if_pos h, line, h, Function.update_self]
  · rw [if_neg h, line, Function.update_of_ne h, line]

lemma line_set (bank : ℕ → U32) (irq i : ℕ) :
    line (Function.update bank (irq / 32) (bank (irq / 32) ||| 1#32 <<< (irq % 32))) i =
      (line bank i || decide (i = irq)) := by
  rw [line_update]
  by_cases h : i / 32 = irq / 32
  · rw [if_pos h, BitVec.getLsbD_or, getLsbD_one_shiftLeft (Nat.mod_lt _ (by omega)), line, h]
    congr 1
    rw [decide_eq_decide]
    omega
  · have hne : i ≠ irq := fun he => h (he ▸ rfl)
    rw [if_neg h, decide_eq_false hne, Bool.or_false]

lemma line_clear (bank : ℕ → U32) (irq i : ℕ) :
    line (Function.update bank (irq / 32) (bank (irq / 32) &&& ~~~(1#32 <<< (irq % 32)))) i =
      (line bank i && !decide (i = irq)) := by
  rw [line_update]
  by_cases h : i / 32 = irq / 32
  · have hsame : decide (i % 32 = irq % 32) = decide (i = irq) := by
      rw [decide_eq_decide]
      omega
    rw [if_pos h, BitVec.getLsbD_and, BitVec.getLsbD_not, getLsbD_one_shiftLeft (Nat.mod_lt _ (by omega)), line, h,
      decide_eq_true (Nat.mod_lt _ (by omega)), Bool.true_and, hsame]
  · have hne : i ≠ irq := fun he => h (he ▸ rfl)
    rw [if_neg h, decide_eq_false hne, Bool.not_false, Bool.and_true]

lemma getLsbD_wordValid (a : VfAic) (word j : ℕ) (hj : j < 32) :
    (a.wordValid word).getLsbD j = decide (word * 32 + j < a.irqCount) := by
  simp only [wordValid]
  by_cases h1 : a.irqCount ≤ word * 32
  · rw [if_pos h1, BitVec.getLsbD_zero, decide_eq_false (by omega)]
  · rw [if_neg h1]
    by_cases h2 : 32 ≤ a.irqCount - word * 32
    · rw [if_pos h2, BitVec.getLsbD_allOnes, decide_eq_decide]
      omega
    · rw [if_neg h2, Bits.getLsbD_low_mask, ← Bool.decide_and, decide_eq_decide]
      omega

lemma scan_accepts (a : VfAic) (cpu word bit : ℕ) (hbit : bit < 32) :
    (((a.level word ||| a.software word) &&& ~~~a.masked word).getLsbD bit = true ∧
      decide (word * 32 + bit < a.irqCount ∧ a.target (word * 32 + bit) &&& (1#32 <<< cpu) ≠ 0#32) = true) ↔
      a.Deliverable cpu (word * 32 + bit) := by
  have hw : (word * 32 + bit) / 32 = word := by omega
  have hb : (word * 32 + bit) % 32 = bit := by omega
  rw [decide_eq_true_eq, and_shiftLeft_one_ne_zero, BitVec.getLsbD_and, BitVec.getLsbD_or, BitVec.getLsbD_not,
    decide_eq_true hbit, Bool.true_and, Bool.and_eq_true, Bool.not_eq_true']
  constructor
  · rintro ⟨⟨hr, hm⟩, hi, ht⟩
    exact ⟨hi, by rwa [line, line, hw, hb], by rwa [line, hw, hb], ht⟩
  · rintro ⟨hi, hr, hm, ht⟩
    rw [line, line, hw, hb] at hr
    rw [line, hw, hb] at hm
    exact ⟨⟨hr, hm⟩, hi, ht⟩

lemma scan_word (a : VfAic) (cpu word : ℕ) {result : Option ℕ}
    (h : result = (Scan.scan (fun bit =>
        decide (word * 32 + bit < a.irqCount ∧ a.target (word * 32 + bit) &&& (1#32 <<< cpu) ≠ 0#32)) 32
      ((a.level word ||| a.software word) &&& ~~~a.masked word)).map (word * 32 + ·)) :
    (∀ irq, result = some irq → irq / 32 = word ∧ a.Deliverable cpu irq ∧
      ∀ i, i / 32 = word → a.Deliverable cpu i → irq ≤ i) ∧
    (result = none → ∀ i, i / 32 = word → ¬a.Deliverable cpu i) := by
  obtain ⟨hsome, hnone⟩ := Scan.scan_spec (fun bit =>
      decide (word * 32 + bit < a.irqCount ∧ a.target (word * 32 + bit) &&& (1#32 <<< cpu) ≠ 0#32)) 32
    ((a.level word ||| a.software word) &&& ~~~a.masked word) (fun i _ => by omega)
  have hsplit : ∀ i, i / 32 = word → ∃ bit < 32, i = word * 32 + bit := fun i hi => ⟨i % 32, by omega, by omega⟩
  subst h
  constructor
  · intro irq h
    obtain ⟨bit, hscan, rfl⟩ := Option.map_eq_some_iff.mp h
    obtain ⟨hmem, hlow⟩ := hsome bit hscan
    have hbit : bit < 32 := BitVec.lt_of_getLsbD hmem.1
    refine ⟨by omega, (scan_accepts a cpu word bit hbit).mp hmem, fun i hi hd => ?_⟩
    obtain ⟨b, hb, rfl⟩ := hsplit i hi
    exact Nat.add_le_add_left (hlow ((scan_accepts a cpu word b hb).mpr hd)) _
  · intro h i hi hd
    obtain ⟨b, hb, rfl⟩ := hsplit i hi
    exact hnone (Option.map_eq_none_iff.mp h) b ((scan_accepts a cpu word b hb).mpr hd)

lemma nextIrq_some {a : VfAic} {cpu irq : ℕ} (h : a.nextIrq cpu = some irq) :
    IsLeast {i | a.Deliverable cpu i} irq := by
  rw [nextIrq] at h
  by_cases hcpu : a.cpuCount ≤ cpu
  · rw [if_pos hcpu] at h
    exact absurd h (by simp)
  · rw [if_neg hcpu] at h
    obtain ⟨word, -, hword, hbefore⟩ := Scan.findSome?_range h
    obtain ⟨hin, hd, hlow⟩ := (scan_word a cpu word rfl).1 irq hword
    refine ⟨hd, fun i hi => ?_⟩
    rcases Nat.lt_trichotomy (i / 32) word with hlt | heq | hgt
    · exact absurd hi ((scan_word a cpu (i / 32) rfl).2 (hbefore _ hlt) i rfl)
    · exact hlow i heq hi
    · omega

lemma nextIrq_none {a : VfAic} {cpu : ℕ} (hcpu : cpu < a.cpuCount) (h : a.nextIrq cpu = none) (irq : ℕ) :
    ¬a.Deliverable cpu irq := by
  intro hd
  rw [nextIrq, if_neg (by omega)] at h
  have hword : irq / 32 ∈ List.range (eirWords a.irqCount) := by
    have := hd.routed
    rw [List.mem_range, eirWords]
    omega
  exact (scan_word a cpu (irq / 32) rfl).2 (List.findSome?_eq_none_iff.mp h _ hword) irq rfl hd

lemma bounded_resetState (a : VfAic) : a.resetState.Bounded := by
  refine ⟨fun irq _ => by simp [line, resetState], fun irq _ => by simp [line, resetState], fun irq _ => ?_⟩
  rw [line, resetState, BitVec.getLsbD_allOnes, decide_eq_true (Nat.mod_lt _ (by omega))]

lemma bounded_init {irqs cpus : ℕ} {a : VfAic} (h : init irqs cpus = some a) : a.Bounded := by
  rw [init] at h
  split at h
  · obtain rfl := Option.some.inj h
    exact bounded_resetState _
  · exact absurd h (by simp)

lemma bounded_setLine {a a' : VfAic} {irq : ℕ} {high : Bool} (h : a.setLine irq high = some a') (ha : a.Bounded) :
    a'.Bounded := by
  rw [setLine] at h
  by_cases hirq : a.irqCount ≤ irq
  · rw [if_pos hirq] at h
    exact absurd h (by simp)
  · rw [if_neg hirq] at h
    obtain rfl := Option.some.inj h
    refine ⟨fun i hi => ?_, ha.software, ha.masked⟩
    have hlow := ha.level i hi
    have hne : i ≠ irq := by intro he; exact hirq (he ▸ hi)
    cases high with
    | true => simpa [line_set, hne] using hlow
    | false => simp [line_clear, hlow]

lemma write_cases {a a' : VfAic} {cpu off width : ℕ} {value : U32} (h : a.write cpu off width value = some a') :
    a' = a.resetState ∨ (∃ g t, a' = { a with globalCfg := g, target := t }) ∨
      ∃ word, value &&& ~~~a.wordValid word = 0#32 ∧
        ((∃ v, (v = a.software word ||| value ∨ v = a.software word &&& ~~~value) ∧
            a' = { a with software := Function.update a.software word v }) ∨
          a' = { a with masked := Function.update a.masked word (a.masked word ||| value) } ∨
          (off = 0x4180 + 4 * word ∧ width = 4 ∧
            a' = { a with masked := Function.update a.masked word (a.masked word &&& ~~~value) })) := by
  rw [write] at h
  by_cases hw : width ≠ 4 ∨ off % 4 ≠ 0
  · rw [if_pos hw] at h
    exact absurd h (by simp)
  rw [if_neg hw] at h
  obtain ⟨⟨c, l⟩, hres, h⟩ := Option.bind_eq_some_iff.mp h
  simp only at h
  by_cases h1 : l = regRst
  · rw [if_pos h1] at h
    exact Or.inl (Option.some.inj h).symm
  rw [if_neg h1] at h
  by_cases h2 : l = regGlbCfg
  · rw [if_pos h2] at h
    exact Or.inr (Or.inl ⟨value, a.target, (Option.some.inj h).symm⟩)
  rw [if_neg h2] at h
  by_cases h3 : regTarget ≤ l ∧ l < 0x4000
  · rw [if_pos h3] at h
    split at h
    · exact absurd h (by simp)
    · exact Or.inr (Or.inl ⟨a.globalCfg, _, (Option.some.inj h).symm⟩)
  rw [if_neg h3] at h
  by_cases h4 : regSwBase ≤ l ∧ l < 0x4200
  · rw [if_pos h4] at h
    refine Or.inr (Or.inr ⟨l % 0x80 / 4, ?_⟩)
    have hoff : off = l := by
      rw [resolveAccess] at hres
      split at hres
      · dsimp only at hres
        split at hres
        · exact absurd hres (by simp)
        · rename_i hdelta
          have hl := (Prod.mk.inj (Option.some.inj hres)).2
          have hbases : regWhoami = 0x2000 ∧ regSwBase = 0x4000 := ⟨rfl, rfl⟩
          omega
      · split at hres
        · exact absurd hres (by simp)
        · exact (Prod.mk.inj (Option.some.inj hres)).2
    rw [writeBank, if_neg (by omega)] at h
    dsimp only at h
    by_cases h5 : eirWords a.irqCount ≤ l % 0x80 / 4 ∨ 3 < (l - regSwBase) / 0x80
    · rw [if_pos h5] at h
      exact absurd h (by simp)
    rw [if_neg h5] at h
    by_cases h6 : value &&& ~~~a.wordValid (l % 0x80 / 4) ≠ 0#32
    · rw [if_pos h6] at h
      exact absurd h (by simp)
    rw [if_neg h6] at h
    refine ⟨not_not.mp h6, ?_⟩
    have hbase : regSwBase = 0x4000 := rfl
    split at h
    · exact Or.inl ⟨_, Or.inl rfl, (Option.some.inj h).symm⟩
    split at h
    · exact Or.inl ⟨_, Or.inr rfl, (Option.some.inj h).symm⟩
    split at h
    · exact Or.inr (Or.inl (Option.some.inj h).symm)
    split at h
    · exact Or.inr (Or.inr ⟨by omega, by omega, (Option.some.inj h).symm⟩)
    · exact absurd h (by simp)
  · rw [if_neg h4] at h
    exact absurd h (by simp)

def eventCpu (a : VfAic) (cpu off width : ℕ) : Option ℕ :=
  if width ≠ 4 ∨ off % 4 ≠ 0 then none
  else (a.resolveAccess cpu off).bind fun (cpu, off) => if off = regEvent then some cpu else none

lemma eventCpu_lt {a : VfAic} {cpu off width c : ℕ} (h : a.eventCpu cpu off width = some c) : c < a.cpuCount := by
  rw [eventCpu] at h
  split at h
  · exact absurd h (by simp)
  obtain ⟨⟨c', l⟩, hres, h⟩ := Option.bind_eq_some_iff.mp h
  have hc : c' = c := by
    by_cases hl : l = regEvent
    · simpa [hl] using h
    · simp [hl] at h
  subst hc
  rw [resolveAccess] at hres
  split at hres
  · dsimp only at hres
    split at hres
    · exact absurd hres (by simp)
    · have := (Prod.mk.inj (Option.some.inj hres)).1
      omega
  · split at hres
    · exact absurd hres (by simp)
    · have := (Prod.mk.inj (Option.some.inj hres)).1
      omega

lemma read_event {a : VfAic} {cpu off width c : ℕ} (h : a.eventCpu cpu off width = some c) :
    a.read cpu off width = some (a.readEvent c) := by
  rw [eventCpu] at h
  rw [read]
  split at h
  · exact absurd h (by simp)
  rename_i hw
  rw [if_neg hw]
  obtain ⟨⟨c', l⟩, hres, h⟩ := Option.bind_eq_some_iff.mp h
  rw [hres]
  by_cases hl : l = regEvent
  · subst hl
    obtain rfl : c' = c := by simpa using h
    rfl
  · simp [hl] at h

lemma read_other {a a' : VfAic} {cpu off width : ℕ} {value : U32} (h : a.read cpu off width = some (value, a'))
    (hne : a.eventCpu cpu off width = none) : a' = a := by
  rw [eventCpu] at hne
  rw [read] at h
  split at h
  · exact absurd h (by simp)
  rename_i hw
  rw [if_neg hw] at hne
  obtain ⟨⟨c, l⟩, hres, h⟩ := Option.bind_eq_some_iff.mp h
  have hl : l ≠ regEvent := by
    rintro rfl
    simp [hres] at hne
  simp only [if_neg hl] at h
  split_ifs at h
  all_goals first
    | exact (Prod.mk.inj (Option.some.inj h)).2.symm
    | obtain ⟨v, -, hv⟩ := Option.map_eq_some_iff.mp h
      exact (Prod.mk.inj hv).2.symm

lemma readEvent_masked (a : VfAic) (cpu irq : ℕ) :
    line (a.readEvent cpu).2.masked irq = (line a.masked irq || decide (a.nextIrq cpu = some irq)) := by
  rw [readEvent]
  cases h : a.nextIrq cpu with
  | none => simp
  | some i =>
    rw [line_set]
    congr 1
    rw [decide_eq_decide, Option.some_inj]
    exact eq_comm

lemma readEvent_frame (a : VfAic) (cpu : ℕ) :
    (a.readEvent cpu).2 = { a with masked := (a.readEvent cpu).2.masked } := by
  rw [readEvent]
  cases a.nextIrq cpu <;> rfl

lemma bounded_write {a a' : VfAic} {cpu off width : ℕ} {value : U32} (h : a.write cpu off width value = some a')
    (ha : a.Bounded) : a'.Bounded := by
  have hout : ∀ word i, value &&& ~~~a.wordValid word = 0#32 → i / 32 = word → a.irqCount ≤ i →
      value.getLsbD (i % 32) = false := by
    intro word i hv hi hge
    by_contra hset
    have hin := (Bits.and_not_eq_zero_iff _ _).mp hv (i % 32) (by simpa using hset)
    rw [getLsbD_wordValid _ _ _ (Nat.mod_lt _ (by omega)), decide_eq_true_eq] at hin
    omega
  rcases write_cases h with rfl | ⟨g, t, rfl⟩ | ⟨word, hv, ⟨v, hvs, rfl⟩ | rfl | ⟨-, -, rfl⟩⟩
  · exact bounded_resetState a
  · exact ⟨ha.level, ha.software, ha.masked⟩
  · refine ⟨ha.level, fun i hi => ?_, ha.masked⟩
    rw [line_update]
    split
    · rename_i hword
      have hold := ha.software i hi
      rw [line, hword] at hold
      rcases hvs with rfl | rfl
      · rw [BitVec.getLsbD_or, hold, hout word i hv hword hi, Bool.or_false]
      · rw [BitVec.getLsbD_and, hold, Bool.false_and]
    · exact ha.software i hi
  · refine ⟨ha.level, ha.software, fun i hi => ?_⟩
    rw [line_update]
    split
    · rename_i hword
      have hold := ha.masked i hi
      rw [line, hword] at hold
      rw [BitVec.getLsbD_or, hold, Bool.true_or]
    · exact ha.masked i hi
  · refine ⟨ha.level, ha.software, fun i hi => ?_⟩
    rw [line_update]
    split
    · rename_i hword
      have hold := ha.masked i hi
      rw [line, hword] at hold
      rw [BitVec.getLsbD_and, BitVec.getLsbD_not, hold, hout word i hv hword hi,
        decide_eq_true (Nat.mod_lt _ (by omega))]
      rfl
    · exact ha.masked i hi

lemma bounded_readEvent {a : VfAic} (cpu : ℕ) (ha : a.Bounded) : (a.readEvent cpu).2.Bounded := by
  rw [readEvent_frame]
  refine ⟨ha.level, ha.software, fun i hi => ?_⟩
  have hold := ha.masked i hi
  have hnew := readEvent_masked a cpu i
  rw [hold, Bool.true_or] at hnew
  exact hnew

inductive Op
  | read (cpu off width : ℕ)
  | write (cpu off width : ℕ) (value : U32)
  | setLine (irq : ℕ) (high : Bool)
  deriving DecidableEq

/-- The status with the value of a read (zero for the other operations); a refused
operation leaves the controller. -/
def step (a : VfAic) : Op → Option U32 × VfAic
  | .read cpu off width => ((a.read cpu off width).map Prod.fst, ((a.read cpu off width).map Prod.snd).getD a)
  | .write cpu off width value =>
    ((a.write cpu off width value).map fun _ => 0#32, (a.write cpu off width value).getD a)
  | .setLine irq high => ((a.setLine irq high).map fun _ => 0#32, (a.setLine irq high).getD a)

abbrev Entry := Run.Entry VfAic Op (Option U32)

def ReadsEvent (x : Entry) (cpu : ℕ) : Prop :=
  ∃ reader off width, x.event = .read reader off width ∧ x.before.eventCpu reader off width = some cpu

def Returned (x : Entry) (irq : ℕ) : Prop :=
  (∃ cpu, ReadsEvent x cpu) ∧ irq < x.before.irqCount ∧ x.answer = some (eventExt ||| BitVec.ofNat 32 irq)

def ClearsMask (x : Entry) (irq : ℕ) : Prop :=
  ∃ cpu value, x.event = .write cpu (0x4180 + 4 * (irq / 32)) 4 value ∧ x.answer = some 0#32 ∧
    value.getLsbD (irq % 32) = true

lemma bounded_step (a : VfAic) (op : Op) (ha : a.Bounded) : (a.step op).2.Bounded := by
  cases op with
  | read cpu off width =>
    rw [step]
    cases h : a.read cpu off width with
    | none => exact ha
    | some r =>
      cases he : a.eventCpu cpu off width with
      | none => exact (read_other h he).symm ▸ ha
      | some c =>
        rw [read_event he] at h
        exact Option.some.inj h ▸ bounded_readEvent c ha
  | write cpu off width value =>
    rw [step]
    cases h : a.write cpu off width value with
    | none => exact ha
    | some a' => exact bounded_write h ha
  | setLine irq high =>
    rw [step]
    cases h : a.setLine irq high with
    | none => exact ha
    | some a' => exact bounded_setLine h ha

lemma masked_step (a : VfAic) (op : Op) {irq : ℕ} (hm : line a.masked irq = true)
    (hop : ¬ClearsMask (Run.entry step a op) irq) : line (a.step op).2.masked irq = true := by
  cases op with
  | read cpu off width =>
    rw [step]
    cases h : a.read cpu off width with
    | none => exact hm
    | some r =>
      cases he : a.eventCpu cpu off width with
      | none => exact (read_other h he).symm ▸ hm
      | some c =>
        rw [read_event he] at h
        obtain rfl := Option.some.inj h
        have hnew := readEvent_masked a c irq
        rw [hm, Bool.true_or] at hnew
        exact hnew
  | write cpu off width value =>
    rw [step]
    cases h : a.write cpu off width value with
    | none => exact hm
    | some a' =>
      rcases write_cases h with rfl | ⟨g, t, rfl⟩ | ⟨word, -, ⟨v, -, rfl⟩ | rfl | ⟨hoff, hw, rfl⟩⟩
      · simp only [Option.getD_some, line, resetState, BitVec.getLsbD_allOnes,
          decide_eq_true (Nat.mod_lt irq (by omega : 0 < 32))]
      · exact hm
      · exact hm
      · rw [Option.getD_some, line_update]
        split
        · rename_i hword
          rw [line, hword] at hm
          rw [BitVec.getLsbD_or, hm, Bool.true_or]
        · exact hm
      · rw [Option.getD_some, line_update]
        split
        · rename_i hword
          subst hword
          have hclear : value.getLsbD (irq % 32) = false := by
            by_contra hset
            refine hop ⟨cpu, value, ?_, ?_, by simpa using hset⟩
            · rw [Run.entry, hoff, hw]
            · simp only [Run.entry, step, h, Option.map_some]
          rw [line] at hm
          rw [BitVec.getLsbD_and, BitVec.getLsbD_not, hm, hclear, decide_eq_true (Nat.mod_lt _ (by omega))]
          rfl
        · exact hm
  | setLine irq' high =>
    rw [step]
    cases h : a.setLine irq' high with
    | none => exact hm
    | some a' =>
      rw [setLine] at h
      split at h
      · exact absurd h (by simp)
      · exact Option.some.inj h ▸ hm

lemma toNat_event {irq : ℕ} (h : irq < 1024) : (eventExt ||| BitVec.ofNat 32 irq).toNat = 0x10000 + irq := by
  have hirq : (BitVec.ofNat 32 irq).toNat = irq := by rw [BitVec.toNat_ofNat, Nat.mod_eq_of_lt (by omega)]
  rw [BitVec.toNat_or, hirq]
  exact (Nat.two_pow_add_eq_or_of_lt (by omega : irq < 2 ^ 16) 1).symm

lemma event_answer {a : VfAic} {reader off width c : ℕ} (h : a.eventCpu reader off width = some c) :
    a.step (.read reader off width) = (some (a.readEvent c).1, (a.readEvent c).2) := by
  rw [step, read_event h]
  rfl

lemma nextIrq_of_returned {a : VfAic} {op : Op} {irq : ℕ} (h : Returned (Run.entry step a op) irq) :
    ∃ cpu, a.nextIrq cpu = some irq ∧ (a.step op).2 = (a.readEvent cpu).2 := by
  obtain ⟨⟨c, reader, off, width, hop, hev⟩, hirq, hans⟩ := h
  simp only [Run.entry] at hop hev hirq hans
  subst hop
  rw [event_answer hev] at hans ⊢
  refine ⟨c, ?_, rfl⟩
  have hbound := a.irqs.2
  have hval : (a.readEvent c).1.toNat = 0x10000 + irq := by
    rw [Option.some.inj hans, toNat_event (by omega)]
  rw [readEvent] at hval
  cases hn : a.nextIrq c with
  | none =>
    rw [hn] at hval
    change 0 = 0x10000 + irq at hval
    omega
  | some i =>
    have hi := (nextIrq_some hn).1.routed
    simp only [hn] at hval
    rw [toNat_event (by omega)] at hval
    rw [show i = irq by omega]

/-- Over any interleaving of accesses and line changes: between two EVENT reads that
return one interrupt its mask bit is cleared, an EVENT read returns the lowest
deliverable interrupt or none, and the bits past the interrupts stay lowered and masked. -/
theorem event_delivers_once {irqs cpus : ℕ} {a : VfAic} (h : init irqs cpus = some a) (ops : List Op) :
    (∀ pre x mid y post irq, Run.log step a ops = pre ++ x :: (mid ++ y :: post) →
      Returned x irq → Returned y irq → ∃ z ∈ mid, ClearsMask z irq) ∧
    (∀ x ∈ Run.log step a ops, ∀ cpu, ReadsEvent x cpu →
      (∃ irq, Returned x irq ∧ IsLeast {i | x.before.Deliverable cpu i} irq) ∨
      (x.answer = some 0#32 ∧ ∀ irq, ¬x.before.Deliverable cpu irq)) ∧
    (∀ x ∈ Run.log step a ops, x.before.Bounded ∧ x.after.Bounded) := by
  have hinit := bounded_init h
  refine ⟨fun pre x mid y post irq hlog hx hy => ?_, fun x hmem cpu hev => ?_, fun x hmem => ?_⟩
  · by_contra hno
    have hsplit := Run.log_suffix (I := fun _ => True) (fun _ _ _ => trivial) ops trivial hlog
    obtain ⟨ops', s, -, hrest⟩ := hsplit
    cases ops' with
    | nil => simp [Run.log] at hrest
    | cons op ops' =>
      obtain ⟨rfl, htail⟩ := List.cons.inj hrest
      obtain ⟨cpu, hnext, hafter⟩ := nextIrq_of_returned hx
      have hmasked : line (step s op).2.masked irq = true := by
        rw [hafter, readEvent_masked, hnext, decide_eq_true rfl, Bool.or_true]
      have hkept := Run.log_keeps (I := fun _ => True) (P := fun t => line t.masked irq = true)
        (Q := fun z => ¬ClearsMask z irq) (fun _ _ _ => trivial) (fun t e _ hp hq => masked_step t e hp hq)
        ops' trivial hmasked htail.symm (fun z hz hc => hno ⟨z, hz, hc⟩)
      have hyin : y ∈ Run.log step (step s op).2 ops' := by rw [← htail]; simp
      obtain ⟨-, hyentry⟩ := Run.mem_log (I := fun _ => True) (fun _ _ _ => trivial) ops' trivial hyin
      rw [hyentry] at hy
      obtain ⟨cpu', hnext', -⟩ := nextIrq_of_returned hy
      have hopen := (nextIrq_some hnext').1.unmasked
      rw [hkept] at hopen
      exact Bool.noConfusion hopen
  · obtain ⟨-, hentry⟩ := Run.mem_log bounded_step ops hinit hmem
    obtain ⟨reader, off, width, hop, hcpu⟩ := hev
    have hans : x.answer = some (x.before.readEvent cpu).1 := by
      rw [hentry, hop]
      simp only [Run.entry]
      rw [event_answer hcpu]
    rw [readEvent] at hans
    cases hn : x.before.nextIrq cpu with
    | none =>
      rw [hn] at hans
      exact Or.inr ⟨hans, fun irq => nextIrq_none (eventCpu_lt hcpu) hn irq⟩
    | some irq =>
      rw [hn] at hans
      have hleast := nextIrq_some hn
      exact Or.inl ⟨irq, ⟨⟨cpu, reader, off, width, hop, hcpu⟩, hleast.1.routed, hans⟩, hleast⟩
  · obtain ⟨hb, hentry⟩ := Run.mem_log bounded_step ops hinit hmem
    refine ⟨hb, ?_⟩
    rw [hentry]
    exact bounded_step _ _ hb

example : ((init 40 2).map fun a => (Run.log step a
    [.setLine 33 true, .write 0 0x4184 4 2#32, .read 0 0x2004 4, .read 1 0x5004 4]).map (·.answer)) =
      some [some 0#32, some 0#32, some 0x10021#32, some 0#32] := by decide +kernel

def small : VfAic :=
  resetState ⟨40, 2, 0#32, fun _ => 0#32, fun _ => 0#32, fun _ => 0#32, fun _ => 0#32, by decide, by decide⟩

-- the first CPU reads the raised line; the second, in the window of the first, unmasks it and reads it again
def firstRead : Entry :=
  Run.entry step (Run.final step small [.setLine 33 true, .write 0 0x4184 4 2#32]) (.read 0 0x2004 4)

def unmasking : List Op := [.read 1 0x5004 4, .write 1 0x4184 4 2#32]

def secondRead : Entry := Run.entry step (Run.final step firstRead.after unmasking) (.read 1 0x5004 4)

theorem event_delivers_once_raised :
    Returned firstRead 33 ∧ Returned secondRead 33 ∧
      (∃ z ∈ Run.log step firstRead.after unmasking, ClearsMask z 33) ∧
      (∃ irq, Returned firstRead irq ∧ IsLeast {i | firstRead.before.Deliverable 0 i} irq) ∧
      firstRead.before.Bounded ∧ secondRead.after.Bounded := by
  have hlog : Run.log step small ([.setLine 33 true, .write 0 0x4184 4 2#32, .read 0 0x2004 4] ++ unmasking ++
      [.read 1 0x5004 4]) = Run.log step small [.setLine 33 true, .write 0 0x4184 4 2#32] ++
        firstRead :: (Run.log step firstRead.after unmasking ++ secondRead :: []) := by
    simp only [firstRead, unmasking, secondRead, Run.log, Run.final, Run.entry, List.cons_append, List.nil_append]
  have hinit : init 40 2 = some small := rfl
  obtain ⟨honce, hleast, hbounded⟩ := event_delivers_once hinit
    ([.setLine 33 true, .write 0 0x4184 4 2#32, .read 0 0x2004 4] ++ unmasking ++ [.read 1 0x5004 4])
  have hfirst : Returned firstRead 33 := ⟨⟨0, 0, 0x2004, 4, rfl, by decide +kernel⟩, by decide +kernel, by decide +kernel⟩
  have hsecond : Returned secondRead 33 := ⟨⟨0, 1, 0x5004, 4, rfl, by decide +kernel⟩, by decide +kernel, by decide +kernel⟩
  rw [hlog] at hleast hbounded
  refine ⟨hfirst, hsecond, honce _ _ _ _ _ _ hlog hfirst hsecond, ?_, (hbounded firstRead (by simp)).1,
    (hbounded secondRead (by simp)).2⟩
  rcases hleast firstRead (by simp) 0 ⟨0, 0x2004, 4, rfl, by decide +kernel⟩ with hdelivered | ⟨hnone, -⟩
  · exact hdelivered
  · exact absurd (hfirst.2.2.symm.trans hnone) (by decide)

end Nextcore.Device.VfAic
