import Nextcore.Lib.Bits
import Nextcore.Service.Protocol

/-! Which control snapshots the dynamic service can hold. -/

namespace Nextcore.Service

open Mmu Abi
open Abi.Dynamic (Snapshot)

abbrev allowedTcr : U64 :=
  0x3f#64 ||| (1#64 <<< 7) ||| (3#64 <<< 14) ||| (0x3f#64 <<< 16) |||
    (1#64 <<< 22) ||| (1#64 <<< 23) ||| (3#64 <<< 30) ||| (7#64 <<< 32)

structure GranuleRow (c : V2.Controls) (tg0 tg1 min max alignment : U64) : Prop where
  tg0 : (c.tcr >>> 14) &&& 3#64 = tg0
  tg1 : (c.tcr >>> 30) &&& 3#64 = tg1
  t0sz : min ≤ c.tcr &&& 63#64 ∧ c.tcr &&& 63#64 ≤ max
  t1sz : min ≤ (c.tcr >>> 16) &&& 63#64 ∧ (c.tcr >>> 16) &&& 63#64 ≤ max
  ttbr0 : c.ttbr0 &&&
    ~~~((0x0000ffffffffffff#64 &&& ~~~(alignment - 1#64)) ||| 0x00ff000000000000#64) = 0#64
  ttbr1 : c.ttbr1 &&&
    ~~~((0x0000ffffffffffff#64 &&& ~~~(alignment - 1#64)) ||| 0x00ff000000000000#64) = 0#64

structure ControlsRow (c : V2.Controls) : Prop where
  epoch : c.epoch = 1#64
  mair : c.mair = 0x44#64
  hcr : c.hcr = 0#64
  scr : c.scr = 0#64
  tcr : c.tcr &&& ~~~allowedTcr = 0#64
  ips : (c.tcr >>> 32) &&& 7#64 ≤ 5#64
  granule : GranuleRow c 0#64 2#64 16#64 39#64 0x1000#64 ∨ GranuleRow c 2#64 1#64 17#64 47#64 0x4000#64

lemma controlsValid_row {c : V2.Controls} (h : controlsValid c = true) : ControlsRow c := by
  unfold controlsValid at h
  dsimp only at h
  split at h
  · cases h
  split at h
  · cases h
  rename_i hchecks
  simp only [not_or, not_not, BitVec.not_lt] at hchecks
  obtain ⟨-, -, -, hepoch, hmair, hhcr, hscr, -, htcr, hips⟩ := hchecks
  split at h
  · cases h
  rename_i min max alignment hbounds
  split at h
  · cases h
  rename_i hsizes
  simp only [not_or, not_not] at hsizes
  simp only [decide_eq_true_eq] at h
  refine ⟨hepoch, hmair, hhcr, hscr, htcr, hips, ?_⟩
  split at hbounds
  · rename_i hgranule
    cases hbounds
    exact .inl ⟨hgranule.1, hgranule.2, hsizes.1, hsizes.2, h.1, h.2⟩
  · split at hbounds
    · rename_i hgranule
      cases hbounds
      exact .inr ⟨hgranule.1, hgranule.2, hsizes.1, hsizes.2, h.1, h.2⟩
    · cases hbounds

def admitted (s : Snapshot) (epoch : U64) : Bool := controlsValidDynamic (s.controls epoch)

lemma admitted_iff {s : Snapshot} {epoch : U64} (hepoch : epoch ≠ 0#64) :
    admitted s epoch = true ↔ (s.ttbr0 ||| s.ttbr1) >>> 48 = 0#64 ∧
      s.tcr &&& ((1#64 <<< 22) ||| (1#64 <<< 36)) = 0#64 ∧ controlsValid (mapped s) = true := by
  have hmapped : mapped (Snapshot.fromControls (s.controls epoch)) = mapped s := rfl
  simp only [admitted, controlsValidDynamic, hmapped, decide_eq_true_eq]
  simp [Snapshot.controls, hepoch]

def Event.CarriesAsid : Event → Prop
  | .control q =>
    q.phase = Dynamic.prepare ∧ q.operation = Dynamic.write ∧
      ((q.selector = Dynamic.selTtbr0 ∨ q.selector = Dynamic.selTtbr1) ∧
          q.operand &&& 0x00ff000000000000#64 ≠ 0#64 ∨
        q.selector = Dynamic.selTcr ∧ q.operand &&& (1#64 <<< 22) ≠ 0#64)
  | _ => False

instance : DecidablePred Event.CarriesAsid
  | .control q => inferInstanceAs (Decidable (q.phase = Dynamic.prepare ∧ q.operation = Dynamic.write ∧
      ((q.selector = Dynamic.selTtbr0 ∨ q.selector = Dynamic.selTtbr1) ∧
          q.operand &&& 0x00ff000000000000#64 ≠ 0#64 ∨
        q.selector = Dynamic.selTcr ∧ q.operand &&& (1#64 <<< 22) ≠ 0#64)))
  | .execute _ => isFalse id
  | .draw => isFalse id

lemma ControlsRow.ttbr_top {c : V2.Controls} (h : ControlsRow c) :
    c.ttbr0 &&& 0xff00000000000000#64 = 0#64 ∧ c.ttbr1 &&& 0xff00000000000000#64 = 0#64 := by
  rcases h.granule with hrow | hrow
  · exact ⟨Bits.and_eq_zero_of_subset hrow.ttbr0 (by decide),
      Bits.and_eq_zero_of_subset hrow.ttbr1 (by decide)⟩
  · exact ⟨Bits.and_eq_zero_of_subset hrow.ttbr0 (by decide),
      Bits.and_eq_zero_of_subset hrow.ttbr1 (by decide)⟩

lemma high_clear {v : U64} (htop : v &&& 0xff00000000000000#64 = 0#64)
    (hasid : v &&& 0x00ff000000000000#64 = 0#64) : v >>> 48 = 0#64 := by
  rw [Bits.shiftRight_eq_zero_iff]
  exact Bits.and_eq_zero_of_subset (Bits.and_or_eq_zero htop hasid) (by decide)

lemma or_shiftRight_eq_zero {a b : U64} :
    (a ||| b) >>> 48 = 0#64 ↔ a >>> 48 = 0#64 ∧ b >>> 48 = 0#64 := by
  rw [BitVec.ushiftRight_or_distrib, BitVec.or_eq_zero_iff]

namespace MemoryServiceDynamic

structure Admitted (s : MemoryServiceDynamic) : Prop where
  sound : s.Sound
  epoch : s.epoch ≠ 0#64
  architectural : admitted s.architectural s.epoch = true
  effective : admitted s.effective s.epoch = true
  prepared : ∀ p, s.prepared = some p → ¬(Event.control p.request).CarriesAsid

lemma written_bits {s : Snapshot} {q : Dynamic.Request}
    (hphase : q.phase = Dynamic.prepare) (hop : q.operation = Dynamic.write)
    (hclean : ¬(Event.control q).CarriesAsid)
    (hvalid : controlsValid (mapped (written s q.selector q.operand)) = true)
    (hbits : (s.ttbr0 ||| s.ttbr1) >>> 48 = 0#64 ∧
      s.tcr &&& ((1#64 <<< 22) ||| (1#64 <<< 36)) = 0#64) :
    ((written s q.selector q.operand).ttbr0 ||| (written s q.selector q.operand).ttbr1) >>> 48 =
        0#64 ∧
      (written s q.selector q.operand).tcr &&& ((1#64 <<< 22) ||| (1#64 <<< 36)) = 0#64 := by
  obtain ⟨httbr, htcr⟩ := hbits
  rw [or_shiftRight_eq_zero] at httbr ⊢
  have hrow := controlsValid_row hvalid
  obtain ⟨htop0, htop1⟩ := hrow.ttbr_top
  simp only [Event.CarriesAsid, hphase, hop, true_and, not_or, not_and, not_not] at hclean
  have hrow36 := Bits.and_eq_zero_of_subset (k := 1#64 <<< 36) hrow.tcr (by decide)
  revert htop0 htop1 hrow36
  unfold written
  intro htop0 htop1 hrow36
  split
  · exact ⟨httbr, htcr⟩
  rename_i hsel1
  rw [if_neg hsel1] at htop0 htop1 hrow36
  split
  · rename_i hsel
    rw [if_pos hsel] at htop0
    exact ⟨⟨high_clear htop0 (hclean.1 (.inl hsel)), httbr.2⟩, htcr⟩
  rename_i hsel2
  rw [if_neg hsel2] at htop1 hrow36
  split
  · rename_i hsel
    rw [if_pos hsel] at htop1
    exact ⟨⟨httbr.1, high_clear htop1 (hclean.1 (.inr hsel))⟩, htcr⟩
  rename_i hsel3
  rw [if_neg hsel3] at hrow36
  split
  · rename_i hsel
    rw [if_pos hsel] at hrow36
    exact ⟨httbr, Bits.and_or_eq_zero (hclean.2 hsel) hrow36⟩
  · exact ⟨httbr, htcr⟩

lemma admitted_epoch {s : Snapshot} {epoch epoch' : U64} (hepoch : epoch ≠ 0#64)
    (hepoch' : epoch' ≠ 0#64) (h : admitted s epoch = true) : admitted s epoch' = true := by
  rw [admitted_iff hepoch] at h
  rwa [admitted_iff hepoch']

lemma succ_ne_zero {a : U64} (h : a ≠ BitVec.allOnes 64) : a + 1#64 ≠ 0#64 := by
  have := Host.toNat_succ h
  intro hz
  rw [hz] at this
  simp at this

lemma Admitted.enact {s : MemoryServiceDynamic} (hs : s.Admitted) {q : Dynamic.Request}
    {p : Proposal} (hp : Proposes s q p) (hphase : q.phase = Dynamic.prepare)
    (hclean : ¬(Event.control q).CarriesAsid) : (s.enact p).Admitted := by
  refine ⟨hs.sound.enact hp, ?_, ?_, ?_, fun _ hslot => (Option.some_ne_none _ hslot.symm).elim⟩
  · cases hp with
    | publish _ _ _ hepoch => exact succ_ne_zero hepoch
    | write => exact hs.epoch
    | enable => exact hs.epoch
    | invalidate => exact hs.epoch
    | nothing => exact hs.epoch
  · have harch := (admitted_iff hs.epoch).mp hs.architectural
    cases hp with
    | write hop _ _ _ hvalid =>
      obtain ⟨h1, h2⟩ := written_bits hphase hop hclean hvalid ⟨harch.1, harch.2.1⟩
      exact (admitted_iff hs.epoch).mpr ⟨h1, h2, hvalid⟩
    | enable hop _ _ _ hvalid =>
      obtain ⟨h1, h2⟩ := written_bits hphase hop hclean hvalid ⟨harch.1, harch.2.1⟩
      exact (admitted_iff hs.epoch).mpr ⟨h1, h2, hvalid⟩
    | publish _ _ _ hepoch => exact admitted_epoch hs.epoch (succ_ne_zero hepoch) hs.architectural
    | invalidate => exact hs.architectural
    | nothing => exact hs.architectural
  · cases hp with
    | publish _ _ _ hepoch => exact admitted_epoch hs.epoch (succ_ne_zero hepoch) hs.architectural
    | write => exact hs.effective
    | enable => exact hs.effective
    | invalidate => exact hs.effective
    | nothing => exact hs.effective

lemma Admitted.control {s : MemoryServiceDynamic} (hs : s.Admitted) {q : Dynamic.Request} (n : U64)
    (hclean : ¬(Event.control q).CarriesAsid) : (s.control q n).2.1.Admitted := by
  have hsound := hs.sound.control q n
  rcases hres : s.control q n with ⟨out, s', n'⟩
  rw [hres] at hsound
  cases control_cases hres with
  | rejected => exact hs
  | prepare =>
    refine ⟨hsound, hs.epoch, hs.architectural, hs.effective, ?_⟩
    rintro _ ⟨rfl⟩
    exact hclean
  | cancel =>
    exact ⟨hsound, hs.epoch, hs.architectural, hs.effective,
      fun _ hslot => (Option.some_ne_none _ hslot.symm).elim⟩
  | commit p _ hslot =>
    have hcurrent := hs.sound.current p hslot
    exact hs.enact (propose_proposes hcurrent.proposes) hcurrent.phase (hs.prepared p hslot)

lemma Admitted.execute {s : MemoryServiceDynamic} (hs : s.Admitted) (q : V2.Request) :
    (s.execute q).2.Admitted := by
  have hf := execute_follows s q
  refine ⟨hs.sound.execute q, ?_, ?_, ?_, ?_⟩
  · rw [hf.epoch]
    exact hs.epoch
  · rw [hf.architectural, hf.epoch]
    exact hs.architectural
  · rw [hf.effective, hf.epoch]
    exact hs.effective
  · rw [hf.prepared]
    exact hs.prepared

lemma new_admitted {ram : List Byte} {ramBase : U64} {tables : List Byte} {tableBase : U64}
    {controls : V2.Controls} {s : MemoryServiceDynamic}
    (h : new ram ramBase tables tableBase controls = .ok s) : s.Admitted := by
  have hsound := new_sound h
  obtain ⟨inner, hvalid, -, -, rfl⟩ := new_eq h
  have hadmitted : admitted (Snapshot.fromControls controls) 1#64 = true := by
    rw [admitted_iff (by decide)]
    simp only [controlsValidDynamic, decide_eq_true_eq] at hvalid
    exact ⟨hvalid.2.2.2.2.2.1, hvalid.2.2.2.2.2.2.1, hvalid.2.2.2.2.2.2.2⟩
  exact ⟨hsound, by simp, hadmitted, hadmitted, fun p hp => (Option.some_ne_none p hp.symm).elim⟩

end MemoryServiceDynamic

lemma Host.step_admitted (h : Host) (e : Event) (hs : h.service.Admitted) (hclean : ¬e.CarriesAsid) :
    (h.step e).2.service.Admitted := by
  cases e with
  | control q => exact hs.control h.nextToken hclean
  | execute q => exact hs.execute q
  | draw => rw [Host.draw_service]; exact hs

/-- A run without ASID-carrying writes keeps both banks admitted by the dynamic profile. -/
theorem banks_admitted {ram : List Byte} {ramBase : U64} {tables : List Byte} {tableBase : U64}
    {controls : V2.Controls} {s : MemoryServiceDynamic}
    (hnew : MemoryServiceDynamic.new ram ramBase tables tableBase controls = .ok s)
    (nextToken : U64) (events : List Event) (hclean : ∀ e ∈ events, ¬e.CarriesAsid) :
    admitted (Run.final Host.step ⟨s, nextToken⟩ events).service.architectural
        (Run.final Host.step ⟨s, nextToken⟩ events).service.epoch = true ∧
      admitted (Run.final Host.step ⟨s, nextToken⟩ events).service.effective
        (Run.final Host.step ⟨s, nextToken⟩ events).service.epoch = true := by
  have hfinal : (Run.final Host.step ⟨s, nextToken⟩ events).service.Admitted :=
    Run.final_invariant (I := fun h : Host => h.service.Admitted) Host.step_admitted events hclean
      (MemoryServiceDynamic.new_admitted hnew)
  exact ⟨hfinal.architectural, hfinal.effective⟩

theorem banks_admitted_ttbr0 :
    (∀ e ∈ [Event.control (Fixture.writeTtbr0 Dynamic.prepare 0x3000#64 0x3000#64),
        .control (Fixture.writeTtbr0 Dynamic.commit 0x3000#64 1#64)], ¬e.CarriesAsid) ∧
      admitted (Run.final Host.step ⟨Fixture.service, 1#64⟩
          [.control (Fixture.writeTtbr0 Dynamic.prepare 0x3000#64 0x3000#64),
            .control (Fixture.writeTtbr0 Dynamic.commit 0x3000#64 1#64)]).service.architectural
        (Run.final Host.step ⟨Fixture.service, 1#64⟩
          [.control (Fixture.writeTtbr0 Dynamic.prepare 0x3000#64 0x3000#64),
            .control (Fixture.writeTtbr0 Dynamic.commit 0x3000#64 1#64)]).service.epoch = true := by
  have hclean : ∀ e ∈ [Event.control (Fixture.writeTtbr0 Dynamic.prepare 0x3000#64 0x3000#64),
      .control (Fixture.writeTtbr0 Dynamic.commit 0x3000#64 1#64)], ¬e.CarriesAsid := by decide
  exact ⟨hclean, (banks_admitted Fixture.new_service 1#64 _ hclean).1⟩

/-- An accepted write puts ASID 1 into the architectural bank of a fresh service. -/
theorem asid_enters_bank :
    MemoryServiceDynamic.new Fixture.ram 0x1000#64 Fixture.tables 0x2000#64 Fixture.controls =
        .ok Fixture.service ∧
      (Run.final Host.step ⟨Fixture.service, 1#64⟩
        [.control (Fixture.writeTtbr0 Dynamic.prepare 0x1000000003000#64 0x1000000003000#64),
          .control (Fixture.writeTtbr0 Dynamic.commit 0x1000000003000#64 1#64)]).service.architectural =
        { Fixture.snapshot with ttbr0 := 0x1000000003000#64 } ∧
      admitted { Fixture.snapshot with ttbr0 := 0x1000000003000#64 } 1#64 = false :=
  ⟨Fixture.new_service, by decide, by decide⟩

end Nextcore.Service
