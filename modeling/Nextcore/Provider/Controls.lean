import Nextcore.Provider.Exchange
import Nextcore.Service.Admission

/-! The three readings of the translation controls: the Rust and the C admission
predicates describe one set of records, and the walker accepts all of it. -/

namespace Nextcore.Service

open Mmu Abi.V2

lemma physicalBits_isSome {tcr : U64} (h : (tcr >>> 32) &&& 7#64 ≤ 5#64) :
    ∃ bits, VfMmu.physicalBits tcr = some bits := by
  have hle : ((tcr >>> 32) &&& 7#64).toNat ≤ 5 := h
  generalize hn : ((tcr >>> 32) &&& 7#64).toNat = n at hle
  simp only [VfMmu.physicalBits, hn]
  interval_cases n <;> exact ⟨_, rfl⟩

lemma startLevel_isSome (g : Granule) {tsz : ℕ} (h : g.validTsz tsz = true) :
    (g.startLevel tsz).isSome = true := by
  have hall : ∀ t : Fin 64, g.validTsz t = true → (g.startLevel t).isSome = true := by
    cases g <;> decide
  have hlt : tsz < 64 := by
    cases g <;> simp [Granule.validTsz] at h <;> omega
  exact hall ⟨tsz, hlt⟩ h

lemma fourKiB_validTsz {t : U64} (h : 16#64 ≤ t ∧ t ≤ 39#64) :
    Granule.fourKiB.validTsz t.toNat = true := by
  simp only [Granule.validTsz, Bool.and_eq_true, decide_eq_true_eq]
  exact h

lemma sixteenKiB_validTsz {t : U64} (h : 17#64 ≤ t ∧ t ≤ 47#64) :
    Granule.sixteenKiB.validTsz t.toNat = true := by
  simp only [Granule.validTsz, Bool.and_eq_true, decide_eq_true_eq]
  exact h

structure AdmittedGranule (c : Controls) (g : Granule) : Prop where
  lower : VfMmu.lowerGranule ((c.tcr >>> 14) &&& 3#64) = some g
  upper : VfMmu.upperGranule ((c.tcr >>> 30) &&& 3#64) = some g
  t0sz : g.validTsz (c.tcr &&& 0x3f#64).toNat = true
  t1sz : g.validTsz ((c.tcr >>> 16) &&& 0x3f#64).toNat = true
  ttbr0 : c.ttbr0 &&& (g.rootAlignment - 1#64) = 0#64
  ttbr1 : c.ttbr1 &&& (g.rootAlignment - 1#64) = 0#64

lemma ControlsRow.granule_admitted {c : Controls} (h : ControlsRow c) : ∃ g, AdmittedGranule c g := by
  rcases h.granule with row | row
  · refine ⟨.fourKiB, ?_, ?_, ?_, ?_, ?_, ?_⟩
    · rw [row.tg0]; rfl
    · rw [row.tg1]; rfl
    · exact fourKiB_validTsz row.t0sz
    · exact fourKiB_validTsz row.t1sz
    · exact Bits.and_eq_zero_of_subset row.ttbr0 (by decide)
    · exact Bits.and_eq_zero_of_subset row.ttbr1 (by decide)
  · refine ⟨.sixteenKiB, ?_, ?_, ?_, ?_, ?_, ?_⟩
    · rw [row.tg0]; rfl
    · rw [row.tg1]; rfl
    · exact sixteenKiB_validTsz row.t0sz
    · exact sixteenKiB_validTsz row.t1sz
    · exact Bits.and_eq_zero_of_subset row.ttbr0 (by decide)
    · exact Bits.and_eq_zero_of_subset row.ttbr1 (by decide)

lemma ControlsRow.configureTcr {c : Controls} (h : ControlsRow c) (m : VfMmu) (asid : BitVec 16) :
    (m.configureTcr c.ttbr0 c.ttbr1 c.tcr asid).2 = true := by
  obtain ⟨bits, hbits⟩ := physicalBits_isSome h.ips
  obtain ⟨g, hg⟩ := h.granule_admitted
  have h39 : c.tcr &&& (0xf#64 <<< 39) = 0#64 := Bits.and_eq_zero_of_subset h.tcr (by decide)
  have h59 : c.tcr &&& (1#64 <<< 59) = 0#64 := Bits.and_eq_zero_of_subset h.tcr (by decide)
  have htbi : c.tcr &&& ((1#64 <<< 37) ||| (1#64 <<< 38)) = 0#64 :=
    Bits.and_eq_zero_of_subset h.tcr (by decide)
  have hlower := startLevel_isSome g hg.t0sz
  have hupper := startLevel_isSome g hg.t1sz
  have hlow : ¬((g.startLevel (c.tcr &&& 0x3f#64).toNat).isNone ∨
      c.ttbr0 &&& (g.rootAlignment - 1#64) ≠ 0#64) := by
    rw [Option.isNone_eq_false_iff.2 hlower, hg.ttbr0]
    simp
  have hhigh : ¬(((c.tcr >>> 16) &&& 0x3f#64).toNat ≠ 0 ∧
      ((g.startLevel ((c.tcr >>> 16) &&& 0x3f#64).toNat).isNone ∨
        c.ttbr1 &&& (g.rootAlignment - 1#64) ≠ 0#64)) := by
    rw [Option.isNone_eq_false_iff.2 hupper, hg.ttbr1]
    simp
  unfold VfMmu.configureTcr
  rw [if_neg (not_not.2 h39)]
  simp only [hbits, hg.lower, hg.upper]
  rw [if_neg (not_not.2 h59), if_neg (not_not.2 htbi), if_neg (fun h => h.2 rfl), if_neg hlow, if_neg hhigh]

lemma ControlsRow.configureStrictNc {c : Controls} (h : ControlsRow c) (m : VfMmu) :
    (m.configureStrictNc c.ttbr0 c.ttbr1 c.tcr).2 = true := by
  obtain ⟨h0, h1⟩ := h.ttbr_top
  have h36 : c.tcr &&& (1#64 <<< 36) = 0#64 := Bits.and_eq_zero_of_subset h.tcr (by decide)
  have htop : (c.ttbr0 ||| c.ttbr1) >>> 56 = 0#64 := by
    rw [BitVec.ushiftRight_or_distrib, BitVec.or_eq_zero_iff, Bits.shiftRight_eq_zero_iff,
      Bits.shiftRight_eq_zero_iff]
    exact ⟨Bits.and_eq_zero_of_subset h0 (by decide), Bits.and_eq_zero_of_subset h1 (by decide)⟩
  have haccept := h.configureTcr m
  unfold VfMmu.configureStrictNc
  rw [if_neg (not_or.2 ⟨not_not.2 h36, not_not.2 htop⟩)]
  dsimp only
  split
  · rfl
  · rename_i hrefused
    rw [← haccept, hrefused]

end Nextcore.Service

namespace Nextcore.Provider

open Mmu Abi Abi.V2 Service
open Abi.Dynamic (Snapshot)

lemma outside_iff {min max t₀ t₁ : U64} :
    (t₀ < min ∨ max < t₀ ∨ t₁ < min ∨ max < t₁) ↔ ¬(min ≤ t₀ ∧ t₀ ≤ max) ∨ ¬(min ≤ t₁ ∧ t₁ ≤ max) := by
  rw [not_and_or, not_and_or, BitVec.not_le, BitVec.not_le, BitVec.not_le, BitVec.not_le, or_assoc]

lemma controlsValid_eq (c : Controls) : controlsValid c = memoryControlsValidV2 c := by
  unfold memoryControlsValidV2
  simp only [outside_iff]
  rfl

lemma mapped_fromControls {c : Controls} (hsize : c.structSize = 80#32) (hreserved : c.reserved = 0#32) :
    mapped (Snapshot.fromControls c) =
      { c with abiVersion := 2#32, profile := 1#32, epoch := 1#64, sctlr := c.sctlr ||| 1#64 } := by
  obtain ⟨abiVersion, structSize, profile, reserved, sctlr, ttbr0, ttbr1, tcr, mair, hcr, scr, epoch⟩ := c
  cases hsize
  cases hreserved
  rfl

lemma controlsValidDynamic_eq (c : Controls) : controlsValidDynamic c = dynamicControlsValid c := by
  have hrust : controlsValidDynamic c = true ↔ c.abiVersion = 3#32 ∧ c.structSize = 80#32 ∧
      c.profile = 2#32 ∧ c.reserved = 0#32 ∧ c.epoch ≠ 0#64 ∧ (c.ttbr0 ||| c.ttbr1) >>> 48 = 0#64 ∧
      c.tcr &&& ((1#64 <<< 22) ||| (1#64 <<< 36)) = 0#64 ∧
      controlsValid (mapped (Snapshot.fromControls c)) = true := by
    simp only [controlsValidDynamic, decide_eq_true_eq]
  rw [Bool.eq_iff_iff, hrust]
  unfold dynamicControlsValid
  split
  · rename_i hhead
    constructor
    · rintro ⟨habi, hsize, hprofile, hreserved, hepoch, -⟩
      simp [habi, hsize, hprofile, hreserved, hepoch] at hhead
    · intro h
      cases h
  split
  · rename_i hasid
    constructor
    · rintro ⟨-, -, -, -, -, hbases, htcr, -⟩
      exact (hasid.elim (fun h => h hbases) (fun h => h htcr)).elim
    · intro h
      cases h
  rename_i hhead hasid
  simp only [not_or, not_not] at hhead hasid
  obtain ⟨habi, hsize, hprofile, hreserved, hepoch⟩ := hhead
  rw [mapped_fromControls hsize hreserved, controlsValid_eq]
  constructor
  · rintro ⟨-, -, -, -, -, -, -, h⟩
    exact h
  · intro h
    exact ⟨habi, hsize, hprofile, hreserved, hepoch, hasid.1, hasid.2, h⟩

/-- The admission of translation controls, across the languages and down to the walker. -/
theorem control_admission_agrees :
    (∀ c, controlsValid c = true ↔ memoryControlsValidV2 c = true) ∧
      (∀ c, controlsValidDynamic c = true ↔ dynamicControlsValid c = true) ∧
      ∀ c, controlsValid c = true →
        ∀ m : VfMmu, (m.configureStrictNc c.ttbr0 c.ttbr1 c.tcr).2 = true := by
  refine ⟨?_, ?_, ?_⟩
  · intro c
    rw [controlsValid_eq]
  · intro c
    rw [controlsValidDynamic_eq]
  · intro c h m
    exact (controlsValid_row h).configureStrictNc m

def asidControls : Controls :=
  ⟨2#32, 80#32, profileFixedNcUnaligned, 0#32, 0x30d00801#64, 0x4000#64, 0x0055000000008000#64,
    0x500518011#64 ||| (1#64 <<< 30) ||| (1#64 <<< 22), 0x44#64, 0#64, 0#64, 1#64⟩

theorem control_admission_agrees_asid :
    controlsValid asidControls = true ∧ memoryControlsValidV2 asidControls = true ∧
      (VfMmu.disabled.configureStrictNc asidControls.ttbr0 asidControls.ttbr1 asidControls.tcr).2 = true :=
  have h : controlsValid asidControls = true := by decide
  ⟨h, (control_admission_agrees.1 asidControls).1 h,
    control_admission_agrees.2.2 asidControls h VfMmu.disabled⟩

end Nextcore.Provider
