import Nextcore.Jit.Frame
import Nextcore.Jit.Runner

/-! Words in the middle of a block: the record that reaches them, which differs from
the one at the start of the block in its working registers only. -/

namespace Nextcore.Jit

open Cpu Emit X86

def reach (t : Target) (guest : List Byte) : ℕ → U32 → U64 → VfCpu → List Byte → Option (VfCpu × List Byte)
  | 0, _, _, g, ram => some (g, ram)
  | k + 1, n, pc, g, ram =>
    if fetchFails t.base pc guest.length = true then none
    else
      match effectOne t false (blockWord t false guest pc) pc n g ram with
      | .next g ram => reach t guest k (n + 1#32) (pc + 4#64) g ram
      | .stops _ _ _ => none

structure Inside (g : VfCpu) (ram : List Byte) (g' : VfCpu) (ram' : List Byte) : Prop where
  record : g' = put g (working g')
  mode : KeepsMode (working g) (working g')
  length : ram'.length = ram.length

lemma Inside.refl (g : VfCpu) (ram : List Byte) : Inside g ram g ram := ⟨rfl, rfl, rfl⟩

lemma Inside.trans {g g' g'' : VfCpu} {ram ram' ram'' : List Byte} (h : Inside g ram g' ram')
    (h' : Inside g' ram' g'' ram'') : Inside g ram g'' ram'' := by
  refine ⟨?_, h'.mode.trans h.mode, h'.length.trans h.length⟩
  rw [h'.record, h.record]
  rfl

lemma inside_one {t : Target} {provider : Bool} {w : U32} {pc : U64} {n : U32} {g g' : VfCpu} {ram ram' : List Byte}
    (h : effectOne t provider w pc n g ram = .next g' ram') : Inside g ram g' ram' := by
  obtain ⟨out, hlocal⟩ := localized_one t provider w pc
  obtain ⟨heq, hkeeps⟩ := hlocal n g ram
  beta_reduce at heq
  rw [h] at heq
  cases hout : out g.currentEl g.hcrEl2 g.scrEl3 (working g) ram with
  | next d ram'' =>
    rw [hout] at heq hkeeps
    cases heq
    exact ⟨rfl, hkeeps.1, hkeeps.2⟩
  | branches d target ram'' =>
    rw [hout] at heq
    cases heq
  | halts d ram'' =>
    rw [hout] at heq
    cases heq
  | faults status d ram'' =>
    rw [hout] at heq
    cases heq

lemma reach_inside {t : Target} {guest : List Byte} {k : ℕ} {n : U32} {pc : U64} {g g' : VfCpu} {ram ram' : List Byte}
    (h : reach t guest k n pc g ram = some (g', ram')) : Inside g ram g' ram' := by
  induction k generalizing n pc g ram with
  | zero =>
    cases h
    exact .refl g' ram'
  | succ k ih =>
    rw [reach] at h
    split at h
    · cases h
    cases heffect : effectOne t false (blockWord t false guest pc) pc n g ram with
    | stops status g₁ ram₁ =>
      rw [heffect] at h
      cases h
    | next g₁ ram₁ =>
      rw [heffect] at h
      exact (inside_one heffect).trans (ih h)

lemma reach_snoc {t : Target} {guest : List Byte} {k : ℕ} {n : U32} {pc : U64} {g g' g'' : VfCpu}
    {ram ram' ram'' : List Byte} (h : reach t guest k n pc g ram = some (g', ram'))
    (hfetch : fetchFails t.base (pc + BitVec.ofNat 64 (4 * k)) guest.length = false)
    (hnext : effectOne t false (blockWord t false guest (pc + BitVec.ofNat 64 (4 * k)))
      (pc + BitVec.ofNat 64 (4 * k)) (n + BitVec.ofNat 32 k) g' ram' = .next g'' ram'') :
    reach t guest (k + 1) n pc g ram = some (g'', ram'') := by
  induction k generalizing n pc g ram with
  | zero =>
    cases h
    have hpc : pc + BitVec.ofNat 64 (4 * 0) = pc := BitVec.add_zero _
    have hn : n + BitVec.ofNat 32 0 = n := BitVec.add_zero _
    rw [hpc] at hfetch hnext
    rw [hn] at hnext
    rw [reach, if_neg (by simp [hfetch]), hnext]
    rfl
  | succ k ih =>
    rw [reach] at h
    split at h
    · cases h
    next hword =>
      rcases heffect : effectOne t false (blockWord t false guest pc) pc n g ram with ⟨g₁, ram₁⟩ | ⟨status, g₁, ram₁⟩
      swap
      · rw [heffect] at h
        cases h
      rw [heffect] at h
      have hpc : pc + BitVec.ofNat 64 (4 * (k + 1)) = pc + 4#64 + BitVec.ofNat 64 (4 * k) := by
        rw [show 4 * (k + 1) = 4 + 4 * k by omega, BitVec.ofNat_add, BitVec.add_assoc]
      have hn : n + BitVec.ofNat 32 (k + 1) = n + 1#32 + BitVec.ofNat 32 k := by
        rw [show k + 1 = 1 + k by omega, BitVec.ofNat_add, BitVec.add_assoc]
      rw [hpc] at hfetch hnext
      rw [hn] at hnext
      rw [reach, if_neg hword, heffect]
      exact ih h hfetch hnext

lemma effectFrom_reach {t : Target} {guest : List Byte} {k remaining : ℕ} {n : U32} {pc : U64} {g g' : VfCpu}
    {ram ram' : List Byte} (hk : k < remaining) (h : reach t guest k n pc g ram = some (g', ram')) :
    effectFrom t false guest remaining n pc g ram =
      effectFrom t false guest (remaining - k) (n + BitVec.ofNat 32 k) (pc + BitVec.ofNat 64 (4 * k)) g' ram' := by
  induction k generalizing remaining n pc g ram with
  | zero =>
    cases h
    rw [show BitVec.ofNat 32 0 = 0#32 from rfl, show BitVec.ofNat 64 (4 * 0) = 0#64 from rfl, BitVec.add_zero,
      BitVec.add_zero, Nat.sub_zero]
  | succ k ih =>
    obtain ⟨remaining, rfl⟩ := Nat.exists_eq_succ_of_ne_zero (Nat.ne_of_gt (Nat.zero_lt_of_lt hk))
    rw [reach] at h
    split at h
    · cases h
    next hfetch =>
      cases heffect : effectOne t false (blockWord t false guest pc) pc n g ram with
      | stops status g₁ ram₁ =>
        rw [heffect] at h
        cases h
      | next g₁ ram₁ =>
        rw [heffect] at h
        have hne : remaining ≠ 0 := by omega
        rw [Nat.succ_eq_add_one, effectFrom]
        dsimp only
        rw [if_neg (fun hfails => hfetch hfails.2), heffect, Effect.andThen, if_neg hne, ih (by omega) h,
          Nat.add_sub_add_right]
        congr 1
        · rw [BitVec.add_assoc, ← BitVec.ofNat_add, Nat.add_comm]
        · rw [BitVec.add_assoc]
          congr 1
          rw [show 4 * (k + 1) = 4 + 4 * k by omega, BitVec.ofNat_add]

lemma Inside.pstate_mode {g g' : VfCpu} {ram ram' : List Byte} (h : Inside g ram g' ram') :
    g'.pstate &&& 15#64 = g.pstate &&& 15#64 := by
  have hmask : (15#64) = ~~~0xf0000000#64 &&& 15#64 := by decide
  have hmode : g'.pstate &&& ~~~0xf0000000#64 = g.pstate &&& ~~~0xf0000000#64 := h.mode
  rw [hmask, ← BitVec.and_assoc, ← BitVec.and_assoc, hmode]

lemma Inside.stateValid {g g' : VfCpu} {ram ram' : List Byte} (h : Inside g ram g' ram') :
    g'.stateValid = g.stateValid := by
  have hmode := h.pstate_mode
  unfold VfCpu.stateValid
  dsimp only
  rw [hmode, h.record]
  rfl

def boundary (start : VfCpu) (k : ℕ) (g : VfCpu) : VfCpu :=
  settle start.retired (finished g (start.pc + BitVec.ofNat 64 (4 * k)) (BitVec.ofNat 32 k))

end Nextcore.Jit
