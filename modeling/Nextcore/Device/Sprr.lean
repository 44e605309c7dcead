import Nextcore.Device.Gxf
import Nextcore.Lib.Bits
import Nextcore.Lib.Run

/-! The permission register of EL0 under its mask: what the merge of a write stores, and what no
run of EL0 writes can change. -/

namespace Nextcore.Device.VfAppleGxf

open Bits

section Slots

variable (orig requested mprr : U64)

def slotMask : U64 :=
  (List.range 16).foldl (fun mask i => mask ||| (((mprr >>> (i * 2)) &&& 0x3#64) <<< (i * 4))) 0#64

def allows (b : ℕ) : Bool := decide (b % 4 < 2) && mprr.getLsbD (b / 4 * 2 + b % 4)

lemma getLsbD_slot {b : ℕ} (hb : b < 64) (i : ℕ) :
    (((mprr >>> (i * 2)) &&& 0x3#64) <<< (i * 4)).getLsbD b = (decide (b / 4 = i) && allows mprr b) := by
  rw [show (0x3#64) = (1#64 <<< 2) - 1#64 by decide, BitVec.getLsbD_shiftLeft, BitVec.getLsbD_and,
    BitVec.getLsbD_ushiftRight, getLsbD_low_mask, allows]
  by_cases hslot : b / 4 = i
  · have hplace : b - i * 4 = b % 4 := by omega
    have hlow : ¬b < i * 4 := by omega
    have hwide : b % 4 < 64 := by omega
    rw [hplace, ← hslot]
    simp [hb, hlow, hwide, hslot, Bool.and_comm]
  · have hout : b < i * 4 ∨ 2 ≤ b - i * 4 := by omega
    rcases hout with hout | hout
    · simp [hout, hslot]
    · simp [hslot, Nat.not_lt.mpr hout]

lemma getLsbD_slotMask {b : ℕ} (hb : b < 64) : (slotMask mprr).getLsbD b = allows mprr b := by
  have hslots (n : ℕ) : ((List.range n).foldl (fun mask i => mask ||| (((mprr >>> (i * 2)) &&& 0x3#64) <<< (i * 4)))
      0#64).getLsbD b = (decide (b / 4 < n) && allows mprr b) := by
    induction n with
    | zero => simp
    | succ n ih =>
      rw [List.range_succ, List.foldl_append, List.foldl_cons, List.foldl_nil, BitVec.getLsbD_or, ih,
        getLsbD_slot _ hb]
      by_cases hslot : b / 4 = n
      · simp [hslot]
      · have hnext : b / 4 < n + 1 ↔ b / 4 < n := by omega
        simp [hslot, hnext]
  have hlast : b / 4 < 16 := by omega
  rw [slotMask, hslots, decide_eq_true hlast, Bool.true_and]

def mergedBit (b : ℕ) : Bool := if allows mprr b then requested.getLsbD b else orig.getLsbD b

lemma getLsbD_mergeSlot {perm : U64} {b : ℕ} (hb : b < 64) (i : ℕ)
    (hperm : b / 4 = i → perm.getLsbD b = orig.getLsbD b) :
    (mergeSlot orig requested mprr perm i).getLsbD b =
      if b / 4 = i then mergedBit orig requested mprr b else perm.getLsbD b := by
  simp only [mergeSlot, show (0x7#64) = (1#64 <<< 3) - 1#64 by decide, show (0x3#64) = (1#64 <<< 2) - 1#64 by decide,
    BitVec.getLsbD_or, BitVec.getLsbD_and, BitVec.getLsbD_not, BitVec.getLsbD_xor, BitVec.getLsbD_shiftLeft,
    BitVec.getLsbD_ushiftRight, getLsbD_low_mask, hb, mergedBit, allows]
  by_cases hslot : b / 4 = i
  · have hplace : b - i * 4 = b % 4 := by omega
    have hlow : ¬b < i * 4 := by omega
    have hback : i * 4 + b % 4 = b := by omega
    have hwide : b % 4 < 64 := by omega
    simp only [hplace, hback, hlow, hwide, hslot, hperm hslot]
    by_cases htwo : b % 4 < 2
    · have hthree : b % 4 < 3 := by omega
      simp only [htwo, hthree]
      cases mprr.getLsbD (i * 2 + b % 4) <;> cases orig.getLsbD b <;> cases requested.getLsbD b <;> rfl
    · by_cases hthree : b % 4 < 3
      · simp [htwo, hthree]
      · simp [htwo, hthree]
  · have hout : b < i * 4 ∨ 3 ≤ b - i * 4 := by omega
    rcases hout with hout | hout
    · simp [hout, hslot]
    · simp [hslot, Nat.not_lt.mpr hout]

lemma mergeSprrEl0br0_eq :
    mergeSprrEl0br0 orig requested mprr = (orig &&& ~~~slotMask mprr) ||| (requested &&& slotMask mprr) := by
  have hslots {b : ℕ} (hb : b < 64) (n : ℕ) :
      ((List.range n).foldl (mergeSlot orig requested mprr) orig).getLsbD b =
        if b / 4 < n then mergedBit orig requested mprr b else orig.getLsbD b := by
    induction n with
    | zero => simp
    | succ n ih =>
      rw [List.range_succ, List.foldl_append, List.foldl_cons, List.foldl_nil,
        getLsbD_mergeSlot _ _ _ hb n fun hslot => by rw [ih, if_neg (by omega)], ih]
      by_cases hslot : b / 4 = n
      · rw [if_pos hslot, if_pos (by omega)]
      · have hnext : b / 4 < n + 1 ↔ b / 4 < n := by omega
        rw [if_neg hslot]
        simp only [hnext]
  apply BitVec.eq_of_getLsbD_eq
  intro b hb
  have hlast : b / 4 < 16 := by omega
  rw [mergeSprrEl0br0, hslots hb, if_pos hlast, BitVec.getLsbD_or, BitVec.getLsbD_and, BitVec.getLsbD_and,
    BitVec.getLsbD_not, getLsbD_slotMask mprr hb, mergedBit]
  cases allows mprr b <;> simp [hb]

lemma mergeSprrEl0br0_again :
    mergeSprrEl0br0 (mergeSprrEl0br0 orig requested mprr) requested mprr = mergeSprrEl0br0 orig requested mprr := by
  simp only [mergeSprrEl0br0_eq]
  ext b hb
  simp only [BitVec.getElem_or, BitVec.getElem_and, BitVec.getElem_not]
  cases (slotMask mprr)[b] <;> simp

end Slots

section Writes

variable {κ : Type} {g g' : VfAppleGxf κ}

lemma sprrEl0br0_alias {r : GxfReg} {value : U64} {el : ℕ} (h : g.el1AliasWrite r value el = some g') :
    r ≠ .sprrEl0br0El1 ∧ g'.sprrEl0br0El1 = g.sprrEl0br0El1 := by
  unfold el1AliasWrite at h
  by_cases hblock : g.tvmTrvmBlocks r false el = true
  · rw [if_pos hblock] at h
    cases h
  rw [if_neg hblock] at h
  cases r with
  | vbarEl1 =>
    dsimp only at h
    split_ifs at h <;> exact ⟨by decide, (Option.some.inj h) ▸ rfl⟩
  | tpidrEl1 | spsrEl1 | elrEl1 | esrEl1 | farEl1 =>
    obtain rfl := Option.some.inj h
    refine ⟨by decide, ?_⟩
    split <;> rfl
  | _ => cases h

lemma code_eq_iff {r r' : GxfReg} : r.code = r'.code ↔ r = r' := by
  constructor
  · intro h
    have hsome : some r = some r' := by rw [← GxfReg.decode_code r, h, GxfReg.decode_code]
    exact Option.some.inj hsome
  · exact congrArg _

lemma sprrEl0br0_writeEl {reg : U32} {value : U64} {call : Option (κ × U64)}
    (h : g.writeEl reg value 0 = some (g', call)) :
    g'.sprrEl0br0El1 = if reg = GxfReg.sprrEl0br0El1.code then mergeSprrEl0br0 g.sprrEl0br0El1 value g.mprrEl0br0El1
      else g.sprrEl0br0El1 := by
  rw [writeEl] at h
  obtain ⟨r, hr, h⟩ := Option.bind_eq_some_iff.mp h
  have hreg : reg = GxfReg.sprrEl0br0El1.code ↔ r = .sprrEl0br0El1 := by
    rw [GxfReg.code_of_decode hr]
    exact code_eq_iff
  simp only [hreg]
  by_cases hrefused : g.guardedOnly r = true
  · rw [if_pos hrefused] at h
    cases h
  rw [if_neg hrefused] at h
  cases halias : g.el1AliasWrite r value 0 with
  | some g'' =>
    rw [halias] at h
    obtain ⟨rfl, -⟩ := Prod.mk.inj (Option.some.inj h)
    obtain ⟨hother, hkept⟩ := sprrEl0br0_alias halias
    rw [if_neg hother, hkept]
  | none =>
    rw [halias, Option.map_none, Option.none_or] at h
    cases r with
    | sprrEl0br0El1 =>
      obtain ⟨rfl, -⟩ := Prod.mk.inj (Option.some.inj h)
      rfl
    | tpidrEl1 | vbarEl1 | spsrEl1 | elrEl1 | esrEl1 | farEl1 | gxfStatusEl1 => exact absurd h (by simp)
    | hcrEl2 | sctlrEl1 | tcrEl1 | ttbr0El1 | ttbr1El1 =>
      dsimp only at h
      split_ifs at h
      all_goals
        obtain ⟨rfl, -⟩ := Prod.mk.inj (Option.some.inj h)
        rfl
    | _ =>
      obtain ⟨rfl, -⟩ := Prod.mk.inj (Option.some.inj h)
      rfl

def El0Write (op : GxfOp κ) : Prop := ∃ reg value, op = .writeEl reg value 0

def permissionWrite (value : U64) : GxfOp κ := .writeEl GxfReg.sprrEl0br0El1.code value 0

lemma step_permissionWrite (g : VfAppleGxf κ) (value : U64) :
    (step g (permissionWrite value)).2.sprrEl0br0El1 = mergeSprrEl0br0 g.sprrEl0br0El1 value g.mprrEl0br0El1 ∧
      (step g (permissionWrite value)).2.mprrEl0br0El1 = g.mprrEl0br0El1 := by
  have hwrite : g.writeEl GxfReg.sprrEl0br0El1.code value 0 =
      some (sprrPermChanged { g with
        sprrEl0br0El1 := mergeSprrEl0br0 g.sprrEl0br0El1 value g.mprrEl0br0El1 }) := by
    rw [writeEl, GxfReg.decode_code]
    rfl
  rw [permissionWrite, step, hwrite]
  exact ⟨rfl, rfl⟩

lemma step_el0Write (g : VfAppleGxf κ) {op : GxfOp κ} (hop : El0Write op) :
    (step g op).2.sprrEl0br0El1 &&& ~~~slotMask g.mprrEl0br0El1 = g.sprrEl0br0El1 &&& ~~~slotMask g.mprrEl0br0El1 := by
  obtain ⟨reg, value, rfl⟩ := hop
  rw [step]
  cases hwrite : g.writeEl reg value 0 with
  | none => rfl
  | some out =>
    obtain ⟨g', call⟩ := out
    dsimp only
    rw [sprrEl0br0_writeEl hwrite]
    split
    · rw [mergeSprrEl0br0_eq]
      ext b hb
      simp only [BitVec.getElem_or, BitVec.getElem_and, BitVec.getElem_not]
      cases (slotMask g.mprrEl0br0El1)[b] <;> simp
    · rfl

/-- A write at EL0 stores the request under the mask; no run of EL0 writes under one mask reaches a bit outside
of it, and a write made twice is made once. -/
theorem sprr_el0_merge (g : VfAppleGxf κ) :
    (∀ value, (step g (permissionWrite value)).2.sprrEl0br0El1 =
      (g.sprrEl0br0El1 &&& ~~~slotMask g.mprrEl0br0El1) ||| (value &&& slotMask g.mprrEl0br0El1)) ∧
    (∀ ops, (∀ x ∈ Run.log step g ops, El0Write x.event ∧ x.before.mprrEl0br0El1 = g.mprrEl0br0El1) →
      (Run.final step g ops).sprrEl0br0El1 &&& ~~~slotMask g.mprrEl0br0El1 =
        g.sprrEl0br0El1 &&& ~~~slotMask g.mprrEl0br0El1) ∧
    ∀ value, (step (step g (permissionWrite value)).2 (permissionWrite value)).2.sprrEl0br0El1 =
      (step g (permissionWrite value)).2.sprrEl0br0El1 := by
  refine ⟨fun value => ?_, fun ops hops => ?_, fun value => ?_⟩
  · rw [(step_permissionWrite g value).1, mergeSprrEl0br0_eq]
  · have hkeeps (s : VfAppleGxf κ) (op : GxfOp κ)
        (hs : s.sprrEl0br0El1 &&& ~~~slotMask g.mprrEl0br0El1 = g.sprrEl0br0El1 &&& ~~~slotMask g.mprrEl0br0El1)
        (hop : El0Write op ∧ s.mprrEl0br0El1 = g.mprrEl0br0El1) :
        (step s op).2.sprrEl0br0El1 &&& ~~~slotMask g.mprrEl0br0El1 =
          g.sprrEl0br0El1 &&& ~~~slotMask g.mprrEl0br0El1 := by
      have hstep := step_el0Write s hop.1
      rw [hop.2] at hstep
      exact hstep.trans hs
    exact Run.final_of_log hkeeps ops hops rfl
  · obtain ⟨hfirst, hmask⟩ := step_permissionWrite g value
    rw [(step_permissionWrite _ value).1, hfirst, hmask, mergeSprrEl0br0_again]

end Writes

end Nextcore.Device.VfAppleGxf
