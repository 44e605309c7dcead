import Nextcore.Lib.Emit
import Nextcore.Lib.X86.Machine

/-! Runs through guarded code: pieces either fall through to the code behind them or
branch to one of the blocks there. -/

namespace Nextcore.X86

open Emit

variable {C ι : Type}

def InReach (pieces : List (Piece ι)) (after : ι → ℕ) (tail : List Byte) : Prop :=
  ∀ label, piecesLength pieces + after label < 2 ^ 31 ∧ after label ≤ tail.length

def Falls (L : Layout C) (pieces : List (Piece ι)) (m m' : Machine C) : Prop :=
  ∀ after tail, InReach pieces after tail → run L (resolved after pieces ++ tail) m = run L tail m'

def Jumps (L : Layout C) (pieces : List (Piece ι)) (m : Machine C) (label : ι) (m' : Machine C) : Prop :=
  ∀ after tail, InReach pieces after tail →
    run L (resolved after pieces ++ tail) m = run L (tail.drop (after label)) m'

lemma le32_word (v : U32) : (v >>> 24).truncate 8 ++ (v >>> 16).truncate 8 ++ (v >>> 8).truncate 8 ++ v.truncate 8 =
    v := by
  apply BitVec.eq_of_getLsbD_eq
  intro i hi
  simp only [BitVec.getLsbD_append, BitVec.truncate_eq_setWidth, BitVec.getLsbD_setWidth, BitVec.getLsbD_ushiftRight]
  grind

lemma InReach.right {first second : List (Piece ι)} {after : ι → ℕ} {tail : List Byte}
    (h : InReach (first ++ second) after tail) : InReach second after tail := by
  intro label
  obtain ⟨h1, h2⟩ := h label
  rw [piecesLength_append] at h1
  exact ⟨by omega, h2⟩

lemma InReach.left {first second : List (Piece ι)} {after : ι → ℕ} {tail : List Byte}
    (h : InReach (first ++ second) after tail) :
    InReach first (fun label => piecesLength second + after label) (resolved after second ++ tail) := by
  intro label
  obtain ⟨h1, h2⟩ := h label
  rw [piecesLength_append] at h1
  dsimp only
  rw [List.length_append, length_resolved]
  exact ⟨by omega, by omega⟩

variable {L : Layout C} {m n o : Machine C} {label : ι} {first second : List (Piece ι)}

lemma falls_nil : Falls L ([] : List (Piece ι)) m m := fun _ _ _ => rfl

lemma falls_code {bs : List Byte} (h : ∀ rest, run L (bs ++ rest) m = run L rest n) :
    Falls L [(.code bs : Piece ι)] m n := by
  intro after tail _
  simp only [resolved, List.append_nil]
  exact h tail

lemma run_guard {cc : Byte} (hcc : cc &&& 0xf0#8 = 0x80#8) {taken : Bool}
    (h : condition m.flags (cc.toNat % 16) = some taken) (after : ι → ℕ) (tail : List Byte)
    (hreach : InReach [(.guard cc label : Piece ι)] after tail) :
    run L (resolved after [(.guard cc label : Piece ι)] ++ tail) m =
      run L (if taken then tail.drop (after label) else tail) m := by
  obtain ⟨h1, h2⟩ := hreach label
  have hrel : (BitVec.ofNat 32 (after label)).toNat = after label := by
    rw [BitVec.toNat_ofNat]
    exact Nat.mod_eq_of_lt (by omega)
  have hd : decode (resolved after [(.guard cc label : Piece ι)] ++ tail) =
      some (.jcc (cc.toNat % 16) (BitVec.ofNat 32 (after label)), tail) := by
    rw [← le32_word (BitVec.ofNat 32 (after label)), show after label = piecesLength ([] : List (Piece ι)) + after label
      from (Nat.zero_add _).symm]
    change (if cc &&& 0xf0#8 = 0x80#8 then _ else _) = _
    rw [if_pos hcc]
    rfl
  rw [run_jcc hd (by omega) (by omega) h, hrel]

lemma falls_guard {cc : Byte} (hcc : cc &&& 0xf0#8 = 0x80#8)
    (h : condition m.flags (cc.toNat % 16) = some false) : Falls L [(.guard cc label : Piece ι)] m m :=
  fun after tail hreach => run_guard hcc h after tail hreach

lemma jumps_guard {cc : Byte} (hcc : cc &&& 0xf0#8 = 0x80#8)
    (h : condition m.flags (cc.toNat % 16) = some true) : Jumps L [(.guard cc label : Piece ι)] m label m :=
  fun after tail hreach => run_guard hcc h after tail hreach

lemma Falls.append (h : Falls L first m n) (h' : Falls L second n o) : Falls L (first ++ second) m o := by
  intro after tail hreach
  rw [resolved_append, List.append_assoc, h _ _ hreach.left, h' _ _ hreach.right]

lemma Falls.jumps (h : Falls L first m n) (h' : Jumps L second n label o) :
    Jumps L (first ++ second) m label o := by
  intro after tail hreach
  rw [resolved_append, List.append_assoc, h _ _ hreach.left, h' _ _ hreach.right]

lemma Jumps.append (h : Jumps L first m label n) (second : List (Piece ι)) :
    Jumps L (first ++ second) m label n := by
  intro after tail hreach
  rw [resolved_append, List.append_assoc, h _ _ hreach.left]
  rw [← length_resolved after second, ← List.drop_drop, List.drop_left]

lemma Falls.code {bs : List Byte} (h : ∀ rest, run L (bs ++ rest) m = run L rest n) (h' : Falls L second n o) :
    Falls L (.code bs :: second) m o :=
  (falls_code h).append h'

lemma Jumps.code {bs : List Byte} (h : ∀ rest, run L (bs ++ rest) m = run L rest n)
    (h' : Jumps L second n label o) : Jumps L (.code bs :: second) m label o :=
  (falls_code h).jumps h'

lemma Falls.pass {cc : Byte} (hcc : cc &&& 0xf0#8 = 0x80#8) (h : condition m.flags (cc.toNat % 16) = some false)
    (block : ι) (h' : Falls L second m n) : Falls L (.guard cc block :: second) m n :=
  (falls_guard hcc h).append h'

lemma Jumps.pass {cc : Byte} (hcc : cc &&& 0xf0#8 = 0x80#8) (h : condition m.flags (cc.toNat % 16) = some false)
    (block : ι) (h' : Jumps L second m label n) : Jumps L (.guard cc block :: second) m label n :=
  (falls_guard hcc h).jumps h'

lemma Jumps.take {cc : Byte} (hcc : cc &&& 0xf0#8 = 0x80#8) (h : condition m.flags (cc.toNat % 16) = some true)
    (second : List (Piece ι)) : Jumps L (.guard cc label :: second) m label m :=
  (jumps_guard hcc h).append second

end Nextcore.X86
