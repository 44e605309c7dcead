import Nextcore.Lib.Cells
import Nextcore.Preos.Pauth

/-! The cipher is a permutation of its data: every layer of the rounds has an inverse. -/

namespace Nextcore.Preos.Pauth

open Cells

lemma getLsbD_foldl_or (value : Cells) (indices : List (Fin 16)) (start : U64) (j : ℕ) :
    (indices.foldl (fun word i => word ||| ((value.get i).zeroExtend 64 <<< (i.val * 4))) start).getLsbD j =
      (start.getLsbD j || indices.any fun i => j < 64 && (4 * i.val ≤ j && (value.get i).getLsbD (j - 4 * i.val))) := by
  induction indices generalizing start with
  | nil => simp
  | cons i indices ih =>
    rw [List.foldl_cons, ih, List.any_cons, ← Bool.or_assoc]
    congr 1
    rw [BitVec.getLsbD_or, BitVec.getLsbD_shiftLeft, BitVec.getLsbD_setWidth, Nat.mul_comm]
    congr 1
    by_cases h : 4 * i.val ≤ j
    · by_cases h64 : j < 64
      · simp [h, h64, show ¬j < 4 * i.val by omega, show j - 4 * i.val < 64 by omega]
      · simp [h64]
    · simp [h, show j < 4 * i.val by omega]

lemma getLsbD_packed (value : Cells) {j : ℕ} (h : j < 64) :
    (packed value).getLsbD j = (value.get ⟨j / 4, by omega⟩).getLsbD (j % 4) := by
  rw [packed, getLsbD_foldl_or, BitVec.getLsbD_zero, Bool.false_or]
  apply Bool.eq_iff_iff.mpr
  simp only [List.any_eq_true, Bool.and_eq_true, decide_eq_true_eq]
  constructor
  · rintro ⟨i, -, -, hle, hbit⟩
    have hlt : j - 4 * i.val < 4 := BitVec.lt_of_getLsbD hbit
    have hi : i = ⟨j / 4, by omega⟩ := Fin.ext (show i.val = j / 4 by omega)
    rwa [← hi, show j % 4 = j - 4 * i.val by omega]
  · intro hbit
    refine ⟨⟨j / 4, by omega⟩, List.mem_finRange _, h, ?_, ?_⟩
    · simp only; omega
    · simp only
      rwa [show j - 4 * (j / 4) = j % 4 by omega]

lemma getLsbD_cells (word : U64) (i : Fin 16) (k : ℕ) :
    ((cells word).get i).getLsbD k = (decide (k < 4) && word.getLsbD (i.val * 4 + k)) := by
  rw [cells, get_ofFn, BitVec.getLsbD_setWidth, BitVec.getLsbD_ushiftRight]

lemma packed_cells (word : U64) : packed (cells word) = word := by
  apply BitVec.eq_of_getLsbD_eq
  intro j hj
  rw [getLsbD_packed _ hj, getLsbD_cells]
  simp only [show j % 4 < 4 by omega, decide_true, Bool.true_and]
  rw [show j / 4 * 4 + j % 4 = j by omega]

lemma cells_packed (value : Cells) : cells (packed value) = value := by
  apply ext_get
  intro i
  apply BitVec.eq_of_getLsbD_eq
  intro k hk
  rw [getLsbD_cells, getLsbD_packed _ (by omega)]
  simp only [hk, decide_true, Bool.true_and]
  have hi : (⟨(i.val * 4 + k) / 4, by omega⟩ : Fin 16) = i := Fin.ext (show (i.val * 4 + k) / 4 = i.val by omega)
  rw [hi, show (i.val * 4 + k) % 4 = k by omega]

lemma cells_bijective : Function.Bijective cells :=
  Function.bijective_iff_has_inverse.mpr ⟨packed, packed_cells, cells_packed⟩

lemma packed_bijective : Function.Bijective packed :=
  Function.bijective_iff_has_inverse.mpr ⟨cells, cells_packed, packed_cells⟩

lemma xor_xor (state : Cells) (word : U64) : xor (xor state word) word = state := by
  apply ext_get
  intro i
  simp only [xor, get_ofFn, BitVec.xor_assoc, BitVec.xor_self, BitVec.xor_zero]

lemma xor_bijective (word : U64) : Function.Bijective fun state => xor state word :=
  Function.Involutive.bijective fun state => xor_xor state word

lemma xorWord_bijective (word : U64) : Function.Bijective fun x : U64 => x ^^^ word :=
  Function.Involutive.bijective fun x => by simp only [BitVec.xor_assoc, BitVec.xor_self, BitVec.xor_zero]

lemma get_gather (value : Cells) (map : Vector (Fin 16) 16) (i : Fin 16) :
    (permutation value map false).get i = value.get (map.get i) :=
  get_foldl_set_all Function.injective_id (fun i => value.get (map.get i)) _ i

lemma get_scatter (value : Cells) {map : Vector (Fin 16) 16} (hmap : Function.Injective map.get) (i : Fin 16) :
    (permutation value map true).get (map.get i) = value.get i :=
  get_foldl_set_all hmap value.get _ i

lemma permutation_bijective {map : Vector (Fin 16) 16} (hmap : Function.Injective map.get) (inverse : Bool) :
    Function.Bijective fun value => permutation value map inverse := by
  have hsurj : Function.Surjective map.get := Finite.surjective_of_injective hmap
  have hgather : ∀ value, permutation (permutation value map true) map false = value := by
    intro value
    apply ext_get
    intro i
    rw [get_gather, get_scatter _ hmap]
  have hscatter : ∀ value, permutation (permutation value map false) map true = value := by
    intro value
    apply ext_get
    intro j
    obtain ⟨i, rfl⟩ := hsurj j
    rw [get_scatter _ hmap, get_gather]
  cases inverse with
  | false => exact Function.bijective_iff_has_inverse.mpr ⟨fun v => permutation v map true, hscatter, hgather⟩
  | true => exact Function.bijective_iff_has_inverse.mpr ⟨fun v => permutation v map false, hgather, hscatter⟩

lemma shuffle_injective : Function.Injective shuffle.get := by decide +kernel

lemma substitute_substitute (value : Cells) (inverse : Bool) :
    substitute (substitute value inverse) (!inverse) = value := by
  have hforth : ∀ cell : BitVec 4, BitVec.ofNat 4 ((sub.findIdx? (· == sub.getD cell.toNat 0#4)).getD 0) = cell := by
    decide +kernel
  have hback : ∀ cell : BitVec 4, sub.getD (BitVec.ofNat 4 ((sub.findIdx? (· == cell)).getD 0)).toNat 0#4 = cell := by
    decide +kernel
  apply ext_get
  intro i
  cases inverse with
  | false =>
    simp only [substitute, get_map, Bool.not_false, if_true, Bool.false_eq_true, if_false]
    exact hforth _
  | true =>
    simp only [substitute, get_map, Bool.not_true, if_true, Bool.false_eq_true, if_false]
    exact hback _

lemma substitute_bijective (inverse : Bool) : Function.Bijective fun value => substitute value inverse := by
  refine Function.bijective_iff_has_inverse.mpr ⟨fun v => substitute v (!inverse), ?_, ?_⟩
  · exact fun value => substitute_substitute value inverse
  · intro value
    have h := substitute_substitute value (!inverse)
    rwa [Bool.not_not] at h

def rotated (cell : BitVec 4) : BitVec 4 := (cell <<< 1) ||| (cell >>> 3)

def cellAt (value : Cells) (column row : Fin 4) : BitVec 4 := value.get ⟨column.val + 4 * row.val, by omega⟩

lemma rotated_xor (x y : BitVec 4) : rotated (x ^^^ y) = rotated x ^^^ rotated y := by
  revert x y
  decide +kernel

lemma rotated_four (x : BitVec 4) : rotated (rotated (rotated (rotated x))) = x := by
  revert x
  decide +kernel

lemma rotated_two (x : BitVec 4) : (x <<< 2) ||| (x >>> 2) = rotated (rotated x) := by
  revert x
  decide +kernel

lemma cellAt_mix (value : Cells) (column : Fin 4) :
    cellAt (mix value) column 0 = rotated (cellAt value column 1) ^^^ rotated (rotated (cellAt value column 2)) ^^^
        rotated (cellAt value column 3) ∧
    cellAt (mix value) column 1 = rotated (cellAt value column 0) ^^^ rotated (cellAt value column 2) ^^^
        rotated (rotated (cellAt value column 3)) ∧
    cellAt (mix value) column 2 = rotated (rotated (cellAt value column 0)) ^^^ rotated (cellAt value column 1) ^^^
        rotated (cellAt value column 3) ∧
    cellAt (mix value) column 3 = rotated (cellAt value column 0) ^^^ rotated (rotated (cellAt value column 1)) ^^^
        rotated (cellAt value column 2) := by
  have hsum : ∀ x y z : BitVec 4, x ^^^ y ^^^ z = 0#4 ^^^ x ^^^ y ^^^ z := fun x y z => by rw [BitVec.zero_xor]
  simp only [← rotated_two]
  rw [hsum (rotated _), hsum (rotated _), hsum (_ ||| _), hsum (rotated _)]
  simp only [cellAt, mix, get_ofFn]
  fin_cases column <;> exact ⟨rfl, rfl, rfl, rfl⟩

lemma ext_cellAt {u v : Cells} (h : ∀ column row, cellAt u column row = cellAt v column row) : u = v := by
  apply ext_get
  intro i
  have hi : i = ⟨i.val % 4 + 4 * (i.val / 4), by omega⟩ := Fin.ext (show i.val = i.val % 4 + 4 * (i.val / 4) by omega)
  rw [hi]
  exact h ⟨i.val % 4, by omega⟩ ⟨i.val / 4, by omega⟩

lemma xor_cancel (x y : BitVec 4) : x ^^^ (x ^^^ y) = y := by
  rw [← BitVec.xor_assoc, BitVec.xor_self, BitVec.zero_xor]

lemma xor_left_comm (x y z : BitVec 4) : x ^^^ (y ^^^ z) = y ^^^ (x ^^^ z) := by
  rw [← BitVec.xor_assoc, BitVec.xor_comm x y, BitVec.xor_assoc]

lemma mix_mix (value : Cells) : mix (mix value) = value := by
  apply ext_cellAt
  intro column row
  obtain ⟨h0, h1, h2, h3⟩ := cellAt_mix value column
  obtain ⟨g0, g1, g2, g3⟩ := cellAt_mix (mix value) column
  -- a full turn gives the cell back and every other term occurs twice
  fin_cases row
  all_goals
    simp only [Fin.zero_eta, Fin.mk_one, Fin.reduceFinMk, g0, g1, g2, g3, h0, h1, h2, h3, rotated_xor, rotated_four]
    simp only [BitVec.xor_assoc, BitVec.xor_comm, xor_left_comm, xor_cancel, BitVec.xor_self]

lemma mix_bijective : Function.Bijective mix := Function.Involutive.bijective mix_mix

lemma gatherMix_bijective : Function.Bijective fun state => mix (permutation state shuffle false) := by
  have h := mix_bijective.comp (permutation_bijective shuffle_injective false)
  exact h

lemma mixScatter_bijective : Function.Bijective fun state => permutation (mix state) shuffle true := by
  have h := (permutation_bijective shuffle_injective true).comp mix_bijective
  simpa only [Function.comp_def] using h

lemma ite_bijective {f : Cells → Cells} (hf : Function.Bijective f) (c : Prop) [Decidable c] :
    Function.Bijective fun state => if c then f state else state := by
  by_cases h : c
  · simpa only [if_pos h] using hf
  · simp only [if_neg h]
    exact Function.bijective_id

lemma forward_bijective (key : Key) (schedule : Cells) (round : ℕ) (constant : U64) :
    Function.Bijective fun state => (forward key state schedule round constant).1 := by
  have h := (substitute_bijective false).comp ((ite_bijective gatherMix_bijective (round ≠ 0)).comp
    (xor_bijective (key.lo ^^^ packed schedule ^^^ constant)))
  exact h

lemma backward_bijective (key : Key) (schedule : Cells) (round : ℕ) (constant : U64) :
    Function.Bijective fun state => (backward key state schedule round constant).1 := by
  have h := (xor_bijective (key.lo ^^^ packed (tweak schedule true) ^^^ constant ^^^ alpha)).comp
    ((ite_bijective mixScatter_bijective (round ≠ 0)).comp (substitute_bijective true))
  exact h

lemma reflect_bijective (key : Key) (whitening : U64) (schedule : Cells) :
    Function.Bijective fun state => reflect key whitening state schedule := by
  have hin := (substitute_bijective false).comp (gatherMix_bijective.comp (xor_bijective (whitening ^^^ packed schedule)))
  have hmiddle := (xor_bijective key.lo).comp (gatherMix_bijective.comp hin)
  have hout := (substitute_bijective true).comp ((permutation_bijective shuffle_injective true).comp hmiddle)
  have h := (xor_bijective (key.hi ^^^ packed schedule)).comp (mixScatter_bijective.comp hout)
  simpa only [Function.comp_def, reflect] using h

/-- The cipher permutes its data under every key and every modifier. -/
theorem qarma5_bijective (modifier : U64) (key : Key) : Function.Bijective fun data => qarma5 data modifier key := by
  obtain ⟨schedule, h, hh, hforward⟩ := foldl_bijective
    (f := fun (r : U64 × ℕ) schedule state => (forward key state schedule r.2 r.1).1)
    (fun r schedule => forward_bijective key schedule r.2 r.1) (fun _ schedule => tweak schedule false)
    roundConstants.zipIdx (cells modifier)
  obtain ⟨last, h', hh', hbackward⟩ := foldl_bijective
    (f := fun (r : U64 × ℕ) schedule state => (backward key state schedule r.2 r.1).1)
    (fun r schedule => backward_bijective key schedule r.2 r.1) (fun _ schedule => tweak schedule true)
    roundConstants.zipIdx.reverse schedule
  have heq : (fun data => qarma5 data modifier key) = fun data =>
      packed (h' (reflect key (key.hi.rotateRight 1 ^^^ (key.hi >>> 63)) (h (cells (data ^^^ key.hi))) schedule)) ^^^
        (key.hi.rotateRight 1 ^^^ (key.hi >>> 63)) := by
    funext data
    simp only [forward, backward] at hforward hbackward
    simp only [qarma5, forward, backward, hforward, hbackward]
  rw [heq]
  exact (xorWord_bijective _).comp (packed_bijective.comp (hh'.comp
    ((reflect_bijective key _ schedule).comp (hh.comp (cells_bijective.comp (xorWord_bijective key.hi))))))

end Nextcore.Preos.Pauth
