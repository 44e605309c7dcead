import Mathlib.Data.List.Nodup
import Mathlib.Tactic

/-! Layers over a vector of cells: loops that write one cell for each index, and folds in which
one component is transformed under another that evolves by itself. -/

namespace Nextcore.Cells

variable {α β ρ : Type*} {n : ℕ}

lemma get_eq_getElem (v : Vector α n) (i : Fin n) : v.get i = v[i.val] := rfl

lemma get_foldl_set {f : Fin n → Fin n} (hf : Function.Injective f) (g : Fin n → α) (indices : List (Fin n))
    (start : Vector α n) (i : Fin n) :
    (indices.foldl (fun result k => result.set (f k) (g k) (f k).isLt) start).get (f i) =
      if i ∈ indices then g i else start.get (f i) := by
  induction indices generalizing start with
  | nil => simp
  | cons k indices ih =>
    rw [List.foldl_cons, ih]
    by_cases hi : i ∈ indices
    · simp [hi]
    by_cases hk : i = k
    · subst hk
      simp [hi, get_eq_getElem]
    · have hne : (f k).val ≠ (f i).val := fun h => hk (hf (Fin.ext h)).symm
      simp [hi, hk, get_eq_getElem, Vector.getElem_set_ne _ _ hne]

lemma get_foldl_set_all {f : Fin n → Fin n} (hf : Function.Injective f) (g : Fin n → α) (start : Vector α n) (i : Fin n) :
    ((List.finRange n).foldl (fun result k => result.set (f k) (g k) (f k).isLt) start).get (f i) = g i := by
  rw [get_foldl_set hf, if_pos (List.mem_finRange i)]

lemma ext_get {u v : Vector α n} (h : ∀ i, u.get i = v.get i) : u = v :=
  Vector.ext fun i hi => h ⟨i, hi⟩

lemma get_ofFn (f : Fin n → α) (i : Fin n) : (Vector.ofFn f).get i = f i := by
  simp [get_eq_getElem]

lemma get_map (f : α → β) (v : Vector α n) (i : Fin n) : (v.map f).get i = f (v.get i) := by
  simp [get_eq_getElem]

lemma foldl_bijective {f : ρ → β → α → α} (hf : ∀ r b, Function.Bijective (f r b)) (g : ρ → β → β)
    (rounds : List ρ) (b : β) :
    ∃ (b' : β) (h : α → α), Function.Bijective h ∧
      ∀ a, rounds.foldl (fun s r => (f r s.2 s.1, g r s.2)) (a, b) = (h a, b') := by
  induction rounds generalizing b with
  | nil => exact ⟨b, id, Function.bijective_id, fun _ => rfl⟩
  | cons r rounds ih =>
    obtain ⟨b', h, hh, heq⟩ := ih (g r b)
    exact ⟨b', h ∘ f r b, hh.comp (hf r b), fun a => heq _⟩

end Nextcore.Cells
