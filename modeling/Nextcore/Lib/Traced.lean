import Mathlib.Data.List.Basic

/-! Computations together with the accesses they make, in order. -/

namespace Nextcore

structure Traced (ι α : Type) where
  value : α
  accesses : List ι

namespace Traced

variable {ι α β : Type} {P : ι → Prop}

instance monadTraced : Monad (Traced ι) where
  pure a := ⟨a, []⟩
  bind m f := ⟨(f m.value).value, m.accesses ++ (f m.value).accesses⟩

def touch (is : List ι) : Traced ι Unit := ⟨(), is⟩

def All (P : ι → Prop) (m : Traced ι α) : Prop := ∀ i ∈ m.accesses, P i

@[simp] lemma value_pure (a : α) : (pure a : Traced ι α).value = a := rfl

@[simp] lemma value_bind (m : Traced ι α) (f : α → Traced ι β) : (m >>= f).value = (f m.value).value := rfl

@[simp] lemma accesses_bind (m : Traced ι α) (f : α → Traced ι β) :
    (m >>= f).accesses = m.accesses ++ (f m.value).accesses := rfl

lemma all_pure (a : α) : (pure a : Traced ι α).All P := fun _ h => absurd h List.not_mem_nil

lemma all_touch {is : List ι} : (touch is).All P ↔ ∀ i ∈ is, P i := Iff.rfl

lemma all_bind {m : Traced ι α} {f : α → Traced ι β} : (m >>= f).All P ↔ m.All P ∧ (f m.value).All P :=
  List.forall_mem_append

lemma All.bind {m : Traced ι α} {f : α → Traced ι β} (h : m.All P) (h' : (f m.value).All P) : (m >>= f).All P :=
  all_bind.mpr ⟨h, h'⟩

lemma All.mono {Q : ι → Prop} {m : Traced ι α} (h : m.All P) (hPQ : ∀ i, P i → Q i) : m.All Q :=
  fun i hi => hPQ i (h i hi)

lemma all_ite {c : Prop} [Decidable c] {m m' : Traced ι α} (h : c → m.All P) (h' : ¬c → m'.All P) :
    (if c then m else m').All P := by
  by_cases hc : c
  · rw [if_pos hc]
    exact h hc
  · rw [if_neg hc]
    exact h' hc

end Traced

end Nextcore
