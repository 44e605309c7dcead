import Nextcore.Lib.Loop

/-! Loops that use up a budget: a turn that goes on uses some of it, and no turn uses more than there is. -/

namespace Nextcore.Loop

variable {S A : Type} {body : S → Option (Turn S A)} {I : S → Prop} {used : S → ℕ} {budget : ℕ}

/-- Every turn is defined; one that goes on has used more of the budget, and none leaves more used than there is. -/
structure Metered (body : S → Option (Turn S A)) (I : S → Prop) (used : S → ℕ) (budget : ℕ) : Prop where
  defined : ∀ s, I s → used s ≤ budget → ∃ turn, body s = some turn
  again : ∀ s s', I s → used s ≤ budget → body s = some (.again s') → I s' ∧ used s < used s' ∧ used s' ≤ budget
  done : ∀ s a t, I s → used s ≤ budget → body s = some (.done a t) → used t ≤ budget

namespace Metered

variable (h : Metered body I used budget) {s : S} (hs : I s) (hused : used s ≤ budget)

include h hs hused

lemma visits {s' : S} (hvisits : Visits body s s') : I s' ∧ used s' ≤ budget := by
  induction hvisits with
  | refl => exact ⟨hs, hused⟩
  | tail _ hturn ih =>
    obtain ⟨hs', -, hused'⟩ := h.again _ _ ih.1 ih.2 hturn
    exact ⟨hs', hused'⟩

lemma ends {fuel : ℕ} (hfuel : budget - used s < fuel) :
    ∃ a t, iterate body fuel s = some (a, t) ∧ used t ≤ budget := by
  refine @iterate_ends_in _ _ _ _ (fun s => I s ∧ used s ≤ budget) (fun _ t => used t ≤ budget)
    (fun s => budget - used s) (fun s hs => ?_) fuel hfuel ⟨hs, hused⟩
  obtain ⟨turn, hturn⟩ := h.defined s hs.1 hs.2
  refine ⟨turn, hturn, fun s' hagain => ?_, fun a t hdone => ?_⟩
  · obtain ⟨hs', hmore, hused'⟩ := h.again s s' hs.1 hs.2 (hturn.trans (congrArg some hagain))
    exact ⟨⟨hs', hused'⟩, by omega⟩
  · exact h.done s a t hs.1 hs.2 (hturn.trans (congrArg some hdone))

end Metered

end Nextcore.Loop
