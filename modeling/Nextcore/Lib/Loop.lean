import Mathlib.Logic.Relation
import Mathlib.Order.Basic

/-! Loops whose body goes on, ends with an answer, or is undefined. -/

namespace Nextcore.Loop

variable {S T A : Type}

inductive Turn (S A : Type) where
  | again (s : S)
  | done (a : A) (s : S)

lemma Turn.done_ne_again (a : A) (s s' : S) : Turn.done a s ≠ .again s' := nofun

/-- At most `fuel` turns of a loop; `none` is an undefined body, or fuel that ran out. -/
def iterate (body : S → Option (Turn S A)) : ℕ → S → Option (A × S)
  | 0, _ => none
  | fuel + 1, s =>
    match body s with
    | none => none
    | some (.again s) => iterate body fuel s
    | some (.done a s) => some (a, s)

def Ends (body : S → Option (Turn S A)) (s : S) (a : A) (t : S) : Prop := ∃ fuel, iterate body fuel s = some (a, t)

variable {body : S → Option (Turn S A)} {s s' : S} {a : A} {t : S}

lemma iterate_add {fuel : ℕ} (h : iterate body fuel s = some (a, t)) (k : ℕ) :
    iterate body (fuel + k) s = some (a, t) := by
  induction fuel generalizing s with
  | zero => cases h
  | succ fuel ih =>
    rw [Nat.add_right_comm]
    rw [iterate] at h ⊢
    cases hbody : body s with
    | none =>
      rw [hbody] at h
      cases h
    | some turn =>
      rw [hbody] at h
      cases turn with
      | again s' => exact ih h
      | done a s' => exact h

lemma Ends.unique {a' : A} {t' : S} (h : Ends body s a t) (h' : Ends body s a' t') : a = a' ∧ t = t' := by
  obtain ⟨fuel, hf⟩ := h
  obtain ⟨fuel', hf'⟩ := h'
  have hsum := iterate_add hf fuel'
  rw [Nat.add_comm, iterate_add hf' fuel] at hsum
  cases hsum
  exact ⟨rfl, rfl⟩

lemma ends_done (h : body s = some (.done a t)) : Ends body s a t := ⟨1, by rw [iterate, h]⟩

lemma Ends.again (h : body s = some (.again s')) (h' : Ends body s' a t) : Ends body s a t := by
  obtain ⟨fuel, hf⟩ := h'
  exact ⟨fuel + 1, by rw [iterate, h]; exact hf⟩

lemma iterate_ends_in {I : S → Prop} {Q : A → S → Prop} (μ : S → ℕ) (hbody : ∀ s, I s → ∃ turn, body s = some turn ∧
      (∀ s', turn = .again s' → I s' ∧ μ s' < μ s) ∧ ∀ a t, turn = .done a t → Q a t) {fuel : ℕ} (hfuel : μ s < fuel)
    (hs : I s) : ∃ a t, iterate body fuel s = some (a, t) ∧ Q a t := by
  induction fuel generalizing s with
  | zero => omega
  | succ fuel ih =>
    obtain ⟨turn, hturn, hnext, hlast⟩ := hbody s hs
    rw [iterate, hturn]
    cases turn with
    | again s' =>
      obtain ⟨hs', hlt⟩ := hnext s' rfl
      exact ih (by omega) hs'
    | done a t => exact ⟨a, t, rfl, hlast a t rfl⟩

lemma iterate_ends {I : S → Prop} (μ : S → ℕ) (hbody : ∀ s, I s → ∃ turn, body s = some turn ∧
      ∀ s', turn = .again s' → I s' ∧ μ s' < μ s) {fuel : ℕ} (hfuel : μ s < fuel) (hs : I s) :
    ∃ a t, iterate body fuel s = some (a, t) := by
  obtain ⟨a, t, h, -⟩ := @iterate_ends_in _ _ _ _ I (fun _ _ => True) μ (fun s hs => by
    obtain ⟨turn, hturn, hnext⟩ := hbody s hs
    exact ⟨turn, hturn, hnext, fun _ _ _ => trivial⟩) fuel hfuel hs
  exact ⟨a, t, h⟩

def Visits (body : S → Option (Turn S A)) : S → S → Prop :=
  Relation.ReflTransGen fun s s' => body s = some (.again s')

lemma Visits.ends (h : Visits body s s') (h' : Ends body s' a t) : Ends body s a t := by
  induction h with
  | refl => exact h'
  | tail _ hturn ih => exact ih (h'.again hturn)

lemma Visits.of_done (h : Visits body s s') (hdone : body s = some (.done a t)) : s' = s := by
  rcases h.cases_head with heq | ⟨_, hagain, -⟩
  · exact heq.symm
  · rw [hdone] at hagain
    cases hagain

lemma last_turn {fuel : ℕ} (h : iterate body fuel s = some (a, t)) :
    ∃ s', Visits body s s' ∧ body s' = some (.done a t) := by
  induction fuel generalizing s with
  | zero => cases h
  | succ fuel ih =>
    rw [iterate] at h
    match hs : body s with
    | none =>
      rw [hs] at h
      cases h
    | some (.again s₁) =>
      rw [hs] at h
      obtain ⟨s', hvisits, hdone⟩ := ih h
      exact ⟨s', .head hs hvisits, hdone⟩
    | some (.done a₁ s₁) =>
      rw [hs] at h
      cases h
      exact ⟨s, .refl, hs⟩

section View

def Turn.map (view : S → T) : Turn S A → Turn T A
  | .again s => .again (view s)
  | .done a s => .done a (view s)

lemma iterate_map {body' : T → Option (Turn T A)} {view : S → T}
    (h : ∀ s, (body s).map (Turn.map view) = body' (view s)) (fuel : ℕ) (s : S) :
    (iterate body fuel s).map (Prod.map id view) = iterate body' fuel (view s) := by
  induction fuel generalizing s with
  | zero => rfl
  | succ fuel ih =>
    rw [iterate, iterate, ← h s]
    cases body s with
    | none => rfl
    | some turn =>
      cases turn with
      | again s' => exact ih s'
      | done a s' => rfl

end View

section Simulated

variable {A' : Type} {body' : T → Option (Turn T A')} {R : S → T → Prop} {t : T}

lemma Visits.simulated
    (hagain : ∀ s t s', R s t → body s = some (.again s') → ∃ t', Visits body' t t' ∧ R s' t') (hst : R s t)
    (h : Visits body s s') : ∃ t', Visits body' t t' ∧ R s' t' := by
  induction h with
  | refl => exact ⟨t, .refl, hst⟩
  | tail _ hturn ih =>
    obtain ⟨t₁, hvisits, hst₁⟩ := ih
    obtain ⟨t', hvisits', hst'⟩ := hagain _ _ _ hst₁ hturn
    exact ⟨t', hvisits.trans hvisits', hst'⟩

lemma Ends.simulated {Q : A → S → A' → T → Prop}
    (hagain : ∀ s t s', R s t → body s = some (.again s') → ∃ t', Visits body' t t' ∧ R s' t')
    (hdone : ∀ s t a s', R s t → body s = some (.done a s') → ∃ a' t', Ends body' t a' t' ∧ Q a s' a' t') (hst : R s t)
    (h : Ends body s a s') : ∃ a' t', Ends body' t a' t' ∧ Q a s' a' t' := by
  obtain ⟨fuel, hfuel⟩ := h
  obtain ⟨s₁, hvisits, hlast⟩ := last_turn hfuel
  obtain ⟨t₁, hvisits', hst₁⟩ := hvisits.simulated hagain hst
  obtain ⟨a', t', hends, hq⟩ := hdone s₁ t₁ a s' hst₁ hlast
  exact ⟨a', t', hvisits'.ends hends, hq⟩

end Simulated

section Simulation

variable {body' : T → Option (Turn T A)}

def TurnsAlike (R Q : S → T → Prop) : Option (Turn S A) → Option (Turn T A) → Prop
  | none, none => True
  | some (.again s), some (.again t) => R s t
  | some (.done a s), some (.done a' t) => a = a' ∧ Q s t
  | _, _ => False

def OutcomesAlike (Q : S → T → Prop) : Option (A × S) → Option (A × T) → Prop
  | none, none => True
  | some (a, s), some (a', t) => a = a' ∧ Q s t
  | _, _ => False

lemma iterate_alike {R Q : S → T → Prop} (h : ∀ s t, R s t → TurnsAlike R Q (body s) (body' t)) (fuel : ℕ) {s : S} {t : T}
    (hst : R s t) : OutcomesAlike Q (iterate body fuel s) (iterate body' fuel t) := by
  induction fuel generalizing s t with
  | zero => exact trivial
  | succ fuel ih =>
    have hturns := h s t hst
    rw [iterate, iterate]
    match hs : body s, ht : body' t with
    | none, none => exact trivial
    | some (.again s'), some (.again t') =>
      rw [hs, ht] at hturns
      exact ih hturns
    | some (.done a s'), some (.done a' t') =>
      rw [hs, ht] at hturns
      exact hturns
    | none, some _ =>
      rw [hs, ht] at hturns
      exact hturns.elim
    | some (.again _), none =>
      rw [hs, ht] at hturns
      exact hturns.elim
    | some (.done _ _), none =>
      rw [hs, ht] at hturns
      exact hturns.elim
    | some (.again _), some (.done _ _) =>
      rw [hs, ht] at hturns
      exact hturns.elim
    | some (.done _ _), some (.again _) =>
      rw [hs, ht] at hturns
      exact hturns.elim

lemma iterate_matched {R Q : S → T → Prop}
    (hagain : ∀ s t s', R s t → body s = some (.again s') → ∃ t', Visits body' t t' ∧ R s' t')
    (hdone : ∀ s t a s', R s t → body s = some (.done a s') → ∃ t', Ends body' t a t' ∧ Q s' t')
    {fuel : ℕ} {s s' : S} {t : T} {a : A} (hst : R s t) (h : iterate body fuel s = some (a, s')) :
    ∃ t', Ends body' t a t' ∧ Q s' t' := by
  have hdone' (s t a s') (hst : R s t) (hlast : body s = some (.done a s')) :
      ∃ a' t', Ends body' t a' t' ∧ a' = a ∧ Q s' t' := by
    obtain ⟨t', hends, hq⟩ := hdone s t a s' hst hlast
    exact ⟨a, t', hends, rfl, hq⟩
  obtain ⟨a', t', hends, rfl, hq⟩ := Ends.simulated (Q := fun a s' a' t' => a' = a ∧ Q s' t') hagain hdone' hst ⟨fuel, h⟩
  exact ⟨t', hends, hq⟩

end Simulation

end Nextcore.Loop
