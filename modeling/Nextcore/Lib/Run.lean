import Mathlib.Logic.Relation
import Mathlib.Order.Basic

/-! Logs of a deterministic server: a state, an event, an answer and the next
state. The rules carry a step fact to every entry of every log. -/

namespace Nextcore.Run

variable {S E A : Type}

structure Entry (S E A : Type) where
  before : S
  event : E
  answer : A
  after : S
  deriving DecidableEq, Repr

section

variable (step : S → E → A × S)

def entry (s : S) (e : E) : Entry S E A := ⟨s, e, (step s e).1, (step s e).2⟩

def log : S → List E → List (Entry S E A)
  | _, [] => []
  | s, e :: es => entry step s e :: log (step s e).2 es

def final : S → List E → S
  | s, [] => s
  | s, e :: es => final (step s e).2 es

end

variable {step : S → E → A × S}

lemma final_invariant {I : S → Prop} {C : E → Prop} (hstep : ∀ s e, I s → C e → I (step s e).2)
    (es : List E) (hes : ∀ e ∈ es, C e) {s : S} (hs : I s) : I (final step s es) := by
  induction es generalizing s with
  | nil => exact hs
  | cons e es ih =>
    exact ih (fun e' he' => hes e' (List.mem_cons_of_mem _ he'))
      (hstep s e hs (hes e List.mem_cons_self))

lemma final_of_log {I : S → Prop} {C : S → E → Prop} (hstep : ∀ s e, I s → C s e → I (step s e).2) (es : List E) {s : S}
    (hC : ∀ x ∈ log step s es, C x.before x.event) (hs : I s) : I (final step s es) := by
  induction es generalizing s with
  | nil => exact hs
  | cons e es ih =>
    have hhead : C s e := hC _ List.mem_cons_self
    exact ih (fun x hx => hC x (List.mem_cons_of_mem _ hx)) (hstep s e hs hhead)

lemma mem_log {I : S → Prop} (hstep : ∀ s e, I s → I (step s e).2) (es : List E) {s : S} (hs : I s)
    {x : Entry S E A} (hx : x ∈ log step s es) :
    I x.before ∧ x = entry step x.before x.event := by
  induction es generalizing s with
  | nil => simp [log] at hx
  | cons e es ih =>
    rcases List.mem_cons.mp hx with rfl | hx
    · exact ⟨hs, rfl⟩
    · exact ih (hstep s e hs) hx

lemma log_suffix {I : S → Prop} (hstep : ∀ s e, I s → I (step s e).2) (es : List E) {s : S}
    (hs : I s) {pre post : List (Entry S E A)} (h : log step s es = pre ++ post) :
    ∃ es' s', I s' ∧ post = log step s' es' := by
  induction pre generalizing es s with
  | nil => exact ⟨es, s, hs, h.symm⟩
  | cons x pre ih =>
    cases es with
    | nil => simp [log] at h
    | cons e es => exact ih es (hstep s e hs) (List.cons.inj h).2

lemma log_keeps {I P : S → Prop} (hstep : ∀ s e, I s → I (step s e).2)
    {Q : Entry S E A → Prop} (hkeep : ∀ s e, I s → P s → Q (entry step s e) → P (step s e).2)
    {mid : List (Entry S E A)} {x : Entry S E A} {post : List (Entry S E A)} (es : List E) {s : S}
    (hs : I s) (hp : P s) (h : log step s es = mid ++ x :: post) (hmid : ∀ y ∈ mid, Q y) :
    P x.before := by
  induction mid generalizing es s with
  | nil =>
    cases es with
    | nil => simp [log] at h
    | cons e es => rw [← (List.cons.inj h).1]; exact hp
  | cons y mid ih =>
    cases es with
    | nil => simp [log] at h
    | cons e es =>
      obtain ⟨h1, h2⟩ := List.cons.inj h
      have hq : Q (entry step s e) := h1 ▸ hmid y List.mem_cons_self
      exact ih es (hstep s e hs) (hkeep s e hs hp hq) h2
        (fun z hz => hmid z (List.mem_cons_of_mem _ hz))

lemma log_append (s : S) (es es' : List E) :
    log step s (es ++ es') = log step s es ++ log step (final step s es) es' := by
  induction es generalizing s with
  | nil => rfl
  | cons e es ih => simp only [List.cons_append, log, final, ih]

lemma final_append (s : S) (es es' : List E) : final step s (es ++ es') = final step (final step s es) es' := by
  induction es generalizing s with
  | nil => rfl
  | cons e es ih => simp only [List.cons_append, final, ih]

lemma exists_of_mem_log {s : S} {es : List E} {x : Entry S E A} (hx : x ∈ log step s es) :
    ∃ done e rest, es = done ++ e :: rest ∧ x = entry step (final step s done) e := by
  induction es generalizing s with
  | nil => simp [log] at hx
  | cons e es ih =>
    rcases List.mem_cons.mp hx with rfl | hx
    · exact ⟨[], e, es, rfl, rfl⟩
    · obtain ⟨done, e', rest, rfl, rfl⟩ := ih hx
      exact ⟨e :: done, e', rest, rfl, rfl⟩

lemma log_related {R : S → S → Prop} {C : S → Prop}
    (hstep : ∀ s t e, R s t → C s → (step s e).1 = (step t e).1 ∧ R (step s e).2 (step t e).2) (es : List E) {s t : S}
    (hR : R s t) (hC : ∀ x ∈ log step s es, C x.before) :
    (log step s es).map Entry.answer = (log step t es).map Entry.answer ∧ R (final step s es) (final step t es) := by
  induction es generalizing s t with
  | nil => exact ⟨rfl, hR⟩
  | cons e es ih =>
    obtain ⟨hans, hnext⟩ := hstep s t e hR (hC _ List.mem_cons_self)
    obtain ⟨hmap, hfinal⟩ := ih hnext fun x hx => hC x (List.mem_cons_of_mem _ hx)
    refine ⟨?_, hfinal⟩
    simp only [log, entry, List.map_cons]
    rw [hans, hmap]

lemma forall_after_iff {I P : S → Prop} {C : E → Prop} {D : S → E → Prop} (hinv : ∀ s e, I s → C e → I (step s e).2)
    (hkeep : ∀ s e, I s → C e → P s → (P (step s e).2 ↔ ¬D s e)) (es : List E) (hes : ∀ e ∈ es, C e) {s : S} (hs : I s)
    (hp : P s) : (∀ x ∈ log step s es, P x.after) ↔ ∀ x ∈ log step s es, ¬D x.before x.event := by
  induction es generalizing s with
  | nil => simp [log]
  | cons e es ih =>
    have he : C e := hes e List.mem_cons_self
    have hstep := hkeep s e hs he hp
    have hrest := fun hp' => ih (fun e' he' => hes e' (List.mem_cons_of_mem _ he')) (hinv s e hs he) hp'
    simp only [log, List.forall_mem_cons]
    constructor
    · rintro ⟨hhead, htail⟩
      exact ⟨hstep.mp hhead, (hrest hhead).mp htail⟩
    · rintro ⟨hhead, htail⟩
      have hp' := hstep.mpr hhead
      exact ⟨hp', (hrest hp').mpr htail⟩

section

variable {σ : Type} {P : σ → Prop}

lemma forall_mem_some {b : σ} (h : P b) : ∀ a ∈ some b, P a := fun _ ha => Option.some.inj ha ▸ h

lemma forall_mem_none : ∀ a ∈ (none : Option σ), P a := fun _ ha => by cases ha

lemma forall_mem_ite {c : Prop} [Decidable c] {x y : Option σ} (hx : c → ∀ a ∈ x, P a) (hy : ¬c → ∀ a ∈ y, P a) :
    ∀ a ∈ if c then x else y, P a := by
  split_ifs with hc
  · exact hx hc
  · exact hy hc

end

end Nextcore.Run
