import Nextcore.Lib.Checked

/-! Operations on a state that may end with an error. An error keeps the state it is raised in; a defect of the
arithmetic that an operation computes with keeps nothing. -/

namespace Nextcore.Atomic

variable {σ ε α β : Type}

def Action (σ ε α : Type) := σ → Checked (Except ε α × σ)

def andThen (p : Action σ ε α) (q : α → Action σ ε β) : Action σ ε β := fun s =>
  match p s with
  | .error d => .error d
  | .ok (.error e, s) => .ok (.error e, s)
  | .ok (.ok a, s) => q a s

instance monadAction : Monad (Action σ ε) where
  pure a := fun s => .ok (.ok a, s)
  bind := andThen

def state : Action σ ε σ := fun s => .ok (.ok s, s)

def update (f : σ → σ) : Action σ ε Unit := fun s => .ok (.ok (), f s)

def refuse (e : ε) : Action σ ε α := fun s => .ok (.error e, s)

def checked (c : Checked α) : Action σ ε α := fun s =>
  match c with
  | .error d => .error d
  | .ok a => .ok (.ok a, s)

section Runs

variable {p : Action σ ε α} {q : α → Action σ ε β} {s s' : σ}

lemma bind_run {a : α} (h : p s = .ok (.ok a, s')) : (p >>= q) s = q a s' := by
  change andThen p q s = _
  rw [andThen, h]

lemma bind_refused {e : ε} (h : p s = .ok (.error e, s')) : (p >>= q) s = .ok (.error e, s') := by
  change andThen p q s = _
  rw [andThen, h]

lemma checked_run {c : Checked α} {a : α} (h : c = .ok a) (s : σ) : (checked c : Action σ ε α) s = .ok (.ok a, s) := by
  rw [h]
  rfl

end Runs

def AtomicAt (p : Action σ ε α) (s : σ) : Prop := ∃ r s', p s = .ok (r, s') ∧ ∀ e, r = .error e → s' = s

def AtomicAlways (p : Action σ ε α) : Prop := ∀ s, AtomicAt p s

def Reads (p : Action σ ε α) : Prop := ∀ s, ∃ r, p s = .ok (r, s)

def Completes (p : Action σ ε α) : Prop := ∀ s, ∃ a s', p s = .ok (.ok a, s')

section Rules

variable {p p' : Action σ ε α} {q : α → Action σ ε β} {s : σ}

lemma reads_pure (a : α) : Reads (pure a : Action σ ε α) := fun _ => ⟨.ok a, rfl⟩

lemma reads_state : Reads (state : Action σ ε σ) := fun s => ⟨.ok s, rfl⟩

lemma reads_refuse (e : ε) : Reads (refuse e : Action σ ε α) := fun _ => ⟨.error e, rfl⟩

lemma reads_checked {c : Checked α} (h : ∃ a, c = .ok a) : Reads (checked c : Action σ ε α) := by
  intro s
  obtain ⟨a, ha⟩ := h
  exact ⟨.ok a, checked_run ha s⟩

lemma completes_update (f : σ → σ) : Completes (update f : Action σ ε Unit) := fun s => ⟨(), f s, rfl⟩

lemma Reads.atomic (h : Reads p) : AtomicAlways p := by
  intro s
  obtain ⟨r, hr⟩ := h s
  exact ⟨r, s, hr, fun _ _ => rfl⟩

lemma Completes.atomic (h : Completes p) : AtomicAlways p := by
  intro s
  obtain ⟨a, s', ha⟩ := h s
  refine ⟨.ok a, s', ha, fun e he => ?_⟩
  cases he

lemma Reads.ite {c : Prop} [Decidable c] (h : Reads p) (h' : Reads p') : Reads (if c then p else p') := by
  by_cases hc : c
  · rwa [if_pos hc]
  · rwa [if_neg hc]

lemma Reads.bind_atomic (hp : Reads p) (hq : ∀ a, p s = .ok (.ok a, s) → AtomicAt (q a) s) :
    AtomicAt (p >>= q) s := by
  obtain ⟨r, hr⟩ := hp s
  cases r with
  | error e => exact ⟨.error e, s, bind_refused hr, fun _ _ => rfl⟩
  | ok a =>
    rw [AtomicAt, bind_run hr]
    exact hq a hr

lemma Reads.bind (hp : Reads p) (hq : ∀ a, Reads (q a)) : Reads (p >>= q) := by
  intro s
  obtain ⟨r, hr⟩ := hp s
  cases r with
  | error e => exact ⟨.error e, bind_refused hr⟩
  | ok a =>
    rw [bind_run hr]
    exact hq a s

lemma AtomicAlways.bind_completes (hp : AtomicAlways p) (hq : ∀ a, Completes (q a)) : AtomicAlways (p >>= q) := by
  intro s
  obtain ⟨r, s', hr, hkeep⟩ := hp s
  cases r with
  | error e => exact ⟨.error e, s', bind_refused hr, fun _ _ => hkeep e rfl⟩
  | ok a =>
    obtain ⟨c, t, hc⟩ := hq a s'
    refine ⟨.ok c, t, (bind_run hr).trans hc, fun e he => ?_⟩
    cases he

end Rules

end Nextcore.Atomic
