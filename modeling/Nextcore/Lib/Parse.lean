import Mathlib.Data.List.GetD
import Mathlib.Tactic

/-! Parsers over a list with a cursor. A run is determined when it depends on nothing past the place where it ends; a
parser that looks ahead has this property together with a parser that reads on. -/

namespace Nextcore.Parse

variable {β ε α γ : Type}

structure Input (β : Type) where
  data : List β
  origin : ℕ

namespace Input

def get (s : Input β) (k : ℕ) : Option β := s.data[s.origin + k]?

def remaining (s : Input β) : ℕ := s.data.length - s.origin

lemma get_eq_none {s : Input β} {k : ℕ} : s.get k = none ↔ s.remaining ≤ k := by
  rw [get, List.getElem?_eq_none_iff, remaining]
  omega

lemma lt_of_get {s : Input β} {k : ℕ} {b : β} (h : s.get k = some b) : k < s.remaining := by
  by_contra hk
  rw [get_eq_none.mpr (Nat.le_of_not_lt hk)] at h
  cases h

end Input

def Parser (β ε α : Type) := Input β → ℕ → Except ε (α × ℕ)

def andThen (p : Parser β ε α) (q : α → Parser β ε γ) : Parser β ε γ := fun s k =>
  match p s k with
  | .error e => .error e
  | .ok (a, k) => q a s k

instance monadParser : Monad (Parser β ε) where
  pure a := fun _ k => .ok (a, k)
  bind := andThen

def fail (e : ε) : Parser β ε α := fun _ _ => .error e

def consumed : Parser β ε ℕ := fun _ k => .ok (k, k)

/-- The item at the cursor, which stays; `eof` is the error at a place past the end. -/
def look (eof : ℕ → ε) : Parser β ε β := fun s k =>
  match s.get k with
  | none => .error (eof (s.origin + k))
  | some b => .ok (b, k)

def item (eof : ℕ → ε) : Parser β ε β := fun s k =>
  match s.get k with
  | none => .error (eof (s.origin + k))
  | some b => .ok (b, k + 1)

def items (eof : ℕ → ε) (n : ℕ) : Parser β ε (List β) := fun s k =>
  if s.data.length < s.origin + k + n then .error (eof (s.origin + k))
  else .ok ((s.data.drop (s.origin + k)).take n, k + n)

def itemIfAny : Parser β ε (Option β) := fun s k =>
  match s.get k with
  | none => .ok (none, k)
  | some b => .ok (some b, k + 1)

section Results

variable {s : Input β} {k k' : ℕ}

@[simp] lemma pure_ok {a a' : α} : (pure a : Parser β ε α) s k = .ok (a', k') ↔ a = a' ∧ k = k' := by
  change (Except.ok (a, k) : Except ε (α × ℕ)) = .ok (a', k') ↔ _
  rw [Except.ok.injEq, Prod.mk.injEq]

lemma bind_ok {p : Parser β ε α} {q : α → Parser β ε γ} {c : γ} :
    (p >>= q) s k = .ok (c, k') ↔ ∃ a m, p s k = .ok (a, m) ∧ q a s m = .ok (c, k') := by
  change andThen p q s k = .ok (c, k') ↔ _
  unfold andThen
  cases p s k with
  | error e => simp
  | ok r =>
    constructor
    · intro h
      exact ⟨r.1, r.2, rfl, h⟩
    · rintro ⟨a, m, hr, h⟩
      cases hr
      exact h

lemma bind_run {p : Parser β ε α} {q : α → Parser β ε γ} {a : α} (h : p s k = .ok (a, k')) :
    (p >>= q) s k = q a s k' := by
  change andThen p q s k = _
  rw [andThen, h]

@[simp] lemma consumed_ok {n : ℕ} : (consumed : Parser β ε ℕ) s k = .ok (n, k') ↔ k = n ∧ k = k' := by
  rw [consumed, Except.ok.injEq, Prod.mk.injEq]

@[simp] lemma look_ok {eof : ℕ → ε} {b : β} : look eof s k = .ok (b, k') ↔ s.get k = some b ∧ k = k' := by
  rw [look]
  cases s.get k <;> simp

@[simp] lemma item_ok {eof : ℕ → ε} {b : β} : item eof s k = .ok (b, k') ↔ s.get k = some b ∧ k + 1 = k' := by
  rw [item]
  cases s.get k <;> simp

@[simp] lemma items_ok {eof : ℕ → ε} {n : ℕ} {bs : List β} : items eof n s k = .ok (bs, k') ↔
    s.origin + k + n ≤ s.data.length ∧ (s.data.drop (s.origin + k)).take n = bs ∧ k + n = k' := by
  rw [items]
  by_cases h : s.data.length < s.origin + k + n
  · simp [h, Nat.not_le_of_lt h]
  · simp [h, Nat.le_of_not_lt h]

end Results

def Agree (s s' : Input β) (n : ℕ) : Prop := ∀ i < n, s.get i = s'.get i

lemma Agree.mono {s s' : Input β} {m n : ℕ} (h : Agree s s' n) (hmn : m ≤ n) : Agree s s' m :=
  fun i hi => h i (lt_of_lt_of_le hi hmn)

lemma agree_iff_take {s s' : Input β} {n : ℕ} :
    Agree s s' n ↔ (s'.data.drop s'.origin).take n = (s.data.drop s.origin).take n := by
  constructor
  · intro h
    apply List.ext_getElem?
    intro i
    rw [List.getElem?_take, List.getElem?_take]
    by_cases hi : i < n
    · rw [if_pos hi, if_pos hi, List.getElem?_drop, List.getElem?_drop]
      exact (h i hi).symm
    · rw [if_neg hi, if_neg hi]
  · intro h i hi
    have hitem := congrArg (·[i]?) h
    simp only [List.getElem?_take, hi, if_true, List.getElem?_drop] at hitem
    exact hitem.symm

structure Advances (p : Parser β ε α) : Prop where
  mono : ∀ {s k a k'}, p s k = .ok (a, k') → k ≤ k'
  inside : ∀ {s k a k'}, p s k = .ok (a, k') → k ≤ s.remaining → k' ≤ s.remaining

structure Looks (d : ℕ) (p : Parser β ε α) : Prop extends Advances p where
  same : ∀ {s s' k a k'}, p s k = .ok (a, k') → Agree s s' (k' + d) → p s' k = .ok (a, k')

structure Determined (p : Parser β ε α) (s : Input β) (k : ℕ) : Prop where
  same : ∀ {a k'}, p s k = .ok (a, k') → ∀ {s'}, Agree s s' k' → p s' k = .ok (a, k')

structure Takes (n : ℕ) (p : Parser β ε α) : Prop where
  exactly : ∀ {s k a k'}, p s k = .ok (a, k') → k' = k + n
  succeeds : ∀ {s k}, k + n ≤ s.remaining → ∃ a, p s k = .ok (a, k + n)

section Rules

variable {s : Input β} {k d : ℕ} {eof : ℕ → ε}

lemma Looks.determined {p : Parser β ε α} (h : Looks 0 p) : Determined p s k := ⟨fun hrun _ => h.same hrun⟩

lemma looks_pure (a : α) : Looks 0 (pure a : Parser β ε α) := by
  refine ⟨⟨fun h => ?_, fun h hk => ?_⟩, fun h _ => ?_⟩
  · exact (pure_ok.mp h).2.le
  · exact (pure_ok.mp h).2 ▸ hk
  · exact pure_ok.mpr (pure_ok.mp h)

lemma looks_fail (e : ε) : Looks 0 (fail e : Parser β ε α) := by
  refine ⟨⟨fun h => ?_, fun h _ => ?_⟩, fun h _ => ?_⟩ <;> cases h

lemma looks_consumed : Looks 0 (consumed : Parser β ε ℕ) := by
  refine ⟨⟨fun h => ?_, fun h hk => ?_⟩, fun h _ => ?_⟩
  · exact (consumed_ok.mp h).2.le
  · exact (consumed_ok.mp h).2 ▸ hk
  · exact consumed_ok.mpr (consumed_ok.mp h)

lemma looks_look : Looks 1 (look eof : Parser β ε β) := by
  refine ⟨⟨fun h => ?_, fun h hk => ?_⟩, fun h hagree => ?_⟩
  · exact (look_ok.mp h).2.le
  · exact (look_ok.mp h).2 ▸ hk
  · obtain ⟨hget, rfl⟩ := look_ok.mp h
    exact look_ok.mpr ⟨(hagree _ (Nat.lt_succ_self _)).symm.trans hget, rfl⟩

lemma looks_item : Looks 0 (item eof : Parser β ε β) := by
  refine ⟨⟨fun h => ?_, fun h _ => ?_⟩, fun h hagree => ?_⟩ <;> obtain ⟨hget, rfl⟩ := item_ok.mp h
  · omega
  · exact Input.lt_of_get hget
  · exact item_ok.mpr ⟨(hagree _ (Nat.lt_succ_self _)).symm.trans hget, rfl⟩

lemma looks_items {n : ℕ} (hn : 0 < n) : Looks 0 (items eof n : Parser β ε (List β)) := by
  refine ⟨⟨fun h => ?_, fun {s} {k} _ _ h _ => ?_⟩, fun {s} {s'} {k} _ _ h hagree => ?_⟩ <;>
    obtain ⟨hlen, rfl, rfl⟩ := items_ok.mp h
  · omega
  · rw [Input.remaining]
    omega
  · have hitems : ∀ i < n, s'.data[s'.origin + k + i]? = s.data[s.origin + k + i]? := by
      intro i hi
      have hget := hagree (k + i) (by omega)
      rw [Input.get, Input.get, ← Nat.add_assoc, ← Nat.add_assoc] at hget
      exact hget.symm
    have htake : (s'.data.drop (s'.origin + k)).take n = (s.data.drop (s.origin + k)).take n := by
      apply List.ext_getElem?
      intro i
      rw [List.getElem?_take, List.getElem?_take]
      by_cases hi : i < n
      · rw [if_pos hi, if_pos hi, List.getElem?_drop, List.getElem?_drop, hitems i hi]
      · rw [if_neg hi, if_neg hi]
    have hlast := hagree (k + (n - 1)) (by omega)
    have hsome : s.get (k + (n - 1)) ≠ none := by
      rw [ne_eq, Input.get_eq_none, Input.remaining]
      omega
    rw [hlast, ne_eq, Input.get_eq_none, Input.remaining] at hsome
    exact items_ok.mpr ⟨by omega, htake, rfl⟩

lemma advances_itemIfAny : Advances (itemIfAny : Parser β ε (Option β)) := by
  constructor
  · intro s k a k' h
    rw [itemIfAny] at h
    cases hget : s.get k with
    | none =>
      rw [hget] at h
      cases h
      exact le_refl k
    | some b =>
      rw [hget] at h
      cases h
      exact Nat.le_succ k
  · intro s k a k' h hk
    rw [itemIfAny] at h
    cases hget : s.get k with
    | none =>
      rw [hget] at h
      cases h
      exact hk
    | some b =>
      rw [hget] at h
      cases h
      exact Input.lt_of_get hget

lemma determined_itemIfAny (h : s.get k ≠ none) : Determined (itemIfAny : Parser β ε (Option β)) s k := by
  constructor
  intro a k' hrun s' hagree
  rw [itemIfAny] at hrun ⊢
  cases hget : s.get k with
  | none => exact absurd hget h
  | some b =>
    rw [hget] at hrun
    cases hrun
    rw [← hagree k (Nat.lt_succ_self k), hget]

lemma Advances.ite {c : Prop} [Decidable c] {p q : Parser β ε α} (hp : Advances p) (hq : Advances q) :
    Advances (if c then p else q) := by
  by_cases h : c
  · rwa [if_pos h]
  · rwa [if_neg h]

lemma Looks.ite {c : Prop} [Decidable c] {p q : Parser β ε α} (hp : Looks d p) (hq : Looks d q) :
    Looks d (if c then p else q) := by
  by_cases h : c
  · rwa [if_pos h]
  · rwa [if_neg h]

lemma Advances.bind {p : Parser β ε α} {q : α → Parser β ε γ} (hp : Advances p) (hq : ∀ a, Advances (q a)) :
    Advances (p >>= q) := by
  constructor
  · intro s k c k' h
    obtain ⟨a, m, hfirst, hsecond⟩ := bind_ok.mp h
    exact (hp.mono hfirst).trans ((hq a).mono hsecond)
  · intro s k c k' h hk
    obtain ⟨a, m, hfirst, hsecond⟩ := bind_ok.mp h
    exact (hq a).inside hsecond (hp.inside hfirst hk)

lemma Looks.bind_determined {p : Parser β ε α} {q : α → Parser β ε γ} (hp : Looks d p)
    (hq : ∀ {a m}, p s k = .ok (a, m) → Determined (q a) s m)
    (hfar : ∀ {a m c k'}, q a s m = .ok (c, k') → m + d ≤ k') : Determined (p >>= q) s k := by
  constructor
  intro c k' h s' hagree
  obtain ⟨a, m, hfirst, hsecond⟩ := bind_ok.mp h
  have hsame := hp.same hfirst (hagree.mono (hfar hsecond))
  exact bind_ok.mpr ⟨a, m, hsame, (hq hfirst).same hsecond hagree⟩

lemma Determined.ite {c : Prop} [Decidable c] {p q : Parser β ε α} (hp : c → Determined p s k)
    (hq : ¬c → Determined q s k) : Determined (if c then p else q) s k := by
  by_cases h : c
  · rw [if_pos h]
    exact hp h
  · rw [if_neg h]
    exact hq h

lemma Determined.bind {p : Parser β ε α} {q : α → Parser β ε γ} (hp : Determined p s k)
    (hq : ∀ a, Looks 0 (q a)) : Determined (p >>= q) s k := by
  constructor
  intro c k' h s' hagree
  obtain ⟨a, m, hfirst, hsecond⟩ := bind_ok.mp h
  exact bind_ok.mpr ⟨a, m, hp.same hfirst (hagree.mono ((hq a).mono hsecond)), (hq a).same hsecond hagree⟩

lemma Looks.bind {p : Parser β ε α} {q : α → Parser β ε γ} (hp : Looks 0 p) (hq : ∀ a, Looks 0 (q a)) :
    Looks 0 (p >>= q) := by
  refine ⟨hp.toAdvances.bind fun a => (hq a).toAdvances, fun h hagree => ?_⟩
  exact (hp.determined.bind hq).same h hagree

lemma takes_pure (a : α) : Takes 0 (pure a : Parser β ε α) :=
  ⟨fun h => (pure_ok.mp h).2.symm, fun _ => ⟨a, rfl⟩⟩

lemma takes_item : Takes 1 (item eof : Parser β ε β) := by
  refine ⟨fun h => (item_ok.mp h).2.symm, fun {s} {k} h => ?_⟩
  cases hget : s.get k with
  | none =>
    have := Input.get_eq_none.mp hget
    omega
  | some b => exact ⟨b, item_ok.mpr ⟨hget, rfl⟩⟩

lemma takes_items {n : ℕ} (hn : 0 < n) : Takes n (items eof n : Parser β ε (List β)) := by
  refine ⟨fun h => (items_ok.mp h).2.2.symm, fun {s} {k} h => ?_⟩
  rw [Input.remaining] at h
  exact ⟨_, items_ok.mpr ⟨by omega, rfl, rfl⟩⟩

lemma Takes.bind {m n : ℕ} {p : Parser β ε α} {q : α → Parser β ε γ} (hp : Takes m p) (hq : ∀ a, Takes n (q a)) :
    Takes (m + n) (p >>= q) := by
  constructor
  · intro s k c k' h
    obtain ⟨a, j, hfirst, hsecond⟩ := bind_ok.mp h
    rw [(hq a).exactly hsecond, hp.exactly hfirst, Nat.add_assoc]
  · intro s k h
    obtain ⟨a, hfirst⟩ := hp.succeeds (show k + m ≤ s.remaining by omega)
    obtain ⟨c, hsecond⟩ := (hq a).succeeds (show k + m + n ≤ s.remaining by omega)
    exact ⟨c, bind_ok.mpr ⟨a, k + m, hfirst, by rw [← Nat.add_assoc]; exact hsecond⟩⟩

end Rules

end Nextcore.Parse
