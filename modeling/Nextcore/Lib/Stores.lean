import Nextcore.Lib.Emit

/-! The stores that a program makes when it runs against a buffer: none is made at or past the capacity, and the buffer
is what they leave of it. -/

namespace Nextcore.Emit

variable {α : Type}

def wordStores (p : ℕ) (word : U32) : List (ℕ × Byte) :=
  [(p, word.truncate 8), (p + 1, (word >>> 8).truncate 8), (p + 2, (word >>> 16).truncate 8),
    (p + 3, (word >>> 24).truncate 8)]

def stores (capacity : ℕ) : Emit α → (used : ℕ) → List (ℕ × Byte)
  | .ret _, _ => []
  | .byte x next, n => (if n < capacity then [(n, x)] else []) ++ next.stores capacity (n + 1)
  | .used next, n => (next n).stores capacity n
  | .patch p word next, n => (if p + 4 ≤ capacity then wordStores p word else []) ++ next.stores capacity n

def replay (memory : List Byte) (stores : List (ℕ × Byte)) : List Byte :=
  stores.foldl (fun memory store => memory.set store.1 store.2) memory

lemma replay_append (memory : List Byte) (first second : List (ℕ × Byte)) :
    replay memory (first ++ second) = replay (replay memory first) second := List.foldl_append

lemma stores_lt {capacity : ℕ} {m : Emit α} {used : ℕ} : ∀ store ∈ m.stores capacity used, store.1 < capacity := by
  induction m generalizing used with
  | ret a => exact fun store h => absurd h List.not_mem_nil
  | byte x next ih =>
    intro store h
    rcases List.mem_append.mp h with h | h
    · split at h
      next hlt =>
        rw [List.mem_singleton] at h
        rw [h]
        exact hlt
      · exact absurd h List.not_mem_nil
    · exact ih store h
  | used next ih => exact ih used
  | patch p word next ih =>
    intro store h
    rcases List.mem_append.mp h with h | h
    · split at h
      next hle =>
        simp only [wordStores, List.mem_cons, List.not_mem_nil, or_false] at h
        rcases h with rfl | rfl | rfl | rfl <;> dsimp only <;> omega
      · exact absurd h List.not_mem_nil
    · exact ih store h

lemma bytes_write (m : Emit α) (c : Buffer) : (m.write c).2.bytes = replay c.bytes (m.stores c.capacity c.used) := by
  induction m generalizing c with
  | ret a => rfl
  | byte x next ih =>
    rw [write, stores, ih, c.capacity_push, replay_append]
    unfold Buffer.push
    split <;> rfl
  | used next ih => exact ih c.used c
  | patch p word next ih =>
    rw [write, stores, ih, c.capacity_patch, replay_append]
    unfold Buffer.patch
    split <;> rfl

lemma replay_behind {memory : List Byte} {stores : List (ℕ × Byte)} (h : ∀ store ∈ stores, store.1 < memory.length)
    (rest : List Byte) : replay (memory ++ rest) stores = replay memory stores ++ rest := by
  induction stores generalizing memory with
  | nil => rfl
  | cons store stores ih =>
    have hfirst := h store List.mem_cons_self
    change replay ((memory ++ rest).set store.1 store.2) stores = replay (memory.set store.1 store.2) stores ++ rest
    rw [List.set_append_left _ _ hfirst]
    refine ih fun next hnext => ?_
    rw [List.length_set]
    exact h next (List.mem_cons_of_mem store hnext)

end Nextcore.Emit
