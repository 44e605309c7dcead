import Nextcore.Lib.Bytes

/-! Byte memory reached through windows of a known length. An access past the end of
its window is recorded instead of performed. -/

namespace Nextcore

structure Span where
  ptr : ℕ
  len : ℕ
  deriving DecidableEq, Repr

structure Window (least : ℕ) extends Span where
  fits : least ≤ len

structure HostMemory where
  bytes : ℕ → Byte
  fault : Bool

namespace Span

def Holds (s : Span) (address : ℕ) : Prop := s.ptr ≤ address ∧ address < s.ptr + s.len

def Apart (s t : Span) : Prop := s.ptr + s.len ≤ t.ptr ∨ t.ptr + t.len ≤ s.ptr

lemma Apart.symm {s t : Span} (h : s.Apart t) : t.Apart s := Or.symm h

end Span

namespace HostMemory

def store (m : HostMemory) (s : Span) (off : ℕ) (bs : List Byte) : HostMemory :=
  if off + bs.length ≤ s.len then
    { m with bytes := fun a =>
        if s.ptr + off ≤ a ∧ a < s.ptr + off + bs.length then bs.getD (a - (s.ptr + off)) 0#8 else m.bytes a }
  else { m with fault := true }

def load (m : HostMemory) (s : Span) (off n : ℕ) : List Byte × HostMemory :=
  if off + n ≤ s.len then ((List.range n).map fun k => m.bytes (s.ptr + off + k), m)
  else (List.replicate n 0#8, { m with fault := true })

def view (m : HostMemory) (s : Span) (off n : ℕ) : List Byte := (List.range n).map fun k => m.bytes (s.ptr + off + k)

@[simp] lemma length_view (m : HostMemory) (s : Span) (off n : ℕ) : (m.view s off n).length = n := by simp [view]

lemma view_append (m : HostMemory) (s : Span) (off : ℕ) {i k n : ℕ} (h : i + k = n) :
    m.view s off n = m.view s off i ++ m.view s (off + i) k := by
  rw [view, view, view, ← h, List.range_add, List.map_append, List.map_map]
  refine congrArg _ (List.map_congr_left ?_)
  intro j _
  simp only [Function.comp_apply, Nat.add_assoc]

lemma load_eq {m : HostMemory} {s : Span} {off n : ℕ} (h : off + n ≤ s.len) : m.load s off n = (m.view s off n, m) :=
  if_pos h

lemma fault_store {m : HostMemory} {s : Span} {off : ℕ} {bs : List Byte} (h : off + bs.length ≤ s.len) :
    (m.store s off bs).fault = m.fault := by rw [store, if_pos h]

lemma view_store_apart (m : HostMemory) {s t : Span} (h : s.Apart t) (off : ℕ) (bs : List Byte) {i n : ℕ}
    (hin : i + n ≤ t.len) : (m.store s off bs).view t i n = m.view t i n := by
  rw [store]
  split
  · rename_i hfit
    rw [view, view]
    apply List.map_congr_left
    intro k hk
    rw [List.mem_range] at hk
    have hout : ¬(s.ptr + off ≤ t.ptr + i + k ∧ t.ptr + i + k < s.ptr + off + bs.length) := by
      rcases h with h | h <;> omega
    simp only [if_neg hout]
  · rfl

lemma view_store (m : HostMemory) {s : Span} {off : ℕ} {bs : List Byte} (hfit : off + bs.length ≤ s.len) {i n : ℕ}
    (hi : i ≤ off) (hn : off + bs.length ≤ i + n) :
    (m.store s off bs).view s i n = Bytes.blit (m.view s i n) (off - i) bs := by
  rw [store, if_pos hfit]
  apply List.ext_getElem
  · rw [Bytes.length_blit (by rw [length_view]; omega), length_view, length_view]
  · intro k hk _
    rw [length_view] at hk
    simp only [view, List.getElem_map, List.getElem_range, Bytes.blit]
    by_cases h1 : k < off - i
    · rw [if_neg (by omega), List.getElem_append_left (by simp; omega), List.getElem_append_left (by simp; omega)]
      simp
    · by_cases h2 : k < off - i + bs.length
      · rw [if_pos (by omega), List.getElem_append_left (by simp; omega), List.getElem_append_right (by simp; omega)]
        simp only [List.length_take, List.length_map, List.length_range]
        rw [← List.getElem_eq_getD (h := by omega)]
        congr 1
        omega
      · rw [if_neg (by omega), List.getElem_append_right (by simp; omega)]
        simp only [List.getElem_drop, List.length_append, List.length_take, List.length_map, List.length_range,
          List.getElem_map, List.getElem_range]
        congr 1
        omega

lemma view_store_self (m : HostMemory) {s : Span} {off : ℕ} {bs : List Byte} {n : ℕ} (hn : bs.length = n)
    (hfit : off + n ≤ s.len) : (m.store s off bs).view s off n = bs := by
  subst hn
  rw [view_store m hfit le_rfl le_rfl, Bytes.blit, Nat.sub_self, List.take_zero, List.nil_append, Nat.zero_add,
    List.drop_of_length_le (by rw [length_view]), List.append_nil]

structure Within (ss : List Span) (m m' : HostMemory) : Prop where
  fault : m'.fault = m.fault
  view : ∀ t : Span, (∀ s ∈ ss, s.Apart t) → ∀ {off n : ℕ}, off + n ≤ t.len → m'.view t off n = m.view t off n

lemma Within.refl (ss : List Span) (m : HostMemory) : Within ss m m := ⟨rfl, fun _ _ _ _ _ => rfl⟩

lemma Within.trans {ss : List Span} {m m' m'' : HostMemory} (h : Within ss m m') (h' : Within ss m' m'') :
    Within ss m m'' := by
  refine ⟨h'.fault.trans h.fault, ?_⟩
  intro t ht off n hn
  exact (h'.view t ht hn).trans (h.view t ht hn)

lemma Within.mono {ss ss' : List Span} {m m' : HostMemory} (h : Within ss m m') (hss : ss ⊆ ss') : Within ss' m m' :=
  ⟨h.fault, fun t ht _ _ hn => h.view t (fun s hs => ht s (hss hs)) hn⟩

lemma within_store (m : HostMemory) {s : Span} {off : ℕ} {bs : List Byte} (h : off + bs.length ≤ s.len) :
    Within [s] m (m.store s off bs) :=
  ⟨fault_store h, fun _ ht _ _ hn => view_store_apart m (ht s List.mem_cons_self) off bs hn⟩

lemma within_foldl_store (fields : List (ℕ × List Byte)) {s : Span} (h : ∀ f ∈ fields, f.1 + f.2.length ≤ s.len)
    (m : HostMemory) : Within [s] m (fields.foldl (fun m f => m.store s f.1 f.2) m) := by
  induction fields generalizing m with
  | nil => exact .refl _ m
  | cons f fields ih =>
    have hhead := within_store m (h f List.mem_cons_self)
    exact hhead.trans (ih (fun g hg => h g (List.mem_cons_of_mem _ hg)) _)

lemma view_foldl_store (fields : List (ℕ × List Byte)) {s : Span} {n : ℕ} (hn : n ≤ s.len)
    (h : ∀ f ∈ fields, f.1 + f.2.length ≤ n) (m : HostMemory) :
    (fields.foldl (fun m f => m.store s f.1 f.2) m).view s 0 n =
      fields.foldl (fun bs f => Bytes.blit bs f.1 f.2) (m.view s 0 n) := by
  induction fields generalizing m with
  | nil => rfl
  | cons f fields ih =>
    have hf := h f List.mem_cons_self
    have hhead : (m.store s f.1 f.2).view s 0 n = Bytes.blit (m.view s 0 n) f.1 f.2 :=
      view_store m (hf.trans hn) (Nat.zero_le _) (by omega)
    rw [List.foldl_cons, List.foldl_cons, ih (fun g hg => h g (List.mem_cons_of_mem _ hg)), hhead]

end HostMemory

end Nextcore
