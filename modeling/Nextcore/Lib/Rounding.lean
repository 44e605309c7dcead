import Mathlib.Algebra.Order.Floor.Ring
import Mathlib.Data.Int.Log
import Mathlib.Tactic

/-! Rounding a number to an integer and to so many binary digits, and the integers that round as it does. -/

namespace Nextcore.Round

inductive Mode where
  | nearest
  | up
  | down
  | zero
deriving DecidableEq, Repr

section Integers

variable {K : Type} [Field K] [LinearOrder K] [FloorRing K]

def nearestEven (x : K) : ℤ := if Int.fract x < 1 / 2 ∨ (Int.fract x = 1 / 2 ∧ Even ⌊x⌋) then ⌊x⌋ else ⌊x⌋ + 1

def Mode.toInt : Mode → K → ℤ
  | .nearest, x => nearestEven x
  | .up, x => ⌈x⌉
  | .down, x => ⌊x⌋
  | .zero, x => if x < 0 then ⌈x⌉ else ⌊x⌋

def Mode.mirror : Mode → Mode
  | .up => .down
  | .down => .up
  | m => m

def lastPlace (p : ℕ) (q : ℤ) (x : K) : ℤ := max (Int.log 2 |x| + 1 - p) q

def Mode.round (m : Mode) (p : ℕ) (q : ℤ) (x : K) : K := m.toInt (x / 2 ^ lastPlace p q x) * 2 ^ lastPlace p q x

lemma lastPlace_neg (p : ℕ) (q : ℤ) (x : K) : lastPlace p q (-x) = lastPlace p q x := by
  rw [lastPlace, lastPlace, abs_neg]

variable [IsStrictOrderedRing K]

def Near (x : K) (k : ℤ) : Prop := |x - k| < 1 / 2 ∨ (|x - k| = 1 / 2 ∧ Even k)

lemma near_nearestEven (x : K) : Near x (nearestEven x) := by
  have hx : x - ⌊x⌋ = Int.fract x := rfl
  have h0 := Int.fract_nonneg x
  have h1 := Int.fract_lt_one x
  unfold nearestEven Near
  split_ifs with h
  · rw [hx, abs_of_nonneg h0]
    exact h
  · push_cast
    rw [show x - (⌊x⌋ + 1) = -(1 - Int.fract x) by rw [← hx]; ring, abs_neg, abs_of_pos (by linarith)]
    rcases lt_trichotomy (Int.fract x) (1 / 2) with hlt | heq | hgt
    · exact (h (Or.inl hlt)).elim
    · right
      refine ⟨by linarith, ?_⟩
      rw [Int.even_add_one]
      intro heven
      exact h (Or.inr ⟨heq, heven⟩)
    · exact Or.inl (by linarith)

lemma Near.unique {x : K} {k l : ℤ} (hk : Near x k) (hl : Near x l) : k = l := by
  have hkle : |x - k| ≤ 1 / 2 := hk.elim le_of_lt fun h => h.1.le
  have hlle : |x - l| ≤ 1 / 2 := hl.elim le_of_lt fun h => h.1.le
  have hdist : |((k - l : ℤ) : K)| ≤ |x - k| + |x - l| := by
    have htri := abs_add_le (x - l) (-(x - k))
    rw [abs_neg] at htri
    push_cast
    rw [show (k : K) - l = x - l + -(x - k) by ring]
    linarith
  have hone : |((k - l : ℤ) : K)| ≤ 1 := by linarith
  have hint : |k - l| ≤ 1 := by exact_mod_cast hone
  by_contra hne
  have habs : |k - l| = 1 := by
    have hpos := abs_pos.mpr (sub_ne_zero.mpr hne)
    omega
  have hfar : (1 : K) ≤ |x - k| + |x - l| := by
    have hcast : |((k - l : ℤ) : K)| = 1 := by exact_mod_cast habs
    rwa [hcast] at hdist
  -- both are then exactly halfway, so both are even
  have hkeven : Even k := hk.elim (fun h => absurd h (by linarith)) And.right
  have hleven : Even l := hl.elim (fun h => absurd h (by linarith)) And.right
  have heven := hkeven.sub hleven
  rw [← even_abs, habs] at heven
  exact absurd heven (by decide)

lemma nearestEven_eq {x : K} {k : ℤ} (h : Near x k) : nearestEven x = k := (near_nearestEven x).unique h

lemma nearestEven_neg (x : K) : nearestEven (-x) = -nearestEven x := by
  apply nearestEven_eq
  have h := near_nearestEven x
  unfold Near at h ⊢
  push_cast
  rwa [show -x - -(nearestEven x : K) = -(x - nearestEven x) by ring, abs_neg, even_neg]

lemma toInt_neg (m : Mode) (x : K) : m.toInt (-x) = -m.mirror.toInt x := by
  cases m with
  | nearest => exact nearestEven_neg x
  | up => exact Int.ceil_neg
  | down => exact Int.floor_neg
  | zero =>
    simp only [Mode.toInt, Mode.mirror]
    rcases lt_trichotomy x 0 with hneg | rfl | hpos
    · rw [if_neg (by linarith), if_pos hneg, Int.floor_neg]
    · simp
    · rw [if_pos (by linarith), if_neg (by linarith), Int.ceil_neg]

lemma toInt_intCast (m : Mode) (k : ℤ) : m.toInt (k : K) = k := by
  cases m with
  | nearest => exact nearestEven_eq (Or.inl (by norm_num))
  | up => exact Int.ceil_intCast k
  | down => exact Int.floor_intCast k
  | zero => simp only [Mode.toInt, Int.ceil_intCast, Int.floor_intCast, ite_self]

lemma toInt_eq_self (m : Mode) (x : K) : (m.toInt x : K) = x ↔ Int.fract x = 0 := by
  rw [Int.fract_eq_zero_iff]
  constructor
  · intro h
    exact ⟨_, h⟩
  · rintro ⟨k, rfl⟩
    rw [toInt_intCast]

lemma round_eq_self (m : Mode) (p : ℕ) (q : ℤ) (x : K) :
    m.round p q x = x ↔ Int.fract (x / 2 ^ lastPlace p q x) = 0 := by
  have hpos : (0 : K) < 2 ^ lastPlace p q x := zpow_pos (by norm_num) _
  rw [← toInt_eq_self m, eq_div_iff hpos.ne', Mode.round]

lemma round_neg (m : Mode) (p : ℕ) (q : ℤ) (x : K) : m.round p q (-x) = -m.mirror.round p q x := by
  simp only [Mode.round, lastPlace_neg, neg_div, toInt_neg]
  push_cast
  ring

lemma log_eq {x : K} {e : ℤ} (hlow : 2 ^ e ≤ x) (hhigh : x < 2 ^ (e + 1)) : Int.log 2 |x| = e := by
  have hpos : 0 < x := lt_of_lt_of_le (zpow_pos (by norm_num) e) hlow
  rw [abs_of_pos hpos]
  have hge : e ≤ Int.log 2 x := (Int.zpow_le_iff_le_log (by norm_num) hpos).mp (by exact_mod_cast hlow)
  have hlt : Int.log 2 x < e + 1 := (Int.lt_zpow_iff_log_lt (by norm_num) hpos).mp (by exact_mod_cast hhigh)
  omega

end Integers

section Agreement

variable {K : Type} [Field K] [LinearOrder K]

def Agrees (g n : ℤ) (x : K) : Prop :=
  ∀ k : ℤ, (g * k < n ↔ ((g * k : ℤ) : K) < x) ∧ (n < g * k ↔ x < ((g * k : ℤ) : K))

variable {g n : ℤ} {x : K}

lemma Agrees.coarsen {g' : ℤ} (h : Agrees g n x) (hg : g ∣ g') : Agrees g' n x := by
  obtain ⟨c, rfl⟩ := hg
  intro k
  rw [mul_assoc]
  exact h (c * k)

lemma Agrees.le (h : Agrees g n x) (k : ℤ) :
    (g * k ≤ n ↔ ((g * k : ℤ) : K) ≤ x) ∧ (n ≤ g * k ↔ x ≤ ((g * k : ℤ) : K)) := by
  rw [← not_lt, ← not_lt, ← not_lt, ← not_lt, (h k).1, (h k).2]
  exact ⟨Iff.rfl, Iff.rfl⟩

lemma Agrees.eq (h : Agrees g n x) (k : ℤ) : n = g * k ↔ x = ((g * k : ℤ) : K) := by
  rw [le_antisymm_iff, le_antisymm_iff, (h.le k).1, (h.le k).2]

variable [IsStrictOrderedRing K]

lemma agrees_self (g n : ℤ) : Agrees g n (n : K) := fun _ => ⟨Int.cast_lt.symm, Int.cast_lt.symm⟩

lemma Agrees.neg (h : Agrees g n x) : Agrees g (-n) (-x) := by
  intro k
  have hk := h (-k)
  rw [mul_neg] at hk
  constructor
  · rw [lt_neg, hk.2, lt_neg]
    push_cast
    rfl
  · rw [neg_lt, hk.1, neg_lt]
    push_cast
    rfl

lemma Agrees.add (h : Agrees g n x) {c : ℤ} (hc : g ∣ c) : Agrees g (c + n) (c + x) := by
  obtain ⟨d, rfl⟩ := hc
  intro k
  have hk := h (k - d)
  constructor
  · rw [← sub_lt_iff_lt_add', ← mul_sub, hk.1, ← sub_lt_iff_lt_add']
    push_cast
    rw [mul_sub]
  · rw [← lt_sub_iff_add_lt', ← mul_sub, hk.2, ← lt_sub_iff_add_lt']
    push_cast
    rw [mul_sub]

lemma Agrees.scale (h : Agrees g n x) {c : ℤ} (hc : 0 < c) : Agrees (c * g) (c * n) (c * x) := by
  have hcast : (0 : K) < c := Int.cast_pos.mpr hc
  intro k
  rw [mul_assoc]
  push_cast
  rw [mul_lt_mul_iff_right₀ hc, mul_lt_mul_iff_right₀ hc, mul_lt_mul_iff_right₀ hcast, mul_lt_mul_iff_right₀ hcast]
  exact_mod_cast h k

def sticky (n m : ℕ) : ℕ := n / m ||| if n % m = 0 then 0 else 1

lemma sticky_eq (n m : ℕ) : sticky n m = if n % m = 0 ∨ n / m % 2 = 1 then n / m else n / m + 1 := by
  have hone (q : ℕ) : q ||| 1 = if q % 2 = 1 then q else q + 1 := by
    have hbit : (q ||| 1) % 2 = 1 := Nat.or_mod_two_eq_one.mpr (Or.inr rfl)
    have hdiv : (q ||| 1) / 2 = q / 2 := by
      rw [Nat.or_div_two]
      simp
    split_ifs <;> omega
  unfold sticky
  split_ifs with h0 h h <;> simp_all

lemma div_le_sticky (n m : ℕ) : n / m ≤ sticky n m := by
  rw [sticky_eq]
  split_ifs <;> omega

lemma sticky_lt {n m b : ℕ} (h : n / m < 2 * b) : sticky n m < 2 * b := by
  rw [sticky_eq]
  split_ifs <;> omega

lemma sticky_le (n m : ℕ) : sticky n m ≤ n / m + 1 := by
  rw [sticky_eq]
  split_ifs <;> omega

lemma mul_lt_divided {m q r a : ℤ} (hm : 0 < m) (hr : 0 ≤ r) (hrm : r < m) :
    (m * a < m * q + r ↔ a < q ∨ (a = q ∧ 0 < r)) ∧ (m * q + r < m * a ↔ q < a) := by
  rcases lt_trichotomy a q with hlt | rfl | hgt
  · have hle : m * (a + 1) ≤ m * q := mul_le_mul_of_nonneg_left hlt hm.le
    rw [mul_add] at hle
    constructor <;> constructor <;> intro h <;> omega
  · constructor <;> constructor <;> intro h <;> omega
  · have hle : m * (q + 1) ≤ m * a := mul_le_mul_of_nonneg_left hgt hm.le
    rw [mul_add] at hle
    constructor <;> constructor <;> intro h <;> omega

lemma Agrees.sticky {n m : ℕ} (h : Agrees g n x) (hm : 0 < m) (hg : g ∣ 2 * m) :
    Agrees 2 (sticky n m) (x / m) := by
  have hcast : (0 : K) < m := Nat.cast_pos.mpr hm
  have hagree := h.coarsen hg
  intro k
  have hk := hagree k
  have hmul : ((2 * m * k : ℤ) : K) = ((2 * k : ℤ) : K) * m := by
    push_cast
    ring
  rw [hmul] at hk
  rw [lt_div_iff₀ hcast, div_lt_iff₀ hcast, ← hk.1, ← hk.2, sticky_eq]
  have hsplit : (n : ℤ) = m * (n / m : ℕ) + (n % m : ℕ) := by exact_mod_cast (Nat.div_add_mod n m).symm
  have hrem := Nat.mod_lt n hm
  have hside := @mul_lt_divided m (n / m : ℕ) (n % m : ℕ) (2 * k) (by omega) (by omega) (by omega)
  rw [← hsplit, ← mul_assoc, mul_comm (m : ℤ) 2] at hside
  rw [hside.1, hside.2]
  -- against an even number, an odd quotient stands for its remainder too
  split_ifs with hodd
  · constructor <;> omega
  · constructor <;> push_cast <;> omega

end Agreement

section Carry

variable {K : Type} [Field K] [LinearOrder K] [IsStrictOrderedRing K] [FloorRing K] {g n : ℤ} {x : K}

lemma Agrees.split (h : Agrees g n x) (hg : 0 < g) :
    ⌊x / (2 * g)⌋ = n / (2 * g) ∧ (Int.fract (x / (2 * g)) = 0 ↔ n % (2 * g) = 0) ∧
      (Int.fract (x / (2 * g)) < 1 / 2 ↔ n % (2 * g) < g) ∧
      (Int.fract (x / (2 * g)) = 1 / 2 ↔ n % (2 * g) = g) := by
  have hcast : (0 : K) < 2 * g := mul_pos (by norm_num) (Int.cast_pos.mpr hg)
  have hrem := Int.emod_nonneg n (show 2 * g ≠ 0 by omega)
  have hlt := Int.emod_lt_of_pos n (show 0 < 2 * g by omega)
  have hsplit := Int.mul_ediv_add_emod n (2 * g)
  generalize n / (2 * g) = q at *
  have hlow : g * (2 * q) = 2 * g * q := by ring
  have hmid : g * (2 * q + 1) = 2 * g * q + g := by ring
  have hhigh : g * (2 * q + 2) = 2 * g * q + 2 * g := by ring
  have hfloor : ⌊x / (2 * g)⌋ = q := by
    rw [Int.floor_eq_iff]
    constructor
    · have hle := (h.le (2 * q)).1.mp (by omega)
      rw [hlow] at hle
      push_cast at hle
      rw [le_div_iff₀ hcast]
      linarith
    · have hle := (h (2 * q + 2)).2.mp (by omega)
      rw [hhigh] at hle
      push_cast at hle
      rw [div_lt_iff₀ hcast]
      linarith
  have hx : x = Int.fract (x / (2 * g)) * (2 * g) + 2 * g * q := by
    rw [Int.fract, hfloor]
    field_simp
    ring
  refine ⟨hfloor, ?_, ?_, ?_⟩
  · have hzero := h.eq (2 * q)
    rw [hlow] at hzero
    rw [show n % (2 * g) = 0 ↔ n = 2 * g * q by omega, hzero]
    push_cast
    constructor
    · intro hf
      rw [hx, hf]
      ring
    · intro heq
      have hprod : Int.fract (x / (2 * g)) * (2 * g) = 0 := by linarith
      exact (mul_eq_zero.mp hprod).resolve_right hcast.ne'
  · have hmiddle := (h (2 * q + 1)).2
    rw [hmid] at hmiddle
    rw [show n % (2 * g) < g ↔ n < 2 * g * q + g by omega, hmiddle, lt_div_iff₀ (by norm_num : (0 : K) < 2)]
    push_cast
    rw [← mul_lt_mul_iff_left₀ (Int.cast_pos.mpr hg : (0 : K) < g)]
    constructor <;> intro hf <;> linarith
  · have hmiddle := h.eq (2 * q + 1)
    rw [hmid] at hmiddle
    rw [show n % (2 * g) = g ↔ n = 2 * g * q + g by omega, hmiddle]
    push_cast
    constructor
    · intro hf
      rw [hx, hf]
      ring
    · intro heq
      have hprod : (Int.fract (x / (2 * g)) - 1 / 2) * (2 * g) = 0 := by linarith
      linarith [(mul_eq_zero.mp hprod).resolve_right hcast.ne']

def Mode.carries : Mode → ℤ → ℤ → Bool
  | .nearest, g, n => g < n % (2 * g) ∨ (n % (2 * g) = g ∧ n / (2 * g) % 2 = 1)
  | .up, g, n => n % (2 * g) ≠ 0
  | .down, _, _ => false
  | .zero, _, _ => false

lemma Agrees.toInt (h : Agrees g n x) (hg : 0 < g) (hn : 0 ≤ n) (m : Mode) :
    m.toInt (x / (2 * g)) = n / (2 * g) + if m.carries g n then 1 else 0 := by
  obtain ⟨hfloor, hzero, hless, hhalf⟩ := h.split hg
  cases m with
  | nearest =>
    simp only [Mode.toInt, nearestEven, Mode.carries, hfloor, hless, hhalf, decide_eq_true_eq, Int.even_iff]
    split_ifs <;> omega
  | up =>
    simp only [Mode.toInt, Mode.carries, decide_eq_true_eq, ← hfloor]
    split_ifs with hf
    · apply (Int.ceil_eq_floor_add_one_iff_notMem _).mpr
      rwa [← Int.fract_eq_zero_iff, hzero]
    · obtain ⟨k, hk⟩ := Int.fract_eq_zero_iff.mp (hzero.mpr (not_not.mp hf))
      rw [← hk, Int.ceil_intCast, Int.floor_intCast, add_zero]
  | down => simp only [Mode.toInt, Mode.carries, hfloor, Bool.false_eq_true, if_false, add_zero]
  | zero =>
    have hcast : (0 : K) < 2 * g := mul_pos (by norm_num) (Int.cast_pos.mpr hg)
    have hx : 0 ≤ x := by
      have hle := (h.le 0).1.mp (by omega)
      rwa [mul_zero, Int.cast_zero] at hle
    have hpos : ¬x / (2 * g) < 0 := not_lt.mpr (div_nonneg hx hcast.le)
    simp only [Mode.toInt, Mode.carries, if_neg hpos, hfloor, Bool.false_eq_true, if_false, add_zero]

end Carry

end Nextcore.Round
