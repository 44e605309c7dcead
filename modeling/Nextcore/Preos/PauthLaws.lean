import Nextcore.Lib.Bits
import Nextcore.Preos.Pauth

/-! The laws of pointer authentication: what signing, authenticating and stripping do to each
other's results, whatever function the cipher computes. -/

namespace Nextcore.Preos.Pauth

open Bits

structure PlainTcr (tcr : U64) : Prop where
  lower : tcr &&& 63#64 = 16#64 ∨ tcr &&& 63#64 = 17#64
  upper : (tcr >>> 16) &&& 63#64 = 16#64 ∨ (tcr >>> 16) &&& 63#64 = 17#64
  clear : tcr &&& ((1#64 <<< 37) ||| (1#64 <<< 38) ||| (1#64 <<< 59)) = 0#64

def addressWidth (tcr : U64) (high : Bool) : ℕ :=
  (64#64 - ((tcr >>> if high then 16 else 0) &&& 63#64)).toNat

def Canonical (tcr p : U64) : Prop :=
  ∀ i, addressWidth tcr (p.getLsbD 63) ≤ i → i < 64 → p.getLsbD i = p.getLsbD 63

def Poisoned (key : ℕ) (p : U64) : Prop :=
  p.getLsbD 62 = decide (key % 2 = 1) ∧ p.getLsbD 61 = decide (key % 2 = 0)

instance neZero_five : NeZero 5 := ⟨by decide⟩

def signWith (cipher : U64 → U64 → Key → U64) (keys : Fin 5 → Key) (pointer modifier : U64) (key : ℕ) (tcr : U64) :
    Except PauthError U64 :=
  if 4 ≤ key then .error .unsupported else do
  let mask ← addressMask pointer tcr 63
  let high := if pointer >>> 63 ≠ 0#64 then ~~~mask else 0#64
  let original := (pointer &&& mask) ||| high
  let tag := cipher original modifier (keys (Fin.ofNat 5 key))
  let extension := pointer &&& ~~~mask
  let tag := if extension ≠ 0#64 ∧ extension ≠ ~~~mask then tag ^^^ (1#64 <<< 62) else tag
  .ok ((pointer &&& mask) ||| (high &&& (1#64 <<< 55)) ||| (tag &&& ~~~mask &&& ~~~(1#64 <<< 55)))

def authenticateWith (cipher : U64 → U64 → Key → U64) (keys : Fin 5 → Key) (pointer modifier : U64) (key : ℕ)
    (tcr : U64) : Except PauthError U64 :=
  if 4 ≤ key then .error .unsupported else do
  let mask ← addressMask pointer tcr 55
  let original := canonical pointer mask
  let expected := cipher original modifier (keys (Fin.ofNat 5 key))
  if (expected ^^^ pointer) &&& ~~~mask &&& ~~~(1#64 <<< 55) = 0#64 then .ok original
  else
    let failure : U64 := if key % 2 = 0 then 1#64 else 2#64
    .ok ((original &&& ~~~(3#64 <<< 61)) ||| (failure <<< 61))

lemma sign_eq : sign = signWith qarma5 := rfl

lemma authenticate_eq : authenticate = authenticateWith qarma5 := rfl

def halfMask (tcr : U64) (high : Bool) : U64 := (1#64 <<< addressWidth tcr high) - 1#64

def extended (tcr p : U64) (high : Bool) : U64 :=
  (p &&& halfMask tcr high) ||| (if high then ~~~halfMask tcr high else 0#64)

lemma addressWidth_cases {tcr : U64} (h : PlainTcr tcr) (high : Bool) :
    addressWidth tcr high = 47 ∨ addressWidth tcr high = 48 := by
  cases high with
  | false =>
    simp only [addressWidth, Bool.false_eq_true, if_false, BitVec.ushiftRight_zero]
    rcases h.lower with h | h <;> rw [h] <;> decide
  | true =>
    simp only [addressWidth, if_true]
    rcases h.upper with h | h <;> rw [h] <;> decide

lemma getLsbD_bit (k i : ℕ) : (1#64 <<< k).getLsbD i = (decide (i < 64) && decide (i = k)) := by
  rw [BitVec.getLsbD_shiftLeft, BitVec.getLsbD_one]
  by_cases h : i = k
  · simp [h]
  · by_cases hlt : i < k
    · simp [h, hlt]
    · simp [h, show ¬i - k = 0 by omega]

lemma bit_ne_zero_iff (p : U64) {k : ℕ} (hk : k < 64) : p &&& (1#64 <<< k) ≠ 0#64 ↔ p.getLsbD k = true := by
  constructor
  · intro h
    by_contra hb
    apply h
    apply BitVec.eq_of_getLsbD_eq
    intro i hi
    rw [BitVec.getLsbD_and, getLsbD_bit, BitVec.getLsbD_zero]
    by_cases hik : i = k
    · rw [hik, Bool.eq_false_of_not_eq_true hb, Bool.false_and]
    · simp [hik]
  · intro h hz
    have hb := congrArg (fun v => v.getLsbD k) hz
    simp only [BitVec.getLsbD_and, getLsbD_bit, BitVec.getLsbD_zero, h, hk, decide_true, Bool.and_self,
      Bool.true_eq_false] at hb

lemma addressMask_plain {tcr : U64} (h : PlainTcr tcr) (p : U64) {k : ℕ} (hk : k < 64) :
    addressMask p tcr k = .ok (halfMask tcr (p.getLsbD k)) := by
  have hs : (if p &&& (1#64 <<< k) ≠ 0#64 then 16 else 0) = if p.getLsbD k then 16 else 0 := by
    simp only [bit_ne_zero_iff p hk]
  have hsize : ∀ high : Bool, (tcr >>> if high then 16 else 0) &&& 63#64 = 16#64 ∨
      (tcr >>> if high then 16 else 0) &&& 63#64 = 17#64 := by
    intro high
    cases high with
    | false => simpa using h.lower
    | true => simpa using h.upper
  simp only [addressMask, hs, h.clear]
  rw [if_neg]
  · rfl
  · rintro (hn | hn)
    · exact hn (hsize _)
    · exact hn rfl

lemma getLsbD_halfMask (tcr : U64) (high : Bool) {i : ℕ} (hi : i < 64) :
    (halfMask tcr high).getLsbD i = decide (i < addressWidth tcr high) := by
  rw [halfMask, getLsbD_low_mask]
  simp [hi]

lemma getLsbD_extension (tcr : U64) (high : Bool) {i : ℕ} (hi : i < 64) (hle : addressWidth tcr high ≤ i) :
    (if high then ~~~halfMask tcr high else 0#64).getLsbD i = high := by
  cases high with
  | false => exact BitVec.getLsbD_zero
  | true =>
    rw [if_pos rfl, BitVec.getLsbD_not, getLsbD_halfMask tcr _ hi, decide_eq_true hi, decide_eq_false (by omega)]
    rfl

lemma getLsbD_extended (tcr p : U64) (high : Bool) {i : ℕ} (hi : i < 64) :
    (extended tcr p high).getLsbD i = if i < addressWidth tcr high then p.getLsbD i else high := by
  have hm := getLsbD_halfMask tcr high hi
  cases high with
  | false =>
    simp only [extended, BitVec.getLsbD_or, BitVec.getLsbD_and, hm, Bool.false_eq_true, if_false,
      BitVec.getLsbD_zero, Bool.or_false]
    by_cases h : i < addressWidth tcr false <;> simp [h]
  | true =>
    simp only [extended, BitVec.getLsbD_or, BitVec.getLsbD_and, BitVec.getLsbD_not, hm, hi, if_true]
    by_cases h : i < addressWidth tcr true <;> simp [h]

lemma extended_of_canonical {tcr p : U64} (h : Canonical tcr p) : extended tcr p (p.getLsbD 63) = p := by
  apply BitVec.eq_of_getLsbD_eq
  intro i hi
  rw [getLsbD_extended tcr p _ hi]
  split
  · rfl
  · exact (h i (by omega) hi).symm

lemma mixed_extension_iff {tcr : U64} (htcr : PlainTcr tcr) (p : U64) :
    (p &&& ~~~halfMask tcr (p.getLsbD 63) ≠ 0#64 ∧
      p &&& ~~~halfMask tcr (p.getLsbD 63) ≠ ~~~halfMask tcr (p.getLsbD 63)) ↔ ¬Canonical tcr p := by
  have hw := addressWidth_cases htcr (p.getLsbD 63)
  have hbit : ∀ {i}, i < 64 → addressWidth tcr (p.getLsbD 63) ≤ i →
      (halfMask tcr (p.getLsbD 63)).getLsbD i = false := fun hi hle => by
    rw [getLsbD_halfMask tcr _ hi]
    simpa using hle
  rw [← not_or, not_iff_not]
  constructor
  · rintro (hz | ho) i hle hi
    · have hall : ∀ j, j < 64 → addressWidth tcr (p.getLsbD 63) ≤ j → p.getLsbD j = false := fun j hj hle => by
        have hb := congrArg (fun v => v.getLsbD j) hz
        simpa only [BitVec.getLsbD_and, BitVec.getLsbD_not, hbit hj hle, hj, decide_true, Bool.not_false, Bool.and_true,
          BitVec.getLsbD_zero] using hb
      rw [hall i hi hle, hall 63 (by omega) (by omega)]
    · have hall : ∀ j, j < 64 → addressWidth tcr (p.getLsbD 63) ≤ j → p.getLsbD j = true := fun j hj hle => by
        have hb := congrArg (fun v => v.getLsbD j) ho
        simpa only [BitVec.getLsbD_and, BitVec.getLsbD_not, hbit hj hle, hj, decide_true, Bool.not_false,
          Bool.and_true] using hb
      rw [hall i hi hle, hall 63 (by omega) (by omega)]
  · intro hc
    have hbits : ∀ i, i < 64 → (p &&& ~~~halfMask tcr (p.getLsbD 63)).getLsbD i =
        (p.getLsbD 63 && (~~~halfMask tcr (p.getLsbD 63)).getLsbD i) := fun i hi => by
      rw [BitVec.getLsbD_and, BitVec.getLsbD_not, getLsbD_halfMask tcr _ hi]
      by_cases hlt : i < addressWidth tcr (p.getLsbD 63)
      · simp only [hlt, decide_true, Bool.not_true, Bool.and_false]
      · rw [hc i (by omega) hi]
    cases h63 : p.getLsbD 63 with
    | false =>
      left
      apply BitVec.eq_of_getLsbD_eq
      intro i hi
      rw [← h63, hbits i hi, h63, Bool.false_and, BitVec.getLsbD_zero]
    | true =>
      right
      apply BitVec.eq_of_getLsbD_eq
      intro i hi
      rw [← h63, hbits i hi, h63, Bool.true_and]

lemma getLsbD_merge (p high tag m : U64) {i : ℕ} (hi : i < 64) :
    ((p &&& m) ||| (high &&& (1#64 <<< 55)) ||| (tag &&& ~~~m &&& ~~~(1#64 <<< 55))).getLsbD i =
      if i = 55 then (p.getLsbD i && m.getLsbD i) || high.getLsbD i
      else if m.getLsbD i then p.getLsbD i else tag.getLsbD i := by
  simp only [BitVec.getLsbD_or, BitVec.getLsbD_and, BitVec.getLsbD_not, getLsbD_bit, hi, decide_true, Bool.true_and]
  by_cases h : i = 55
  · simp only [h, decide_true, Bool.not_true, Bool.and_false, Bool.and_true, Bool.or_false, if_true]
  · cases hm : m.getLsbD i <;> simp [h]

section Operations

variable (cipher : U64 → U64 → Key → U64) (keys : Fin 5 → Key) (modifier : U64)

def word (key : ℕ) (original : U64) : U64 := cipher original modifier (keys (Fin.ofNat 5 key))

lemma signWith_spec {tcr : U64} (htcr : PlainTcr tcr) {key : ℕ} (hkey : key < 4) (p : U64) :
    ∃ v, signWith cipher keys p modifier key tcr = .ok v ∧
      (∀ i, i < addressWidth tcr (p.getLsbD 63) → v.getLsbD i = p.getLsbD i) ∧ v.getLsbD 55 = p.getLsbD 63 ∧
      (Canonical tcr p → ∀ i, addressWidth tcr (p.getLsbD 63) ≤ i → i < 64 → i ≠ 55 →
        v.getLsbD i = (word cipher keys modifier key (extended tcr p (p.getLsbD 63))).getLsbD i) ∧
      (¬Canonical tcr p →
        v.getLsbD 62 = !(word cipher keys modifier key (extended tcr p (p.getLsbD 63))).getLsbD 62) := by
  have hw := addressWidth_cases htcr (p.getLsbD 63)
  have hhigh : (if p >>> 63 ≠ 0#64 then ~~~halfMask tcr (p.getLsbD 63) else 0#64) =
      if p.getLsbD 63 then ~~~halfMask tcr (p.getLsbD 63) else 0#64 := by
    simp only [ne_eq, shiftRight_top_eq_zero_iff, Bool.not_eq_false]
  have hmask := fun i => getLsbD_halfMask tcr (p.getLsbD 63) (i := i)
  rw [signWith, if_neg (by omega), addressMask_plain htcr p (by omega)]
  refine ⟨_, rfl, ?_, ?_, ?_, ?_⟩
  · intro i hlt
    rw [getLsbD_merge _ _ _ _ (by omega), if_neg (by omega), hmask i (by omega), if_pos (by simpa using hlt)]
  · rw [getLsbD_merge _ _ _ _ (by omega), if_pos rfl, hmask 55 (by omega), hhigh,
      decide_eq_false (by omega), Bool.and_false, Bool.false_or, getLsbD_extension tcr _ (by omega) (by omega)]
  · intro hc i hle hi hne
    rw [getLsbD_merge _ _ _ _ hi, if_neg hne, hmask i hi, if_neg (by simpa using hle),
      if_neg (fun h => (mixed_extension_iff htcr p).mp h hc), hhigh]
    rfl
  · intro hc
    rw [getLsbD_merge _ _ _ _ (by omega), if_neg (by omega), hmask 62 (by omega),
      decide_eq_false (by omega), if_neg Bool.false_ne_true, if_pos ((mixed_extension_iff htcr p).mpr hc), hhigh, BitVec.getLsbD_xor, getLsbD_bit]
    exact Bool.xor_true _

lemma strip_spec {tcr : U64} (htcr : PlainTcr tcr) (q : U64) :
    strip q tcr = .ok (extended tcr q (q.getLsbD 55)) := by
  rw [strip, addressMask_plain htcr q (by omega)]
  refine congrArg Except.ok ?_
  simp only [canonical, extended, bit_ne_zero_iff q (show 55 < 64 by omega)]

def Matches (tcr q expected : U64) : Prop :=
  ∀ i, addressWidth tcr (q.getLsbD 55) ≤ i → i < 64 → i ≠ 55 → expected.getLsbD i = q.getLsbD i

lemma matches_iff {tcr : U64} (q expected : U64) :
    (expected ^^^ q) &&& ~~~halfMask tcr (q.getLsbD 55) &&& ~~~(1#64 <<< 55) = 0#64 ↔ Matches tcr q expected := by
  have hbits : ∀ i, i < 64 →
      ((expected ^^^ q) &&& ~~~halfMask tcr (q.getLsbD 55) &&& ~~~(1#64 <<< 55)).getLsbD i =
        ((expected.getLsbD i ^^ q.getLsbD i) && !decide (i < addressWidth tcr (q.getLsbD 55)) && !decide (i = 55)) := by
    intro i hi
    simp only [BitVec.getLsbD_and, BitVec.getLsbD_xor, BitVec.getLsbD_not, getLsbD_halfMask tcr _ hi, getLsbD_bit, hi,
      decide_true, Bool.true_and]
  constructor
  · intro hz i hle hi hne
    have hb := hbits i hi
    rw [hz, BitVec.getLsbD_zero, decide_eq_false (by omega), decide_eq_false hne] at hb
    simpa using hb.symm
  · intro h
    apply BitVec.eq_of_getLsbD_eq
    intro i hi
    rw [hbits i hi, BitVec.getLsbD_zero]
    by_cases hlt : i < addressWidth tcr (q.getLsbD 55)
    · simp only [hlt, decide_true, Bool.not_true, Bool.and_false, Bool.false_and]
    · by_cases hne : i = 55
      · simp only [hne, decide_true, Bool.not_true, Bool.and_false]
      · rw [h i (by omega) hi hne, Bool.xor_self, Bool.false_and, Bool.false_and]

lemma getLsbD_failed (key : ℕ) (original : U64) {i : ℕ} (hi : i < 64) :
    ((original &&& ~~~(3#64 <<< 61)) ||| ((if key % 2 = 0 then 1#64 else 2#64) <<< 61)).getLsbD i =
      if i = 61 then decide (key % 2 = 0) else if i = 62 then decide (key % 2 = 1) else original.getLsbD i := by
  have hthree : (3#64 <<< 61).getLsbD i = (decide (i = 61) || decide (i = 62)) := by
    rw [show 3#64 <<< 61 = (1#64 <<< 61) ||| (1#64 <<< 62) from rfl, BitVec.getLsbD_or, getLsbD_bit, getLsbD_bit,
      decide_eq_true hi, Bool.true_and, Bool.true_and]
  have hcode : ((if key % 2 = 0 then 1#64 else 2#64) <<< 61).getLsbD i =
      if key % 2 = 0 then decide (i = 61) else decide (i = 62) := by
    by_cases hk : key % 2 = 0
    · rw [if_pos hk, if_pos hk, getLsbD_bit, decide_eq_true hi, Bool.true_and]
    · rw [if_neg hk, if_neg hk, show 2#64 <<< 61 = 1#64 <<< 62 from rfl, getLsbD_bit, decide_eq_true hi, Bool.true_and]
  rw [BitVec.getLsbD_or, BitVec.getLsbD_and, BitVec.getLsbD_not, hthree, hcode, decide_eq_true hi]
  have hmod : key % 2 = 0 ∨ key % 2 = 1 := by omega
  rcases hmod with hk | hk <;> by_cases h61 : i = 61 <;> by_cases h62 : i = 62 <;> simp [hk, h61, h62]

lemma authenticateWith_spec {tcr : U64} (htcr : PlainTcr tcr) {key : ℕ} (hkey : key < 4) (q : U64) :
    (Matches tcr q (word cipher keys modifier key (extended tcr q (q.getLsbD 55))) →
      authenticateWith cipher keys q modifier key tcr = .ok (extended tcr q (q.getLsbD 55))) ∧
    (¬Matches tcr q (word cipher keys modifier key (extended tcr q (q.getLsbD 55))) →
      ∃ r, authenticateWith cipher keys q modifier key tcr = .ok r ∧ Poisoned key r ∧ r.getLsbD 63 = q.getLsbD 55) := by
  have hw := addressWidth_cases htcr (q.getLsbD 55)
  have hcanonical : canonical q (halfMask tcr (q.getLsbD 55)) = extended tcr q (q.getLsbD 55) := by
    simp only [canonical, extended, bit_ne_zero_iff q (show 55 < 64 by omega)]
  rw [authenticateWith, if_neg (by omega), addressMask_plain htcr q (by omega)]
  simp only [bind, Except.bind, hcanonical, ← matches_iff, word]
  constructor
  · intro h
    rw [if_pos h]
  · intro h
    rw [if_neg h]
    refine ⟨_, rfl, ⟨?_, ?_⟩, ?_⟩
    · rw [getLsbD_failed _ _ (by omega), if_neg (by omega), if_pos rfl]
    · rw [getLsbD_failed _ _ (by omega), if_pos rfl]
    · rw [getLsbD_failed _ _ (by omega), if_neg (by omega), if_neg (by omega),
        getLsbD_extended tcr q _ (by omega), if_neg (by omega)]

lemma Poisoned.not_canonical {tcr : U64} (htcr : PlainTcr tcr) {key : ℕ} {r : U64} (h : Poisoned key r) :
    ¬Canonical tcr r := by
  intro hc
  have hw := addressWidth_cases htcr (r.getLsbD 63)
  have h62 := hc 62 (by omega) (by omega)
  have h61 := hc 61 (by omega) (by omega)
  rw [h.1] at h62
  rw [h.2, ← h62, decide_eq_decide] at h61
  omega

end Operations

structure PauthLaws (sign authenticate strip : U64 → Except PauthError U64) (tcr : U64) (key : ℕ) : Prop where
  round_trip : ∀ p, Canonical tcr p → ∃ v, sign p = .ok v ∧ authenticate v = .ok p ∧ strip v = .ok p
  foreign : ∀ p, ¬Canonical tcr p →
    ∃ v r, sign p = .ok v ∧ authenticate v = .ok r ∧ Poisoned key r ∧ ¬Canonical tcr r
  stripped : ∀ q, ∃ s r v, strip q = .ok s ∧ authenticate q = .ok r ∧ sign s = .ok v ∧ (r = s ↔ q = v) ∧
    (r ≠ s → Poisoned key r ∧ ¬Canonical tcr r)

lemma extended_signed {tcr p v : U64} (haddress : ∀ i, i < addressWidth tcr (p.getLsbD 63) → v.getLsbD i = p.getLsbD i)
    (hrange : v.getLsbD 55 = p.getLsbD 63) : extended tcr v (v.getLsbD 55) = extended tcr p (p.getLsbD 63) := by
  apply BitVec.eq_of_getLsbD_eq
  intro i hi
  rw [hrange, getLsbD_extended tcr v _ hi, getLsbD_extended tcr p _ hi]
  by_cases hlt : i < addressWidth tcr (p.getLsbD 63)
  · rw [if_pos hlt, if_pos hlt, haddress i hlt]
  · rw [if_neg hlt, if_neg hlt]

/-- The laws hold of the code, and of the same code over any other cipher. -/
theorem pauth_laws (cipher : U64 → U64 → Key → U64) (keys : Fin 5 → Key) (modifier : U64) (key : ℕ) (tcr : U64)
    (hkey : key < 4) (htcr : PlainTcr tcr) :
    (sign = signWith qarma5 ∧ authenticate = authenticateWith qarma5) ∧
      PauthLaws (fun p => signWith cipher keys p modifier key tcr)
        (fun q => authenticateWith cipher keys q modifier key tcr) (fun q => strip q tcr) tcr key := by
  refine ⟨⟨sign_eq, authenticate_eq⟩, ?_, ?_, ?_⟩
  · intro p hp
    obtain ⟨v, hv, haddress, hrange, htag, -⟩ := signWith_spec cipher keys modifier htcr hkey p
    have hback : extended tcr v (v.getLsbD 55) = p :=
      (extended_signed haddress hrange).trans (extended_of_canonical hp)
    refine ⟨v, hv, ?_, by rw [strip_spec htcr, hback]⟩
    have hmatches : Matches tcr v (word cipher keys modifier key (extended tcr v (v.getLsbD 55))) := by
      intro i hle hi hne
      rw [hrange] at hle
      rw [extended_signed haddress hrange]
      exact (htag hp i hle hi hne).symm
    rw [(authenticateWith_spec cipher keys modifier htcr hkey v).1 hmatches, hback]
  · intro p hp
    obtain ⟨v, hv, haddress, hrange, -, htag⟩ := signWith_spec cipher keys modifier htcr hkey p
    have hw := addressWidth_cases htcr (v.getLsbD 55)
    -- the flipped bit 62 never matches
    have hmatches : ¬Matches tcr v (word cipher keys modifier key (extended tcr v (v.getLsbD 55))) := by
      intro hm
      have hbit := hm 62 (by omega) (by omega) (by omega)
      rw [extended_signed haddress hrange, htag hp] at hbit
      exact (Bool.eq_not_self _).mp hbit
    obtain ⟨r, hr, hpoisoned, -⟩ := (authenticateWith_spec cipher keys modifier htcr hkey v).2 hmatches
    exact ⟨v, r, hv, hr, hpoisoned, hpoisoned.not_canonical htcr⟩
  · intro q
    have hw := addressWidth_cases htcr (q.getLsbD 55)
    have h63 : (extended tcr q (q.getLsbD 55)).getLsbD 63 = q.getLsbD 55 := by
      rw [getLsbD_extended tcr q _ (by omega), if_neg (by omega)]
    have hcanonical : Canonical tcr (extended tcr q (q.getLsbD 55)) := by
      intro i hle hi
      rw [h63] at hle
      rw [h63, getLsbD_extended tcr q _ hi, if_neg (by omega)]
    obtain ⟨v, hv, haddress, hrange, htag, -⟩ :=
      signWith_spec cipher keys modifier htcr hkey (extended tcr q (q.getLsbD 55))
    have hword := extended_of_canonical hcanonical
    rw [h63] at haddress hrange htag hword
    simp only [hword] at htag
    -- stripping keeps the address, so only the tags can differ
    have hsame : q = v ↔ Matches tcr q (word cipher keys modifier key (extended tcr q (q.getLsbD 55))) := by
      constructor
      · rintro rfl i hle hi hne
        exact (htag hcanonical i hle hi hne).symm
      · intro hm
        apply BitVec.eq_of_getLsbD_eq
        intro i hi
        by_cases hlt : i < addressWidth tcr (q.getLsbD 55)
        · rw [haddress i hlt, getLsbD_extended tcr q _ hi, if_pos hlt]
        · by_cases hne : i = 55
          · rw [hne, hrange]
          · rw [htag hcanonical i (by omega) hi hne, hm i (by omega) hi hne]
    by_cases hm : Matches tcr q (word cipher keys modifier key (extended tcr q (q.getLsbD 55)))
    · exact ⟨_, _, v, strip_spec htcr q, (authenticateWith_spec cipher keys modifier htcr hkey q).1 hm, hv,
        ⟨fun _ => hsame.mpr hm, fun _ => rfl⟩, fun hne => (hne rfl).elim⟩
    · obtain ⟨r, hr, hpoisoned, -⟩ := (authenticateWith_spec cipher keys modifier htcr hkey q).2 hm
      have hbad := hpoisoned.not_canonical htcr
      exact ⟨_, r, v, strip_spec htcr q, hr, hv,
        ⟨fun h => (hbad (h ▸ hcanonical)).elim, fun h => (hm (hsame.mp h)).elim⟩, fun _ => ⟨hpoisoned, hbad⟩⟩

theorem pauth_laws_split :
    PauthLaws (fun p => sign (fun _ => ⟨0x48ad369c24681357#64, 0xb752c963db97eca8#64⟩) p 0x9876#64 2 0x110010#64)
      (fun q => authenticate (fun _ => ⟨0x48ad369c24681357#64, 0xb752c963db97eca8#64⟩) q 0x9876#64 2 0x110010#64)
      (fun q => strip q 0x110010#64) 0x110010#64 2 :=
  (pauth_laws qarma5 (fun _ => ⟨0x48ad369c24681357#64, 0xb752c963db97eca8#64⟩) 0x9876#64 2 0x110010#64 (by decide)
    ⟨by decide, by decide, by decide⟩).2

end Nextcore.Preos.Pauth
