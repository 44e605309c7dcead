import Mathlib.Order.Bounds.Basic
import Nextcore.Device.Dart
import Nextcore.Lib.Bits

/-! The region table of the SART: `vf_sart_region_decode` and `vf_sart_translate`, and what a translation says
about the table. -/

namespace Nextcore.Device.VfSart

structure Region where
  addrPages : U32
  sizePages : U32
  flags : U32
  deriving DecidableEq, Repr

abbrev maxVaBits : ℕ := 42
abbrev pageShift : ℕ := 12
abbrev pageMask : U64 := ~~~0xfff#64
abbrev sizeMaskV1 : U32 := 0x0007ffff#32
abbrev sizeMaskV2 : U32 := 0x00ffffff#32
abbrev addrMaskV12 : U32 := 0x00ffffff#32
abbrev addrMaskV3 : U32 := 0x3fffffff#32
abbrev sizeMaskV3 : U32 := 0x3fffffff#32

def regSizeOff (i : ℕ) : ℕ := 4 * i
def regAddrOff (i : ℕ) : ℕ := bankAddr + 4 * i
def regSizeV3Off (i : ℕ) : ℕ := bankSizeV3 + 4 * i

def reg (s : VfSart) (off : ℕ) : U32 := s.regs (off / 4)

def regionDecode (s : VfSart) (region : ℕ) : Option Region :=
  if numRegions ≤ region then none
  else
    let sizeWord := s.reg (regSizeOff region)
    let addrWord := s.reg (regAddrOff region)
    if s.version = version1 then
      some ⟨addrWord &&& addrMaskV12, sizeWord &&& sizeMaskV1, sizeWord &&& ~~~sizeMaskV1⟩
    else if s.version = version2 then
      some ⟨addrWord &&& addrMaskV12, sizeWord &&& sizeMaskV2, sizeWord &&& ~~~sizeMaskV2⟩
    else if s.version = version3 then
      some ⟨addrWord &&& addrMaskV3, s.reg (regSizeV3Off region) &&& sizeMaskV3, sizeWord⟩
    else none

namespace Region

def endPage (r : Region) : U64 := r.addrPages.zeroExtend 64 + r.sizePages.zeroExtend 64

def contains (r : Region) (page : U64) : Bool :=
  decide (r.addrPages.zeroExtend 64 ≤ page ∧ page < r.endPage)

end Region

def scanRegions (s : VfSart) (page : U64) : List ℕ → Option (Option ℕ)
  | [] => some none
  | i :: is =>
    match s.regionDecode i with
    | none => none
    | some r =>
      if r.flags = 0#32 ∨ r.sizePages = 0#32 then scanRegions s page is
      else if r.contains page then some (some i)
      else scanRegions s page is

structure Translated where
  hit : Bool
  pa : U64
  region : ℕ
  deriving DecidableEq, Repr

/-- `vf_sart_translate`; `none` is the result -1. -/
def translate (s : VfSart) (iova : U64) : Option Translated :=
  if iova >>> maxVaBits ≠ 0#64 then none
  else
    (s.scanRegions (iova >>> pageShift) (List.range numRegions)).map fun found =>
      ⟨found.isSome, iova &&& pageMask, found.getD numRegions⟩

inductive Reached : VfSart → Prop
  | init {version : U32} {s : VfSart} : init version = some s → Reached s
  | write {s s' : VfSart} {off width : ℕ} {value : U32} : Reached s → s.write off width value = some s' →
    Reached s'

section Translation

variable {s : VfSart}

lemma Reached.version (h : Reached s) : s.version = version1 ∨ s.version = version2 ∨ s.version = version3 := by
  induction h with
  | init hinit =>
    rw [VfSart.init] at hinit
    split at hinit
    · cases hinit
    next hversion =>
      obtain rfl := Option.some.inj hinit
      by_contra hnone
      simp only [not_or] at hnone
      exact hversion ⟨hnone.1, hnone.2.1, hnone.2.2⟩
  | write _ hwrite ih =>
    rw [VfSart.write] at hwrite
    split at hwrite
    · cases hwrite
    · obtain rfl := Option.some.inj hwrite
      exact ih

lemma Reached.decodes (h : Reached s) {i : ℕ} (hi : i < numRegions) :
    ∃ r, s.regionDecode i = some r ∧ r.addrPages.toNat < 2 ^ 30 ∧ r.sizePages.toNat < 2 ^ 30 := by
  have hfield (x : U32) {k : ℕ} (m : U32) (hm : m.toNat = 2 ^ k - 1) (hk : 2 ^ k ≤ 2 ^ 30) :
      (x &&& m).toNat < 2 ^ 30 := by
    rw [Bits.toNat_and_mask x k m hm]
    exact lt_of_lt_of_le (Nat.mod_lt _ (Nat.two_pow_pos k)) hk
  rw [regionDecode, if_neg (Nat.not_le.mpr hi)]
  rcases h.version with hversion | hversion | hversion
  · rw [hversion, if_pos rfl]
    exact ⟨_, rfl, hfield _ (k := 24) _ rfl (by decide), hfield _ (k := 19) _ rfl (by decide)⟩
  · rw [hversion, if_neg (by decide), if_pos rfl]
    exact ⟨_, rfl, hfield _ (k := 24) _ rfl (by decide), hfield _ (k := 24) _ rfl (by decide)⟩
  · rw [hversion, if_neg (by decide), if_neg (by decide), if_pos rfl]
    exact ⟨_, rfl, hfield _ (k := 30) _ rfl (by decide), hfield _ (k := 30) _ rfl (by decide)⟩

lemma Region.toNat_endPage {r : Region} (haddr : r.addrPages.toNat < 2 ^ 30) (hsize : r.sizePages.toNat < 2 ^ 30) :
    r.endPage.toNat = r.addrPages.toNat + r.sizePages.toNat := by
  rw [Region.endPage, BitVec.toNat_add, BitVec.toNat_setWidth, BitVec.toNat_setWidth]
  omega

def Covers (s : VfSart) (page i : ℕ) : Prop :=
  ∃ r, s.regionDecode i = some r ∧ r.flags ≠ 0#32 ∧ r.sizePages ≠ 0#32 ∧
    r.addrPages.toNat ≤ page ∧ page < r.addrPages.toNat + r.sizePages.toNat

lemma contains_iff {r : Region} (haddr : r.addrPages.toNat < 2 ^ 30) (hsize : r.sizePages.toNat < 2 ^ 30)
    (page : U64) :
    r.contains page = true ↔ r.addrPages.toNat ≤ page.toNat ∧ page.toNat < r.addrPages.toNat + r.sizePages.toNat := by
  have hwide : (r.addrPages.zeroExtend 64).toNat = r.addrPages.toNat := by
    rw [BitVec.toNat_setWidth]
    omega
  rw [Region.contains, decide_eq_true_eq, BitVec.le_def, BitVec.lt_def, Region.toNat_endPage haddr hsize, hwide]

lemma Reached.scan (h : Reached s) (page : U64) (is : List ℕ) (his : ∀ i ∈ is, i < numRegions)
    (hsorted : is.Pairwise (· < ·)) :
    ∃ found, s.scanRegions page is = some found ∧
      (found = none ↔ ∀ i ∈ is, ¬s.Covers page.toNat i) ∧
      ∀ k, found = some k → IsLeast {i | i ∈ is ∧ s.Covers page.toNat i} k := by
  induction is with
  | nil => exact ⟨none, rfl, by simp, fun _ hk => by cases hk⟩
  | cons i is ih =>
    obtain ⟨r, hr, haddr, hsize⟩ := h.decodes (his i List.mem_cons_self)
    obtain ⟨hfirst, hrest⟩ := List.pairwise_cons.mp hsorted
    obtain ⟨found, hscan, hnone, hsome⟩ := ih (fun j hj => his j (List.mem_cons_of_mem _ hj)) hrest
    -- the loop goes on from a region that does not cover the page
    have hskip (hcovers : ¬s.Covers page.toNat i) (hgo : s.scanRegions page (i :: is) = some found) :
        ∃ found, s.scanRegions page (i :: is) = some found ∧
          (found = none ↔ ∀ j ∈ i :: is, ¬s.Covers page.toNat j) ∧
          ∀ k, found = some k → IsLeast {j | j ∈ i :: is ∧ s.Covers page.toNat j} k := by
      refine ⟨found, hgo, ?_, fun k hk => ?_⟩
      · rw [hnone, List.forall_mem_cons]
        exact ⟨fun hall => ⟨hcovers, hall⟩, fun hall => hall.2⟩
      · obtain ⟨⟨hmem, hcover⟩, hleast⟩ := hsome k hk
        refine ⟨⟨List.mem_cons_of_mem _ hmem, hcover⟩, ?_⟩
        rintro j ⟨hj, hcoverj⟩
        rcases List.mem_cons.mp hj with rfl | hj
        · exact absurd hcoverj hcovers
        · exact hleast ⟨hj, hcoverj⟩
    have hunique {r' : Region} (hr' : s.regionDecode i = some r') : r' = r := Option.some.inj (hr'.symm.trans hr)
    by_cases hempty : r.flags = 0#32 ∨ r.sizePages = 0#32
    · apply hskip
      · rintro ⟨r', hr', hflags, hpages, -⟩
        obtain rfl := hunique hr'
        exact hempty.elim hflags hpages
      · rw [scanRegions, hr]
        exact (if_pos hempty).trans hscan
    by_cases hcontains : r.contains page = true
    · have hcover : s.Covers page.toNat i :=
        ⟨r, hr, fun hz => hempty (Or.inl hz), fun hz => hempty (Or.inr hz),
          (contains_iff haddr hsize page).mp hcontains⟩
      refine ⟨some i, ?_, ?_, ?_⟩
      · rw [scanRegions, hr]
        exact (if_neg hempty).trans (if_pos hcontains)
      · exact ⟨fun hz => absurd hz (Option.some_ne_none i), fun hall => absurd hcover (hall i List.mem_cons_self)⟩
      · rintro k ⟨⟩
        refine ⟨⟨List.mem_cons_self, hcover⟩, ?_⟩
        rintro j ⟨hj, -⟩
        rcases List.mem_cons.mp hj with rfl | hj
        · exact le_refl _
        · exact le_of_lt (hfirst j hj)
    · apply hskip
      · rintro ⟨r', hr', -, -, hinside⟩
        obtain rfl := hunique hr'
        exact hcontains ((contains_iff haddr hsize page).mpr hinside)
      · rw [scanRegions, hr]
        exact ((if_neg hempty).trans (if_neg hcontains)).trans hscan

structure Answers (s : VfSart) (iova : U64) (t : Translated) : Prop where
  pa : t.pa = iova &&& pageMask
  hit : t.hit = true ↔ ∃ i < numRegions, s.Covers (iova.toNat / 2 ^ pageShift) i
  first : t.hit = true → IsLeast {i | i < numRegions ∧ s.Covers (iova.toNat / 2 ^ pageShift) i} t.region
  miss : t.hit = false → t.region = numRegions

lemma translate_outside {iova : U64} (h : 2 ^ maxVaBits ≤ iova.toNat) : s.translate iova = none := by
  rw [translate, if_pos]
  intro hzero
  have hshift := congrArg BitVec.toNat hzero
  rw [BitVec.toNat_ushiftRight, Nat.shiftRight_eq_div_pow, BitVec.toNat_ofNat, Nat.zero_mod] at hshift
  exact absurd hshift (Nat.div_pos h (by decide)).ne'

lemma Reached.translate (h : Reached s) {iova : U64} (hiova : iova.toNat < 2 ^ maxVaBits) :
    ∃ t, s.translate iova = some t ∧ Answers s iova t := by
  have hshift : iova >>> maxVaBits = 0#64 := by
    apply BitVec.eq_of_toNat_eq
    rw [BitVec.toNat_ushiftRight, Nat.shiftRight_eq_div_pow, Nat.div_eq_of_lt hiova]
    rfl
  have hpage : (iova >>> pageShift).toNat = iova.toNat / 2 ^ pageShift := by
    rw [BitVec.toNat_ushiftRight, Nat.shiftRight_eq_div_pow]
  obtain ⟨found, hscan, hnone, hsome⟩ := h.scan (iova >>> pageShift) (List.range numRegions)
    (fun i hi => List.mem_range.mp hi) List.pairwise_lt_range
  rw [hpage] at hnone hsome
  simp only [List.mem_range] at hnone hsome
  refine ⟨⟨found.isSome, iova &&& pageMask, found.getD numRegions⟩, ?_, rfl, ?_, ?_, ?_⟩
  · rw [VfSart.translate, if_neg (not_not.mpr hshift), hscan]
    rfl
  · cases found with
    | none =>
      exact ⟨fun hz => absurd hz Bool.false_ne_true, fun ⟨i, hi, hcover⟩ => absurd hcover (hnone.mp rfl i hi)⟩
    | some k => exact ⟨fun _ => ⟨k, (hsome k rfl).1⟩, fun _ => rfl⟩
  · intro hhit
    cases found with
    | none => cases hhit
    | some k => exact hsome k rfl
  · intro hhit
    cases found with
    | none => rfl
    | some k => cases hhit

lemma regionDecode_write {s' : VfSart} {off width : ℕ} {value : U32} (hwrite : s.write off width value = some s')
    (hbank : s.regionWrite off = false) (i : ℕ) : s'.regionDecode i = s.regionDecode i := by
  rw [write] at hwrite
  split at hwrite
  · cases hwrite
  obtain rfl := Option.some.inj hwrite
  simp only [regionWrite, numRegions, bankAddr, bankSizeV3, decide_eq_false_iff_not, not_or, not_and] at hbank
  obtain ⟨hsizes, haddrs, hthird⟩ := hbank
  unfold regionDecode
  split
  · rfl
  next hi =>
    have hi : i < 16 := Nat.not_le.mp hi
    have hsize : Function.update s.regs (off / 4) value (regSizeOff i / 4) = s.regs (regSizeOff i / 4) :=
      Function.update_of_ne (by simp only [regSizeOff]; omega) _ _
    have haddr : Function.update s.regs (off / 4) value (regAddrOff i / 4) = s.regs (regAddrOff i / 4) :=
      Function.update_of_ne (by simp only [regAddrOff, bankAddr]; omega) _ _
    have hsizeV3 (hversion : s.version = version3) :
        Function.update s.regs (off / 4) value (regSizeV3Off i / 4) = s.regs (regSizeV3Off i / 4) := by
      have hbehind := hthird hversion
      exact Function.update_of_ne (by simp only [regSizeV3Off, bankSizeV3]; omega) _ _
    simp only [reg, hsize, haddr]
    split
    · rfl
    split
    · rfl
    split
    next hversion => rw [hsizeV3 hversion]
    · rfl

lemma translate_congr {s s' : VfSart} (h : ∀ i, s'.regionDecode i = s.regionDecode i) (iova : U64) :
    s'.translate iova = s.translate iova := by
  have hscan (page : U64) (is : List ℕ) : s'.scanRegions page is = s.scanRegions page is := by
    induction is with
    | nil => rfl
    | cons i is ih => simp only [scanRegions, h, ih]
  rw [translate, translate, hscan]

lemma generation_write {s' : VfSart} {off width : ℕ} {value : U32} (hwrite : s.write off width value = some s')
    {iova : U64} (hanswer : s'.translate iova ≠ s.translate iova) : s'.generation ≠ s.generation := by
  cases hbank : s.regionWrite off with
  | false => exact absurd (translate_congr (regionDecode_write hwrite hbank) iova) hanswer
  | true =>
    rw [write] at hwrite
    split at hwrite
    · cases hwrite
    obtain rfl := Option.some.inj hwrite
    intro hsame
    have hnext : s.generation + 1#32 = s.generation := hsame
    bv_omega

/-- In a reached state a translation answers for the whole address range and refuses the rest, its sums do not
wrap, and a write that changes an answer changes the generation. -/
theorem sart_translation (h : Reached s) :
    (∀ iova, iova.toNat < 2 ^ maxVaBits → ∃ t, s.translate iova = some t ∧ Answers s iova t) ∧
    (∀ iova, 2 ^ maxVaBits ≤ iova.toNat → s.translate iova = none) ∧
    (∀ i < numRegions, ∃ r, s.regionDecode i = some r ∧ r.endPage.toNat = r.addrPages.toNat + r.sizePages.toNat) ∧
    ∀ off width value s', s.write off width value = some s' →
      (∃ iova, s'.translate iova ≠ s.translate iova) → s'.generation ≠ s.generation := by
  refine ⟨fun iova => h.translate, fun iova => translate_outside, fun i hi => ?_, ?_⟩
  · obtain ⟨r, hr, haddr, hsize⟩ := h.decodes hi
    exact ⟨r, hr, Region.toNat_endPage haddr hsize⟩
  · rintro off width value s' hwrite ⟨iova, hanswer⟩
    exact generation_write hwrite hanswer

end Translation

def mapped : VfSart :=
  { version := version1
    generation := 2#32
    regs := Function.update (Function.update (fun _ => 0#32) 1 0xff000002#32) 17 3#32 }

lemma mapped_reached : Reached mapped := by
  have hfirst : Reached ⟨version1, 0#32, fun _ => 0#32⟩ := @Reached.init version1 _ rfl
  have hsize : Reached _ := @Reached.write _ _ 4 4 0xff000002#32 hfirst rfl
  exact @Reached.write _ _ 68 4 3#32 hsize rfl

theorem sart_translation_mapped : mapped.translate 0x4abc#64 = some ⟨true, 0x4000#64, 1⟩ ∧
    ∃ t, mapped.translate 0x4abc#64 = some t ∧ Answers mapped 0x4abc#64 t :=
  ⟨rfl, (sart_translation mapped_reached).1 0x4abc#64 (by decide)⟩

end Nextcore.Device.VfSart
