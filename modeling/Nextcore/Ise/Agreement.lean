import Nextcore.Ise.Manual
import Nextcore.Lib.Lanes

/-! Which registers and immediates the emulator may take for those of the manual, so that an integer instruction comes
to the same whatever the registers hold. -/

namespace Nextcore.Ise.Emulator

def withFlags (out : U64 × Bool × Bool × Bool × Bool) : U64 × X86.Flags :=
  (out.1, ⟨some out.2.1, some out.2.2.2.1, some out.2.2.2.2, some out.2.2.1⟩)

def IntegerOp.emulated (op : IntegerOp) (a b : U64) (flags : X86.Flags) : U64 × X86.Flags :=
  match op with
  | .add => withFlags (binary .add a b)
  | .sub => withFlags (binary .sub a b)
  | .cmp => withFlags (subFlags a b)
  | .and => withFlags (binary .and a b)
  | .or => withFlags (binary .or a b)
  | .xor => withFlags (binary .xor a b)
  | .mov => (b, flags)

section Flags

variable (a b : U64) (flags : X86.Flags)

lemma and_topBit (x : U64) : (x &&& topBit != 0#64) = x.msb := by
  have hbit : x &&& topBit = 0#64 ↔ x.getLsbD 63 = false := Lanes.and_bit (by decide)
  rw [BitVec.msb_eq_getLsbD_last, Bool.eq_iff_iff, bne_iff_ne, ne_eq, hbit]
  simp

lemma sign_bit (x : U64) : ((x >>> 63) &&& 1#64 == 1#64) = x.msb := by
  have hone : (x >>> 63) &&& 1#64 = x >>> 63 := by
    apply BitVec.eq_of_toNat_eq
    have hx := x.isLt
    rw [BitVec.toNat_and, BitVec.toNat_ushiftRight, Nat.shiftRight_eq_div_pow]
    exact Nat.and_two_pow_sub_one_of_lt_two_pow (n := 1) (by omega)
  rw [hone, BitVec.msb_eq_decide, Bool.eq_iff_iff, beq_iff_eq, decide_eq_true_eq, ← BitVec.toNat_inj,
    BitVec.toNat_ushiftRight, Nat.shiftRight_eq_div_pow]
  have hx := x.isLt
  change x.toNat / 2 ^ 63 = 1 ↔ _
  omega

lemma subFlags_eq : withFlags (subFlags a b) = X86.aluAt .sub .qword a b := by
  have hof : ((a ^^^ b) &&& (a ^^^ (a - b)) &&& topBit != 0#64) = a.ssubOverflow b := by
    rw [and_topBit, BitVec.msb_and, BitVec.msb_xor, BitVec.msb_xor, BitVec.ssubOverflow_eq]
    cases a.msb <;> cases b.msb <;> cases (a - b).msb <;> rfl
  have hcf : decide (a < b) = a.usubOverflow b := by
    rw [BitVec.usubOverflow_eq]
  have hzf : (a - b == 0#64) = decide (a - b = 0#64) := rfl
  simp only [withFlags, subFlags, X86.aluAt, X86.aluOn, hof, hcf, hzf, sign_bit]

lemma logicFlags_eq (r : U64) :
    withFlags (logicFlags r) = (r, ⟨some false, some (decide (r = 0#64)), some r.msb, some false⟩) := by
  have hzf : (r == 0#64) = decide (r = 0#64) := rfl
  simp only [withFlags, logicFlags, hzf, sign_bit]

lemma emulated_eq {op : IntegerOp} (hop : op ≠ .add) : op.emulated a b flags = op.compute true a b flags := by
  cases op with
  | add => exact absurd rfl hop
  | sub => exact subFlags_eq a b
  | cmp => exact subFlags_eq a b
  | and => exact logicFlags_eq (a &&& b)
  | or => exact logicFlags_eq (a ||| b)
  | xor => exact logicFlags_eq (a ^^^ b)
  | mov => rfl

lemma emulated_zf {op : IntegerOp} (hop : op ≠ .mov) :
    (op.emulated a b flags).2.zf = some (decide ((op.emulated a b flags).1 = 0#64)) := by
  cases op <;> first | rfl | exact absurd rfl hop

lemma toNat_zeroExtend (x : U32) : (x.zeroExtend 64).toNat = x.toNat := BitVec.toNat_setWidth_of_le (by decide)

lemma zeroExtend_eq_zero (x : U32) : x.zeroExtend 64 = 0#64 ↔ x = 0#32 := by
  rw [← BitVec.toNat_inj, ← BitVec.toNat_inj, toNat_zeroExtend]
  rfl

lemma compute_zf (wide : Bool) {op : IntegerOp} (hop : op ≠ .mov) :
    (op.compute wide a b flags).2.zf = some (decide ((op.compute wide a b flags).1 = 0#64)) := by
  cases wide with
  | true => cases op <;> first | rfl | exact absurd rfl hop
  | false =>
    cases op <;> first
      | exact absurd rfl hop
      | exact congrArg some (decide_eq_decide.mpr (zeroExtend_eq_zero _).symm)

lemma compute_narrow_lt (op : IntegerOp) : (op.compute false a b flags).1.toNat < 2 ^ 32 := by
  have hlt (x : U32) : (x.zeroExtend 64).toNat < 2 ^ 32 := by
    rw [toNat_zeroExtend]
    exact x.isLt
  cases op <;> exact hlt _

end Flags

/-! The two meanings of an instruction, whatever the registers hold. -/

def Matches (op : IntegerOp) (wide : Bool) (dst : Gpr) (src : Source) (dst' : Gpr) (src' : Source) : Prop :=
  ∀ (gpr : Gpr → U64) (rflags : U64),
    op.commit gpr dst (op.emulated (gpr dst) (src.value gpr) (flagsOf rflags)) =
      op.commit gpr dst' (op.compute wide (gpr dst') (src'.value gpr) (flagsOf rflags))

def probe (r : Gpr) (u z : U64) : Gpr → U64 := fun x => if x = r then u else z

@[simp] lemma probe_self (r : Gpr) (u z : U64) : probe r u z r = u := if_pos rfl

lemma probe_of_ne {r x : Gpr} (h : x ≠ r) (u z : U64) : probe r u z x = z := if_neg h

section Matches

variable {op : IntegerOp} {wide : Bool} {dst dst' : Gpr} {src src' : Source}

lemma Matches.flags (h : Matches op wide dst src dst' src') (gpr : Gpr → U64) :
    (op.emulated (gpr dst) (src.value gpr) (flagsOf 0#64)).2 =
      (op.compute wide (gpr dst') (src'.value gpr) (flagsOf 0#64)).2 := by
  have hflags := congrArg Prod.snd (h gpr 0#64)
  exact hflags

lemma Matches.write (h : Matches op wide dst src dst' src') (hop : op ≠ .cmp) (gpr : Gpr → U64) :
    Function.update gpr dst (op.emulated (gpr dst) (src.value gpr) (flagsOf 0#64)).1 =
      Function.update gpr dst' (op.compute wide (gpr dst') (src'.value gpr) (flagsOf 0#64)).1 := by
  have hgpr := congrArg Prod.fst (h gpr 0#64)
  unfold IntegerOp.commit at hgpr
  rwa [if_neg hop, if_neg hop] at hgpr

lemma Matches.dst_eq (h : Matches op wide dst src dst' src') (hcmp : op ≠ .cmp) (hmov : op ≠ .mov) : dst' = dst := by
  by_contra hne
  have hwrite := h.write hcmp (probe dst' 1#64 0#64)
  have hflags := congrArg X86.Flags.zf (h.flags (probe dst' 1#64 0#64))
  have hzero := congrFun hwrite dst
  have hone := congrFun hwrite dst'
  rw [Function.update_self, Function.update_of_ne (Ne.symm hne)] at hzero
  rw [Function.update_self, Function.update_of_ne hne] at hone
  rw [emulated_zf _ _ _ hmov, compute_zf _ _ _ _ hmov, hzero, ← hone, probe_self, probe_of_ne (Ne.symm hne)] at hflags
  cases hflags

lemma Matches.result (h : Matches op wide dst src dst src') (hcmp : op ≠ .cmp) (gpr : Gpr → U64) :
    (op.emulated (gpr dst) (src.value gpr) (flagsOf 0#64)).1 =
      (op.compute wide (gpr dst) (src'.value gpr) (flagsOf 0#64)).1 := by
  have hdst := congrFun (h.write hcmp gpr) dst
  rwa [Function.update_self, Function.update_self] at hdst

lemma matches_wide (hop : op ≠ .add) : Matches op true dst src dst src := by
  intro gpr rflags
  rw [emulated_eq _ _ _ hop]

lemma Matches.result_lt (h : Matches op false dst src dst src') (hcmp : op ≠ .cmp) (gpr : Gpr → U64) :
    (op.emulated (gpr dst) (src.value gpr) (flagsOf 0#64)).1.toNat < 2 ^ 32 := by
  rw [h.result hcmp]
  exact compute_narrow_lt _ _ _ op

end Matches

/-! Two registers. -/

section Registers

variable {op : IntegerOp} {wide : Bool} {dst src dst' src' : Gpr}

/-- Register numbers by which the emulator and the manual agree: the same ones at 64 bits, or one register twice where
the operation makes no difference of it. -/
def RegistersAgree (op : IntegerOp) (wide : Bool) (dst src dst' src' : Gpr) : Prop :=
  op ≠ .add ∧ ((wide = true ∧ dst' = dst ∧ src' = src) ∨ (dst = src ∧ dst' = src' ∧
    (op = .cmp ∨ (op = .mov ∧ wide = true) ∨ (dst' = dst ∧ (op = .xor ∨ op = .sub)))))

lemma not_matches_add : ¬Matches .add wide dst (.register src) dst' (.register src') := by
  intro h
  have hof : (IntegerOp.add.emulated 0x4000000040000000#64 0x4000000040000000#64 (flagsOf 0#64)).2.of =
      (IntegerOp.add.compute wide 0x4000000040000000#64 0x4000000040000000#64 (flagsOf 0#64)).2.of :=
    congrArg X86.Flags.of (h.flags fun _ => 0x4000000040000000#64)
  revert hof
  cases wide <;> decide

lemma Matches.src_eq (h : Matches op wide dst (.register src) dst (.register src')) (hcmp : op ≠ .cmp) {z p : U64}
    (hemulated : (op.emulated z p (flagsOf 0#64)).1 ≠ (op.compute wide z z (flagsOf 0#64)).1)
    (hcompute : (op.emulated z z (flagsOf 0#64)).1 ≠ (op.compute wide z p (flagsOf 0#64)).1) : src' = src := by
  by_contra hne
  by_cases hsrc : src = dst
  · have hresult := h.result hcmp (probe src' p z)
    rw [Source.value, Source.value, probe_self, ← hsrc, probe_of_ne (Ne.symm hne)] at hresult
    exact hcompute hresult
  · have hresult := h.result hcmp (probe src p z)
    rw [Source.value, Source.value, probe_self, probe_of_ne hne, probe_of_ne (Ne.symm hsrc)] at hresult
    exact hemulated hresult

lemma Matches.cancelling (h : Matches op wide dst (.register src) dst' (.register src')) (hop : op = .xor ∨ op = .sub) :
    dst' = dst ∧ src' = src ∧ (wide = true ∨ dst = src) := by
  have hcmp : op ≠ .cmp := by rcases hop with rfl | rfl <;> decide
  have hmov : op ≠ .mov := by rcases hop with rfl | rfl <;> decide
  obtain rfl := h.dst_eq hcmp hmov
  have hsrc : src' = src := by
    refine h.src_eq hcmp (z := 0#64) (p := 1#64) ?_ ?_ <;> rcases hop with rfl | rfl <;> cases wide <;> decide
  refine ⟨rfl, hsrc, ?_⟩
  cases wide with
  | true => exact .inl rfl
  | false =>
    right
    by_contra hne
    have hlt := h.result_lt hcmp (probe dst' 0x100000000#64 0#64)
    rw [Source.value, probe_self, probe_of_ne (Ne.symm hne)] at hlt
    rcases hop with rfl | rfl <;> revert hlt <;> decide

lemma Matches.keeping (h : Matches op wide dst (.register src) dst' (.register src')) (hop : op = .and ∨ op = .or) :
    dst' = dst ∧ src' = src ∧ wide = true := by
  have hcmp : op ≠ .cmp := by rcases hop with rfl | rfl <;> decide
  have hmov : op ≠ .mov := by rcases hop with rfl | rfl <;> decide
  obtain rfl := h.dst_eq hcmp hmov
  have hsrc : src' = src := by
    rcases hop with rfl | rfl
    · refine h.src_eq hcmp (z := 0xffffffffffffffff#64) (p := 0#64) ?_ ?_ <;> cases wide <;> decide
    · refine h.src_eq hcmp (z := 0#64) (p := 1#64) ?_ ?_ <;> cases wide <;> decide
  refine ⟨rfl, hsrc, ?_⟩
  cases wide with
  | true => rfl
  | false =>
    have hlt : (op.emulated 0xffffffffffffffff#64 0xffffffffffffffff#64 (flagsOf 0#64)).1.toNat < 2 ^ 32 :=
      h.result_lt hcmp fun _ => 0xffffffffffffffff#64
    rcases hop with rfl | rfl <;> revert hlt <;> decide

lemma Matches.moving (h : Matches .mov wide dst (.register src) dst' (.register src')) :
    wide = true ∧ ((dst' = dst ∧ src' = src) ∨ (dst = src ∧ dst' = src')) := by
  have hwrite (gpr : Gpr → U64) : Function.update gpr dst (gpr src) =
      Function.update gpr dst' ((operandWidth wide).low (gpr src')) := h.write (by decide) gpr
  have hwide : wide = true := by
    cases wide with
    | true => rfl
    | false =>
      have hdst := congrFun (hwrite fun _ => 0xffffffffffffffff#64) dst'
      rw [Function.update_self, Function.update_apply, ite_self] at hdst
      revert hdst
      decide
  subst hwide
  have hmove (gpr : Gpr → U64) : Function.update gpr dst (gpr src) = Function.update gpr dst' (gpr src') := hwrite gpr
  refine ⟨rfl, ?_⟩
  by_cases hdst : dst' = dst
  · subst hdst
    have hsrc := congrFun (hmove (probe src 1#64 0#64)) dst'
    rw [Function.update_self, Function.update_self, probe_self] at hsrc
    refine .inl ⟨rfl, ?_⟩
    by_contra hne
    rw [probe_of_ne hne] at hsrc
    exact absurd hsrc (by decide)
  · have hsrc := congrFun (hmove (probe src 1#64 0#64)) dst
    have hsrc' := congrFun (hmove (probe src' 1#64 0#64)) dst'
    rw [Function.update_self, Function.update_of_ne (Ne.symm hdst), probe_self] at hsrc
    rw [Function.update_self, Function.update_of_ne hdst, probe_self] at hsrc'
    refine .inr ⟨?_, ?_⟩ <;> by_contra hne
    · rw [probe_of_ne hne] at hsrc
      exact absurd hsrc (by decide)
    · rw [probe_of_ne hne] at hsrc'
      exact absurd hsrc' (by decide)

lemma aluOn_cmp_self {n : ℕ} (x : BitVec n) :
    X86.aluOn .cmp x x = (0#n, ⟨some false, some true, some false, some false⟩) := by
  have hcf : x.usubOverflow x = false := by
    rw [BitVec.usubOverflow_eq]
    exact decide_eq_false (BitVec.lt_irrefl x)
  have hof : x.ssubOverflow x = false := by
    rw [BitVec.ssubOverflow_eq]
    cases x.msb <;> rfl
  simp only [X86.aluOn, BitVec.sub_self, hcf, hof, BitVec.msb_zero, decide_true]

lemma compute_cmp_self (wide : Bool) (x : U64) (flags : X86.Flags) :
    (IntegerOp.cmp.compute wide x x flags).2 = ⟨some false, some true, some false, some false⟩ := by
  cases wide with
  | true => exact congrArg Prod.snd (aluOn_cmp_self x)
  | false => exact congrArg Prod.snd (aluOn_cmp_self (x.truncate 32))

lemma emulated_cmp_self (x : U64) (flags : X86.Flags) :
    (IntegerOp.cmp.emulated x x flags).2 = ⟨some false, some true, some false, some false⟩ := by
  rw [emulated_eq _ _ _ (by decide), compute_cmp_self]

lemma Matches.comparing (h : Matches .cmp wide dst (.register src) dst' (.register src')) :
    (wide = true ∧ dst' = dst ∧ src' = src) ∨ (dst = src ∧ dst' = src') := by
  have hflags (gpr : Gpr → U64) : (IntegerOp.cmp.emulated (gpr dst) (gpr src) (flagsOf 0#64)).2 =
      (IntegerOp.cmp.compute wide (gpr dst') (gpr src') (flagsOf 0#64)).2 := h.flags gpr
  by_cases hsame : dst = src
  · refine .inr ⟨hsame, ?_⟩
    by_contra hne
    have hone := hflags (probe dst' 1#64 0#64)
    rw [hsame, emulated_cmp_self, probe_self, probe_of_ne (Ne.symm hne)] at hone
    revert hone
    cases wide <;> decide
  have hone := hflags (probe dst 1#64 0#64)
  rw [probe_self, probe_of_ne (Ne.symm hsame)] at hone
  have hdst : dst' = dst := by
    by_contra hne
    rw [probe_of_ne hne] at hone
    by_cases hsrc : src' = dst
    · rw [hsrc, probe_self] at hone
      revert hone
      cases wide <;> decide
    · rw [probe_of_ne hsrc] at hone
      revert hone
      cases wide <;> decide
  subst hdst
  have hsrc : src' = src := by
    by_contra hne
    have hother := hflags (probe src 1#64 0#64)
    rw [probe_self, probe_of_ne hsame, probe_of_ne hne] at hother
    revert hother
    cases wide <;> decide
  subst hsrc
  refine .inl ⟨?_, rfl, rfl⟩
  cases wide with
  | true => rfl
  | false =>
    have hhigh := hflags (probe dst' 0x100000000#64 0#64)
    rw [probe_self, probe_of_ne (Ne.symm hsame)] at hhigh
    revert hhigh
    decide

lemma cancelling_self (hop : op = .xor ∨ op = .sub) (x : U64) (flags : X86.Flags) :
    op.compute wide x x flags = (0#64, ⟨some false, some true, some false, some false⟩) := by
  have hxor {n : ℕ} (y : BitVec n) :
      X86.aluOn .xor y y = (0#n, ⟨some false, some true, some false, some false⟩) := by
    simp only [X86.aluOn, BitVec.xor_self, BitVec.msb_zero, decide_true]
  have hnarrow {p : U32 × X86.Flags} (h : p = (0#32, ⟨some false, some true, some false, some false⟩)) :
      (p.1.zeroExtend 64, p.2) = (0#64, ⟨some false, some true, some false, some false⟩) := by
    rw [h]
    rfl
  rcases hop with rfl | rfl <;> cases wide
  · exact hnarrow (hxor (x.truncate 32))
  · exact hxor x
  · exact hnarrow (aluOn_cmp_self (x.truncate 32))
  · exact aluOn_cmp_self x

lemma matches_self (hop : op = .xor ∨ op = .sub) : Matches op wide dst (.register dst) dst (.register dst) := by
  have hadd : op ≠ .add := by rcases hop with rfl | rfl <;> decide
  intro gpr rflags
  rw [emulated_eq _ _ _ hadd, Source.value, cancelling_self hop, cancelling_self hop]

lemma matches_register_iff :
    Matches op wide dst (.register src) dst' (.register src') ↔ RegistersAgree op wide dst src dst' src' := by
  constructor
  · intro h
    cases op with
    | add => exact absurd h not_matches_add
    | sub =>
      obtain ⟨rfl, rfl, hwide | hsame⟩ := h.cancelling (.inr rfl)
      · exact ⟨by decide, .inl ⟨hwide, rfl, rfl⟩⟩
      · exact ⟨by decide, .inr ⟨hsame, hsame, .inr (.inr ⟨rfl, .inr rfl⟩)⟩⟩
    | xor =>
      obtain ⟨rfl, rfl, hwide | hsame⟩ := h.cancelling (.inl rfl)
      · exact ⟨by decide, .inl ⟨hwide, rfl, rfl⟩⟩
      · exact ⟨by decide, .inr ⟨hsame, hsame, .inr (.inr ⟨rfl, .inl rfl⟩)⟩⟩
    | and =>
      obtain ⟨hdst, hsrc, hwide⟩ := h.keeping (.inl rfl)
      exact ⟨by decide, .inl ⟨hwide, hdst, hsrc⟩⟩
    | or =>
      obtain ⟨hdst, hsrc, hwide⟩ := h.keeping (.inr rfl)
      exact ⟨by decide, .inl ⟨hwide, hdst, hsrc⟩⟩
    | cmp =>
      rcases h.comparing with hboth | ⟨hsame, hsame'⟩
      · exact ⟨by decide, .inl hboth⟩
      · exact ⟨by decide, .inr ⟨hsame, hsame', .inl rfl⟩⟩
    | mov =>
      obtain ⟨hwide, ⟨hdst, hsrc⟩ | ⟨hsame, hsame'⟩⟩ := h.moving
      · exact ⟨by decide, .inl ⟨hwide, hdst, hsrc⟩⟩
      · exact ⟨by decide, .inr ⟨hsame, hsame', .inr (.inl ⟨rfl, hwide⟩)⟩⟩
  · rintro ⟨hadd, ⟨rfl, rfl, rfl⟩ | ⟨rfl, rfl, rfl | ⟨rfl, rfl⟩ | ⟨rfl, hop⟩⟩⟩
    · exact matches_wide hadd
    · intro gpr rflags
      have hsame : (IntegerOp.cmp.emulated (gpr dst) (gpr dst) (flagsOf rflags)).2 =
          (IntegerOp.cmp.compute wide (gpr dst') (gpr dst') (flagsOf rflags)).2 := by
        rw [emulated_cmp_self, compute_cmp_self]
      exact congrArg (Prod.mk gpr) hsame
    · intro gpr rflags
      have hkeep (r : Gpr) : Function.update gpr r (gpr r) = gpr := Function.update_eq_self r gpr
      exact congrArg (fun f => (f, flagsOf rflags)) ((hkeep dst).trans (hkeep dst').symm)
    · exact matches_self hop

end Registers

/-! A register and an immediate. -/

section Immediates

variable {op : IntegerOp} {wide : Bool} {dst dst' : Gpr} {imm imm' : U64}

/-- A register number and an immediate `imm` of the emulator that agree with those of the manual: at 64 bits the same,
at 32 bits a mask that reaches neither the sign of the narrow result nor the bits above it. -/
def ImmediateAgrees (op : IntegerOp) (wide : Bool) (dst dst' : Gpr) (imm imm' : U64) : Prop :=
  op ≠ .add ∧ dst' = dst ∧ ((wide = true ∧ imm = imm') ∨ (wide = false ∧ op = .and ∧ imm.toNat < 2 ^ 31))

lemma emulated_add_of (a b : U64) (flags : X86.Flags) : (IntegerOp.add.emulated a b flags).2.of =
    some ((a.msb ^^ b.msb) && !(a.msb ^^ (a + b).msb)) := by
  have hof : ((a ^^^ b) &&& ~~~(a ^^^ (a + b)) &&& topBit != 0#64) = ((a.msb ^^ b.msb) && !(a.msb ^^ (a + b).msb)) := by
    rw [and_topBit, BitVec.msb_and, BitVec.msb_not, BitVec.msb_xor, BitVec.msb_xor]
    simp
  exact congrArg some hof

lemma not_matches_add_immediate (himm : imm ≠ 0x8000000000000000#64) :
    ¬Matches .add true dst (.immediate imm) dst' (.immediate imm) := by
  intro h
  have hof (v : U64) : ((v.msb ^^ imm.msb) && !(v.msb ^^ (v + imm).msb)) = v.saddOverflow imm := by
    have hflags := congrArg X86.Flags.of (h.flags fun _ => v)
    rw [emulated_add_of] at hflags
    exact Option.some.inj hflags
  have hlt := imm.isLt
  cases hsign : imm.msb with
  | false =>
    have hsmall : 2 * imm.toNat < 2 ^ 64 := BitVec.msb_eq_false_iff_two_mul_lt.mp hsign
    have hsum : (0x8000000000000000#64 + imm).msb = true := by
      rw [BitVec.msb_eq_true_iff_two_mul_ge, BitVec.toNat_add]
      change 2 * ((2 ^ 63 + imm.toNat) % 2 ^ 64) ≥ 2 ^ 64
      omega
    have hmin := hof 0x8000000000000000#64
    rw [BitVec.saddOverflow_eq, hsum, hsign] at hmin
    revert hmin
    decide
  | true =>
    have hbig : 2 ^ 64 ≤ 2 * imm.toNat := BitVec.msb_eq_true_iff_two_mul_ge.mp hsign
    have hne : imm.toNat ≠ 2 ^ 63 := fun h => himm (BitVec.eq_of_toNat_eq h)
    have hsum : (0x7fffffffffffffff#64 + imm).msb = false := by
      rw [BitVec.msb_eq_false_iff_two_mul_lt, BitVec.toNat_add]
      change 2 * ((2 ^ 63 - 1 + imm.toNat) % 2 ^ 64) < 2 ^ 64
      omega
    have hmax := hof 0x7fffffffffffffff#64
    rw [BitVec.saddOverflow_eq, hsum, hsign] at hmax
    revert hmax
    decide

lemma truncate_signExtend (x : U32) : ((x.signExtend 64).truncate 32 : U32) = x := by
  apply BitVec.eq_of_getLsbD_eq
  intro i hi
  simp [BitVec.getLsbD_signExtend, hi]
  omega

lemma Matches.imm_eq (h : Matches op true dst (.immediate imm) dst (.immediate imm')) (hcmp : op ≠ .cmp)
    (hmov : op ≠ .mov) : imm = imm' := by
  cases op with
  | cmp => exact absurd rfl hcmp
  | mov => exact absurd rfl hmov
  | add =>
    have hresult : 0#64 + imm = 0#64 + imm' := h.result hcmp fun _ => 0#64
    rwa [BitVec.zero_add, BitVec.zero_add] at hresult
  | sub =>
    have hresult : 0#64 - imm = 0#64 - imm' := h.result hcmp fun _ => 0#64
    rwa [BitVec.zero_sub, BitVec.zero_sub, BitVec.neg_inj] at hresult
  | xor =>
    have hresult : 0#64 ^^^ imm = 0#64 ^^^ imm' := h.result hcmp fun _ => 0#64
    rwa [BitVec.zero_xor, BitVec.zero_xor] at hresult
  | or =>
    have hresult : 0#64 ||| imm = 0#64 ||| imm' := h.result hcmp fun _ => 0#64
    rwa [BitVec.zero_or, BitVec.zero_or] at hresult
  | and =>
    have hresult : BitVec.allOnes 64 &&& imm = BitVec.allOnes 64 &&& imm' := h.result hcmp fun _ => BitVec.allOnes 64
    rwa [BitVec.allOnes_and, BitVec.allOnes_and] at hresult

lemma Matches.narrow_imm (h : Matches op false dst (.immediate imm) dst (.immediate imm')) (hcmp : op ≠ .cmp)
    (hmov : op ≠ .mov) : op = .and := by
  have hlt (v : U64) : (op.emulated v imm (flagsOf 0#64)).1.toNat < 2 ^ 32 := h.result_lt hcmp fun _ => v
  have hhigh : ¬(0x100000000#64).toNat < 2 ^ 32 := by decide
  cases op with
  | cmp => exact absurd rfl hcmp
  | mov => exact absurd rfl hmov
  | add =>
    have hsum : (0x100000000#64 - imm + imm).toNat < 2 ^ 32 := hlt _
    rw [BitVec.sub_add_cancel] at hsum
    exact absurd hsum hhigh
  | sub =>
    have hdiff : (0x100000000#64 + imm - imm).toNat < 2 ^ 32 := hlt _
    rw [BitVec.add_sub_cancel] at hdiff
    exact absurd hdiff hhigh
  | xor =>
    have hxor : ((0x100000000#64 ^^^ imm) ^^^ imm).toNat < 2 ^ 32 := hlt _
    rw [BitVec.xor_assoc, BitVec.xor_self, BitVec.xor_zero] at hxor
    exact absurd hxor hhigh
  | or =>
    have hor : (0x100000000#64 ||| imm).toNat < 2 ^ 32 := hlt _
    rw [BitVec.toNat_or] at hor
    exact absurd (lt_of_le_of_lt Nat.left_le_or hor) hhigh
  | and => rfl

lemma msb_narrow {x : U64} (h : x.toNat < 2 ^ 32) : (x.truncate 32 : U32).msb = false ↔ x.toNat < 2 ^ 31 := by
  have hvalue : (x.truncate 32 : U32).toNat = x.toNat := (BitVec.toNat_setWidth 32 x).trans (Nat.mod_eq_of_lt h)
  rw [BitVec.msb_eq_false_iff_two_mul_lt, hvalue]
  omega

lemma Matches.mask_lt (h : Matches .and false dst (.immediate imm) dst (.immediate imm'))
    (himm : (imm'.truncate 32 : U32) = imm.truncate 32) : imm.toNat < 2 ^ 31 := by
  have hlt : (BitVec.allOnes 64 &&& imm).toNat < 2 ^ 32 := h.result_lt (by decide) fun _ => BitVec.allOnes 64
  have hsign : some (BitVec.allOnes 64 &&& imm).msb =
      some (((BitVec.allOnes 64).truncate 32 : U32) &&& imm'.truncate 32).msb := by
    have hflags := congrArg X86.Flags.sf (h.flags fun _ => BitVec.allOnes 64)
    rw [emulated_eq _ _ _ (by decide)] at hflags
    exact hflags
  have hones : ((BitVec.allOnes 64).truncate 32 : U32) = BitVec.allOnes 32 := by decide
  rw [BitVec.allOnes_and] at hlt
  rw [hones, BitVec.allOnes_and, BitVec.allOnes_and, himm, Option.some.injEq] at hsign
  have htop : imm.msb = false := BitVec.msb_eq_false_iff_two_mul_lt.mpr (by omega)
  exact (msb_narrow hlt).mp (hsign.symm.trans htop)

lemma matches_mask (himm : (imm'.truncate 32 : U32) = imm.truncate 32) (h : imm.toNat < 2 ^ 31) :
    Matches .and false dst (.immediate imm) dst (.immediate imm') := by
  intro gpr rflags
  have hresult (a : U64) : ((a.truncate 32 : U32) &&& imm'.truncate 32).zeroExtend 64 = a &&& imm := by
    rw [himm]
    apply BitVec.eq_of_getLsbD_eq
    intro i hi
    have hbit : 31 ≤ i → imm.getLsbD i = false := fun hle =>
      Nat.testBit_lt_two_pow (lt_of_lt_of_le h (Nat.pow_le_pow_right (by decide) hle))
    by_cases hlow : i < 32
    · simp [hlow, hi]
    · simp [hlow, hbit (by omega)]
  have hwide : (imm.truncate 32 : U32).msb = false := (msb_narrow (by omega)).mpr h
  have htop : imm.msb = false := BitVec.msb_eq_false_iff_two_mul_lt.mpr (by omega)
  have hsame (a : U64) : IntegerOp.and.compute true a imm (flagsOf rflags) =
      IntegerOp.and.compute false a imm' (flagsOf rflags) := by
    have hzero : decide (a &&& imm = 0#64) = decide ((a.truncate 32 : U32) &&& imm'.truncate 32 = 0#32) := by
      rw [← hresult a]
      exact decide_eq_decide.mpr (zeroExtend_eq_zero _)
    have hsf : (a &&& imm).msb = ((a.truncate 32 : U32) &&& imm'.truncate 32).msb := by
      rw [BitVec.msb_and, BitVec.msb_and, himm, hwide, htop, Bool.and_false, Bool.and_false]
    change (a &&& imm, X86.Flags.mk (some false) (some (decide (a &&& imm = 0#64))) (some (a &&& imm).msb)
      (some false)) = (((a.truncate 32 : U32) &&& imm'.truncate 32).zeroExtend 64, X86.Flags.mk (some false)
        (some (decide ((a.truncate 32 : U32) &&& imm'.truncate 32 = 0#32)))
        (some ((a.truncate 32 : U32) &&& imm'.truncate 32).msb) (some false))
    rw [hresult, hzero, hsf]
  rw [emulated_eq _ _ _ (by decide)]
  exact congrArg (IntegerOp.and.commit gpr dst) (hsame (gpr dst))

lemma cmp_zf (wide : Bool) (a b : U64) (flags : X86.Flags) : (IntegerOp.cmp.compute wide a b flags).2.zf =
    some (decide (if wide then a = b else (a.truncate 32 : U32) = b.truncate 32)) := by
  have hzero {n : ℕ} (x y : BitVec n) : x - y = 0#n ↔ x = y := by
    constructor
    · intro h
      rw [← BitVec.sub_add_cancel x y, h, BitVec.zero_add]
    · rintro rfl
      exact BitVec.sub_self x
  cases wide with
  | true => exact congrArg some (decide_eq_decide.mpr (hzero a b))
  | false => exact congrArg some (decide_eq_decide.mpr (hzero (a.truncate 32 : U32) (b.truncate 32)))

lemma Matches.comparing_imm (h : Matches .cmp wide dst (.immediate imm) dst' (.immediate imm'))
    (himm : (imm'.truncate 32 : U32) = imm.truncate 32) : wide = true ∧ dst' = dst ∧ imm = imm' := by
  have hzf (gpr : Gpr → U64) : decide (gpr dst = imm) =
      decide (if wide then gpr dst' = imm' else ((gpr dst').truncate 32 : U32) = imm'.truncate 32) := by
    have hflags := congrArg X86.Flags.zf (h.flags gpr)
    rw [emulated_eq _ _ _ (by decide), cmp_zf, cmp_zf] at hflags
    exact Option.some.inj hflags
  have hwide : wide = true := by
    cases wide with
    | true => rfl
    | false =>
      have hiff := decide_eq_decide.mp (hzf fun _ => imm + 0x100000000#64)
      have hlow : ((imm + 0x100000000#64).truncate 32 : U32) = imm'.truncate 32 := by
        rw [himm]
        exact (BitVec.setWidth_add imm _ (by decide)).trans (BitVec.add_zero _)
      have hsame : imm + 0x100000000#64 = imm := hiff.mpr hlow
      bv_omega
  subst hwide
  have himm' : imm = imm' := (decide_eq_decide.mp (hzf fun _ => imm)).mp rfl
  refine ⟨rfl, ?_, himm'⟩
  by_contra hne
  have hother := decide_eq_decide.mp (hzf (probe dst' (imm + 1#64) imm))
  rw [probe_self, probe_of_ne (Ne.symm hne), ← himm'] at hother
  have hone : imm + 1#64 = imm := hother.mp rfl
  bv_omega

lemma matches_immediate_iff (hmov : op ≠ .mov) (himm : imm' = (imm.truncate 32 : U32).signExtend 64) :
    Matches op wide dst (.immediate imm) dst' (.immediate imm') ↔ ImmediateAgrees op wide dst dst' imm imm' := by
  have hlow : (imm'.truncate 32 : U32) = imm.truncate 32 := by rw [himm, truncate_signExtend]
  constructor
  · intro h
    by_cases hcmp : op = .cmp
    · subst hcmp
      obtain ⟨hwide, hdst, hsame⟩ := h.comparing_imm hlow
      exact ⟨by decide, hdst, .inl ⟨hwide, hsame⟩⟩
    obtain rfl := h.dst_eq hcmp hmov
    cases wide with
    | true =>
      have hsame := h.imm_eq hcmp hmov
      refine ⟨?_, rfl, .inl ⟨rfl, hsame⟩⟩
      rintro rfl
      have hmin : imm ≠ 0x8000000000000000#64 := by
        rintro rfl
        rw [← hsame] at himm
        exact absurd himm (by decide)
      rw [← hsame] at h
      exact not_matches_add_immediate hmin h
    | false =>
      obtain rfl := h.narrow_imm hcmp hmov
      exact ⟨by decide, rfl, .inr ⟨rfl, rfl, h.mask_lt hlow⟩⟩
  · rintro ⟨hadd, rfl, ⟨rfl, rfl⟩ | ⟨rfl, rfl, hlt⟩⟩
    · exact matches_wide hadd
    · exact matches_mask hlow hlt

end Immediates

end Nextcore.Ise.Emulator
